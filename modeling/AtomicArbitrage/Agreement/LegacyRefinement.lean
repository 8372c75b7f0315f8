import AtomicArbitrage.Agreement.Layout

/-!
# The legacy routes and the direct builders

A legacy route replaces two swap instructions that the client used to build itself.  The
handler passes the instruction of the route builder, and the two instructions it invokes
are those of the direct builders, reference by reference.
-/

namespace AtomicArbitrage

open Outcome Word64 Program

namespace Client.LegacyArgs

variable (pda : FindProgramAddress) (args : LegacyArgs)

/-- The direct PumpSwap purchase for the pool of a route. -/
def directBuy (amount : UInt64) : Instruction :=
  buildPumpswapBuyIx pda args.walletPubkey args.pool args.memeMint (.ofLiteral nativeSolMint)
    args.userMemeAta args.userSolAta args.poolMeta.poolBaseTokenAccount
    args.poolMeta.poolQuoteTokenAccount args.memeTokenProgram (.ofLiteral tokenProgram) amount
    args.minMemeOut false args.poolMeta.coinCreator args.poolMeta.isCashbackCoin
    (.ofLiteral pumpswapBuybackFeeRecipient)
    (pickPumpswapProtocolFeeRecipient args.poolMeta.isMayhemMode)

/-- The direct PumpSwap sale for the pool of a route. -/
def directSell (amount : UInt64) : Instruction :=
  buildPumpswapSellIx pda args.walletPubkey args.pool args.memeMint (.ofLiteral nativeSolMint)
    args.userMemeAta args.userSolAta args.poolMeta.poolBaseTokenAccount
    args.poolMeta.poolQuoteTokenAccount args.memeTokenProgram (.ofLiteral tokenProgram) amount
    args.minMemeOut args.poolMeta.coinCreator args.poolMeta.isCashbackCoin
    (.ofLiteral pumpswapBuybackFeeRecipient)
    (pickPumpswapProtocolFeeRecipient args.poolMeta.isMayhemMode)

/-- The direct DLMM swap for the pool of a route, as the transaction builders call it:
mints in the pool's order, token programs chosen by comparing the cached mints with SOL,
and a minimum output of one unit. -/
def directSwap2 (userTokenIn userTokenOut : Pubkey) (amount : UInt64) :
    ClientResult Instruction := do
  let lbPair ← parsePubkey args.dlmm.lbPair
  let reserveX ← parsePubkey args.dlmm.reserveXAddress
  let reserveY ← parsePubkey args.dlmm.reserveYAddress
  let tokenXMint ← parsePubkey args.dlmm.tokenXMint
  let tokenYMint ← parsePubkey args.dlmm.tokenYMint
  let binArrays ← args.dlmm.binArrayAddresses.mapM unwrapPubkey
  let solTokenProgram : Pubkey := .ofLiteral tokenProgram
  pure (buildDlmmSwap2Ix args.walletPubkey lbPair binArrays reserveX reserveY userTokenIn
    userTokenOut tokenXMint tokenYMint (dlmmOracle pda lbPair)
    (.ofLiteral dlmmEventAuthority) amount 1
    (if args.dlmm.tokenXMint = nativeSolMint then solTokenProgram else args.memeTokenProgram)
    (if args.dlmm.tokenYMint = nativeSolMint then solTokenProgram else args.memeTokenProgram)
    (.ofLiteral memoProgram) (.ofLiteral dlmmProgram) args.dlmm.bitmapExtension none)

/-- The route data that both legacy builders encode, with their own PumpSwap count. -/
def encoded (pumpRemainingCount : UInt8) : LegacyData where
  amountIn := args.investmentLamports
  minProfitLamports := args.minProfitLamports
  minIntermediateMeme := args.minMemeOut
  trackVolume := false
  dlmmSolIsX := args.dlmmSolIsX
  pumpRemainingCount := pumpRemainingCount.toNat
  dlmmBinArrayCount := (UInt8.ofNat args.dlmm.binArrayCount).toNat

/-- The plan of the PumpSwap to DLMM handler for a client instruction. -/
def pumpToDlmmPlan : LegacyPlan where
  route := args.encoded (pumpswapBuyRemainingCount args.poolMeta)
  pumpBase := 3
  dlmmBase := 3 + (23 + (pumpswapBuyRemainingCount args.poolMeta).toNat)

/-- The plan of the DLMM to PumpSwap handler for a client instruction. -/
def dlmmToPumpPlan : LegacyPlan where
  route := args.encoded (pumpswapSellRemainingCount args.poolMeta)
  pumpBase := 3 + 9 + args.dlmm.binArrayCount
  dlmmBase := 3

end Client.LegacyArgs

namespace Agreement

/-- A cached pool of SOL and the meme token, in either order. -/
def SolMemePool (dlmm : Client.DlmmPoolReserves) (memeMint : Pubkey) : Prop :=
  (dlmm.tokenXMint = Client.nativeSolMint ∧ dlmm.tokenYMint ≠ Client.nativeSolMint ∧
      Pubkey.fromStr? dlmm.tokenYMint = some memeMint) ∨
    (dlmm.tokenYMint = Client.nativeSolMint ∧ dlmm.tokenXMint ≠ Client.nativeSolMint ∧
      Pubkey.fromStr? dlmm.tokenXMint = some memeMint)

/-- A handler refines the direct builders on an instruction: the data decodes to what
was encoded, a zero amount is refused and everything else accepted, and whatever the
amounts are, both legs build the instruction of the direct builder. -/
structure Refines (route : LegacyData) (ix : Instruction) (checked : Exec LegacyPlan)
    (firstLeg secondLeg : LegacyPlan → Leg)
    (first second : UInt64 → Client.ClientResult Instruction) : Prop where
  width : ix.data.length = 36
  decoded : LegacyData.decode ix.data = route
  accepted : route.amountIn ≠ 0 → route.minProfitLamports ≠ 0 →
    ∃ plan, checked = .ok plan ∧ plan.route = route
  rejected : route.amountIn = 0 ∨ route.minProfitLamports = 0 →
    checked = .error (arbErr arbZeroAmount)
  first : ∀ plan, checked = .ok plan → ∀ amount, ∃ cpi,
    (firstLeg plan).build amount = .ok cpi ∧ first amount = .ok cpi
  second : ∀ plan, checked = .ok plan → ∀ amount, ∃ cpi,
    (secondLeg plan).build amount = .ok cpi ∧ second amount = .ok cpi

/-! ## The DLMM leg -/

section

variable {owner : Pubkey → Pubkey} {pda : FindProgramAddress} {args : Client.LegacyArgs}
  {parsed : Client.LegacyDlmm} {references : List AccountMeta}

theorem acct_of_getElem? {index : Nat} {reference : AccountMeta}
    (entry : references[index]? = some reference) (writable : Bool) :
    Cpi.acct (load owner references) index writable =
      .ok (Cpi.asMeta (view owner reference) writable) :=
  Cpi.acct_eq_ok.mpr ⟨view owner reference, by rw [load_getElem?, entry]; rfl, rfl⟩

/-- The four accounts of the PumpSwap section that the DLMM leg borrows. -/
structure Borrowed (args : Client.LegacyArgs) (references : List AccountMeta)
    (pumpBase : Nat) : Prop where
  memeMint : references[pumpBase + 3]? = some (.newReadonly args.memeMint false)
  solMint : references[pumpBase + 4]? =
    some (.newReadonly (.ofLiteral Client.nativeSolMint) false)
  memeProgram : references[pumpBase + 11]? = some (.newReadonly args.memeTokenProgram false)
  solProgram : references[pumpBase + 12]? =
    some (.newReadonly (.ofLiteral Client.tokenProgram) false)

theorem borrowed_at {pumpBase : Nat} {fixed : List AccountMeta}
    (placed : Segment.At references pumpBase fixed)
    (memeMint : fixed[3]? = some (.newReadonly args.memeMint false))
    (solMint : fixed[4]? = some (.newReadonly (.ofLiteral Client.nativeSolMint) false))
    (memeProgram : fixed[11]? = some (.newReadonly args.memeTokenProgram false))
    (solProgram : fixed[12]? = some (.newReadonly (.ofLiteral Client.tokenProgram) false)) :
    Borrowed args references pumpBase :=
  ⟨placed.read memeMint, placed.read solMint, placed.read memeProgram,
    placed.read solProgram⟩

/-- A legacy DLMM leg, for mints and token programs found at any four indices, is the
direct swap with a minimum output of one unit. -/
theorem buildSwap2_at {base xMintIdx yMintIdx xProgramIdx yProgramIdx inIdx outIdx : Nat}
    {xMint yMint xProgram yProgram tokenIn tokenOut : Pubkey}
    (user : references[0]? = some (.new args.walletPubkey true))
    (input : references[inIdx]? = some (.new tokenIn false))
    (output : references[outIdx]? = some (.new tokenOut false))
    (dlmmPlaced : Segment.At references base (args.dlmmSection pda parsed))
    (xMintAt : references[xMintIdx]? = some (.newReadonly xMint false))
    (yMintAt : references[yMintIdx]? = some (.newReadonly yMint false))
    (xProgramAt : references[xProgramIdx]? = some (.newReadonly xProgram false))
    (yProgramAt : references[yProgramIdx]? = some (.newReadonly yProgram false))
    (amount : UInt64) :
    Cpi.Dlmm.buildSwap2 (load owner references) base amount xMintIdx yMintIdx xProgramIdx
        yProgramIdx userIdx inIdx outIdx parsed.binArrays.length =
      .ok (Client.buildDlmmSwap2Ix args.walletPubkey parsed.lbPair parsed.binArrays
        parsed.reserveX parsed.reserveY tokenIn tokenOut xMint yMint
        (Client.dlmmOracle pda parsed.lbPair) (.ofLiteral Client.dlmmEventAuthority) amount 1
        xProgram yProgram (.ofLiteral Client.memoProgram) (.ofLiteral Client.dlmmProgram)
        args.dlmm.bitmapExtension none) := by
  have dlmm : ∀ offset reference, (args.dlmmSection pda parsed)[offset]? = some reference →
      ∀ writable, Cpi.acct (load owner references) (base + offset) writable =
        .ok (Cpi.asMeta (view owner reference) writable) :=
    fun _ _ entry writable => acct_at dlmmPlaced entry writable
  have fixed : Cpi.metas (load owner references) (Cpi.Dlmm.swap2Slots base xMintIdx yMintIdx
      xProgramIdx yProgramIdx userIdx inIdx outIdx) = .ok
        ((Client.buildDlmmSwap2Ix args.walletPubkey parsed.lbPair [] parsed.reserveX
          parsed.reserveY tokenIn tokenOut xMint yMint (Client.dlmmOracle pda parsed.lbPair)
          (.ofLiteral Client.dlmmEventAuthority) amount 1 xProgram yProgram
          (.ofLiteral Client.memoProgram) (.ofLiteral Client.dlmmProgram)
          args.dlmm.bitmapExtension none).accounts) := by
    rw [Cpi.metas, mapM_eq_ok]
    simp only [Cpi.Dlmm.swap2Slots, Client.buildDlmmSwap2Ix, List.map_nil, List.append_nil,
      List.forall₂_cons]
    exact ⟨dlmm dlmmLbPairRel (.new parsed.lbPair false) rfl true,
      dlmm dlmmBitmapRel
        (.new (args.dlmm.bitmapExtension.getD (.ofLiteral Client.dlmmProgram)) false) rfl true,
      dlmm dlmmReserveXRel (.new parsed.reserveX false) rfl true,
      dlmm dlmmReserveYRel (.new parsed.reserveY false) rfl true,
      acct_of_getElem? input true, acct_of_getElem? output true,
      acct_of_getElem? xMintAt false, acct_of_getElem? yMintAt false,
      dlmm dlmmOracleRel (.new (Client.dlmmOracle pda parsed.lbPair) false) rfl true,
      dlmm dlmmHostFeeRel (.new (.ofLiteral Client.dlmmProgram) false) rfl true,
      acct_of_getElem? user false, acct_of_getElem? xProgramAt false,
      acct_of_getElem? yProgramAt false,
      dlmm dlmmMemoRel (.newReadonly (.ofLiteral Client.memoProgram) false) rfl false,
      dlmm dlmmEventAuthRel (.newReadonly (.ofLiteral Client.dlmmEventAuthority) false) rfl
        false,
      dlmm dlmmProgramRel (.newReadonly (.ofLiteral Client.dlmmProgram) false) rfl false,
      .nil⟩
  have bins : Segment.At (load owner references) (base + dlmmBinArraysStartRel)
      ((parsed.binArrays.map fun bin => AccountMeta.new bin false).map (view owner)) :=
    dlmmPlaced.right.map (view owner)
  have head : (args.dlmmSection pda parsed)[0]? =
      some (.newReadonly (.ofLiteral Client.dlmmProgram) false) := rfl
  have program : (load owner references)[base]? =
      some (view owner (.newReadonly (.ofLiteral Client.dlmmProgram) false)) :=
    load_at dlmmPlaced head
  have count : ((parsed.binArrays.map fun bin => AccountMeta.new bin false).map
      (view owner)).length = parsed.binArrays.length := by
    rw [List.length_map, List.length_map]
  rw [← count, Cpi.Dlmm.buildSwap2_eq fixed program bins, List.map_map, List.map_map]
  rfl

/-- The direct swap of a pool whose cached addresses parse. -/
theorem directSwap2_eq_ok (few : args.dlmm.binArrayAddresses.length ≤ 5)
    (parses : Client.LegacyDlmm.parse args.dlmm = .ok parsed)
    (tokenIn tokenOut : Pubkey) (amount : UInt64) {xMint yMint : Pubkey}
    (xMintParsed : Pubkey.fromStr? args.dlmm.tokenXMint = some xMint)
    (yMintParsed : Pubkey.fromStr? args.dlmm.tokenYMint = some yMint) :
    args.directSwap2 pda tokenIn tokenOut amount =
      .ok (Client.buildDlmmSwap2Ix args.walletPubkey parsed.lbPair parsed.binArrays
        parsed.reserveX parsed.reserveY tokenIn tokenOut xMint yMint
        (Client.dlmmOracle pda parsed.lbPair) (.ofLiteral Client.dlmmEventAuthority) amount 1
        (if args.dlmm.tokenXMint = Client.nativeSolMint then .ofLiteral Client.tokenProgram
          else args.memeTokenProgram)
        (if args.dlmm.tokenYMint = Client.nativeSolMint then .ofLiteral Client.tokenProgram
          else args.memeTokenProgram)
        (.ofLiteral Client.memoProgram) (.ofLiteral Client.dlmmProgram)
        args.dlmm.bitmapExtension none) := by
  simp only [Client.LegacyDlmm.parse, bind_eq_ok, Client.parsePubkey_eq_ok, pure_eq_ok]
    at parses
  obtain ⟨lbPair, lbPairParsed, reserveX, reserveXParsed, reserveY, reserveYParsed, bins,
    binsParsed, rfl⟩ := parses
  -- no bin array is cut off
  rw [Client.DlmmPoolReserves.parseBinArrays, List.take_of_length_le
    (by rw [Client.DlmmPoolReserves.binArrayCount]; omega)] at binsParsed
  simp only [Client.LegacyArgs.directSwap2, bind_eq_ok, Client.parsePubkey_eq_ok, pure_eq_ok]
  exact ⟨_, lbPairParsed, _, reserveXParsed, _, reserveYParsed, _, xMintParsed, _,
    yMintParsed, _, binsParsed, rfl⟩

/-- The DLMM leg of a legacy route is the direct swap: the mints and token programs that
it borrows from the PumpSwap section come out in the pool's order. -/
theorem legacySwap2_eq_direct {dlmmBase pumpBase inIdx outIdx : Nat}
    {tokenIn tokenOut : Pubkey} (pool : SolMemePool args.dlmm args.memeMint)
    (few : args.dlmm.binArrayAddresses.length ≤ 5)
    (parses : Client.LegacyDlmm.parse args.dlmm = .ok parsed)
    (user : references[0]? = some (.new args.walletPubkey true))
    (input : references[inIdx]? = some (.new tokenIn false))
    (output : references[outIdx]? = some (.new tokenOut false))
    (dlmmPlaced : Segment.At references dlmmBase (args.dlmmSection pda parsed))
    (borrowed : Borrowed args references pumpBase) {count : Nat}
    (bins : parsed.binArrays.length = count) (amount : UInt64) :
    ∃ cpi,
      Cpi.Dlmm.buildSwap2 (load owner references) dlmmBase amount
        (if args.dlmmSolIsX then pumpBase + 4 else pumpBase + 3)
        (if args.dlmmSolIsX then pumpBase + 3 else pumpBase + 4)
        (if args.dlmmSolIsX then pumpBase + 12 else pumpBase + 11)
        (if args.dlmmSolIsX then pumpBase + 11 else pumpBase + 12)
        userIdx inIdx outIdx count = .ok cpi ∧
      args.directSwap2 pda tokenIn tokenOut amount = .ok cpi := by
  subst bins
  have solParsed : Pubkey.fromStr? Client.nativeSolMint =
      some (.ofLiteral Client.nativeSolMint) := by
    decide +kernel
  rcases pool with ⟨solIsX, notSolY, memeParsed⟩ | ⟨solIsY, notSolX, memeParsed⟩
  · have order : args.dlmmSolIsX = true := by
      rw [Client.LegacyArgs.dlmmSolIsX, solIsX, beq_self_eq_true]
    refine ⟨_, ?_, directSwap2_eq_ok few parses tokenIn tokenOut amount
      (by rw [solIsX]; exact solParsed) memeParsed⟩
    simp only [order, if_true, if_pos solIsX, if_neg notSolY]
    exact buildSwap2_at user input output dlmmPlaced borrowed.solMint borrowed.memeMint
      borrowed.solProgram borrowed.memeProgram amount
  · have order : args.dlmmSolIsX = false := by
      rw [Client.LegacyArgs.dlmmSolIsX, beq_eq_false_iff_ne]
      exact notSolX
    refine ⟨_, ?_, directSwap2_eq_ok few parses tokenIn tokenOut amount
      memeParsed (by rw [solIsY]; exact solParsed)⟩
    simp only [order, if_false, if_neg notSolX, if_pos solIsY, Bool.false_eq_true]
    exact buildSwap2_at user input output dlmmPlaced borrowed.memeMint borrowed.solMint
      borrowed.memeProgram borrowed.solProgram amount

end

/-! ## The checks -/

section

variable {owner : Pubkey → Pubkey} {derivation : Client.Derivation} {args : Client.LegacyArgs}
  {parsed : Client.LegacyDlmm} {references block : List AccountMeta} {pumpBase dlmmBase : Nat}

/-- The keys that a legacy handler compares in its PumpSwap section. -/
def pumpKeys (pda : FindProgramAddress) (feeConfig feeProgram : Nat) : List (Nat × Pubkey) :=
  [(16, pumpSwapId), (4, Program.nativeSolMint), (12, tokenId), (13, systemId), (14, ataId),
   (feeProgram, feeProgramId), (15, pda [pumpEventAuthSeed] pumpSwapId),
   (2, pda [pumpGlobalConfigSeed] pumpSwapId),
   (feeConfig, pda [pumpFeeConfigSeed, pumpSwapId.bytes] feeProgramId)]

/-- Sections with the expected keys, wherever they are, pass the account checks of a
legacy handler. -/
theorem legacyChecked_at {feeConfig feeProgram : Nat}
    (user : references[0]? = some (.new args.walletPubkey true))
    (pumpPlaced : Segment.At references pumpBase block)
    (keys : ∀ entry ∈ pumpKeys derivation.find feeConfig feeProgram,
      (block[entry.1]?).map AccountMeta.pubkey = some entry.2)
    (dlmmPlaced : Segment.At references dlmmBase (args.dlmmSection derivation.find parsed)) :
    LegacyChecked derivation.find (load owner references) pumpBase dlmmBase feeConfig
      feeProgram := by
  simp only [pumpKeys, List.forall_mem_cons] at keys
  obtain ⟨pumpProgram, quoteMint, quoteTokenProgram, systemProgram, ataProgram, fee,
    eventAuthority, globalConfig, feeConfig, -⟩ := keys
  exact
    { pumpProgram := keyAt pumpPlaced pumpProgram
      dlmmProgram := keyAt_head dlmmPlaced rfl
      quoteMint := keyAt pumpPlaced quoteMint
      quoteTokenProgram := keyAt pumpPlaced quoteTokenProgram
      systemProgram := keyAt pumpPlaced systemProgram
      ataProgram := keyAt pumpPlaced ataProgram
      feeProgram := keyAt pumpPlaced fee
      user := ⟨view owner (.new args.walletPubkey true), by rw [load_getElem?, user]; rfl, rfl⟩
      pumpEventAuthority := keyAt pumpPlaced eventAuthority
      globalConfig := keyAt pumpPlaced globalConfig
      feeConfig := keyAt pumpPlaced feeConfig
      dlmmEventAuthority := keyAt dlmmPlaced rfl
      memo := keyAt dlmmPlaced rfl
      oracle := ⟨_, load_at dlmmPlaced rfl, keyAt dlmmPlaced rfl⟩ }

/-- The keys of a buy section. -/
theorem pumpKeys_buy {user userSolAta userMemeAta memeMint baseTokenProgram pool : Pubkey}
    {poolMeta : Client.PumpSwapPoolMeta} :
    ∀ entry ∈ pumpKeys derivation.find 21 22,
      ((Client.pumpswapBuyFixed derivation.find user userSolAta userMemeAta memeMint
        (.ofLiteral Client.nativeSolMint) baseTokenProgram (.ofLiteral Client.tokenProgram)
        pool poolMeta)[entry.1]?).map AccountMeta.pubkey = some entry.2 := by
  rw [pumpKeys, derivation.globalConfig, derivation.eventAuthority]
  simp only [List.forall_mem_cons]
  exact ⟨rfl, rfl, rfl, rfl, rfl, rfl, rfl, rfl, rfl, List.forall_mem_nil _⟩

/-- The keys of a sell section: the fee accounts stand two places earlier. -/
theorem pumpKeys_sell {user userSolAta userMemeAta memeMint baseTokenProgram pool : Pubkey}
    {poolMeta : Client.PumpSwapPoolMeta} :
    ∀ entry ∈ pumpKeys derivation.find 19 20,
      ((Client.pumpswapSellFixed derivation.find user userSolAta userMemeAta memeMint
        (.ofLiteral Client.nativeSolMint) baseTokenProgram (.ofLiteral Client.tokenProgram)
        pool poolMeta)[entry.1]?).map AccountMeta.pubkey = some entry.2 := by
  rw [pumpKeys, derivation.globalConfig, derivation.eventAuthority]
  simp only [List.forall_mem_cons]
  exact ⟨rfl, rfl, rfl, rfl, rfl, rfl, rfl, rfl, rfl, List.forall_mem_nil _⟩

end

/-! ## The two routes -/

section

variable {derivation : Client.Derivation} {args : Client.LegacyArgs}
  {ix : Instruction} {height : UInt64}

/-- The byte count of a pool's bin arrays is in the handlers' range. -/
theorem binArrayCount_byte {dlmm : Client.DlmmPoolReserves}
    (nonempty : 1 ≤ dlmm.binArrayAddresses.length) :
    (UInt8.ofNat dlmm.binArrayCount).toNat = dlmm.binArrayCount ∧
      1 ≤ dlmm.binArrayCount ∧ dlmm.binArrayCount ≤ 5 := by
  have bounds : 1 ≤ dlmm.binArrayCount ∧ dlmm.binArrayCount ≤ 5 := by
    rw [Client.DlmmPoolReserves.binArrayCount]
    omega
  exact ⟨UInt8.toNat_ofNat_of_lt' (by unfold UInt8.size; omega), bounds⟩

theorem parse_bins {dlmm : Client.DlmmPoolReserves} {parsed : Client.LegacyDlmm}
    (parses : Client.LegacyDlmm.parse dlmm = .ok parsed) :
    parsed.binArrays.length = dlmm.binArrayCount := by
  simp only [Client.LegacyDlmm.parse, bind_eq_ok, pure_eq_ok] at parses
  rcases parses with ⟨_, _, _, _, _, _, bins, binsParsed, rfl⟩
  exact Client.DlmmPoolReserves.length_parseBinArrays binsParsed

theorem length_dlmmSection {pda : FindProgramAddress} {parsed : Client.LegacyDlmm}
    (parses : Client.LegacyDlmm.parse args.dlmm = .ok parsed) :
    (args.dlmmSection pda parsed).length = 9 + args.dlmm.binArrayCount := by
  rw [Client.LegacyArgs.dlmmSection, Client.pushDlmmAccounts, List.length_append,
    List.length_map, parse_bins parses]
  rfl

/-- The parsed data of a client instruction with positive amounts is in range. -/
theorem encoded_valid {count : UInt8} (countLe : count.toNat ≤ 5)
    (nonempty : 1 ≤ args.dlmm.binArrayAddresses.length)
    (amount : (args.encoded count).amountIn ≠ 0)
    (profit : (args.encoded count).minProfitLamports ≠ 0) : (args.encoded count).Valid := by
  rcases binArrayCount_byte nonempty with ⟨byte, atLeast, atMost⟩
  have bins : (args.encoded count).dlmmBinArrayCount = args.dlmm.binArrayCount := byte
  exact ⟨amount, profit, countLe, by omega, by omega⟩

/-- The instruction of the PumpSwap to DLMM route, in full. -/
theorem buildRoutePumpToDlmm_eq_ok {pda : FindProgramAddress}
    (built : Client.buildRoutePumpToDlmm pda args = .ok (ix, height)) :
    ∃ parsed, Client.LegacyDlmm.parse args.dlmm = .ok parsed ∧
      ix.accounts = args.shared ++
        (Client.pushPumpswapBuyAccounts pda args.walletPubkey args.userSolAta
          args.userMemeAta args.memeMint (.ofLiteral Client.nativeSolMint)
          args.memeTokenProgram (.ofLiteral Client.tokenProgram) args.pool args.poolMeta ++
        args.dlmmSection pda parsed) ∧
      ix.data = Client.buildIxData Client.routePumpToDlmmDisc args.investmentLamports
        args.minProfitLamports args.minMemeOut false args.dlmmSolIsX
        (Client.pumpswapBuyRemainingCount args.poolMeta) (.ofNat args.dlmm.binArrayCount) := by
  simp only [Client.buildRoutePumpToDlmm, bind_eq_ok, pure_eq_ok] at built
  rcases built with ⟨_, _, parsed, parses, same⟩
  obtain rfl := (Prod.mk.inj same).1
  exact ⟨parsed, parses, rfl, rfl⟩

/-- The instruction of the DLMM to PumpSwap route, in full. -/
theorem buildRouteDlmmToPump_eq_ok {pda : FindProgramAddress}
    (built : Client.buildRouteDlmmToPump pda args = .ok (ix, height)) :
    ∃ parsed, Client.LegacyDlmm.parse args.dlmm = .ok parsed ∧
      ix.accounts = args.shared ++
        (args.dlmmSection pda parsed ++
        Client.pushPumpswapSellAccounts pda args.walletPubkey args.userSolAta
          args.userMemeAta args.memeMint (.ofLiteral Client.nativeSolMint)
          args.memeTokenProgram (.ofLiteral Client.tokenProgram) args.pool args.poolMeta) ∧
      ix.data = Client.buildIxData Client.routeDlmmToPumpDisc args.investmentLamports
        args.minProfitLamports args.minMemeOut false args.dlmmSolIsX
        (Client.pumpswapSellRemainingCount args.poolMeta) (.ofNat args.dlmm.binArrayCount) := by
  simp only [Client.buildRouteDlmmToPump, bind_eq_ok, pure_eq_ok] at built
  rcases built with ⟨_, _, parsed, parses, same⟩
  obtain rfl := (Prod.mk.inj same).1
  exact ⟨parsed, parses, rfl, rfl⟩

/-- The wallet and its two token accounts lead the list of a legacy route. -/
theorem shared_lead {references rest : List AccountMeta}
    (accounts : references = args.shared ++ rest) :
    references[0]? = some (.new args.walletPubkey true) ∧
      references[1]? = some (.new args.userSolAta false) ∧
      references[2]? = some (.new args.userMemeAta false) := by
  subst accounts
  exact ⟨rfl, rfl, rfl⟩

/-- The data of a legacy route has its full width and decodes to what was encoded. -/
theorem decode_encoded {disc data : List UInt8} {count : UInt8} (width : disc.length = 8)
    (built : data = Client.buildIxData disc args.investmentLamports args.minProfitLamports
      args.minMemeOut false args.dlmmSolIsX count (.ofNat args.dlmm.binArrayCount)) :
    data.length = 36 ∧ LegacyData.decode data = args.encoded count := by
  subst built
  exact ⟨wire_length width, decode_buildIxData width _ _ _ _ _ _ _⟩

/-- The PumpSwap to DLMM route refines a direct purchase followed by a direct swap. -/
theorem routePumpToDlmm_refines (owner : Pubkey → Pubkey)
    (pool : SolMemePool args.dlmm args.memeMint)
    (nonempty : 1 ≤ args.dlmm.binArrayAddresses.length)
    (few : args.dlmm.binArrayAddresses.length ≤ 5)
    (built : Client.buildRoutePumpToDlmm derivation.find args = .ok (ix, height)) :
    Refines (args.encoded (Client.pumpswapBuyRemainingCount args.poolMeta)) ix
      (RoutePumpToDlmm.check derivation.find (load owner ix.accounts) ix.data)
      (RoutePumpToDlmm.buyLeg (load owner ix.accounts))
      (RoutePumpToDlmm.sellLeg (load owner ix.accounts))
      (fun amount => .ok (args.directBuy derivation.find amount))
      (args.directSwap2 derivation.find args.userMemeAta args.userSolAta) := by
  rcases buildRoutePumpToDlmm_eq_ok built with ⟨parsed, parses, accounts, data⟩
  rcases binArrayCount_byte nonempty with ⟨byte, atLeast, atMost⟩
  have count := Client.length_pumpswapBuyRemaining derivation.find args.walletPubkey
    args.memeMint (.ofLiteral Client.nativeSolMint) (.ofLiteral Client.tokenProgram)
    args.poolMeta
  have countLe := Client.buyRemainingCount_le args.poolMeta
  rcases decode_encoded rfl data with ⟨width, decoded⟩
  -- where the two sections are
  have sections : Segment.At ix.accounts 3
      (Client.pushPumpswapBuyAccounts derivation.find args.walletPubkey args.userSolAta
        args.userMemeAta args.memeMint (.ofLiteral Client.nativeSolMint)
        args.memeTokenProgram (.ofLiteral Client.tokenProgram) args.pool args.poolMeta ++
      args.dlmmSection derivation.find parsed) :=
    ⟨args.shared, [], by rw [accounts, List.append_nil], rfl⟩
  rcases shared_lead accounts with ⟨user, userSolAta, userMemeAta⟩
  have pumpPlaced := sections.left
  have dlmmPlaced := sections.right
  rw [Client.pushPumpswapBuyAccounts] at pumpPlaced
  rw [Client.pushPumpswapBuyAccounts, List.length_append, count] at dlmmPlaced
  have size := dlmmPlaced.length_le
  rw [length_dlmmSection parses] at size
  have bins : parsed.binArrays.length = (UInt8.ofNat args.dlmm.binArrayCount).toNat := by
    rw [parse_bins parses, byte]
  have covered : args.pumpToDlmmPlan.dlmmBase + 9 +
      args.pumpToDlmmPlan.route.dlmmBinArrayCount ≤ (load owner ix.accounts).length := by
    rw [length_load]
    exact le_of_eq_of_le (by rw [Nat.add_assoc, ← byte]; rfl) size
  have planned : ∀ plan, RoutePumpToDlmm.check derivation.find (load owner ix.accounts)
      ix.data = .ok plan → plan = args.pumpToDlmmPlan := by
    rintro ⟨route, pumpBase, dlmmBase⟩ checked
    rcases RoutePumpToDlmm.check_eq_ok.mp checked with ⟨-, same, -, pumpStart, dlmmStart, -, -⟩
    dsimp only at same pumpStart dlmmStart
    rw [Client.LegacyArgs.pumpToDlmmPlan, LegacyPlan.mk.injEq]
    exact ⟨same.symm.trans decoded, pumpStart, by rw [dlmmStart, ← same, decoded]; rfl⟩
  exact
    { width
      decoded
      accepted := fun amount profit =>
        ⟨args.pumpToDlmmPlan, RoutePumpToDlmm.check_eq_ok.mpr ⟨width, decoded,
          encoded_valid (by omega) nonempty amount profit, rfl, rfl, covered,
          legacyChecked_at user pumpPlaced.left pumpKeys_buy dlmmPlaced⟩, rfl⟩
      rejected := fun zero => RoutePumpToDlmm.check_zeroAmount width (decoded ▸ zero)
      first := fun plan checked amount => by
        obtain rfl := planned plan checked
        refine ⟨_, buildBuy_at pumpPlaced count.ge amount _ _, ?_⟩
        rw [List.take_of_length_le count.le]
        rfl
      second := fun plan checked amount => by
        obtain rfl := planned plan checked
        exact legacySwap2_eq_direct pool few parses user userMemeAta userSolAta dlmmPlaced
          (borrowed_at pumpPlaced.left rfl rfl rfl rfl) bins amount }

/-- The DLMM to PumpSwap route refines a direct swap followed by a direct sale. -/
theorem routeDlmmToPump_refines (owner : Pubkey → Pubkey)
    (pool : SolMemePool args.dlmm args.memeMint)
    (nonempty : 1 ≤ args.dlmm.binArrayAddresses.length)
    (few : args.dlmm.binArrayAddresses.length ≤ 5)
    (built : Client.buildRouteDlmmToPump derivation.find args = .ok (ix, height)) :
    Refines (args.encoded (Client.pumpswapSellRemainingCount args.poolMeta)) ix
      (RouteDlmmToPump.check derivation.find (load owner ix.accounts) ix.data)
      (RouteDlmmToPump.buyLeg (load owner ix.accounts))
      (RouteDlmmToPump.sellLeg (load owner ix.accounts))
      (args.directSwap2 derivation.find args.userSolAta args.userMemeAta)
      (fun amount => .ok (args.directSell derivation.find amount)) := by
  rcases buildRouteDlmmToPump_eq_ok built with ⟨parsed, parses, accounts, data⟩
  rcases binArrayCount_byte nonempty with ⟨byte, atLeast, atMost⟩
  have count := Client.length_pumpswapSellRemaining derivation.find args.walletPubkey
    args.memeMint (.ofLiteral Client.nativeSolMint) (.ofLiteral Client.tokenProgram)
    args.poolMeta
  have countLe := Client.sellRemainingCount_le args.poolMeta
  rcases decode_encoded rfl data with ⟨width, decoded⟩
  -- where the two sections are
  have sections : Segment.At ix.accounts 3
      (args.dlmmSection derivation.find parsed ++
      Client.pushPumpswapSellAccounts derivation.find args.walletPubkey args.userSolAta
        args.userMemeAta args.memeMint (.ofLiteral Client.nativeSolMint)
        args.memeTokenProgram (.ofLiteral Client.tokenProgram) args.pool args.poolMeta) :=
    ⟨args.shared, [], by rw [accounts, List.append_nil], rfl⟩
  rcases shared_lead accounts with ⟨user, userSolAta, userMemeAta⟩
  have dlmmPlaced := sections.left
  have pumpPlaced := sections.right
  rw [Client.pushPumpswapSellAccounts, length_dlmmSection parses, ← Nat.add_assoc]
    at pumpPlaced
  have size := pumpPlaced.length_le
  rw [List.length_append, count] at size
  have bins : parsed.binArrays.length = (UInt8.ofNat args.dlmm.binArrayCount).toNat := by
    rw [parse_bins parses, byte]
  have covered : args.dlmmToPumpPlan.pumpBase + 21 +
      args.dlmmToPumpPlan.route.pumpRemainingCount ≤ (load owner ix.accounts).length := by
    rw [length_load, Nat.add_assoc]
    exact size
  have start : args.dlmmToPumpPlan.pumpBase =
      3 + 9 + args.dlmmToPumpPlan.route.dlmmBinArrayCount :=
    congrArg (3 + 9 + ·) byte.symm
  have planned : ∀ plan, RouteDlmmToPump.check derivation.find (load owner ix.accounts)
      ix.data = .ok plan → plan = args.dlmmToPumpPlan := by
    rintro ⟨route, pumpBase, dlmmBase⟩ checked
    rcases RouteDlmmToPump.check_eq_ok.mp checked with ⟨-, same, -, dlmmStart, pumpStart, -, -⟩
    dsimp only at same pumpStart dlmmStart
    rw [Client.LegacyArgs.dlmmToPumpPlan, LegacyPlan.mk.injEq]
    refine ⟨same.symm.trans decoded, ?_, dlmmStart⟩
    rw [pumpStart, ← same, decoded]
    exact congrArg (3 + 9 + ·) byte
  exact
    { width
      decoded
      accepted := fun amount profit =>
        ⟨args.dlmmToPumpPlan, RouteDlmmToPump.check_eq_ok.mpr ⟨width, decoded,
          encoded_valid (by omega) nonempty amount profit, rfl, start, covered,
          legacyChecked_at user pumpPlaced.left pumpKeys_sell dlmmPlaced⟩, rfl⟩
      rejected := fun zero => RouteDlmmToPump.check_zeroAmount width (decoded ▸ zero)
      first := fun plan checked amount => by
        obtain rfl := planned plan checked
        exact legacySwap2_eq_direct pool few parses user userSolAta userMemeAta dlmmPlaced
          (borrowed_at pumpPlaced.left rfl rfl rfl rfl) bins amount
      second := fun plan checked amount => by
        obtain rfl := planned plan checked
        refine ⟨_, buildSell_at pumpPlaced count.ge amount _, ?_⟩
        rw [List.take_of_length_le count.le]
        rfl }

/-- Both legacy routes refine the direct builders, for every pool of SOL and the meme
token with one to five bin arrays, every PumpSwap pool and all amounts: a zero amount or
a zero profit demand is refused, and otherwise the checks pass. -/
theorem legacyRoutes_refine (owner : Pubkey → Pubkey)
    (pool : SolMemePool args.dlmm args.memeMint)
    (nonempty : 1 ≤ args.dlmm.binArrayAddresses.length)
    (few : args.dlmm.binArrayAddresses.length ≤ 5) :
    (Client.buildRoutePumpToDlmm derivation.find args = .ok (ix, height) →
      Refines (args.encoded (Client.pumpswapBuyRemainingCount args.poolMeta)) ix
        (RoutePumpToDlmm.check derivation.find (load owner ix.accounts) ix.data)
        (RoutePumpToDlmm.buyLeg (load owner ix.accounts))
        (RoutePumpToDlmm.sellLeg (load owner ix.accounts))
        (fun amount => .ok (args.directBuy derivation.find amount))
        (args.directSwap2 derivation.find args.userMemeAta args.userSolAta)) ∧
    (Client.buildRouteDlmmToPump derivation.find args = .ok (ix, height) →
      Refines (args.encoded (Client.pumpswapSellRemainingCount args.poolMeta)) ix
        (RouteDlmmToPump.check derivation.find (load owner ix.accounts) ix.data)
        (RouteDlmmToPump.buyLeg (load owner ix.accounts))
        (RouteDlmmToPump.sellLeg (load owner ix.accounts))
        (args.directSwap2 derivation.find args.userSolAta args.userMemeAta)
        (fun amount => .ok (args.directSell derivation.find amount))) :=
  ⟨routePumpToDlmm_refines owner pool nonempty few,
    routeDlmmToPump_refines owner pool nonempty few⟩

end

/-- Swap 1000 lamports for a profit of 500, asking for 150 intermediate tokens. -/
def sampleLegacyArgs : Client.LegacyArgs where
  walletPubkey := sampleUser
  userSolAta := sampleSolAta
  userMemeAta := sampleMemeAta
  memeMint := sampleMemeMint
  investmentLamports := 1000
  minMemeOut := 150
  minProfitLamports := 500
  dlmm := sampleReserves
  poolMeta := samplePoolMeta
  pool := samplePool
  memeTokenProgram := tokenId
  onchainProgramId := Client.memoProgram
  lastValidBlockHeight := 1

/-- On a sample pool the handler's DLMM leg is the direct swap. -/
theorem legacyRoutes_refine_sample :
    ∃ ix height,
      Client.buildRoutePumpToDlmm sampleDerivation.find sampleLegacyArgs = .ok (ix, height) ∧
      ∃ plan, RoutePumpToDlmm.check sampleDerivation.find (load id ix.accounts) ix.data =
          .ok plan ∧
        ∃ cpi, (RoutePumpToDlmm.sellLeg (load id ix.accounts) plan).build 100 = .ok cpi ∧
          sampleLegacyArgs.directSwap2 sampleDerivation.find sampleMemeAta sampleSolAta 100 =
            .ok cpi := by
  obtain ⟨⟨ix, height⟩, built⟩ := exists_of_isOk
    (show (Client.buildRoutePumpToDlmm sampleDerivation.find sampleLegacyArgs).isOk = true by
      decide +kernel)
  have pool : SolMemePool sampleLegacyArgs.dlmm sampleLegacyArgs.memeMint :=
    .inl ⟨rfl, by decide +kernel, by decide +kernel⟩
  have refines := (legacyRoutes_refine id pool (by decide) (by decide)).1 built
  rcases refines.accepted (by decide) (by decide) with ⟨plan, checked, -⟩
  exact ⟨ix, height, built, plan, checked, refines.second plan checked 100⟩

/-- An instruction for a zero amount is built and then refused. -/
theorem legacyRoutes_refuse_zero :
    ∃ ix height,
      Client.buildRoutePumpToDlmm sampleDerivation.find
        { sampleLegacyArgs with investmentLamports := 0 } = .ok (ix, height) ∧
      RoutePumpToDlmm.check sampleDerivation.find (load id ix.accounts) ix.data =
        .error (arbErr arbZeroAmount) := by
  obtain ⟨⟨ix, height⟩, built⟩ := exists_of_isOk
    (show (Client.buildRoutePumpToDlmm sampleDerivation.find
      { sampleLegacyArgs with investmentLamports := 0 }).isOk = true by decide +kernel)
  rcases buildRoutePumpToDlmm_eq_ok built with ⟨-, -, -, data⟩
  refine ⟨ix, height, built, RoutePumpToDlmm.check_zeroAmount ?_ (.inl ?_)⟩
  · rw [data]
    exact wire_length rfl
  · rw [data]
    exact wire_amount rfl

end Agreement

end AtomicArbitrage
