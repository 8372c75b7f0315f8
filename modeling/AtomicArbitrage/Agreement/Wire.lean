import AtomicArbitrage.Agreement.Layout

/-!
# Wire agreement of the generic route

The instruction that the client builds for two sections, read back by the orchestrator.
A section is described once, as a block that identifies its exchange, is long enough and
validates; the agreement of a whole instruction is assembled from its two blocks.  The
Whirlpool section is the exception: the client declares no tick arrays, and the
validator insists on one.
-/

namespace AtomicArbitrage

open Outcome Word64 Program

/-! ## What a client section stands for -/

namespace Client.Section

/-- The exchange a section is meant for. -/
def kind : Section → DexKind
  | pumpSwap _ => .pumpSwap
  | dlmm _ => .dlmm
  | cpmm _ => .cpmm
  | whirlpool _ => .whirlpool

/-- The accounts of a section on the buy side. -/
def buyMetas (pda : FindProgramAddress) (args : GenericArgs) : Section → List AccountMeta
  | pumpSwap d => pushPumpswapBuyAccounts pda args.walletPubkey args.userSolAta
      args.userMemeAta args.memeMint args.solMint args.memeTokenProgram args.solTokenProgram
      d.pool d.poolMeta
  | dlmm d => pushDlmmGenericAccounts d
  | cpmm d => pushCpmmAccounts pda d.pool args.solMint args.memeMint args.userSolAta
      args.userMemeAta (.ofLiteral memoProgram) (.ofLiteral token22Program) d.config
  | whirlpool d => pushWhirlpoolAccounts pda d.pool args.userSolAta args.userMemeAta
      d.vaultA d.vaultB d.tickArrays

/-- The accounts of a section on the sell side. -/
def sellMetas (pda : FindProgramAddress) (args : GenericArgs) : Section → List AccountMeta
  | pumpSwap d => pushPumpswapGenericSell pda args.walletPubkey args.userSolAta
      args.userMemeAta args.memeMint args.solMint args.memeTokenProgram args.solTokenProgram
      d.pool d.poolMeta
  | dlmm d => pushDlmmGenericAccounts d
  | cpmm d => pushCpmmAccounts pda d.pool args.memeMint args.solMint args.userMemeAta
      args.userSolAta (.ofLiteral memoProgram) (.ofLiteral token22Program) d.config
  | whirlpool d => pushWhirlpoolAccounts pda d.pool args.userMemeAta args.userSolAta
      d.vaultA d.vaultB d.tickArrays

/-- The remaining count that ends up in the instruction data. -/
def wireRemaining : Section → UInt8
  | pumpSwap d => d.remainingCount
  | dlmm d => d.binCount
  | cpmm _ => 0
  | whirlpool _ => 0

/-- The section data that the client's resolvers can produce: PumpSwap data carries the
buy count of its pool, DLMM data comes from a cached pool with bin arrays. -/
def Constructible (pda : FindProgramAddress) : Section → Prop
  | pumpSwap d => ∃ poolMeta pool, d = pumpswapSectionData poolMeta pool
  | dlmm d => ∃ reserves memeTokenProgram, reserves.binArrayAddresses ≠ [] ∧
      dlmmSectionData pda reserves memeTokenProgram = .ok d
  | cpmm _ => True
  | whirlpool _ => True

theorem buySection_eq (pda : FindProgramAddress) (args : GenericArgs) (leg : Section) :
    buySection pda args leg.kindByte leg.side = .ok (leg.buyMetas pda args) := by
  cases leg <;> rfl

theorem sellSection_eq (pda : FindProgramAddress) (args : GenericArgs) (leg : Section) :
    sellSection pda args leg.kindByte leg.side = .ok (leg.sellMetas pda args) := by
  cases leg <;> rfl

theorem ixRemaining_eq (leg : Section) :
    ixRemaining leg.kindByte leg.side leg.remaining = leg.wireRemaining := by
  cases leg <;> rfl

end Client.Section

/-- The instruction for two sections, in full.  Only the configured program id can keep
it from being built. -/
theorem Client.buildRoute_eq_ok {pda : FindProgramAddress} {args : GenericArgs}
    {buy sell : Section} {ix : Instruction} :
    buildRoute pda args buy sell = .ok ix ↔
      ∃ programId, Pubkey.fromStr? args.onchainProgramId = some programId ∧
        ix = { programId
               accounts := args.shared ++ (buy.buyMetas pda args ++ sell.sellMetas pda args)
               data := genericIxData args buy.wireRemaining sell.wireRemaining } := by
  simp only [buildRoute, buildGenericRoute, Section.buySection_eq, Section.sellSection_eq,
    Section.ixRemaining_eq, ok_bind, bind_eq_ok, parsePubkey_eq_ok, pure_eq_ok]
  constructor
  · rintro ⟨programId, parsed, rfl⟩
    exact ⟨programId, parsed, rfl⟩
  · rintro ⟨programId, parsed, rfl⟩
    exact ⟨programId, parsed, rfl⟩

namespace Agreement

/-- The owners of accounts on a cluster.  Programs are owned by a loader, so no program
address is an account of an exchange. -/
structure Cluster where
  owner : Pubkey → Pubkey
  loaded : ∀ program exchange : DexKind, owner program.programId ≠ exchange.programId

/-- The pool of a leg belongs to its exchange. -/
def Owned (cluster : Cluster) : Client.Section → Prop
  | .pumpSwap d => cluster.owner d.pool = pumpSwapId
  | .dlmm d => cluster.owner d.lbPair = dlmmId
  | .cpmm d => cluster.owner d.pool = cpmmId
  | .whirlpool d => cluster.owner d.pool = whirlpoolId

instance (cluster : Cluster) : (leg : Client.Section) → Decidable (Owned cluster leg)
  | .pumpSwap d => inferInstanceAs (Decidable (cluster.owner d.pool = pumpSwapId))
  | .dlmm d => inferInstanceAs (Decidable (cluster.owner d.lbPair = dlmmId))
  | .cpmm d => inferInstanceAs (Decidable (cluster.owner d.pool = cpmmId))
  | .whirlpool d => inferInstanceAs (Decidable (cluster.owner d.pool = whirlpoolId))

/-! ## Blocks -/

/-- A block of accounts that the orchestrator takes for a section of `kind` with
`remaining` remaining accounts, wherever it is placed. -/
structure Reads (derivation : Client.Derivation) (cluster : Cluster) (kind : DexKind)
    (remaining : Nat) (block : List AccountMeta) : Prop where
  identified : ∀ references base, Segment.At references base block →
    Orchestrate.identifyDex (load cluster.owner references) base = some kind
  covered : kind.fixedLen + remaining ≤ block.length
  validated : kind ≠ .whirlpool → ∀ references base, Segment.At references base block →
    Orchestrate.validateDexSection derivation.find (load cluster.owner references) kind base
      remaining = .ok ()

section

variable {derivation : Client.Derivation} {cluster : Cluster}
  {references block : List AccountMeta} {base : Nat}

/-- A program address in the first position decides the kind. -/
theorem identifyDex_of_head {reference : AccountMeta} {kind : DexKind}
    (placed : Segment.At references base block) (head : block[0]? = some reference)
    (program : reference.pubkey = kind.programId) :
    Orchestrate.identifyDex (load cluster.owner references) base = some kind := by
  have first : (load cluster.owner references)[base + 0]? =
      some (view cluster.owner reference) := load_at placed head
  have recognised : DexKind.fromProgramId reference.pubkey = some kind :=
    DexKind.fromProgramId_eq_some.mpr program
  rw [Nat.add_zero] at first
  simp only [Orchestrate.identifyDex, first, view, recognised]

/-- A pool account in the first position is no program, so the position sixteen later
decides. -/
theorem identifyDex_of_probe {pool probe : AccountMeta} {kind exchange : DexKind}
    (placed : Segment.At references base block) (head : block[0]? = some pool)
    (owned : cluster.owner pool.pubkey = exchange.programId)
    (entry : block[16]? = some probe) (program : probe.pubkey = kind.programId) :
    Orchestrate.identifyDex (load cluster.owner references) base = some kind := by
  have first : (load cluster.owner references)[base + 0]? =
      some (view cluster.owner pool) := load_at placed head
  have later : (load cluster.owner references)[base + 16]? =
      some (view cluster.owner probe) := load_at placed entry
  have unrecognised : DexKind.fromProgramId pool.pubkey = none := by
    cases found : DexKind.fromProgramId pool.pubkey with
    | none => rfl
    | some other =>
        rw [DexKind.fromProgramId_eq_some.mp found] at owned
        exact absurd owned (cluster.loaded other exchange)
  have recognised : DexKind.fromProgramId probe.pubkey = some kind :=
    DexKind.fromProgramId_eq_some.mpr program
  rw [Nat.add_zero] at first
  simp only [Orchestrate.identifyDex, first, view, unrecognised, later, recognised]

/-- A block with PumpSwap's program, global configuration and event authority in their
places is read as a PumpSwap section. -/
theorem reads_pumpSwap {pool : AccountMeta} {remaining : Nat}
    (head : block[0]? = some pool)
    (owned : cluster.owner pool.pubkey = DexKind.pumpSwap.programId)
    (program : block[16]? = some (.newReadonly pumpSwapId false))
    (config : (block[2]?).map AccountMeta.pubkey =
      some (.ofLiteral Client.pumpswapGlobalConfig))
    (event : (block[15]?).map AccountMeta.pubkey =
      some (.ofLiteral Client.pumpswapEventAuthority))
    (covered : 23 + remaining ≤ block.length) :
    Reads derivation cluster .pumpSwap remaining block where
  identified references base placed :=
    identifyDex_of_probe placed head owned program rfl
  covered := covered
  validated _ references base placed := by
    rw [Orchestrate.validateDexSection, DexPumpSwap.validateSection_eq_ok,
      derivation.globalConfig, derivation.eventAuthority]
    exact ⟨keyAt placed (by rw [program]; rfl), keyAt placed config, keyAt placed event⟩

theorem reads_dlmm {d : Client.DlmmSectionData}
    (constructible : (Client.Section.dlmm d).Constructible derivation.find)
    (owned : cluster.owner d.lbPair = dlmmId) :
    Reads derivation cluster .dlmm d.binCount.toNat (Client.pushDlmmGenericAccounts d) := by
  rcases constructible with ⟨reserves, memeTokenProgram, nonempty, resolved⟩
  simp only [Client.dlmmSectionData, bind_eq_ok, pure_eq_ok] at resolved
  obtain ⟨lbPair, _, reserveX, _, reserveY, _, xMint, _, yMint, _, bins, binsParsed, rfl⟩ :=
    resolved
  have binsLength := Client.DlmmPoolReserves.length_parseBinArrays binsParsed
  have positive : 0 < reserves.binArrayAddresses.length := List.length_pos_iff.mpr nonempty
  have count : reserves.binArrayCount ≤ 5 ∧ 1 ≤ reserves.binArrayCount := by
    rw [Client.DlmmPoolReserves.binArrayCount]
    omega
  have byte : (UInt8.ofNat reserves.binArrayCount).toNat = reserves.binArrayCount :=
    UInt8.toNat_ofNat_of_lt' (by unfold UInt8.size; omega)
  exact
    { identified := fun references base placed => identifyDex_of_head placed rfl rfl
      covered := by
        simp only [Client.pushDlmmGenericAccounts, List.length_append, List.length_map,
          binsLength, byte]
        rfl
      validated := fun _ references base placed =>
        DexDlmm.validateSection_eq_ok.mpr
          ⟨by rw [byte]; omega, keyAt_head placed rfl, owned ▸ ownerAt placed rfl, _,
            load_at placed rfl, keyAt placed rfl, keyAt placed rfl, keyAt placed rfl⟩ }

theorem reads_cpmm {pool inputMint outputMint inputAta outputAta config : Pubkey}
    (owned : cluster.owner pool = cpmmId) :
    Reads derivation cluster .cpmm 0 (Client.pushCpmmAccounts derivation.find pool inputMint
      outputMint inputAta outputAta (.ofLiteral Client.memoProgram)
      (.ofLiteral Client.token22Program) config) where
  identified references base placed := identifyDex_of_head placed rfl rfl
  covered := le_rfl
  validated _ references base placed := by
    rw [Orchestrate.validateDexSection, DexCpmm.validateSection_eq_ok]
    exact ⟨keyAt_head placed rfl, ⟨_, load_at placed rfl⟩, .inl (keyAt placed rfl),
        .inr (keyAt placed rfl), keyAt placed rfl, _, load_at placed rfl,
        keyAt placed rfl, owned ▸ ownerAt placed rfl⟩

theorem reads_whirlpool {pool inputAta outputAta vaultA vaultB : Pubkey}
    {tickArrays : Pubkey × Pubkey × Pubkey} :
    Reads derivation cluster .whirlpool 0 (Client.pushWhirlpoolAccounts derivation.find pool
      inputAta outputAta vaultA vaultB tickArrays) where
  identified _ _ placed := identifyDex_of_head placed rfl rfl
  covered := le_rfl
  validated notWhirlpool := absurd rfl notWhirlpool

end

section

variable {derivation : Client.Derivation} {cluster : Cluster} {args : Client.GenericArgs}
  {leg : Client.Section}

/-- The buy section of a leg is read as the leg's exchange. -/
theorem reads_buyMetas (constructible : leg.Constructible derivation.find)
    (owned : Owned cluster leg) :
    Reads derivation cluster leg.kind leg.wireRemaining.toNat
      (leg.buyMetas derivation.find args) := by
  cases leg with
  | pumpSwap d =>
      rcases constructible with ⟨poolMeta, pool, rfl⟩
      refine reads_pumpSwap rfl owned rfl rfl rfl ?_
      rw [Client.Section.buyMetas, Client.pushPumpswapBuyAccounts, List.length_append,
        Client.length_pumpswapBuyRemaining]
      rfl
  | dlmm d => exact reads_dlmm constructible owned
  | cpmm d => exact reads_cpmm owned
  | whirlpool d => exact reads_whirlpool

/-- The sell section of a leg is read as the leg's exchange: the two accounts of padding
and the longer list of a cashback sale only make it longer than needed. -/
theorem reads_sellMetas (constructible : leg.Constructible derivation.find)
    (owned : Owned cluster leg) :
    Reads derivation cluster leg.kind leg.wireRemaining.toNat
      (leg.sellMetas derivation.find args) := by
  cases leg with
  | pumpSwap d =>
      rcases constructible with ⟨poolMeta, pool, rfl⟩
      refine reads_pumpSwap rfl owned rfl rfl rfl ?_
      have sellCount := Client.sellRemainingCount_eq poolMeta
      have fixed : (Client.pumpswapSellFixed derivation.find args.walletPubkey args.userSolAta
        args.userMemeAta args.memeMint args.solMint args.memeTokenProgram args.solTokenProgram
        pool poolMeta).length = 21 := rfl
      simp only [Client.Section.sellMetas, Client.pushPumpswapGenericSell,
        Client.pushPumpswapSellAccounts, Client.pumpswapSectionData, List.length_append,
        Client.length_pumpswapSellRemaining, Client.Section.wireRemaining, fixed,
        List.length_cons, List.length_nil]
      omega
  | dlmm d => exact reads_dlmm constructible owned
  | cpmm d => exact reads_cpmm owned
  | whirlpool d => exact reads_whirlpool

/-- The buy section fills its place exactly, so the sell section starts where the
orchestrator looks for it. -/
theorem length_buyMetas (constructible : leg.Constructible derivation.find) :
    (leg.buyMetas derivation.find args).length =
      leg.kind.fixedLen + leg.wireRemaining.toNat := by
  cases leg with
  | pumpSwap d =>
      rcases constructible with ⟨poolMeta, pool, rfl⟩
      rw [Client.Section.buyMetas, Client.pushPumpswapBuyAccounts, List.length_append,
        Client.length_pumpswapBuyRemaining]
      rfl
  | dlmm d =>
      rcases constructible with ⟨reserves, _, _, resolved⟩
      rw [Client.Section.buyMetas, Client.Section.wireRemaining,
        Client.dlmmSectionData_binCount resolved, Client.pushDlmmGenericAccounts,
        List.length_append, List.length_map]
      rfl
  | cpmm d => rfl
  | whirlpool d => rfl

end

/-! ## Agreement -/

/-- The program reads back what the client meant: the checks before the first balance
read pass, the amounts are the client's, both exchanges are identified, and the sell
section is looked for where the client put it. -/
def Agrees (derivation : Client.Derivation) (cluster : Cluster) (args : Client.GenericArgs)
    (buy sell : Client.Section) (ix : Instruction) : Prop :=
  ∃ plan, Orchestrate.check derivation.find (load cluster.owner ix.accounts) ix.data =
      .ok plan ∧
    plan.route.amountIn = args.investmentLamports ∧
    plan.route.minProfit = args.minProfitLamports ∧
    plan.route.minIntermediate = args.minMemeOut ∧
    plan.buyKind = buy.kind ∧ plan.sellKind = sell.kind ∧
    plan.sellBase = args.shared.length + (buy.buyMetas derivation.find args).length

variable {derivation : Client.Derivation} {cluster : Cluster} {args : Client.GenericArgs}
  {buy sell : Client.Section} {ix : Instruction}

/-- The plan the orchestrator makes for a client instruction, before it validates the
sections. -/
def clientPlan (derivation : Client.Derivation) (args : Client.GenericArgs)
    (buy sell : Client.Section) : Orchestrate.Plan where
  route :=
    { amountIn := args.investmentLamports
      minProfit := args.minProfitLamports
      minIntermediate := args.minMemeOut
      trackVolume := false
      buyIsSol := args.buySolIsX
      buyRemaining := buy.wireRemaining.toNat
      sellRemaining := sell.wireRemaining.toNat }
  buyKind := buy.kind
  sellKind := sell.kind
  buyBase := 3
  sellBase := 3 + (buy.buyMetas derivation.find args).length

/-- No Whirlpool section validates without a tick array. -/
theorem not_validates_whirlpool {leg : Client.Section} (whirlpool : leg.kind = .whirlpool)
    {accounts : List AccountInfo} {base : Nat} :
    Orchestrate.validateDexSection derivation.find accounts leg.kind base
      leg.wireRemaining.toNat ≠ .ok () := by
  intro valid
  cases leg with
  | whirlpool d =>
      rcases DexWhirlpool.validateSection_eq_ok.mp valid with ⟨-, ⟨positive, -⟩, -⟩
      exact absurd positive (Nat.not_succ_le_zero 0)
  | pumpSwap d => cases whirlpool
  | dlmm d => cases whirlpool
  | cpmm d => cases whirlpool

/-- An instruction that passes the checks under the client's plan has no Whirlpool leg. -/
theorem kinds_of_check {plan : Orchestrate.Plan}
    (planned : Orchestrate.plan (load cluster.owner ix.accounts) ix.data =
      .ok (clientPlan derivation args buy sell))
    (checked : Orchestrate.check derivation.find (load cluster.owner ix.accounts) ix.data =
      .ok plan) :
    buy.kind ≠ .whirlpool ∧ sell.kind ≠ .whirlpool := by
  rcases Orchestrate.check_eq_ok.mp checked with ⟨planned', -, buyValid, sellValid⟩
  obtain rfl : clientPlan derivation args buy sell = plan :=
    Except.ok.inj (planned.symm.trans planned')
  exact ⟨fun whirlpool => not_validates_whirlpool whirlpool buyValid,
    fun whirlpool => not_validates_whirlpool whirlpool sellValid⟩

section

variable (built : Client.buildRoute derivation.find args buy sell = .ok ix)
include built

/-- Where the two sections of a client instruction are. -/
theorem sections_placed :
    Segment.At ix.accounts 3 (buy.buyMetas derivation.find args) ∧
      Segment.At ix.accounts (3 + (buy.buyMetas derivation.find args).length)
        (sell.sellMetas derivation.find args) ∧
      ix.accounts.length = 3 + (buy.buyMetas derivation.find args).length +
        (sell.sellMetas derivation.find args).length ∧
      ix.accounts[0]? = some (.new args.walletPubkey true) := by
  rcases Client.buildRoute_eq_ok.mp built with ⟨_, _, rfl⟩
  have both : Segment.At (args.shared ++ (buy.buyMetas derivation.find args ++
      sell.sellMetas derivation.find args)) 3
      (buy.buyMetas derivation.find args ++ sell.sellMetas derivation.find args) :=
    ⟨args.shared, [], by simp, rfl⟩
  refine ⟨both.left, both.right, ?_, rfl⟩
  simp only [List.length_append, Client.GenericArgs.shared, List.length_cons,
    List.length_nil]
  omega

theorem instruction_data :
    ix.data = Client.genericIxData args buy.wireRemaining sell.wireRemaining := by
  rcases Client.buildRoute_eq_ok.mp built with ⟨_, _, rfl⟩
  rfl

/-- Whatever plan the orchestrator makes of a client instruction, it is the one the
client meant. -/
theorem clientPlan_of_plan (buyData : buy.Constructible derivation.find)
    (sellData : sell.Constructible derivation.find)
    (buyOwned : Owned cluster buy) (sellOwned : Owned cluster sell)
    {plan : Orchestrate.Plan}
    (planned : Orchestrate.plan (load cluster.owner ix.accounts) ix.data = .ok plan) :
    plan = clientPlan derivation args buy sell := by
  rcases sections_placed built with ⟨buyPlaced, sellPlaced, -, -⟩
  rcases plan with ⟨route, buyKind, sellKind, buyBase, sellBase⟩
  obtain ⟨-, decoded, -, -, buyStart, buyFound, sellStart, sellFound, -, -⟩ :=
    Orchestrate.plan_eq_ok.mp planned
  dsimp only at decoded buyStart buyFound sellStart sellFound
  have buyReads : Reads derivation cluster _ _ (buy.buyMetas derivation.find args) :=
    reads_buyMetas buyData buyOwned
  have sellReads : Reads derivation cluster _ _ (sell.sellMetas derivation.find args) :=
    reads_sellMetas sellData sellOwned
  obtain rfl : buy.kind = buyKind :=
    Option.some.inj ((buyReads.identified _ _ buyPlaced).symm.trans buyFound)
  rw [instruction_data built, decode_genericIxData] at decoded
  obtain rfl : sellBase = 3 + (buy.buyMetas derivation.find args).length := by
    rw [sellStart, decoded, length_buyMetas buyData]
  obtain rfl : sell.kind = sellKind :=
    Option.some.inj ((sellReads.identified _ _ sellPlaced).symm.trans sellFound)
  rw [decoded, buyStart]
  rfl

/-- The orchestrator plans every client instruction as it was meant, Whirlpool or not. -/
theorem plan_eq_clientPlan (distinct : buy.kind ≠ sell.kind)
    (buyData : buy.Constructible derivation.find)
    (sellData : sell.Constructible derivation.find)
    (buyOwned : Owned cluster buy) (sellOwned : Owned cluster sell)
    (amount : args.investmentLamports ≠ 0) (profit : args.minProfitLamports ≠ 0) :
    Orchestrate.plan (load cluster.owner ix.accounts) ix.data =
      .ok (clientPlan derivation args buy sell) := by
  rcases sections_placed built with ⟨buyPlaced, sellPlaced, size, -⟩
  have buyReads : Reads derivation cluster _ _ (buy.buyMetas derivation.find args) :=
    reads_buyMetas buyData buyOwned
  have sellReads : Reads derivation cluster _ _ (sell.sellMetas derivation.find args) :=
    reads_sellMetas sellData sellOwned
  refine Orchestrate.plan_eq_ok.mpr ⟨?_, ?_, amount, profit, rfl,
    buyReads.identified _ _ buyPlaced, ?_, sellReads.identified _ _ sellPlaced, distinct, ?_⟩
  · rw [instruction_data built]
    exact wire_length rfl
  · rw [instruction_data built, decode_genericIxData]
    rfl
  · exact congrArg (3 + ·) (length_buyMetas buyData)
  · have covered := sellReads.covered
    rw [length_load, size]
    simp only [clientPlan]
    omega

/-- Without a Whirlpool leg every check passes. -/
theorem check_eq_clientPlan (distinct : buy.kind ≠ sell.kind)
    (buyData : buy.Constructible derivation.find)
    (sellData : sell.Constructible derivation.find)
    (buyOwned : Owned cluster buy) (sellOwned : Owned cluster sell)
    (amount : args.investmentLamports ≠ 0) (profit : args.minProfitLamports ≠ 0)
    (buyNotWhirlpool : buy.kind ≠ .whirlpool) (sellNotWhirlpool : sell.kind ≠ .whirlpool) :
    Orchestrate.check derivation.find (load cluster.owner ix.accounts) ix.data =
      .ok (clientPlan derivation args buy sell) := by
  rcases sections_placed built with ⟨buyPlaced, sellPlaced, -, user⟩
  have planned := plan_eq_clientPlan built distinct buyData sellData buyOwned sellOwned
    amount profit
  have signer : (load cluster.owner ix.accounts)[0]? =
      some (view cluster.owner (.new args.walletPubkey true)) := by
    rw [load_getElem?, user, Option.map_some]
  exact Orchestrate.check_eq_ok.mpr ⟨planned, ⟨_, signer, rfl⟩,
    (reads_buyMetas buyData buyOwned).validated buyNotWhirlpool _ _ buyPlaced,
    (reads_sellMetas sellData sellOwned).validated sellNotWhirlpool _ _ sellPlaced⟩

/-- The program reads a client instruction as it was meant exactly when neither leg is a
Whirlpool leg. -/
theorem agrees_iff (distinct : buy.kind ≠ sell.kind)
    (buyData : buy.Constructible derivation.find)
    (sellData : sell.Constructible derivation.find)
    (buyOwned : Owned cluster buy) (sellOwned : Owned cluster sell)
    (amount : args.investmentLamports ≠ 0) (profit : args.minProfitLamports ≠ 0) :
    Agrees derivation cluster args buy sell ix ↔
      buy.kind ≠ .whirlpool ∧ sell.kind ≠ .whirlpool := by
  constructor
  · rintro ⟨plan, checked, -⟩
    exact kinds_of_check
      (plan_eq_clientPlan built distinct buyData sellData buyOwned sellOwned amount profit)
      checked
  · rintro ⟨buyNotWhirlpool, sellNotWhirlpool⟩
    exact ⟨clientPlan derivation args buy sell,
      check_eq_clientPlan built distinct buyData sellData buyOwned sellOwned amount profit
        buyNotWhirlpool sellNotWhirlpool,
      rfl, rfl, rfl, rfl, rfl, rfl⟩

end

/-! ## Concrete routes -/


/-- The sample pools belong to their exchanges, everything else to the loader. -/
def sampleOwner (key : Pubkey) : Pubkey :=
  if key = samplePool then pumpSwapId
  else if key = sampleCpmmPool then cpmmId
  else if key = sampleLbPair then dlmmId
  else if key = sampleWhirlpool then whirlpoolId
  else .ofLiteral "BPFLoaderUpgradeab1e11111111111111111111111"

def sampleCluster : Cluster where
  owner := sampleOwner
  loaded program exchange := by
    have apart : ∀ program ∈ DexKind.all, ∀ exchange ∈ DexKind.all,
        sampleOwner program.programId ≠ exchange.programId := by
      decide +kernel
    exact apart program program.mem_all exchange exchange.mem_all

/-- Swap 1000 lamports for a profit of 500, asking for 150 intermediate tokens. -/
def sampleArgs : Client.GenericArgs where
  walletPubkey := sampleUser
  userSolAta := sampleSolAta
  userMemeAta := sampleMemeAta
  memeMint := sampleMemeMint
  solMint := nativeSolMint
  investmentLamports := 1000
  minMemeOut := 150
  minProfitLamports := 500
  buySolIsX := true
  memeTokenProgram := tokenId
  solTokenProgram := tokenId
  onchainProgramId := Client.memoProgram

def samplePumpSwap : Client.Section :=
  .pumpSwap (Client.pumpswapSectionData samplePoolMeta samplePool)

def sampleCpmm : Client.Section :=
  .cpmm { pool := sampleCpmmPool, config := .ofLiteral Client.cpmmAmmConfig }

def sampleWhirlpoolSection : Client.Section :=
  .whirlpool
    { pool := sampleWhirlpool, vaultA := .ofNat 45, vaultB := .ofNat 46
      tickArrays := (.ofNat 47, .ofNat 48, .ofNat 49), solIsX := true }

/-- A PumpSwap to CPMM route is read as it was meant. -/
theorem agrees_iff_sample :
    ∃ ix, Client.buildRoute sampleDerivation.find sampleArgs samplePumpSwap sampleCpmm = .ok ix ∧
      Agrees sampleDerivation sampleCluster sampleArgs samplePumpSwap sampleCpmm ix := by
  obtain ⟨ix, built⟩ := exists_of_isOk
    (show (Client.buildRoute sampleDerivation.find sampleArgs samplePumpSwap sampleCpmm).isOk = true by
      decide +kernel)
  exact ⟨ix, built,
    (agrees_iff built (by decide)
      ⟨samplePoolMeta, samplePool, rfl⟩ trivial (by decide +kernel) (by decide +kernel)
      (by decide) (by decide)).mpr ⟨by decide, by decide⟩⟩

/-- A Whirlpool to PumpSwap route is built and then rejected by the program. -/
theorem not_agrees_sample :
    ∃ ix, Client.buildRoute sampleDerivation.find sampleArgs sampleWhirlpoolSection samplePumpSwap =
        .ok ix ∧
      ¬Agrees sampleDerivation sampleCluster sampleArgs sampleWhirlpoolSection
        samplePumpSwap ix := by
  obtain ⟨ix, built⟩ := exists_of_isOk
    (show (Client.buildRoute sampleDerivation.find sampleArgs sampleWhirlpoolSection
      samplePumpSwap).isOk = true by decide +kernel)
  have planned : Orchestrate.plan (load sampleCluster.owner ix.accounts) ix.data = .ok
      (clientPlan sampleDerivation sampleArgs sampleWhirlpoolSection samplePumpSwap) :=
    plan_eq_clientPlan built (by decide) trivial ⟨samplePoolMeta, samplePool, rfl⟩
      (by decide +kernel) (by decide +kernel) (by decide) (by decide)
  refine ⟨ix, built, ?_⟩
  rintro ⟨plan, checked, -⟩
  exact (kinds_of_check planned checked).1 rfl

end Agreement

end AtomicArbitrage
