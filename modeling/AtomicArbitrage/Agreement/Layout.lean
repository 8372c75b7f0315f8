import AtomicArbitrage.Client.GenericRoute
import AtomicArbitrage.Client.LegacyRoute
import AtomicArbitrage.Program.Entry
import Mathlib.Data.List.GetD

/-!
# Client lists read by the program

What the program sees when the runtime loads an instruction the client built: accounts
are looked up section by section, and the thirty-six bytes decode to what was encoded.
-/

namespace AtomicArbitrage.Agreement

open Outcome Word64 Program

/-! ## Accounts -/

section

variable {owner : Pubkey → Pubkey} {references block : List AccountMeta} {base offset : Nat}
  {reference : AccountMeta} {key : Pubkey}

@[simp] theorem length_load : (load owner references).length = references.length :=
  List.length_map _

theorem load_getElem? {index : Nat} :
    (load owner references)[index]? = (references[index]?).map (view owner) :=
  List.getElem?_map

/-- The account a section lists at an offset, as the program reads it. -/
theorem load_at (placed : Segment.At references base block)
    (entry : block[offset]? = some reference) :
    (load owner references)[base + offset]? = some (view owner reference) := by
  rw [load_getElem?, placed.read entry, Option.map_some]

theorem keyAt (placed : Segment.At references base block)
    (entry : (block[offset]?).map AccountMeta.pubkey = some key) :
    KeyAt (load owner references) (base + offset) key := by
  rcases Option.map_eq_some_iff.mp entry with ⟨reference, position, rfl⟩
  exact ⟨_, load_at placed position, rfl⟩

/-- The first account of a section. -/
theorem keyAt_head (placed : Segment.At references base block)
    (entry : (block[0]?).map AccountMeta.pubkey = some key) :
    KeyAt (load owner references) base key :=
  Nat.add_zero base ▸ keyAt placed entry

theorem ownerAt (placed : Segment.At references base block)
    (entry : (block[offset]?).map AccountMeta.pubkey = some key) :
    OwnerAt (load owner references) (base + offset) (owner key) := by
  rcases Option.map_eq_some_iff.mp entry with ⟨reference, position, rfl⟩
  exact ⟨_, load_at placed position, rfl⟩

/-- A reference the program makes to an account that a section lists. -/
theorem acct_at (placed : Segment.At references base block)
    (entry : block[offset]? = some reference) (writable : Bool) :
    Cpi.acct (load owner references) (base + offset) writable =
      .ok (Cpi.asMeta (view owner reference) writable) :=
  Cpi.acct_eq_ok.mpr ⟨_, load_at placed entry, rfl⟩

/-- Slots that follow the references of a placed block, with their writable flags, read
the block back. -/
theorem buildMeta_at (placed : Segment.At references base block)
    {slots : List (Nat × Bool)} (offsets : slots.map Prod.fst = List.range block.length)
    (flags : slots.map Prod.snd = block.map AccountMeta.isWritable) :
    Cpi.PumpSwap.buildMeta (load owner references) base slots = .ok block := by
  rw [Cpi.PumpSwap.buildMeta, Cpi.metas, mapM_eq_ok, List.zip_of_prod offsets flags,
    List.forall₂_iff_get]
  refine ⟨by simp, fun offset _ inside => ?_⟩
  have read : Cpi.acct (load owner references) (base + offset) block[offset].isWritable =
      .ok block[offset] := by
    rw [acct_at placed (List.getElem?_eq_getElem inside), Cpi.asMeta_view]
  simpa using read

/-- A PumpSwap instruction over a placed section: the section's fixed accounts, then as
many of the others as the count says, all with the flags the client gave them. -/
theorem buildPumpSwap_at {fixed tail : List AccountMeta} {slots : List (Nat × Bool)}
    {fixedLen programRel count : Nat} {program : AccountMeta} {data : List UInt8}
    (placed : Segment.At references base (fixed ++ tail)) (width : fixed.length = fixedLen)
    (offsets : slots.map Prod.fst = List.range fixedLen)
    (writable : slots.map Prod.snd = fixed.map AccountMeta.isWritable)
    (programAt : fixed[programRel]? = some program) (covered : count ≤ tail.length) :
    Cpi.PumpSwap.buildPumpSwap (load owner references) base count slots fixedLen programRel
        data none =
      .ok { programId := program.pubkey, accounts := fixed ++ tail.take count, data } := by
  subst width
  have window := (placed.right.slice 0 count (by omega)).map (view owner)
  rw [List.drop_zero, Nat.add_zero] at window
  have size : ((tail.take count).map (view owner)).length = count := by
    rw [List.length_map, List.length_take]
    omega
  have same : (fun info => Cpi.asMeta info info.isWritable) ∘ view owner = id :=
    funext (Cpi.asMeta_view owner)
  have flags : ((tail.take count).map (view owner)).map
      (fun info => Cpi.asMeta info info.isWritable) = tail.take count := by
    rw [List.map_map, same, List.map_id]
  have built := Cpi.PumpSwap.buildPumpSwap_eq data (buildMeta_at placed.left offsets writable)
    (load_at placed.left programAt) window
  rwa [size, flags] at built

section

variable {pda : FindProgramAddress} {user userSolAta userMemeAta memeMint solMint
  baseTokenProgram quoteTokenProgram pool : Pubkey} {poolMeta : Client.PumpSwapPoolMeta}
  {tail : List AccountMeta} {count : Nat}

/-- The program's buy instruction over the accounts of a buy. -/
theorem buildBuy_at
    (placed : Segment.At references base (Client.pumpswapBuyFixed pda user userSolAta
      userMemeAta memeMint solMint baseTokenProgram quoteTokenProgram pool poolMeta ++ tail))
    (covered : count ≤ tail.length) (amount minimum : UInt64) (trackVolume : Bool) :
    Cpi.PumpSwap.buildBuy (load owner references) base count amount minimum trackVolume none =
      .ok { programId := pumpSwapId
            accounts := Client.pumpswapBuyFixed pda user userSolAta userMemeAta memeMint
              solMint baseTokenProgram quoteTokenProgram pool poolMeta ++ tail.take count
            data := Cpi.PumpSwap.buyData amount minimum trackVolume } := by
  have program : (Client.pumpswapBuyFixed pda user userSolAta userMemeAta memeMint solMint
      baseTokenProgram quoteTokenProgram pool poolMeta)[pumpBuyProgram]? =
        some (.newReadonly pumpSwapId false) := rfl
  exact buildPumpSwap_at placed rfl rfl rfl program covered

/-- The program's sell instruction over the accounts of a sale. -/
theorem buildSell_at
    (placed : Segment.At references base (Client.pumpswapSellFixed pda user userSolAta
      userMemeAta memeMint solMint baseTokenProgram quoteTokenProgram pool poolMeta ++ tail))
    (covered : count ≤ tail.length) (amount minimum : UInt64) :
    Cpi.PumpSwap.buildSell (load owner references) base count amount minimum none =
      .ok { programId := pumpSwapId
            accounts := Client.pumpswapSellFixed pda user userSolAta userMemeAta memeMint
              solMint baseTokenProgram quoteTokenProgram pool poolMeta ++ tail.take count
            data := Cpi.PumpSwap.sellData amount minimum } := by
  have program : (Client.pumpswapSellFixed pda user userSolAta userMemeAta memeMint solMint
      baseTokenProgram quoteTokenProgram pool poolMeta)[pumpSellProgram]? =
        some (.newReadonly pumpSwapId false) := rfl
  exact buildPumpSwap_at placed rfl rfl rfl program covered

end

end

/-! ## Instruction data -/

/-- The layout that all three routes share: a discriminator, three words, four bytes. -/
def wire (disc : List UInt8) (amount profit minimum : UInt64) (tail : List UInt8) :
    List UInt8 :=
  disc ++ (bytes amount ++ (bytes profit ++ (bytes minimum ++ tail)))

section

variable {disc tail : List UInt8} {amount profit minimum : UInt64}

theorem wire_length (width : disc.length = 8) :
    (wire disc amount profit minimum tail).length = 32 + tail.length := by
  simp only [wire, List.length_append, length_bytes, width]
  omega

theorem wire_disc (width : disc.length = 8) :
    (wire disc amount profit minimum tail).take 8 = disc := by
  rw [wire, ← width, List.take_left]

theorem wire_amount (width : disc.length = 8) :
    readAt (wire disc amount profit minimum tail) 8 = amount :=
  readAt_field width

theorem wire_profit (width : disc.length = 8) :
    readAt (wire disc amount profit minimum tail) 16 = profit :=
  readAt_second (by omega)

theorem wire_minimum (width : disc.length = 8) :
    readAt (wire disc amount profit minimum tail) 24 = minimum := by
  rw [wire, ← List.append_assoc]
  exact readAt_second (by rw [List.length_append, length_bytes]; omega)

/-- The four bytes behind the words. -/
theorem wire_tail (width : disc.length = 8) (amount profit minimum : UInt64)
    (tail : List UInt8) (offset : Nat) :
    (wire disc amount profit minimum tail).getD (32 + offset) 0 = tail.getD offset 0 := by
  have front : wire disc amount profit minimum tail =
      (disc ++ bytes amount ++ bytes profit ++ bytes minimum) ++ tail := by
    simp [wire]
  have size : (disc ++ bytes amount ++ bytes profit ++ bytes minimum).length = 32 := by
    simp [width]
  rw [front, List.getD_append_right _ _ _ _ (by omega), size, Nat.add_sub_cancel_left]

end

/-- A flag byte reads back as the flag. -/
theorem flag_ne_zero (flag : Bool) : ((if flag then 1 else 0 : UInt8) != 0) = flag := by
  cases flag <;> rfl

/-- The generic instruction data decodes to what the client encoded. -/
theorem decode_genericIxData (args : Client.GenericArgs) (buyRemaining sellRemaining : UInt8) :
    Orchestrate.RouteData.decode (Client.genericIxData args buyRemaining sellRemaining) =
      { amountIn := args.investmentLamports
        minProfit := args.minProfitLamports
        minIntermediate := args.minMemeOut
        trackVolume := false
        buyIsSol := args.buySolIsX
        buyRemaining := buyRemaining.toNat
        sellRemaining := sellRemaining.toNat } := by
  have width : Client.routeDisc.length = 8 := rfl
  have tail := wire_tail width args.investmentLamports args.minProfitLamports
    args.minMemeOut [0, if args.buySolIsX then 1 else 0, buyRemaining, sellRemaining]
  rw [Orchestrate.RouteData.mk.injEq]
  refine ⟨wire_amount width, wire_profit width, wire_minimum width, ?_, ?_, ?_, ?_⟩
  · exact congrArg (· != 0) (tail 0)
  · exact (congrArg (· != 0) (tail 1)).trans (flag_ne_zero args.buySolIsX)
  · exact congrArg UInt8.toNat (tail 2)
  · exact congrArg UInt8.toNat (tail 3)

/-- The legacy instruction data decodes to what the client encoded. -/
theorem decode_buildIxData {disc : List UInt8} (width : disc.length = 8)
    (amountIn minProfit minMemeOut : UInt64) (trackVolume dlmmSolIsX : Bool)
    (pumpRemainingCount dlmmBinArrayCount : UInt8) :
    LegacyData.decode (Client.buildIxData disc amountIn minProfit minMemeOut trackVolume
        dlmmSolIsX pumpRemainingCount dlmmBinArrayCount) =
      { amountIn
        minProfitLamports := minProfit
        minIntermediateMeme := minMemeOut
        trackVolume
        dlmmSolIsX
        pumpRemainingCount := pumpRemainingCount.toNat
        dlmmBinArrayCount := dlmmBinArrayCount.toNat } := by
  have tail := wire_tail width amountIn minProfit minMemeOut
    [if trackVolume then 1 else 0, if dlmmSolIsX then 1 else 0, pumpRemainingCount,
      dlmmBinArrayCount]
  rw [LegacyData.mk.injEq]
  refine ⟨wire_amount width, wire_profit width, wire_minimum width, ?_, ?_, ?_, ?_⟩
  · exact (congrArg (· != 0) (tail 0)).trans (flag_ne_zero trackVolume)
  · exact (congrArg (· != 0) (tail 1)).trans (flag_ne_zero dlmmSolIsX)
  · exact congrArg UInt8.toNat (tail 2)
  · exact congrArg UInt8.toNat (tail 3)

/-! ## Sample data

Pools that the concrete instructions of this part are built for. -/

def samplePool : Pubkey := .ofNat 40
def sampleWhirlpool : Pubkey := .ofNat 41
def sampleCreator : Pubkey := .ofNat 42
def sampleCpmmPool : Pubkey := .ofNat 50
def sampleMemeMint : Pubkey := .ofLiteral "4fYNw3dojWmQ4dXtSGE9epjRGy9pFSx62YypT7avPYvA"

/-- The wrapped SOL account of a wallet, as seeds. -/
def solAtaSeeds (wallet : Pubkey) : List (List UInt8) × Pubkey :=
  ([wallet.bytes, tokenId.bytes, nativeSolMint.bytes], ataId)

/-- The derived addresses that the sample pools need. -/
def samplePdaTable : List ((List (List UInt8) × Pubkey) × Pubkey) :=
  let creatorVault : Pubkey := .ofLiteral "FnquS16ZfkXnxk8NaAahvWXa3ihstvx1djL1GZvKJYkz"
  let userVolume : Pubkey := .ofLiteral "HSmEyNwESXHFWrMLNDzg8uLw6JJJhN228M1F3g4rfcHK"
  [(solAtaSeeds (Client.pickPumpswapProtocolFeeRecipient false),
      .ofLiteral "94qWNrtmfn42h3ZjUZwWvK1MEo9uVmmrBPd2hpNjYDjb"),
   (([ascii "creator_vault", sampleCreator.bytes], pumpSwapId), creatorVault),
   (solAtaSeeds creatorVault, .ofLiteral "Dq5Eoz6p1oz1cTnkme7aU1QcAw8yXpScDrZAEwyPe7R5"),
   (([ascii "user_volume_accumulator", sampleUser.bytes], pumpSwapId), userVolume),
   (solAtaSeeds userVolume, .ofLiteral "6GGHi9GS1xfcy34ya1tfByaUk7BTX7Ebfp2qv47oZLZ6"),
   (([ascii "pool-v2", sampleMemeMint.bytes], pumpSwapId),
      .ofLiteral "FfocZZ67bG5UNh7cxZnLKxBi7UfaHSb1Ps22K5ojM34"),
   (solAtaSeeds (.ofLiteral Client.pumpswapBuybackFeeRecipient),
      .ofLiteral "HjQjngTDqoHE6aaGhUqfz9aQ7WZcBRjy5xB8PScLSr8i"),
   (([cpmmAuthSeed, sampleCpmmPool.bytes], cpmmId),
      .ofLiteral "DVMSMhHvr28Eo5C8pZqE6i4HKmRizNPeCPXSZ6HgKhw3"),
   (([ascii "pool_vault", sampleCpmmPool.bytes, sampleMemeMint.bytes], cpmmId),
      .ofLiteral "Bkm7KuRvbzanC2n9Dt6JGRFiiAGmiaXkwQVW44eQ6sy4"),
   (([ascii "pool_vault", sampleCpmmPool.bytes, nativeSolMint.bytes], cpmmId),
      .ofLiteral "2fqoWvHoZi3WCmHkTEABNGMmoPkd32bUPpaC8h4vqeu3"),
   (([ascii "oracle", sampleWhirlpool.bytes], whirlpoolId),
      .ofLiteral "3qK1NFSn694iX3NowFZFhuArqYpxV8VFpd9gsHym8HPE")]

/-- The deployed derivation, as far as the sample instructions need it. -/
def sampleDerivation : Client.Derivation where
  find seeds program :=
    ((samplePdaTable.find? fun entry => entry.1 = (seeds, program)).map Prod.snd).getD
      (samplePda seeds program)
  globalConfig := by decide +kernel
  eventAuthority := by decide +kernel

/-- A pool with a creator whose coin pays cashback. -/
def samplePoolMeta : Client.PumpSwapPoolMeta where
  coinCreator := sampleCreator
  isMayhemMode := false
  isCashbackCoin := true
  poolBaseTokenAccount := .ofNat 43
  poolQuoteTokenAccount := .ofNat 44

/-- A cached DLMM pool of SOL and the intermediate token, with two bin arrays. -/
def sampleReserves : Client.DlmmPoolReserves where
  lbPair := "5rCf1DM8LjKTw4YqhnoLcngyZYeNnQqztScTogYHAS6"
  tokenXMint := Client.nativeSolMint
  tokenYMint := "4fYNw3dojWmQ4dXtSGE9epjRGy9pFSx62YypT7avPYvA"
  reserveXAddress := "7VtfL8fvgNfhz17qKRMjzQEXgbdpnHHHQRh54R9jP2RJ"
  reserveYAddress := "7hTckgnGnLQR6sdH7YkqFTAA7VwTfYFaZ6EhEsU3saCX"
  binArrayAddresses :=
    ["9rPYyANsfQZw3DnDmKE3YCQF5E8oD89UXoHn9JFEhJUz",
      "AVmoTthdrX6tKt4nDjco2D775W2YK3sDhxPcMmzUAmTY"]
  binArrayBitmapExtension := none

end AtomicArbitrage.Agreement
