import AtomicArbitrage.Agreement.Layout
import AtomicArbitrage.Bot.Message
import AtomicArbitrage.Client.DirectSwaps

/-!
# The zero slippage diagnostic

A transaction that failed is simulated again without slippage limits.  The diagnostic
overwrites eight bytes of every swap instruction: from offset 16 on for an exchange, and
the last eight for the router program.  The data of a route does not end with its minimum,
but with four bytes of flags and counts behind it.
-/

namespace AtomicArbitrage.Agreement

open Outcome Word64 Program
open AtomicArbitrage.Client (SwapFields GenericArgs ClientResult)

/-! ## The diagnostic -/

/-- `zero_min_out_direct`; nothing where the data is too short. -/
def zeroMinOutDirect (data : List UInt8) : Option (List UInt8) :=
  if data.length ≥ 24 then some (data.take 16 ++ (List.replicate 8 0 ++ data.drop 24))
  else none

/-- `zero_min_out_onchain`. -/
def zeroMinOutOnchain (data : List UInt8) : Option (List UInt8) :=
  if data.length ≥ 8 then
    let n := data.length
    some (data.take (n - 8) ++ List.replicate 8 0)
  else none

/-- The overwriting by program. -/
def zeroMinOut (onchainArbId pid : Pubkey) (data : List UInt8) : Option (List UInt8) :=
  if pid = onchainArbId then zeroMinOutOnchain data
  else if pid = .ofLiteral Client.dlmmProgram ∨ pid = .ofLiteral Client.pumpfunAmmProgram ∨
      pid = .ofLiteral Client.pumpfunBondingCurveProgram then
    zeroMinOutDirect data
  else none

/-- One turn of the loop: the instruction, and whether it was modified.  An index of a
program that is out of bounds is a panic. -/
def zeroInstruction (onchainArbId : Pubkey) (accountKeys : List Pubkey)
    (ix : Bot.CompiledInstruction) : ClientResult (Bot.CompiledInstruction × Bool) := do
  let pid ← orFail accountKeys[ix.programIdIndex.toNat]? .panic
  match zeroMinOut onchainArbId pid ix.data with
  | some data => pure ({ ix with data }, true)
  | none => pure (ix, false)

/-- `diagnostic_zero_slippage_sim`, up to the message that it simulates. -/
def diagnosticMessage (onchainArbId : Pubkey) (message : Bot.Message) :
    ClientResult Bot.Message := do
  let zeroed ← message.instructions.mapM (zeroInstruction onchainArbId message.accountKeys)
  let modified := zeroed.countP Prod.snd
  if modified = 0 then
    .error (.bail "diagnostic: no swap ix found in TX (no known program matched)")
  else pure { message with instructions := zeroed.map Prod.fst }

/-- What the diagnostic makes of an instruction. -/
def ZeroedTo (onchainArbId : Pubkey) (accountKeys : List Pubkey)
    (before after : Bot.CompiledInstruction) : Prop :=
  ∃ pid, accountKeys[before.programIdIndex.toNat]? = some pid ∧
    after = { before with data := (zeroMinOut onchainArbId pid before.data).getD before.data }

theorem zeroedTo_of_zeroInstruction {onchainArbId : Pubkey} {accountKeys : List Pubkey}
    {before : Bot.CompiledInstruction} {after : Bot.CompiledInstruction × Bool}
    (turned : zeroInstruction onchainArbId accountKeys before = .ok after) :
    ZeroedTo onchainArbId accountKeys before after.1 := by
  rcases bind_eq_ok.mp turned with ⟨pid, found, modified⟩
  refine ⟨pid, orFail_eq_ok.mp found, ?_⟩
  cases zeroed : zeroMinOut onchainArbId pid before.data with
  | none =>
      rw [zeroed] at modified
      cases modified
      rfl
  | some data =>
      rw [zeroed] at modified
      cases modified
      rfl

/-- Nothing of a message changes but the data of its swap instructions. -/
theorem diagnosticMessage_frame {onchainArbId : Pubkey} {message simulated : Bot.Message}
    (diagnosed : diagnosticMessage onchainArbId message = .ok simulated) :
    simulated = { message with instructions := simulated.instructions } ∧
      List.Forall₂ (ZeroedTo onchainArbId message.accountKeys) message.instructions
        simulated.instructions := by
  rcases bind_eq_ok.mp diagnosed with ⟨zeroed, turns, built⟩
  simp only at built
  split at built
  · cases built
  · cases built
    refine ⟨rfl, ?_⟩
    rw [List.forall₂_map_right_iff]
    exact (mapM_eq_ok.mp turns).imp fun _ _ turned => zeroedTo_of_zeroInstruction turned

/-! ## The encoders -/

/-- A discriminator of eight bytes. -/
abbrev Discriminator := { disc : List UInt8 // disc.length = 8 }

/-- What the swap instructions of the bot are encoded from. -/
inductive SwapData where
  /-- `build_ix_data`. -/
  | legacyRoute (disc : Discriminator) (amountIn minProfit minMemeOut : UInt64)
      (trackVolume dlmmSolIsX : Bool) (pumpRemainingCount dlmmBinArrayCount : UInt8)
  /-- `build_generic_route`. -/
  | genericRoute (args : GenericArgs) (buyRemaining sellRemaining : UInt8)
  /-- `build_pumpswap_buy_ix`. -/
  | pumpswapBuy (spendableQuoteIn minBaseAmountOut : UInt64) (trackVolume : Bool)
  /-- `build_pumpswap_sell_ix`. -/
  | pumpswapSell (baseAmountIn minQuoteAmountOut : UInt64)
  /-- `build_dlmm_swap2_ix`. -/
  | dlmmSwap2 (amountIn minAmountOut : UInt64)
  /-- `build_pumpfun_buy_ix`. -/
  | pumpfunBuy (amountLamports minAmountOut : UInt64)
  /-- `build_pumpfun_sell_ix`. -/
  | pumpfunSell (amountTokens minSolOut : UInt64)

namespace SwapData

/-- The instruction data. -/
def data : SwapData → List UInt8
  | legacyRoute disc amountIn minProfit minMemeOut trackVolume dlmmSolIsX pumpRemainingCount
      dlmmBinArrayCount =>
      Client.buildIxData disc.1 amountIn minProfit minMemeOut trackVolume dlmmSolIsX
        pumpRemainingCount dlmmBinArrayCount
  | genericRoute args buyRemaining sellRemaining =>
      Client.genericIxData args buyRemaining sellRemaining
  | pumpswapBuy spendableQuoteIn minBaseAmountOut trackVolume =>
      SwapFields.encode ⟨Client.pumpswapBuyDiscriminator, spendableQuoteIn, minBaseAmountOut,
        [if trackVolume then 1 else 0]⟩
  | pumpswapSell baseAmountIn minQuoteAmountOut =>
      SwapFields.encode ⟨Client.pumpswapSellDiscriminator, baseAmountIn, minQuoteAmountOut, []⟩
  | dlmmSwap2 amountIn minAmountOut =>
      SwapFields.encode ⟨Client.dlmmSwap2Discriminator, amountIn, minAmountOut, encode 4 0⟩
  | pumpfunBuy amountLamports minAmountOut =>
      SwapFields.encode ⟨Client.pumpfunBuyDiscriminator, amountLamports, minAmountOut, []⟩
  | pumpfunSell amountTokens minSolOut =>
      SwapFields.encode ⟨Client.pumpfunSellDiscriminator, amountTokens, minSolOut, []⟩

/-- The data after the diagnostic: the routes go to the router program. -/
def zeroed (swap : SwapData) : Option (List UInt8) :=
  match swap with
  | legacyRoute .. => zeroMinOutOnchain swap.data
  | genericRoute .. => zeroMinOutOnchain swap.data
  | _ => zeroMinOutDirect swap.data

/-- In the data after the diagnostic the minimum is zero, and all else is as it was. -/
def SlippageOnly (swap : SwapData) (after : List UInt8) : Prop :=
  match swap with
  | legacyRoute .. =>
      after.take 8 = swap.data.take 8 ∧
        LegacyData.decode after =
          { LegacyData.decode swap.data with minIntermediateMeme := 0 }
  | genericRoute .. =>
      after.take 8 = swap.data.take 8 ∧
        Orchestrate.RouteData.decode after =
          { Orchestrate.RouteData.decode swap.data with minIntermediate := 0 }
  | _ => SwapFields.decode after = { SwapFields.decode swap.data with minAmountOut := 0 }

/-- The diagnostic overwrites the minimum of a swap and nothing else. -/
def ZeroesSlippage (swap : SwapData) : Prop :=
  ∃ after, swap.zeroed = some after ∧ swap.SlippageOnly after

/-- The swap goes to an exchange, or it is a route whose last eight bytes are zero but for
the upper half of its minimum. -/
def Zeroable : SwapData → Prop
  | legacyRoute _ _ _ minMemeOut trackVolume dlmmSolIsX pumpRemainingCount dlmmBinArrayCount =>
      minMemeOut.toNat % 2 ^ 32 = 0 ∧ trackVolume = false ∧ dlmmSolIsX = false ∧
        pumpRemainingCount = 0 ∧ dlmmBinArrayCount = 0
  | genericRoute args buyRemaining sellRemaining =>
      args.minMemeOut.toNat % 2 ^ 32 = 0 ∧ args.buySolIsX = false ∧ buyRemaining = 0 ∧
        sellRemaining = 0
  | _ => True

end SwapData

/-! ## Direct swaps -/

theorem zeroMinOutDirect_encode {fields : SwapFields}
    (width : fields.discriminator.length = 8) :
    zeroMinOutDirect fields.encode =
      some (SwapFields.encode { fields with minAmountOut := 0 }) := by
  have long : fields.encode.length ≥ 24 := by
    rw [SwapFields.length_encode width]
    exact Nat.le_add_right _ _
  rcases SwapFields.take_drop_encode width with ⟨front, back⟩
  have zeros : bytes 0 = List.replicate 8 0 := encode_zero 8
  rw [zeroMinOutDirect, if_pos long, front, back, SwapFields.encode, zeros, List.append_assoc]

/-- The eight bytes from offset 16 on are the minimum of a direct swap. -/
theorem slippageOnly_direct {fields : SwapFields}
    (width : fields.discriminator.length = 8) :
    ∃ after, zeroMinOutDirect fields.encode = some after ∧
      SwapFields.decode after = { SwapFields.decode fields.encode with minAmountOut := 0 } := by
  refine ⟨_, zeroMinOutDirect_encode width, ?_⟩
  rw [SwapFields.decode_encode width]
  exact SwapFields.decode_encode width

/-! ## Routes -/

/-- The lower half of a word. -/
def lowHalf (word : UInt64) : UInt64 := UInt64.ofNat (word.toNat % 2 ^ 32)

theorem lowHalf_eq_zero_iff {word : UInt64} : lowHalf word = 0 ↔ word.toNat % 2 ^ 32 = 0 := by
  have small : word.toNat % 2 ^ 32 < 2 ^ 64 :=
    (Nat.mod_lt _ (by decide)).trans (by decide)
  rw [← UInt64.toNat_inj, lowHalf, UInt64.toNat_ofNat_of_lt' small]
  rfl

theorem bytes_lowHalf (word : UInt64) :
    bytes (lowHalf word) = (bytes word).take 4 ++ List.replicate 4 0 := by
  have small : word.toNat % 256 ^ 4 < 2 ^ 64 := (Nat.mod_lt _ (by decide)).trans (by decide)
  have low : (lowHalf word).toNat = word.toNat % 256 ^ 4 := UInt64.toNat_ofNat_of_lt' small
  have above : word.toNat % 256 ^ 4 / 256 ^ 4 = 0 :=
    Nat.div_eq_of_lt (Nat.mod_lt _ (by decide))
  have front : (bytes word).take 4 = encode 4 word.toNat := by
    rw [bytes, encode_add 4 4, List.take_left' (Word64.length_encode 4 word.toNat)]
  rw [front, bytes, low, encode_add 4 4, encode_mod, above, encode_zero]

/-- The last eight bytes of a route are the upper half of its minimum and the four bytes
behind it. -/
theorem zeroMinOutOnchain_wire {disc tail : List UInt8} (width : disc.length = 8)
    (four : tail.length = 4) (amount profit minimum : UInt64) :
    zeroMinOutOnchain (wire disc amount profit minimum tail) =
      some (wire disc amount profit (lowHalf minimum) [0, 0, 0, 0]) := by
  have length : (wire disc amount profit minimum tail).length = 36 := by
    rw [wire_length width, four]
  have front : (disc ++ bytes amount ++ bytes profit).length = 24 := by
    simp only [List.length_append, length_bytes, width]
  have taken : (wire disc amount profit minimum tail).take 28 =
      disc ++ bytes amount ++ bytes profit ++ (bytes minimum).take 4 := by
    have split : wire disc amount profit minimum tail =
        disc ++ bytes amount ++ bytes profit ++ (bytes minimum ++ tail) := by
      simp only [wire, List.append_assoc]
    rw [split, List.take_append, List.take_of_length_le (by rw [front]; decide), front,
      List.take_append_of_le_length (by rw [length_bytes]; decide)]
  have kept : wire disc amount profit (lowHalf minimum) [0, 0, 0, 0] =
      disc ++ bytes amount ++ bytes profit ++ (bytes minimum).take 4 ++ List.replicate 8 0 := by
    simp only [wire, bytes_lowHalf, List.append_assoc]
    rfl
  rw [zeroMinOutOnchain, length, if_pos (by decide), kept, ← taken]

theorem zeroed_legacyRoute (disc : Discriminator) (amountIn minProfit minMemeOut : UInt64)
    (trackVolume dlmmSolIsX : Bool) (pumpRemainingCount dlmmBinArrayCount : UInt8) :
    zeroMinOutOnchain (Client.buildIxData disc.1 amountIn minProfit minMemeOut trackVolume
        dlmmSolIsX pumpRemainingCount dlmmBinArrayCount) =
      some (Client.buildIxData disc.1 amountIn minProfit (lowHalf minMemeOut) false false 0 0) :=
  zeroMinOutOnchain_wire disc.2 rfl amountIn minProfit minMemeOut

theorem zeroed_genericRoute (args : GenericArgs) (buyRemaining sellRemaining : UInt8) :
    zeroMinOutOnchain (Client.genericIxData args buyRemaining sellRemaining) =
      some (Client.genericIxData
        { args with minMemeOut := lowHalf args.minMemeOut, buySolIsX := false } 0 0) := by
  have width : Client.routeDisc.length = 8 := rfl
  exact zeroMinOutOnchain_wire width rfl args.investmentLamports args.minProfitLamports
    args.minMemeOut

/-- A count byte is zero where the count is. -/
theorem zero_eq_toNat_iff {count : UInt8} : (0 : UInt8).toNat = count.toNat ↔ count = 0 := by
  rw [UInt8.toNat_inj]
  exact eq_comm

namespace SwapData

theorem zeroesSlippage_legacyRoute (disc : Discriminator)
    (amountIn minProfit minMemeOut : UInt64) (trackVolume dlmmSolIsX : Bool)
    (pumpRemainingCount dlmmBinArrayCount : UInt8) :
    (legacyRoute disc amountIn minProfit minMemeOut trackVolume dlmmSolIsX pumpRemainingCount
        dlmmBinArrayCount).ZeroesSlippage ↔
      (legacyRoute disc amountIn minProfit minMemeOut trackVolume dlmmSolIsX pumpRemainingCount
        dlmmBinArrayCount).Zeroable := by
  have discriminator (minimum : UInt64) (volume solIsX : Bool) (pump bins : UInt8) :
      (Client.buildIxData disc.1 amountIn minProfit minimum volume solIsX pump bins).take 8 =
        disc.1 := by
    rw [Client.buildIxData, List.take_left' disc.2]
  simp only [ZeroesSlippage, zeroed, SlippageOnly, Zeroable, data, zeroed_legacyRoute,
    Option.some.injEq, exists_eq_left', discriminator, true_and, decode_buildIxData disc.2,
    LegacyData.mk.injEq, lowHalf_eq_zero_iff, zero_eq_toNat_iff]
  simp only [eq_comm (a := false)]

theorem zeroesSlippage_genericRoute (args : GenericArgs) (buyRemaining sellRemaining : UInt8) :
    (genericRoute args buyRemaining sellRemaining).ZeroesSlippage ↔
      (genericRoute args buyRemaining sellRemaining).Zeroable := by
  have discriminator (args : GenericArgs) (buy sell : UInt8) :
      (Client.genericIxData args buy sell).take 8 = Client.routeDisc := by
    exact List.take_left' rfl
  simp only [ZeroesSlippage, zeroed, SlippageOnly, Zeroable, data, zeroed_genericRoute,
    Option.some.injEq, exists_eq_left', discriminator, true_and, decode_genericIxData,
    Orchestrate.RouteData.mk.injEq, lowHalf_eq_zero_iff, zero_eq_toNat_iff]
  simp only [eq_comm (a := false)]

/-- The diagnostic overwrites the minimum and nothing else in every direct swap, and in a
route exactly where its flags and counts and the lower half of its minimum are zero. -/
theorem zeroesSlippage_iff (swap : SwapData) : swap.ZeroesSlippage ↔ swap.Zeroable := by
  cases swap with
  | legacyRoute disc amountIn minProfit minMemeOut trackVolume dlmmSolIsX pumpRemainingCount
      dlmmBinArrayCount =>
      exact zeroesSlippage_legacyRoute disc amountIn minProfit minMemeOut trackVolume dlmmSolIsX
        pumpRemainingCount dlmmBinArrayCount
  | genericRoute args buyRemaining sellRemaining =>
      exact zeroesSlippage_genericRoute args buyRemaining sellRemaining
  | _ => exact iff_of_true (slippageOnly_direct rfl) trivial

/-- A purchase for a minimum of 5000000000 tokens keeps a minimum and loses its flag and its
counts. -/
theorem not_zeroesSlippage_sample : ¬∀ swap : SwapData, swap.ZeroesSlippage := by
  intro all
  have zeroable := (zeroesSlippage_legacyRoute ⟨Client.routePumpToDlmmDisc, rfl⟩ 1000000000 1
    5000000000 false true 3 2).mp (all _)
  exact absurd zeroable.2.2.1 (by decide)

/-! ## The branch that is taken -/

/-- The program that an instruction goes to. -/
def programId (onchainArbId : Pubkey) : SwapData → Pubkey
  | legacyRoute .. => onchainArbId
  | genericRoute .. => onchainArbId
  | pumpswapBuy .. => .ofLiteral Client.pumpfunAmmProgram
  | pumpswapSell .. => .ofLiteral Client.pumpfunAmmProgram
  | dlmmSwap2 .. => .ofLiteral Client.dlmmProgram
  | pumpfunBuy .. => .ofLiteral Client.pumpfunBondingCurveProgram
  | pumpfunSell .. => .ofLiteral Client.pumpfunBondingCurveProgram

/-- A router program that is not an exchange gets its own branch. -/
theorem zeroMinOut_eq_zeroed {onchainArbId : Pubkey} (swap : SwapData)
    (own : ∀ program ∈ [Client.dlmmProgram, Client.pumpfunAmmProgram,
      Client.pumpfunBondingCurveProgram], Pubkey.ofLiteral program ≠ onchainArbId) :
    zeroMinOut onchainArbId (swap.programId onchainArbId) swap.data = swap.zeroed := by
  simp only [List.forall_mem_cons] at own
  rcases own with ⟨dlmm, amm, curve, _⟩
  cases swap with
  | legacyRoute => exact if_pos rfl
  | genericRoute => exact if_pos rfl
  | dlmmSwap2 => exact (if_neg dlmm).trans (if_pos (.inl rfl))
  | pumpswapBuy => exact (if_neg amm).trans (if_pos (.inr (.inl rfl)))
  | pumpswapSell => exact (if_neg amm).trans (if_pos (.inr (.inl rfl)))
  | pumpfunBuy => exact (if_neg curve).trans (if_pos (.inr (.inr rfl)))
  | pumpfunSell => exact (if_neg curve).trans (if_pos (.inr (.inr rfl)))

end SwapData

end AtomicArbitrage.Agreement
