import AtomicArbitrage.Bot.ProfitEstimate
import AtomicArbitrage.Library.Checked
import AtomicArbitrage.Library.ConstantProduct

/-!
# Swap estimates over reserves

The bot prices a swap with a constant product in four places.  The estimates and the
builders add the fee of a PumpSwap pool to the denominator, the builders take that of a CPMM
pool off the amount in millionths, and the scanner takes every fee off in basis points.
-/

namespace AtomicArbitrage.Bot

open ConstantProduct

/-! ## Estimates and builders -/

/-- An amount less a fee that is added to the denominator. -/
def additive (amountIn feeBps : ℕ) : ℕ := amountIn * 10000 / (10000 + feeBps)

/-- `SWAP_FEE_DENOM`. -/
def swapFeeDenom : ℕ := 1000000

/-- An amount less a fee in millionths. -/
def subtractive (amountIn feeRate : ℕ) : ℕ :=
  amountIn * (swapFeeDenom - feeRate) / swapFeeDenom

/-- What `estimate_swap_output` casts to the word that it returns.  The denominator of the fee
wraps, and the division by nothing panics.  The product of the fee and ten thousand is exact
here, and floating in the code. -/
def estimateSwapOutput128 (inputVaultRaw outputVaultRaw amountIn : UInt64) (fee : ℚ) :
    Option ℕ := do
  let ri := inputVaultRaw.toNat
  let ro := outputVaultRaw.toNat
  let a := amountIn.toNat
  let feeBps := asU128 (fee * 10000)
  let aAfterFee ← Checked.div (a * 10000) ((10000 + feeBps) % 2 ^ 128)
  let denom := ri + aAfterFee
  if denom = 0 then
    return 0
  let out := ro * aAfterFee % 2 ^ 128 / denom
  return out

/-- `estimate_swap_output`. -/
def estimateSwapOutput (inputVaultRaw outputVaultRaw amountIn : UInt64) (fee : ℚ) :
    Option UInt64 :=
  (estimateSwapOutput128 inputVaultRaw outputVaultRaw amountIn fee).map UInt64.ofNat

/-- What `checked_estimate_swap_output` casts to the word that it returns. -/
def checkedEstimateSwapOutput128 (inputVaultRaw outputVaultRaw amountIn : UInt64)
    (feeBps : UInt32) : Option ℕ := do
  let ri := inputVaultRaw.toNat
  let ro := outputVaultRaw.toNat
  let a := amountIn.toNat
  if a = 0 then
    return 0
  let denom ← Checked.word 128 (10000 + feeBps.toNat)
  let num ← Checked.word 128 (a * 10000)
  let effective ← Checked.div num denom
  if effective = 0 then
    none
  let numerator ← Checked.word 128 (ro * effective)
  let denominator ← Checked.word 128 (ri + effective)
  if denominator = 0 then
    none
  let out ← Checked.div numerator denominator
  if out = 0 then
    none
  return out

/-- `checked_estimate_swap_output`. -/
def checkedEstimateSwapOutput (inputVaultRaw outputVaultRaw amountIn : UInt64)
    (feeBps : UInt32) : Option UInt64 :=
  (checkedEstimateSwapOutput128 inputVaultRaw outputVaultRaw amountIn feeBps).map UInt64.ofNat

/-- `checked_pumpswap_buy_output`. -/
def checkedPumpswapBuyOutput (quoteAmountIn quoteReserves baseReserves : UInt64)
    (feeBps : UInt32) : Option UInt64 :=
  checkedEstimateSwapOutput quoteReserves baseReserves quoteAmountIn feeBps

/-- `checked_pumpswap_sell_output`. -/
def checkedPumpswapSellOutput (baseAmountIn baseReserves quoteReserves : UInt64)
    (feeBps : UInt32) : Option UInt64 :=
  checkedEstimateSwapOutput baseReserves quoteReserves baseAmountIn feeBps

/-- What `checked_cp_swap_output` casts to the word that it returns. -/
def checkedCpSwapOutput128 (reserveIn reserveOut amountIn feeRate : UInt64) : Option ℕ := do
  if amountIn = 0 ∨ reserveOut = 0 then
    return 0
  let ri := reserveIn.toNat
  let ro := reserveOut.toNat
  let a := amountIn.toNat
  let rate := feeRate.toNat
  let product ← Checked.sub swapFeeDenom rate
  let numerator ← Checked.word 128 (a * product)
  let amountAfter ← Checked.div numerator swapFeeDenom
  if amountAfter = 0 then
    none
  let num ← Checked.word 128 (ro * amountAfter)
  let den ← Checked.word 128 (ri + amountAfter)
  if den = 0 then
    none
  let out ← Checked.div num den
  if out = 0 then
    none
  return out

/-- `checked_cp_swap_output`. -/
def checkedCpSwapOutput (reserveIn reserveOut amountIn feeRate : UInt64) : Option UInt64 :=
  (checkedCpSwapOutput128 reserveIn reserveOut amountIn feeRate).map UInt64.ofNat

/-! ## What they compute -/

theorem additive_le (amountIn feeBps : ℕ) : additive amountIn feeBps ≤ amountIn := by
  apply Nat.div_le_of_le_mul
  rw [Nat.mul_comm]
  exact Nat.mul_le_mul_right amountIn (Nat.le_add_right 10000 feeBps)

theorem additive_eq_zero_iff {amountIn feeBps : ℕ} :
    additive amountIn feeBps = 0 ↔ amountIn * 10000 < 10000 + feeBps :=
  Nat.div_eq_zero_iff_lt (Nat.add_pos_left (by norm_num) feeBps)

theorem subtractive_le (amountIn feeRate : ℕ) : subtractive amountIn feeRate ≤ amountIn := by
  apply Nat.div_le_of_le_mul
  rw [Nat.mul_comm]
  exact Nat.mul_le_mul_right amountIn (Nat.sub_le swapFeeDenom feeRate)

theorem subtractive_eq_zero_iff {amountIn feeRate : ℕ} :
    subtractive amountIn feeRate = 0 ↔ amountIn * (swapFeeDenom - feeRate) < swapFeeDenom :=
  Nat.div_eq_zero_iff_lt (by decide)

/-- The last steps of the checked estimates: with an effective amount that is a word no
operation leaves the width, and the constant product remains. -/
theorem checked_output {ri ro : UInt64} {effective : ℕ} (small : effective < 2 ^ 64) :
    (do
      if effective = 0 then
        none
      let numerator ← Checked.word 128 (ro.toNat * effective)
      let denominator ← Checked.word 128 (ri.toNat + effective)
      if denominator = 0 then
        none
      let out ← Checked.div numerator denominator
      if out = 0 then
        none
      return out : Option ℕ) = positive (output ri.toNat ro.toNat effective) := by
  by_cases zero : effective = 0
  · rw [zero, output_nothing]
    rfl
  have product : ro.toNat * effective < 2 ^ 128 := Checked.mul_lt ro.toNat_lt small
  have sum : ri.toNat + effective < 2 ^ 128 := by
    have reserve := ri.toNat_lt
    omega
  have denominator : ri.toNat + effective ≠ 0 := by omega
  simp only [zero, if_false, Checked.word_of_lt product, Checked.word_of_lt sum, denominator,
    Checked.div_of_ne_zero denominator, Option.bind_eq_bind, Option.bind_some, Option.pure_def]
  rfl

section

variable {ri ro a : UInt64}

theorem checkedEstimateSwapOutput128_eq (feeBps : UInt32) (paid : a ≠ 0) :
    checkedEstimateSwapOutput128 ri ro a feeBps =
      positive (output ri.toNat ro.toNat (additive a.toNat feeBps.toNat)) := by
  have amount : a.toNat < 2 ^ 64 := a.toNat_lt
  have fee : feeBps.toNat < 2 ^ 32 := feeBps.toNat_lt
  have nonzero : a.toNat ≠ 0 := fun zero => paid (UInt64.toNat_inj.mp zero)
  have denom : 10000 + feeBps.toNat < 2 ^ 128 := by omega
  have num : a.toNat * 10000 < 2 ^ 128 := by omega
  have effective : additive a.toNat feeBps.toNat < 2 ^ 64 :=
    (additive_le _ _).trans_lt amount
  rw [← checked_output effective]
  simp only [checkedEstimateSwapOutput128, nonzero, if_false, Checked.word_of_lt denom,
    Checked.word_of_lt num, Checked.div_of_ne_zero (show 10000 + feeBps.toNat ≠ 0 by omega),
    Option.bind_eq_bind, Option.bind_some, additive]

theorem checkedCpSwapOutput128_eq {feeRate : UInt64} (paid : a ≠ 0) (stocked : ro ≠ 0)
    (accepted : feeRate.toNat ≤ swapFeeDenom) :
    checkedCpSwapOutput128 ri ro a feeRate =
      positive (output ri.toNat ro.toNat (subtractive a.toNat feeRate.toNat)) := by
  have amount : a.toNat < 2 ^ 64 := a.toNat_lt
  have factor : swapFeeDenom - feeRate.toNat < 2 ^ 64 := by
    rw [swapFeeDenom]
    omega
  have effective : subtractive a.toNat feeRate.toNat < 2 ^ 64 :=
    (subtractive_le _ _).trans_lt amount
  rw [← checked_output effective]
  simp only [checkedCpSwapOutput128, paid, stocked, or_self, if_false,
    Checked.sub_of_le accepted, Checked.word_of_lt (Checked.mul_lt amount factor),
    Checked.div_of_ne_zero (show swapFeeDenom ≠ 0 by decide), Option.bind_eq_bind,
    Option.bind_some, subtractive]

/-- A fee of more than the whole amount is refused. -/
theorem checkedCpSwapOutput128_refused {feeRate : UInt64} (paid : a ≠ 0) (stocked : ro ≠ 0)
    (refused : swapFeeDenom < feeRate.toNat) : checkedCpSwapOutput128 ri ro a feeRate = none := by
  simp only [checkedCpSwapOutput128, paid, stocked, or_self, if_false,
    Checked.sub_of_lt refused]
  rfl

theorem checkedCpSwapOutput128_nothing {feeRate : UInt64} (nothing : a = 0 ∨ ro = 0) :
    checkedCpSwapOutput128 ri ro a feeRate = some 0 := by
  simp only [checkedCpSwapOutput128, nothing, if_true]
  rfl

/-- A fee of a whole number of basis points is read as this number. -/
theorem asU128_bps {feeBps : ℕ} (small : feeBps < 2 ^ 128) :
    asU128 ((feeBps : ℚ) / 10000 * 10000) = feeBps := by
  rw [div_mul_cancel₀ _ (by norm_num)]
  exact Saturating.cast_natCast small

theorem estimateSwapOutput128_eq {feeBps : ℕ} (small : 10000 + feeBps < 2 ^ 128) :
    estimateSwapOutput128 ri ro a (feeBps / 10000) =
      some (output ri.toNat ro.toNat (additive a.toNat feeBps)) := by
  have effective : additive a.toNat feeBps < 2 ^ 64 := (additive_le _ _).trans_lt a.toNat_lt
  have product : ro.toNat * additive a.toNat feeBps < 2 ^ 128 :=
    Checked.mul_lt ro.toNat_lt effective
  have bps : asU128 ((feeBps : ℚ) / 10000 * 10000) = feeBps := asU128_bps (by omega)
  simp only [estimateSwapOutput128, bps, Nat.mod_eq_of_lt small,
    Checked.div_of_ne_zero (show 10000 + feeBps ≠ 0 by omega), Option.bind_eq_bind,
    Option.bind_some, Option.pure_def]
  rw [← additive, Nat.mod_eq_of_lt product]
  split
  · next zero => rw [(Nat.add_eq_zero_iff.mp zero).2, output_nothing]
  · rfl

end

/-! ## The scanner -/

namespace ArbitrageScanner

/-- `simulate_buy`. -/
def simulateBuy (buy : PoolPriceSnapshot) (investment : ℚ) : Option ℕ :=
  let quoteUnit := buy.quoteUnit
  let quoteIn := asU64 (investment * quoteUnit)
  if buy.bins ≠ [] then some (buy.buyFromBins buy.bins quoteIn)
  else buy.buyFromReserves quoteIn

end ArbitrageScanner

/-- The output with which a transaction is built, nothing where it is not. -/
def builtOutput (inputVaultRaw outputVaultRaw amountIn : UInt64) (feeBps : UInt32) : ℕ :=
  ((checkedEstimateSwapOutput inputVaultRaw outputVaultRaw amountIn feeBps).getD 0).toNat

section

variable {ri ro a : UInt64}

theorem builtOutput_eq (feeBps : UInt32) :
    builtOutput ri ro a feeBps = output ri.toNat ro.toNat (additive a.toNat feeBps.toNat) := by
  have small : output ri.toNat ro.toNat (additive a.toNat feeBps.toNat) < 2 ^ 64 :=
    (output_le _ _ _).trans_lt ro.toNat_lt
  by_cases zero : a = 0
  · subst zero
    have nothing : additive (0 : UInt64).toNat feeBps.toNat = 0 := by
      rw [additive, UInt64.toNat_zero, Nat.zero_mul, Nat.zero_div]
    rw [nothing, output_nothing]
    rfl
  · have word : (UInt64.ofNat 0) = 0 := rfl
    rw [builtOutput, checkedEstimateSwapOutput, checkedEstimateSwapOutput128_eq feeBps zero,
      ← word, Option.getD_map, getD_positive]
    exact UInt64.toNat_ofNat_of_lt' small

/-- A fee of at most everything is taken off in whole numbers. -/
theorem afterFee_word (amount : UInt64) {feeBps : ℕ} (fee : feeBps ≤ 10000) :
    afterFee amount.toNat feeBps = amount.toNat * (10000 - feeBps) / 10000 := by
  have factor : (2 ^ 128 + 10000 - feeBps) % 2 ^ 128 = 10000 - feeBps := by omega
  have wide : amount.toNat * (10000 - feeBps) < 2 ^ (64 + 64) :=
    Checked.mul_lt amount.toNat_lt (by omega)
  have product : amount.toNat * (10000 - feeBps) < 2 ^ 128 := wide
  rw [afterFee, factor, Nat.mod_eq_of_lt product]

/-- A fee takes more off the amount than it adds to the denominator. -/
theorem afterFee_le_additive (amount : UInt64) {feeBps : UInt32} (fee : feeBps ≤ 10000) :
    afterFee amount.toNat feeBps.toNat ≤ additive amount.toNat feeBps.toNat := by
  have le : feeBps.toNat ≤ 10000 := UInt32.le_iff_toNat_le.mp fee
  rw [afterFee_word amount le, additive]
  apply (Nat.le_div_iff_mul_le (Nat.add_pos_left (by norm_num) _)).mpr
  have squares : (10000 - feeBps.toNat) * (10000 + feeBps.toNat) ≤ 10000 * 10000 := by
    rw [Nat.mul_comm, ← Nat.sq_sub_sq]
    exact Nat.sub_le _ _
  calc amount.toNat * (10000 - feeBps.toNat) / 10000 * (10000 + feeBps.toNat)
      ≤ amount.toNat * (10000 - feeBps.toNat) * (10000 + feeBps.toNat) / 10000 := by
        rw [Nat.mul_comm, Nat.mul_comm (amount.toNat * (10000 - feeBps.toNat))]
        exact Nat.mul_div_le_mul_div_assoc _ _ _
    _ = amount.toNat * ((10000 - feeBps.toNat) * (10000 + feeBps.toNat)) / 10000 := by
        rw [Nat.mul_assoc]
    _ ≤ amount.toNat * (10000 * 10000) / 10000 :=
        Nat.div_le_div_right (Nat.mul_le_mul_left _ squares)
    _ = amount.toNat * 10000 := by
        rw [← Nat.mul_assoc, Nat.mul_div_cancel _ (by norm_num)]

/-- What the scanner computes over reserves is a constant product. -/
theorem constantProduct_afterFee (held : ri ≠ 0) {feeBps : UInt32} (fee : feeBps ≤ 10000) :
    constantProduct (afterFee a.toNat feeBps.toNat) ro.toNat ri.toNat =
      some (output ri.toNat ro.toNat (afterFee a.toNat feeBps.toNat)) := by
  have reserve : 0 < ri.toNat := Nat.pos_of_ne_zero fun zero => held (UInt64.toNat_inj.mp zero)
  have small : afterFee a.toNat feeBps.toNat < 2 ^ 64 :=
    (afterFee_le_additive a fee).trans_lt ((additive_le _ _).trans_lt a.toNat_lt)
  have product : afterFee a.toNat feeBps.toNat * ro.toNat < 2 ^ 128 :=
    Checked.mul_lt small ro.toNat_lt
  rw [constantProduct, if_neg (Nat.add_pos_left reserve _).ne', Nat.mod_eq_of_lt product,
    output, Nat.mul_comm]

/-- What the scanner computes over reserves is not more than what the builder does. -/
theorem constantProduct_le_built (held : ri ≠ 0) {feeBps : UInt32} (fee : feeBps ≤ 10000) :
    ∃ out, constantProduct (afterFee a.toNat feeBps.toNat) ro.toNat ri.toNat = some out ∧
      out ≤ builtOutput ri ro a feeBps := by
  have reserve : 0 < ri.toNat := Nat.pos_of_ne_zero fun zero => held (UInt64.toNat_inj.mp zero)
  rw [builtOutput_eq]
  exact ⟨_, constantProduct_afterFee held fee,
    output_mono reserve ro.toNat (afterFee_le_additive a fee)⟩

end

/-- What a purchase brings is a word, so that the sale of it is one of a word. -/
theorem tokensGot_lt {buy : PoolPriceSnapshot} {quoteIn tokens : ℕ}
    (got : buy.tokensGot quoteIn = some tokens) : tokens < 2 ^ 64 := by
  rw [PoolPriceSnapshot.tokensGot] at got
  split at got
  · cases got
    simp only [PoolPriceSnapshot.buyFromBins, estimateDlmmSwapOutput]
    split
    · exact Nat.two_pow_pos 64
    · exact Nat.mod_lt _ (Nat.two_pow_pos 64)
  · rw [PoolPriceSnapshot.buyFromReserves, constantProduct] at got
    split at got
    · cases got
    · cases got
      apply lt_of_le_of_lt _ buy.tokenReservesRaw.toNat_lt
      apply Nat.div_le_of_le_mul
      exact (Nat.mod_le _ _).trans (Nat.mul_le_mul_right _ (Nat.le_add_left _ _))

/-- A leg over reserves never looks better to the scanner than to the builder. -/
theorem scan_le_built (buy sell : PoolPriceSnapshot) :
    (buy.bins = [] → buy.solReservesRaw ≠ 0 → buy.feeBps ≤ 10000 →
      (∀ investment, ∃ out, ArbitrageScanner.simulateBuy buy investment = some out ∧
        out ≤ builtOutput buy.solReservesRaw buy.tokenReservesRaw
          (UInt64.ofNat (asU64 (investment * buy.quoteUnit))) buy.feeBps) ∧
      ∀ quoteIn : UInt64, ∃ out, buy.tokensGot quoteIn.toNat = some out ∧
        out ≤ builtOutput buy.solReservesRaw buy.tokenReservesRaw quoteIn buy.feeBps) ∧
    (∀ quoteIn tokens, buy.tokensGot quoteIn = some tokens → tokens < 2 ^ 64) ∧
    (sell.bins = [] → sell.tokenReservesRaw ≠ 0 → sell.feeBps ≤ 10000 →
      ∀ tokens : UInt64, ∃ out, sell.quoteBackRaw tokens.toNat = some out ∧
        out ≤ builtOutput sell.tokenReservesRaw sell.solReservesRaw tokens sell.feeBps) := by
  refine ⟨?_, fun _ _ => tokensGot_lt, ?_⟩
  · intro unbinned held fee
    have bought (quoteIn : UInt64) : ∃ out, buy.buyFromReserves quoteIn.toNat = some out ∧
        out ≤ builtOutput buy.solReservesRaw buy.tokenReservesRaw quoteIn buy.feeBps :=
      constantProduct_le_built held fee
    constructor
    · intro investment
      have word : (UInt64.ofNat (asU64 (investment * buy.quoteUnit))).toNat =
          asU64 (investment * buy.quoteUnit) := UInt64.toNat_ofNat_of_lt' (asU64_lt _)
      rw [ArbitrageScanner.simulateBuy, if_neg (not_not.mpr unbinned), ← word]
      simpa only [word] using bought (UInt64.ofNat (asU64 (investment * buy.quoteUnit)))
    · intro quoteIn
      rw [PoolPriceSnapshot.tokensGot, if_neg (not_not.mpr unbinned)]
      exact bought quoteIn
  · intro unbinned held fee tokens
    rw [PoolPriceSnapshot.quoteBackRaw, if_neg (not_not.mpr unbinned)]
    exact constantProduct_le_built held fee

/-- A SOL spent in a pool with reserves of SOL. -/
theorem scan_le_built_sample :
    ∃ out, ArbitrageScanner.sampleReservesPool.tokensGot 1000000000 = some out ∧
      out ≤ builtOutput 100000000000 1000000000000 1000000000 25 := by
  rcases scan_le_built ArbitrageScanner.sampleReservesPool
    ArbitrageScanner.sampleReservesPool with ⟨buy, _, _⟩
  exact (buy rfl (by decide) (by decide)).2 1000000000

end AtomicArbitrage.Bot
