import AtomicArbitrage.Bot.SwapEstimate
import AtomicArbitrage.Program.Pricing

/-!
# Agreement on constant products

The program and the client price a swap against reserves with copies of one formula, whose
guards differ.  The copies agree while both reserves hold something.  With nothing in the
input reserve the copies of the client price a swap that drains the pool, where that of the
program refuses.
-/

namespace AtomicArbitrage.Agreement

open AtomicArbitrage.Bot ConstantProduct
open Program (cpmmSwapOutput128 cpmmSwapOutput cpmmSwapOutput128_nothing cpmmSwapOutput128_eq)

/-! ## Safety -/

/-- A price, if it is one and the word returned for it is positive, does not drain the pool,
is not cut to the word, and does not lower the product of the reserves. -/
def PricedSafely (reserveIn reserveOut amountIn : UInt64) (price : Option ℕ) : Prop :=
  ∀ out, price = some out → 0 < UInt64.ofNat out →
    out < reserveOut.toNat ∧ (UInt64.ofNat out).toNat = out ∧
      reserveIn.toNat * reserveOut.toNat ≤
        (reserveIn.toNat + amountIn.toNat) * (reserveOut.toNat - out)

section

variable {ri ro a : UInt64}

theorem pricedSafely_none : PricedSafely ri ro a none := by
  intro out priced
  cases priced

theorem pricedSafely_zero : PricedSafely ri ro a (some 0) := by
  intro out priced positive
  rw [← Option.some_inj.mp priced] at positive
  exact absurd positive (by decide)

theorem toNat_pos {word : UInt64} (nonzero : word ≠ 0) : 0 < word.toNat :=
  Nat.pos_of_ne_zero fun zero => nonzero (UInt64.toNat_inj.mp zero)

/-- A constant product of a part of the amount is priced safely except where it pays out a
reserve for nothing held. -/
theorem pricedSafely_output_iff {effective : ℕ} (fee : effective ≤ a.toNat) :
    PricedSafely ri ro a (some (output ri.toNat ro.toNat effective)) ↔
      ri ≠ 0 ∨ ro = 0 ∨ effective = 0 := by
  constructor
  · intro safe
    by_contra unsafely
    simp only [not_or, not_not] at unsafely
    rcases unsafely with ⟨rfl, stocked, paid⟩
    have drained : output (0 : UInt64).toNat ro.toNat effective = ro.toNat :=
      output_unheld (Nat.pos_of_ne_zero paid)
    rw [drained] at safe
    have positive : 0 < UInt64.ofNat ro.toNat := by
      rw [UInt64.ofNat_toNat]
      exact UInt64.pos_iff_ne_zero.mpr stocked
    exact absurd (safe _ rfl positive).1 (lt_irrefl _)
  · intro condition
    rcases eq_or_ne ro 0 with rfl | stocked
    · rw [UInt64.toNat_zero, output_empty]
      exact pricedSafely_zero
    rcases condition with held | empty | nothing
    · intro out priced _
      rw [← Option.some_inj.mp priced]
      have lt : output ri.toNat ro.toNat effective < ro.toNat :=
        output_lt (toNat_pos held) (toNat_pos stocked)
      exact ⟨lt, UInt64.toNat_ofNat_of_lt' (lt.trans ro.toNat_lt),
        le_mul_sub_output_of_le fee⟩
    · exact absurd empty stocked
    · rw [nothing, output_nothing]
      exact pricedSafely_zero

/-- An output that is refused where it is nothing is as safe. -/
theorem pricedSafely_positive_iff {out : ℕ} :
    PricedSafely ri ro a (positive out) ↔ PricedSafely ri ro a (some out) := by
  by_cases zero : out = 0
  · rw [zero]
    exact iff_of_true pricedSafely_none pricedSafely_zero
  · rw [positive, if_neg zero]

theorem pricedSafely_checkedEstimate_iff (feeBps : UInt32) :
    PricedSafely ri ro a (checkedEstimateSwapOutput128 ri ro a feeBps) ↔
      ri ≠ 0 ∨ ro = 0 ∨ a.toNat * 10000 < 10000 + feeBps.toNat := by
  rcases eq_or_ne a 0 with rfl | paid
  · apply iff_of_true pricedSafely_zero
    right
    right
    rw [UInt64.toNat_zero]
    omega
  · rw [checkedEstimateSwapOutput128_eq feeBps paid, pricedSafely_positive_iff,
      pricedSafely_output_iff (additive_le _ _), additive_eq_zero_iff]

theorem pricedSafely_checkedCp_iff (feeRate : UInt64) :
    PricedSafely ri ro a (checkedCpSwapOutput128 ri ro a feeRate) ↔
      ri ≠ 0 ∨ ro = 0 ∨ a.toNat * (swapFeeDenom - feeRate.toNat) < swapFeeDenom := by
  rcases eq_or_ne ro 0 with rfl | stocked
  · rw [checkedCpSwapOutput128_nothing (.inr rfl)]
    exact iff_of_true pricedSafely_zero (.inr (.inl rfl))
  rcases eq_or_ne a 0 with rfl | paid
  · rw [checkedCpSwapOutput128_nothing (.inl rfl)]
    apply iff_of_true pricedSafely_zero
    right
    right
    rw [UInt64.toNat_zero, Nat.zero_mul]
    decide
  rcases Nat.lt_or_ge swapFeeDenom feeRate.toNat with refused | accepted
  · rw [checkedCpSwapOutput128_refused paid stocked refused]
    apply iff_of_true pricedSafely_none
    right
    right
    rw [Nat.sub_eq_zero_of_le refused.le, Nat.mul_zero]
    decide
  · rw [checkedCpSwapOutput128_eq paid stocked accepted, pricedSafely_positive_iff,
      pricedSafely_output_iff (subtractive_le _ _), subtractive_eq_zero_iff]

/-- The program refuses an empty reserve, so that its prices are safe. -/
theorem pricedSafely_cpmm (feeBps : UInt16) :
    PricedSafely ri ro a ((cpmmSwapOutput128 ri ro a feeBps).map Prod.fst) := by
  by_cases nothing : a = 0 ∨ ri = 0 ∨ ro = 0
  · rw [cpmmSwapOutput128_nothing feeBps nothing]
    exact pricedSafely_none
  · simp only [not_or] at nothing
    rcases nothing with ⟨paid, held, stocked⟩
    rw [cpmmSwapOutput128_eq feeBps paid held stocked, Option.map_map]
    have same (price : Option ℕ) (fee : ℕ) :
        price.map (Prod.fst ∘ fun out => (out, fee)) = price := Option.map_id'
    rw [same, pricedSafely_positive_iff]
    exact (pricedSafely_output_iff (additive_le _ _)).mpr (.inl held)

theorem pricedSafely_estimate_iff {feeBps : ℕ} (small : 10000 + feeBps < 2 ^ 128) :
    PricedSafely ri ro a (estimateSwapOutput128 ri ro a (feeBps / 10000)) ↔
      ri ≠ 0 ∨ ro = 0 ∨ a.toNat * 10000 < 10000 + feeBps := by
  rw [estimateSwapOutput128_eq small, pricedSafely_output_iff (additive_le _ _),
    additive_eq_zero_iff]

end

/-- The program prices every swap safely.  The client does exactly while the input reserve
holds something, unless there is nothing to pay out or the fee leaves nothing of the
amount. -/
theorem pricedSafely_iff (ri ro a : UInt64) :
    (∀ feeBps : UInt16,
      PricedSafely ri ro a ((cpmmSwapOutput128 ri ro a feeBps).map Prod.fst)) ∧
    (∀ feeBps : UInt32, PricedSafely ri ro a (checkedEstimateSwapOutput128 ri ro a feeBps) ↔
      ri ≠ 0 ∨ ro = 0 ∨ a.toNat * 10000 < 10000 + feeBps.toNat) ∧
    (∀ feeRate : UInt64, PricedSafely ri ro a (checkedCpSwapOutput128 ri ro a feeRate) ↔
      ri ≠ 0 ∨ ro = 0 ∨ a.toNat * (swapFeeDenom - feeRate.toNat) < swapFeeDenom) ∧
    ∀ feeBps : ℕ, 10000 + feeBps < 2 ^ 128 →
      (PricedSafely ri ro a (estimateSwapOutput128 ri ro a (feeBps / 10000)) ↔
        ri ≠ 0 ∨ ro = 0 ∨ a.toNat * 10000 < 10000 + feeBps) :=
  ⟨pricedSafely_cpmm, pricedSafely_checkedEstimate_iff, pricedSafely_checkedCp_iff,
    fun _ => pricedSafely_estimate_iff⟩

/-- A thousand paid into a pool of a thousand, at a quarter of a percent. -/
theorem pricedSafely_iff_sample :
    PricedSafely 1000 1000 1000 (estimateSwapOutput128 1000 1000 1000 ((25 : ℕ) / 10000)) := by
  rcases pricedSafely_iff 1000 1000 1000 with ⟨_, _, _, estimate⟩
  rw [estimate 25 (by norm_num)]
  decide

/-- The same paid into a pool whose vault could not be read. -/
theorem not_pricedSafely_unheld :
    ¬∀ (ri ro a : UInt64) (feeBps : UInt32),
      PricedSafely ri ro a (checkedEstimateSwapOutput128 ri ro a feeBps) := by
  intro all
  have safe := (pricedSafely_checkedEstimate_iff 25).mp (all 0 1000 1000 25)
  revert safe
  decide

/-! ## One formula -/

section

variable {ri ro a : UInt64}

/-- While the reserves hold something, the copies that add the fee price alike. -/
theorem additive_agree (feeBps : UInt16) (paid : a ≠ 0) (held : ri ≠ 0) (stocked : ro ≠ 0) :
    (∀ out, (∃ fee, cpmmSwapOutput ri ro a feeBps = some (out, fee)) ↔
      checkedEstimateSwapOutput ri ro a feeBps.toUInt32 = some out) ∧
    (∀ out fee, cpmmSwapOutput ri ro a feeBps = some (out, fee) →
      fee.toNat = a.toNat - a.toNat * 10000 / (10000 + feeBps.toNat) ∧ fee ≤ a) ∧
    estimateSwapOutput ri ro a (feeBps.toNat / 10000) =
      some ((checkedEstimateSwapOutput ri ro a feeBps.toUInt32).getD 0) ∧
    checkedPumpswapBuyOutput a ri ro feeBps.toUInt32 =
      checkedEstimateSwapOutput ri ro a feeBps.toUInt32 ∧
    checkedPumpswapSellOutput a ri ro feeBps.toUInt32 =
      checkedEstimateSwapOutput ri ro a feeBps.toUInt32 := by
  have bps : feeBps.toUInt32.toNat = feeBps.toNat := UInt16.toNat_toUInt32 feeBps
  have small : 10000 + feeBps.toNat < 2 ^ 128 := by
    have word : feeBps.toNat < 2 ^ 16 := feeBps.toNat_lt
    omega
  have program : cpmmSwapOutput ri ro a feeBps =
      (positive (output ri.toNat ro.toNat (additive a.toNat feeBps.toNat))).map fun out =>
        (UInt64.ofNat out, UInt64.ofNat (a.toNat - additive a.toNat feeBps.toNat)) := by
    rw [cpmmSwapOutput, cpmmSwapOutput128_eq feeBps paid held stocked, Option.map_map]
    rfl
  have client : checkedEstimateSwapOutput ri ro a feeBps.toUInt32 =
      (positive (output ri.toNat ro.toNat (additive a.toNat feeBps.toNat))).map
        UInt64.ofNat := by
    rw [checkedEstimateSwapOutput, checkedEstimateSwapOutput128_eq _ paid, bps]
  refine ⟨?_, ?_, ?_, rfl, rfl⟩
  · intro out
    rw [program, client]
    cases positive (output ri.toNat ro.toNat (additive a.toNat feeBps.toNat)) with
    | none => simp
    | some price => simp
  · intro out fee priced
    rw [program] at priced
    rcases Option.map_eq_some_iff.mp priced with ⟨price, _, same⟩
    have fees : UInt64.ofNat (a.toNat - additive a.toNat feeBps.toNat) = fee :=
      congrArg Prod.snd same
    have le : a.toNat - additive a.toNat feeBps.toNat ≤ a.toNat := Nat.sub_le _ _
    have exact : fee.toNat = a.toNat - additive a.toNat feeBps.toNat := by
      rw [← fees]
      exact UInt64.toNat_ofNat_of_lt' (le.trans_lt a.toNat_lt)
    exact ⟨exact, UInt64.le_iff_toNat_le.mpr (exact ▸ le)⟩
  · have word : UInt64.ofNat 0 = 0 := rfl
    rw [estimateSwapOutput, estimateSwapOutput128_eq small, client, Option.map_some, ← word,
      Option.getD_map, getD_positive]

end

/-- A swap that the three copies price at a quarter of a percent. -/
theorem additive_agree_sample :
    ∃ fee, cpmmSwapOutput 1000000 1000000 1000 25 = some (996, fee) := by
  rw [(additive_agree 25 (by decide) (by decide) (by decide)).1]
  decide

end AtomicArbitrage.Agreement
