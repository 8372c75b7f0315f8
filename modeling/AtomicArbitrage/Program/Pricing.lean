import AtomicArbitrage.Library.Checked
import AtomicArbitrage.Library.ConstantProduct

/-!
# Pricing in the program

Before the CPIs the program prices a leg itself.  A swap against reserves is a constant
product of the amount less a fee that is added to the denominator.
-/

namespace AtomicArbitrage.Program

open ConstantProduct

/-- What `cpmm_swap_output` casts to the words that it returns. -/
def cpmmSwapOutput128 (reserveIn reserveOut amountIn : UInt64) (feeBps : UInt16) :
    Option (ℕ × ℕ) := do
  let ri := reserveIn.toNat
  let ro := reserveOut.toNat
  let a := amountIn.toNat
  let fee := feeBps.toNat
  if a = 0 ∨ ri = 0 ∨ ro = 0 then
    none
  let denom ← Checked.word 128 (10000 + fee)
  let num ← Checked.word 128 (a * 10000)
  let effective ← Checked.div num denom
  if effective = 0 then
    none
  let feeAmount ← Checked.sub a effective
  let numerator ← Checked.word 128 (ro * effective)
  let denominator ← Checked.word 128 (ri + effective)
  let output ← Checked.div numerator denominator
  if output = 0 then
    none
  return (output, feeAmount)

/-- `cpmm_swap_output`. -/
def cpmmSwapOutput (reserveIn reserveOut amountIn : UInt64) (feeBps : UInt16) :
    Option (UInt64 × UInt64) :=
  (cpmmSwapOutput128 reserveIn reserveOut amountIn feeBps).map
    (Prod.map UInt64.ofNat UInt64.ofNat)

variable {ri ro a : UInt64}

/-- Nothing is priced without an amount, or with an empty reserve. -/
theorem cpmmSwapOutput128_nothing (feeBps : UInt16) (nothing : a = 0 ∨ ri = 0 ∨ ro = 0) :
    cpmmSwapOutput128 ri ro a feeBps = none := by
  have zero : a.toNat = 0 ∨ ri.toNat = 0 ∨ ro.toNat = 0 := by
    rcases nothing with rfl | rfl | rfl
    · exact .inl rfl
    · exact .inr (.inl rfl)
    · exact .inr (.inr rfl)
  simp only [cpmmSwapOutput128, zero, if_true]
  rfl

theorem cpmmSwapOutput128_eq (feeBps : UInt16) (paid : a ≠ 0) (held : ri ≠ 0)
    (stocked : ro ≠ 0) :
    cpmmSwapOutput128 ri ro a feeBps =
      (positive (output ri.toNat ro.toNat (a.toNat * 10000 / (10000 + feeBps.toNat)))).map
        fun out => (out, a.toNat - a.toNat * 10000 / (10000 + feeBps.toNat)) := by
  have amount : a.toNat < 2 ^ 64 := a.toNat_lt
  have reserve : ri.toNat < 2 ^ 64 := ri.toNat_lt
  have fee : feeBps.toNat < 2 ^ 16 := feeBps.toNat_lt
  have guard : ¬(a.toNat = 0 ∨ ri.toNat = 0 ∨ ro.toNat = 0) := by
    intro zero
    rcases zero with zero | zero | zero
    · exact paid (UInt64.toNat_inj.mp zero)
    · exact held (UInt64.toNat_inj.mp zero)
    · exact stocked (UInt64.toNat_inj.mp zero)
  have denom : 10000 + feeBps.toNat < 2 ^ 128 := by omega
  have num : a.toNat * 10000 < 2 ^ 128 := by omega
  have le : a.toNat * 10000 / (10000 + feeBps.toNat) ≤ a.toNat := by
    apply Nat.div_le_of_le_mul
    rw [Nat.mul_comm]
    exact Nat.mul_le_mul_right _ (Nat.le_add_right 10000 _)
  simp only [cpmmSwapOutput128, guard, if_false, Checked.word_of_lt denom,
    Checked.word_of_lt num, Checked.div_of_ne_zero (show 10000 + feeBps.toNat ≠ 0 by omega),
    Option.bind_eq_bind, Option.bind_some]
  generalize a.toNat * 10000 / (10000 + feeBps.toNat) = effective at le
  by_cases zero : effective = 0
  · rw [zero, output_nothing]
    rfl
  have product : ro.toNat * effective < 2 ^ 128 :=
    Checked.mul_lt ro.toNat_lt (le.trans_lt amount)
  have sum : ri.toNat + effective < 2 ^ 128 := by omega
  simp only [zero, if_false, Checked.sub_of_le le, Checked.word_of_lt product,
    Checked.word_of_lt sum,
    Checked.div_of_ne_zero (show ri.toNat + effective ≠ 0 by omega), Option.bind_some]
  rw [← output]
  by_cases none : output ri.toNat ro.toNat effective = 0
  · simp [none, positive]
  · simp [none, positive]

end AtomicArbitrage.Program
