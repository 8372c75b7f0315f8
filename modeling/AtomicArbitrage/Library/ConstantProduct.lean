import Mathlib.Algebra.Order.Ring.Nat
import Mathlib.Algebra.Order.Sub.Basic
import Mathlib.Tactic.Ring

/-!
# Constant product pools

A pool holds two reserves.  For an input to one of them it pays out of the other, so that
the product of the reserves does not fall: the output is the exact one rounded down.
-/

namespace ConstantProduct

/-- What an effective input brings. -/
def output (reserveIn reserveOut effective : ℕ) : ℕ :=
  reserveOut * effective / (reserveIn + effective)

variable {reserveIn reserveOut effective : ℕ}

@[simp] theorem output_nothing (reserveIn reserveOut : ℕ) :
    output reserveIn reserveOut 0 = 0 := by
  rw [output, Nat.mul_zero, Nat.zero_div]

@[simp] theorem output_empty (reserveIn effective : ℕ) : output reserveIn 0 effective = 0 := by
  rw [output, Nat.zero_mul, Nat.zero_div]

theorem output_le (reserveIn reserveOut effective : ℕ) :
    output reserveIn reserveOut effective ≤ reserveOut := by
  apply Nat.div_le_of_le_mul
  rw [Nat.mul_comm]
  exact Nat.mul_le_mul_right reserveOut (Nat.le_add_left effective reserveIn)

/-- With a reserve on the input side no input drains the pool. -/
theorem output_lt (held : 0 < reserveIn) (stocked : 0 < reserveOut) :
    output reserveIn reserveOut effective < reserveOut := by
  apply Nat.div_lt_of_lt_mul
  rw [Nat.mul_comm]
  exact Nat.mul_lt_mul_of_pos_right (Nat.lt_add_of_pos_left held) stocked

/-- Without one every input does. -/
theorem output_unheld (paid : 0 < effective) : output 0 reserveOut effective = reserveOut := by
  rw [output, Nat.zero_add, Nat.mul_div_cancel _ paid]

/-- The product of the reserves does not fall. -/
theorem le_mul_sub_output (reserveIn reserveOut effective : ℕ) :
    reserveIn * reserveOut ≤
      (reserveIn + effective) * (reserveOut - output reserveIn reserveOut effective) := by
  have paid : (reserveIn + effective) * output reserveIn reserveOut effective ≤
      reserveOut * effective := Nat.mul_div_le _ _
  rw [Nat.mul_sub]
  apply Nat.le_sub_of_add_le
  calc reserveIn * reserveOut + (reserveIn + effective) * output reserveIn reserveOut effective
      ≤ reserveIn * reserveOut + reserveOut * effective := Nat.add_le_add_left paid _
    _ = (reserveIn + effective) * reserveOut := by ring

/-- Nor does it where the pool keeps a fee on top of the effective input. -/
theorem le_mul_sub_output_of_le {amount : ℕ} (fee : effective ≤ amount) :
    reserveIn * reserveOut ≤
      (reserveIn + amount) * (reserveOut - output reserveIn reserveOut effective) :=
  (le_mul_sub_output reserveIn reserveOut effective).trans
    (Nat.mul_le_mul_right _ (Nat.add_le_add_left fee reserveIn))

/-- More input does not bring less. -/
theorem output_mono (held : 0 < reserveIn) (reserveOut : ℕ) :
    Monotone (output reserveIn reserveOut) := by
  intro less more le
  have lessPos : 0 < reserveIn + less := Nat.add_pos_left held less
  have morePos : 0 < reserveIn + more := Nat.add_pos_left held more
  apply (Nat.le_div_iff_mul_le morePos).mpr
  apply Nat.le_of_mul_le_mul_left _ lessPos
  calc (reserveIn + less) * (output reserveIn reserveOut less * (reserveIn + more))
      = (reserveIn + less) * output reserveIn reserveOut less * (reserveIn + more) := by ring
    _ ≤ reserveOut * less * (reserveIn + more) :=
        Nat.mul_le_mul_right _ (Nat.mul_div_le _ _)
    _ = reserveOut * (reserveIn * less + less * more) := by ring
    _ ≤ reserveOut * (reserveIn * more + less * more) :=
        Nat.mul_le_mul_left _ (Nat.add_le_add_right (Nat.mul_le_mul_left _ le) _)
    _ = (reserveIn + less) * (reserveOut * more) := by ring

/-! ## Outputs that are nothing -/

/-- An output, unless it is nothing. -/
def positive (output : ℕ) : Option ℕ := if output = 0 then none else some output

theorem getD_positive (output : ℕ) : (positive output).getD 0 = output := by
  rw [positive]
  split
  · next zero => rw [zero, Option.getD_none]
  · rfl

end ConstantProduct
