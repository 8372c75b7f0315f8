import Mathlib.Algebra.Ring.Nat
import Mathlib.Data.Nat.Init

/-!
# Checked arithmetic

The operations of unsigned words that return nothing where the exact result is not a word:
it is too wide, below zero, or has a zero divisor.
-/

namespace Checked

/-- A result of at most `bits` bits. -/
def word (bits value : ℕ) : Option ℕ :=
  if value < 2 ^ bits then some value else none

/-- `checked_sub`. -/
def sub (left right : ℕ) : Option ℕ :=
  if right ≤ left then some (left - right) else none

/-- `checked_div`. -/
def div (left right : ℕ) : Option ℕ :=
  if right = 0 then none else some (left / right)

variable {bits left right : ℕ}

theorem word_of_lt {value : ℕ} (small : value < 2 ^ bits) : word bits value = some value :=
  if_pos small

theorem sub_of_le (le : right ≤ left) : sub left right = some (left - right) :=
  if_pos le

theorem sub_of_lt (lt : left < right) : sub left right = none :=
  if_neg (Nat.not_le.mpr lt)

theorem div_of_ne_zero (nonzero : right ≠ 0) : div left right = some (left / right) :=
  if_neg nonzero

/-- A product of two words fits in a word of twice the width. -/
theorem mul_lt (leftSmall : left < 2 ^ bits) (rightSmall : right < 2 ^ bits) :
    left * right < 2 ^ (bits + bits) := by
  rw [pow_add]
  exact Nat.mul_lt_mul'' leftSmall rightSmall

end Checked
