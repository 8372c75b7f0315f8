import Mathlib.Algebra.Order.Ring.Int

/-!
# Checked arithmetic on signed words

The operations of `i32` that return nothing where the exact result is not a word, or where
there is none.  A result is the word of the exact integer, so that one rule reads them all.
-/

namespace Signed32

/-- The word of an integer, if it has one. -/
def word (value : ℤ) : Option Int32 :=
  if -2 ^ 31 ≤ value ∧ value < 2 ^ 31 then some (.ofInt value) else none

def add (left right : Int32) : Option Int32 := word (left.toInt + right.toInt)

def sub (left right : Int32) : Option Int32 := word (left.toInt - right.toInt)

def mul (left right : Int32) : Option Int32 := word (left.toInt * right.toInt)

/-- Division rounds towards zero. -/
def div (left right : Int32) : Option Int32 :=
  if right = 0 then none else word (left.toInt.tdiv right.toInt)

/-- The remainder overflows with the quotient. -/
def rem (left right : Int32) : Option Int32 := do
  let _ ← div left right
  word (left.toInt.tmod right.toInt)

variable {left right : Int32}

theorem exists_word (value : ℤ) (low : -2 ^ 31 ≤ value) (high : value < 2 ^ 31) :
    ∃ result, word value = some result ∧ result.toInt = value :=
  ⟨.ofInt value, if_pos ⟨low, high⟩, Int32.toInt_ofInt_of_le low high⟩

/-- A quotient by a positive word is a word. -/
theorem exists_div (left : Int32) (positive : 0 < right.toInt) :
    ∃ result, div left right = some result ∧ result.toInt = left.toInt.tdiv right.toInt := by
  have low := left.le_toInt
  have high := left.toInt_lt
  have smaller := Int.natAbs_tdiv_le_natAbs left.toInt right.toInt
  have nonpos (below : left.toInt < 0) : left.toInt.tdiv right.toInt ≤ 0 := by
    have opposite : 0 ≤ (-left.toInt).tdiv right.toInt :=
      Int.tdiv_nonneg (by omega) (Int.le_of_lt positive)
    rw [Int.neg_tdiv] at opposite
    omega
  have nonzero : right ≠ 0 := by
    intro zero
    rw [zero] at positive
    exact absurd positive (by decide)
  rw [div, if_neg nonzero]
  exact exists_word _ (by omega) (by omega)

theorem exists_rem (left : Int32) (positive : 0 < right.toInt) :
    ∃ result, rem left right = some result ∧ result.toInt = left.toInt.tmod right.toInt := by
  have high := right.toInt_lt
  have below := Int.tmod_lt_of_pos left.toInt positive
  have above := Int.lt_tmod_of_pos left.toInt positive
  rcases exists_div left positive with ⟨quotient, divided, _⟩
  rw [rem, divided, Option.bind_eq_bind, Option.bind_some]
  exact exists_word _ (by omega) (by omega)

/-- Exclusive or is negative where exactly one of its operands is. -/
theorem xor_neg_iff : left ^^^ right < 0 ↔ ¬(left.toInt < 0 ↔ right.toInt < 0) := by
  have sign (word : Int32) : word.toBitVec.msb = decide (word.toInt < 0) :=
    BitVec.msb_eq_toInt
  rw [Int32.lt_iff_toBitVec_slt, Int32.toBitVec_xor, Int32.toBitVec_zero,
    BitVec.slt_zero_iff_msb_cond, BitVec.msb_xor, sign, sign]
  by_cases one : left.toInt < 0
  · by_cases other : right.toInt < 0
    · simp [one, other]
    · simp [one, other]
  · by_cases other : right.toInt < 0
    · simp [one, other]
    · simp [one, other]

end Signed32
