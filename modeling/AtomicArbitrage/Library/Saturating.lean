import Mathlib.Algebra.Order.Floor.Semiring

/-!
# Saturating casts

The conversion of a real amount to an unsigned machine word: the integer part, cut at zero
and at the largest word.  Signed words saturate at both ends.
-/

namespace Saturating

variable {R : Type*} [Semiring R] [LinearOrder R] [FloorSemiring R]

/-- The unsigned word of `bits` bits next below a value. -/
def cast (bits : ℕ) (value : R) : ℕ := min ⌊value⌋₊ (2 ^ bits - 1)

variable {bits : ℕ}

theorem cast_lt (value : R) : cast bits value < 2 ^ bits :=
  (min_le_right _ _).trans_lt (Nat.sub_lt (Nat.two_pow_pos bits) Nat.one_pos)

theorem cast_mono [IsStrictOrderedRing R] : Monotone (cast bits : R → ℕ) := by
  intro low high le
  exact min_le_min_right _ (Nat.floor_mono le)

theorem cast_min [IsStrictOrderedRing R] (left right : R) :
    cast bits (min left right) = min (cast bits left) (cast bits right) :=
  cast_mono.map_min

/-- A word is its own cast. -/
theorem cast_natCast [IsStrictOrderedRing R] {word : ℕ} (small : word < 2 ^ bits) :
    cast bits (word : R) = word := by
  rw [cast, Nat.floor_natCast]
  omega

/-- A word below a value is not above its cast. -/
theorem le_cast [IsStrictOrderedRing R] {word : ℕ} {value : R} (small : word < 2 ^ bits)
    (below : (word : R) ≤ value) : word ≤ cast bits value := by
  rw [← cast_natCast (R := R) small]
  exact cast_mono below

/-- The signed word of `bits` bits next to an integer. -/
def signed (bits : ℕ) (value : ℤ) : ℤ :=
  max (-2 ^ (bits - 1)) (min (2 ^ (bits - 1) - 1) value)

end Saturating
