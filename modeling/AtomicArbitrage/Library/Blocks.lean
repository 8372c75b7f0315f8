import Mathlib.Algebra.Order.Group.Unbundled.Int
import Mathlib.Data.Int.Notation
import Mathlib.Data.List.Basic

/-!
# Blocks of integers

The integers in blocks of one size, numbered so that block zero starts at zero.  The block of
an integer is its quotient rounded down; the quotient rounded towards zero is another one for
the negative integers inside a block.  A window is a row of blocks around a middle one.
-/

namespace Blocks

variable {size index value middle : ℤ}

/-- The block with this index holds the value. -/
def Holds (size index value : ℤ) : Prop :=
  size * index ≤ value ∧ value < size * index + size

theorem holds_iff (positive : 0 < size) : Holds size index value ↔ index = value / size := by
  rw [Holds, eq_comm, Int.ediv_eq_iff_of_pos positive, mul_comm index]

/-- The quotient that is rounded towards zero is the block of the integers from zero on and of
those that start a block. -/
theorem holds_tdiv_iff (positive : 0 < size) :
    Holds size (value.tdiv size) value ↔ 0 ≤ value ∨ size ∣ value := by
  rw [holds_iff positive, Int.tdiv_eq_ediv, Int.sign_eq_one_of_pos positive]
  split
  · next exact => exact iff_of_true (Int.add_zero _) exact
  · next inexact => exact iff_of_false (by omega) inexact

/-! ## Windows -/

/-- The blocks from `reach` below a middle one to `reach` above it. -/
def window (reach : ℕ) (middle : ℤ) : List ℤ :=
  (List.range (2 * reach + 1)).map fun step : ℕ => middle - reach + step

/-- As many blocks of a row lie wholly below a value as lie wholly above it. -/
def Balanced (size : ℤ) (blocks : List ℤ) (value : ℤ) : Prop :=
  blocks.countP (fun index => size * index + size ≤ value) =
    blocks.countP fun index => value < size * index

theorem window_middle (reach : ℕ) (middle : ℤ) :
    (window reach middle)[reach]? = some middle := by
  rw [window, List.getElem?_map, List.getElem?_range (by omega), Option.map_some]
  exact congrArg some (Int.sub_add_cancel _ _)

theorem mem_window {reach : ℕ} : index ∈ window reach middle ↔
    middle - reach ≤ index ∧ index ≤ middle + reach := by
  simp only [window, List.mem_map, List.mem_range]
  constructor
  · intro found
    rcases found with ⟨step, inside, rfl⟩
    omega
  · intro inside
    exact ⟨(index - (middle - reach)).toNat, by omega, by omega⟩

/-- The blocks of a row that lie below a bound. -/
theorem countP_lt (start bound : ℤ) (count : ℕ) :
    ((List.range count).map fun step : ℕ => start + step).countP (fun index => index < bound) =
      min (bound - start).toNat count := by
  induction count with
  | zero => simp
  | succ count ih =>
      rw [List.range_succ, List.map_append, List.countP_append, ih, List.map_singleton,
        List.countP_singleton]
      by_cases below : start + count < bound
      · rw [if_pos (decide_eq_true below)]
        omega
      · rw [if_neg (by rwa [decide_eq_true_eq])]
        omega

/-- The others lie at or above it. -/
theorem countP_le (start bound : ℤ) (count : ℕ) :
    ((List.range count).map fun step : ℕ => start + step).countP (fun index => bound ≤ index) =
      count - min (bound - start).toNat count := by
  have split := List.length_eq_countP_add_countP (fun index : ℤ => decide (index < bound))
    (l := (List.range count).map fun step : ℕ => start + step)
  simp only [decide_eq_true_eq, not_lt] at split
  rw [countP_lt, List.length_map, List.length_range] at split
  omega

/-- A window has as many whole blocks on both sides of a value exactly when its middle block
holds the value. -/
theorem balanced_window_iff (positive : 0 < size) {reach : ℕ} :
    Balanced size (window reach middle) value ↔ Holds size middle value := by
  have below (index : ℤ) : size * index + size ≤ value ↔ index < value / size := by
    rw [← Int.add_one_le_iff, Int.le_ediv_iff_mul_le positive, Int.add_mul, Int.one_mul,
      mul_comm]
  have above (index : ℤ) : value < size * index ↔ value / size + 1 ≤ index := by
    rw [Int.add_one_le_iff, Int.ediv_lt_iff_lt_mul positive, mul_comm]
  rw [holds_iff positive, Balanced]
  simp only [below, above]
  rw [window, countP_lt, countP_le]
  omega

end Blocks
