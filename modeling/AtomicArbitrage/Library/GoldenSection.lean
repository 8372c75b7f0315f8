import Mathlib.Algebra.Order.Field.Basic
import Mathlib.Tactic.Linarith
import Mathlib.Tactic.LinearCombination
import Mathlib.Tactic.Ring

/-!
# Golden-section search

A bracket is narrowed around one of its two probes, and the other probe is used again.  With
the golden ratio the probe that is left stands just where a new one would be put.  With a
ratio that is a little off, its place is off too, and every narrowing multiplies that error;
for as long as the error stays small the probes keep their order within the bracket.
-/

namespace GoldenSection

variable {K : Type*} [Field K]

/-- The two ends of a bracket and its two probes. -/
structure Bracket (K : Type*) where
  a : K
  b : K
  c : K
  d : K

namespace Bracket

/-- A bracket with both probes in their places. -/
def start (ratio lo hi : K) : Bracket K where
  a := lo
  b := hi
  c := hi - (hi - lo) * ratio
  d := lo + (hi - lo) * ratio

/-- The upper end moves to the upper probe. -/
def left (ratio : K) (s : Bracket K) : Bracket K where
  a := s.a
  b := s.d
  c := s.d - (s.d - s.a) * ratio
  d := s.c

/-- The lower end moves to the lower probe. -/
def right (ratio : K) (s : Bracket K) : Bracket K where
  a := s.c
  b := s.b
  c := s.d
  d := s.c + (s.b - s.c) * ratio

/-- A bracket is narrowed some times, to either side. -/
inductive Moves (ratio : K) : ℕ → Bracket K → Bracket K → Prop where
  | stop (s : Bracket K) : Moves ratio 0 s s
  | left {n : ℕ} {s t : Bracket K} (rest : Moves ratio n (s.left ratio) t) :
      Moves ratio (n + 1) s t
  | right {n : ℕ} {s t : Bracket K} (rest : Moves ratio n (s.right ratio) t) :
      Moves ratio (n + 1) s t

variable [LinearOrder K] [IsStrictOrderedRing K]

/-- The probes are in order within the bracket. -/
structure Ordered (s : Bracket K) : Prop where
  low : s.a ≤ s.c
  middle : s.c ≤ s.d
  high : s.d ≤ s.b

/-- The probes are off their places by at most a share of the bracket. -/
structure Near (ratio error : K) (s : Bracket K) : Prop where
  nonneg : 0 ≤ error
  ends : s.a ≤ s.b
  lower : |s.c - (s.b - (s.b - s.a) * ratio)| ≤ error * (s.b - s.a)
  upper : |s.d - (s.a + (s.b - s.a) * ratio)| ≤ error * (s.b - s.a)

/-- A ratio is about the golden one: it solves `x ^ 2 + x = 1` up to a defect. -/
structure Golden (ratio defect : K) : Prop where
  low : 3 / 5 ≤ ratio
  high : ratio ≤ 5 / 8
  solves : |ratio ^ 2 + ratio - 1| ≤ defect

variable {ratio defect error : K} {s t : Bracket K}

theorem near_start {lo hi : K} (le : lo ≤ hi) : Near ratio 0 (start ratio lo hi) where
  nonneg := le_rfl
  ends := le
  lower := by simp [start]
  upper := by simp [start]

theorem Golden.defect_nonneg (golden : Golden ratio defect) : 0 ≤ defect :=
  (abs_nonneg _).trans golden.solves

theorem Near.width_nonneg (near : Near ratio error s) : 0 ≤ s.b - s.a :=
  sub_nonneg.mpr near.ends

theorem Near.off_le (near : Near ratio error s) (small : error ≤ 1 / 10) :
    error * (s.b - s.a) ≤ 1 / 10 * (s.b - s.a) :=
  mul_le_mul_of_nonneg_right small near.width_nonneg

/-- What is left of the bracket on either side is at least a half of it. -/
theorem Near.half_le (near : Near ratio error s) (golden : Golden ratio defect)
    (small : error ≤ 1 / 10) :
    s.b - s.a ≤ 2 * (s.d - s.a) ∧ s.b - s.a ≤ 2 * (s.b - s.c) := by
  have off := near.off_le small
  have low : 3 / 5 * (s.b - s.a) ≤ (s.b - s.a) * ratio := by
    rw [mul_comm]
    exact mul_le_mul_of_nonneg_left golden.low near.width_nonneg
  have lower := abs_le.mp near.lower
  have upper := abs_le.mp near.upper
  constructor
  · linarith
  · linarith

/-- Probes that are off by at most a tenth are in order: the middle is between them. -/
theorem Near.ordered (near : Near ratio error s) (golden : Golden ratio defect)
    (small : error ≤ 1 / 10) : s.Ordered := by
  have width := near.width_nonneg
  have off := near.off_le small
  have half := near.half_le golden small
  have high : (s.b - s.a) * ratio ≤ 5 / 8 * (s.b - s.a) := by
    rw [mul_comm (5 / 8)]
    exact mul_le_mul_of_nonneg_left golden.high width
  have lower := abs_le.mp near.lower
  have upper := abs_le.mp near.upper
  constructor
  · linarith
  · linarith
  · linarith

/-- The place of a probe that is used again, from the errors of both and the defect of the
ratio. -/
theorem abs_reused_le {width place first second : K} (golden : Golden ratio defect)
    (nonneg : 0 ≤ width) (firstOff : |first| ≤ error * width)
    (secondOff : |second| ≤ error * width)
    (reused : place = first - second * ratio - width * (ratio ^ 2 + ratio - 1)) :
    |place| ≤ (2 * error + defect) * width := by
  have some : 0 ≤ error * width := (abs_nonneg _).trans firstOff
  have ratioPos : 0 ≤ ratio := by linarith [golden.low]
  have ratioLe : ratio ≤ 1 := by linarith [golden.high]
  have product : |second * ratio| ≤ error * width := by
    rw [abs_mul, abs_of_nonneg ratioPos]
    exact (mul_le_of_le_one_right (abs_nonneg _) ratioLe).trans secondOff
  have bent : |width * (ratio ^ 2 + ratio - 1)| ≤ defect * width := by
    rw [abs_mul, abs_of_nonneg nonneg, mul_comm]
    exact mul_le_mul_of_nonneg_right golden.solves nonneg
  rw [reused]
  calc |first - second * ratio - width * (ratio ^ 2 + ratio - 1)|
      ≤ |first - second * ratio| + |width * (ratio ^ 2 + ratio - 1)| := abs_sub _ _
    _ ≤ |first| + |second * ratio| + |width * (ratio ^ 2 + ratio - 1)| :=
        add_le_add_left (abs_sub _ _) _
    _ ≤ (2 * error + defect) * width := by linarith

theorem Near.left (near : Near ratio error s) (golden : Golden ratio defect)
    (small : error ≤ 1 / 10) : Near ratio (4 * error + 2 * defect) (s.left ratio) := by
  have ordered := near.ordered golden small
  have half := (near.half_le golden small).1
  have grown : 0 ≤ 2 * error + defect := by linarith [near.nonneg, golden.defect_nonneg]
  have reused : |s.c - (s.a + (s.d - s.a) * ratio)| ≤ (2 * error + defect) * (s.b - s.a) := by
    apply abs_reused_le golden (sub_nonneg.mpr near.ends) near.lower near.upper
    ring
  refine ⟨by linarith, ordered.low.trans ordered.middle, ?_, ?_⟩
  · have place : (s.left ratio).c - ((s.left ratio).b - ((s.left ratio).b - (s.left ratio).a) *
        ratio) = 0 := sub_self _
    rw [place, abs_zero]
    apply mul_nonneg (by linarith)
    exact sub_nonneg.mpr (ordered.low.trans ordered.middle)
  · calc |s.c - (s.a + (s.d - s.a) * ratio)|
        ≤ (2 * error + defect) * (s.b - s.a) := reused
      _ ≤ (2 * error + defect) * (2 * (s.d - s.a)) := mul_le_mul_of_nonneg_left half grown
      _ = (4 * error + 2 * defect) * (s.d - s.a) := by ring

theorem Near.right (near : Near ratio error s) (golden : Golden ratio defect)
    (small : error ≤ 1 / 10) : Near ratio (4 * error + 2 * defect) (s.right ratio) := by
  have ordered := near.ordered golden small
  have half := (near.half_le golden small).2
  have grown : 0 ≤ 2 * error + defect := by linarith [near.nonneg, golden.defect_nonneg]
  have reused : |s.d - (s.b - (s.b - s.c) * ratio)| ≤ (2 * error + defect) * (s.b - s.a) := by
    rw [abs_sub_comm]
    apply abs_reused_le golden (sub_nonneg.mpr near.ends)
      (by rw [abs_sub_comm]; exact near.upper) (by rw [abs_sub_comm]; exact near.lower)
    ring
  refine ⟨by linarith, ordered.middle.trans ordered.high, ?_, ?_⟩
  · calc |s.d - (s.b - (s.b - s.c) * ratio)|
        ≤ (2 * error + defect) * (s.b - s.a) := reused
      _ ≤ (2 * error + defect) * (2 * (s.b - s.c)) := mul_le_mul_of_nonneg_left half grown
      _ = (4 * error + 2 * defect) * (s.b - s.c) := by ring
  · have place : (s.right ratio).d - ((s.right ratio).a +
        ((s.right ratio).b - (s.right ratio).a) * ratio) = 0 := sub_self _
    rw [place, abs_zero]
    apply mul_nonneg (by linarith)
    exact sub_nonneg.mpr (ordered.middle.trans ordered.high)

/-- The error that some narrowings make of one. -/
def grown (defect : K) : ℕ → (error : K) → K
  | 0, error => error
  | n + 1, error => grown defect n (4 * error + 2 * defect)

theorem le_grown (defectNonneg : 0 ≤ defect) (nonneg : 0 ≤ error) (n : ℕ) :
    error ≤ grown defect n error := by
  induction n generalizing error with
  | zero => exact le_rfl
  | succ n ih =>
      have more : error ≤ 4 * error + 2 * defect := by linarith
      exact more.trans (ih (nonneg.trans more))

/-- As long as the error does not grow beyond a tenth, the bracket is narrowed within itself
and keeps its probes in order. -/
theorem Moves.ordered {n : ℕ} (moves : Moves ratio n s t) (near : Near ratio error s)
    (golden : Golden ratio defect) (small : grown defect n error ≤ 1 / 10) :
    t.Ordered ∧ s.a ≤ t.a ∧ t.b ≤ s.b := by
  induction moves generalizing error with
  | stop s => exact ⟨near.ordered golden small, le_rfl, le_rfl⟩
  | @left n s t rest ih =>
      have now := (le_grown golden.defect_nonneg near.nonneg (n + 1)).trans small
      have inside := near.ordered golden now
      rcases ih (near.left golden now) small with ⟨ordered, low, high⟩
      exact ⟨ordered, low, high.trans inside.high⟩
  | @right n s t rest ih =>
      have now := (le_grown golden.defect_nonneg near.nonneg (n + 1)).trans small
      have inside := near.ordered golden now
      rcases ih (near.right golden now) small with ⟨ordered, low, high⟩
      exact ⟨ordered, inside.low.trans low, high⟩

/-- The middle of a bracket with its probes in order is within it. -/
theorem Ordered.middle_mem (ordered : s.Ordered) :
    s.a ≤ (s.a + s.b) / 2 ∧ (s.a + s.b) / 2 ≤ s.b := by
  have ends : s.a ≤ s.b := ordered.low.trans (ordered.middle.trans ordered.high)
  constructor
  · linarith
  · linarith

end Bracket

end GoldenSection
