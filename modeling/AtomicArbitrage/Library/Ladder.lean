import Mathlib.Algebra.BigOperators.Group.List.Basic
import Mathlib.Algebra.Order.Ring.Nat
import Mathlib.Algebra.Order.Sub.Basic
import Mathlib.Data.List.Infix

/-!
# Ladders

An amount is spent along a list of levels.  A level takes at most its depth, and pays for
what it takes; the first one that can take all that is left ends the walk.
-/

namespace Ladder

variable {Level : Type*} (depth : Level → ℕ) (pay : Level → ℕ → ℕ)

/-- What the levels pay for an amount. -/
def fill : List Level → ℕ → ℕ
  | [], _ => 0
  | level :: levels, amount =>
      if amount ≤ depth level then pay level amount
      else pay level (depth level) + fill levels (amount - depth level)

/-- The levels that an amount comes to. -/
def reached : List Level → ℕ → List Level
  | [], _ => []
  | level :: levels, amount =>
      level :: if amount ≤ depth level then [] else reached levels (amount - depth level)

/-- What some levels take together. -/
def capacity (levels : List Level) : ℕ := (levels.map depth).sum

/-- What some levels pay together. -/
def payout (levels : List Level) : ℕ := (levels.map fun level => pay level (depth level)).sum

/-- No level pays less for more. -/
def Increasing : Prop :=
  ∀ level less more, less ≤ more → more ≤ depth level → pay level less ≤ pay level more

variable {depth pay} {levels : List Level} {amount : ℕ}

section

variable {level : Level}

theorem fill_cons_of_le (ends : amount ≤ depth level) :
    fill depth pay (level :: levels) amount = pay level amount :=
  if_pos ends

theorem fill_cons_of_lt (exhausts : depth level < amount) :
    fill depth pay (level :: levels) amount =
      pay level (depth level) + fill depth pay levels (amount - depth level) :=
  if_neg (Nat.not_le.mpr exhausts)

theorem reached_cons_of_le (ends : amount ≤ depth level) :
    reached depth (level :: levels) amount = [level] := by
  rw [reached, if_pos ends]

theorem reached_cons_of_lt (exhausts : depth level < amount) :
    reached depth (level :: levels) amount =
      level :: reached depth levels (amount - depth level) := by
  rw [reached, if_neg (Nat.not_le.mpr exhausts)]

@[simp] theorem capacity_cons :
    capacity depth (level :: levels) = depth level + capacity depth levels := by
  rw [capacity, List.map_cons, List.sum_cons, capacity]

@[simp] theorem payout_cons :
    payout depth pay (level :: levels) = pay level (depth level) + payout depth pay levels := by
  rw [payout, List.map_cons, List.sum_cons, payout]

end

/-! ## The levels that are reached -/

theorem reached_isInitial (levels : List Level) (amount : ℕ) :
    reached depth levels amount <+: levels := by
  induction levels generalizing amount with
  | nil => exact List.prefix_rfl
  | cons level levels ih =>
      rcases Nat.lt_or_ge (depth level) amount with exhausts | ends
      · rw [reached_cons_of_lt exhausts]
        exact List.cons_prefix_cons.mpr ⟨rfl, ih _⟩
      · rw [reached_cons_of_le ends]
        exact List.cons_prefix_cons.mpr ⟨rfl, List.nil_prefix⟩

/-- Only the levels that are reached pay. -/
theorem fill_reached (levels : List Level) (amount : ℕ) :
    fill depth pay (reached depth levels amount) amount = fill depth pay levels amount := by
  induction levels generalizing amount with
  | nil => rfl
  | cons level levels ih =>
      rcases Nat.lt_or_ge (depth level) amount with exhausts | ends
      · rw [reached_cons_of_lt exhausts, fill_cons_of_lt exhausts, fill_cons_of_lt exhausts, ih]
      · rw [reached_cons_of_le ends, fill_cons_of_le ends, fill_cons_of_le ends]

/-- Some amount reaches any number of levels, if every level takes something. -/
theorem exists_length_reached (deep : ∀ level ∈ levels, 0 < depth level) {count : ℕ}
    (some : 0 < count) (within : count ≤ levels.length) :
    ∃ amount, 0 < amount ∧ amount ≤ capacity depth levels ∧
      (reached depth levels amount).length = count := by
  induction levels generalizing count with
  | nil => exact absurd within (Nat.not_le.mpr some)
  | cons level levels ih =>
      have positive := deep level List.mem_cons_self
      cases count with
      | zero => exact absurd some (Nat.lt_irrefl 0)
      | succ count =>
          rcases Nat.eq_zero_or_pos count with rfl | more
          · refine ⟨1, Nat.one_pos, ?_, ?_⟩
            · rw [capacity_cons]
              exact Nat.le_add_right_of_le positive
            · rw [reached_cons_of_le positive, List.length_singleton]
          · have rest := ih (fun other inside => deep other (List.mem_cons_of_mem _ inside)) more
              (Nat.le_of_succ_le_succ within)
            rcases rest with ⟨amount, paid, inside, length⟩
            have exhausts : depth level < depth level + amount := Nat.lt_add_of_pos_right paid
            refine ⟨depth level + amount, Nat.add_pos_left positive _, ?_, ?_⟩
            · rw [capacity_cons]
              exact Nat.add_le_add_left inside _
            · rw [reached_cons_of_lt exhausts, Nat.add_sub_cancel_left, List.length_cons,
                length]

/-! ## Bounds -/

/-- More spent is not less paid: the walk for less ends first, or both leave the level. -/
theorem fill_mono (increasing : Increasing depth pay) (levels : List Level) :
    Monotone (fill depth pay levels) := by
  induction levels with
  | nil => exact monotone_const
  | cons level levels ih =>
      intro less more le
      rcases Nat.lt_or_ge (depth level) more with exhausts | ends
      · rw [fill_cons_of_lt exhausts]
        rcases Nat.lt_or_ge (depth level) less with both | ends
        · rw [fill_cons_of_lt both]
          exact Nat.add_le_add_left (ih (Nat.sub_le_sub_right le _)) _
        · rw [fill_cons_of_le ends]
          exact Nat.le_add_right_of_le (increasing level less _ ends (Nat.le_refl _))
      · rw [fill_cons_of_le ends, fill_cons_of_le (le.trans ends)]
        exact increasing level less more le ends

theorem fill_le_payout (increasing : Increasing depth pay) (levels : List Level) (amount : ℕ) :
    fill depth pay levels amount ≤ payout depth pay levels := by
  induction levels generalizing amount with
  | nil => exact Nat.le_refl 0
  | cons level levels ih =>
      rw [payout_cons]
      rcases Nat.lt_or_ge (depth level) amount with exhausts | ends
      · rw [fill_cons_of_lt exhausts]
        exact Nat.add_le_add_left (ih _) _
      · rw [fill_cons_of_le ends]
        exact Nat.le_add_right_of_le (increasing level amount _ ends (Nat.le_refl _))

/-- What the levels can take is paid in full. -/
theorem fill_of_capacity_le (deep : ∀ level ∈ levels, 0 < depth level)
    (covered : capacity depth levels ≤ amount) :
    fill depth pay levels amount = payout depth pay levels := by
  induction levels generalizing amount with
  | nil => rfl
  | cons level levels ih =>
      rw [capacity_cons] at covered
      rcases Nat.lt_or_ge (depth level) amount with exhausts | ends
      · rw [fill_cons_of_lt exhausts, payout_cons,
          ih (fun other inside => deep other (List.mem_cons_of_mem _ inside))]
        exact Nat.le_sub_of_add_le' covered
      · have last : levels = [] := by
          cases levels with
          | nil => rfl
          | cons next levels =>
              have positive := deep next (List.mem_cons_of_mem _ List.mem_cons_self)
              rw [capacity_cons] at covered
              omega
        subst last
        have equal : amount = depth level := Nat.le_antisymm ends (le_of_add_le_left covered)
        rw [fill_cons_of_le ends, payout_cons, equal]
        rfl

/-- A walk along images of levels. -/
theorem fill_map {Image : Type*} (image : Level → Image) (depth : Image → ℕ)
    (pay : Image → ℕ → ℕ) (levels : List Level) (amount : ℕ) :
    fill depth pay (levels.map image) amount =
      fill (fun level => depth (image level)) (fun level => pay (image level)) levels amount := by
  induction levels generalizing amount with
  | nil => rfl
  | cons level levels ih => rw [List.map_cons, fill, fill, ih]

/-! ## Two ways to pay -/

/-- Levels that pay the same for all they can take pay the same for every amount. -/
theorem fill_congr {other : Level → ℕ → ℕ}
    (same : ∀ level ∈ levels, ∀ taken ≤ depth level, pay level taken = other level taken)
    (amount : ℕ) : fill depth pay levels amount = fill depth other levels amount := by
  induction levels generalizing amount with
  | nil => rfl
  | cons level levels ih =>
      have head := same level List.mem_cons_self
      rcases Nat.lt_or_ge (depth level) amount with exhausts | ends
      · rw [fill_cons_of_lt exhausts, fill_cons_of_lt exhausts, head _ (Nat.le_refl _),
          ih fun next inside => same next (List.mem_cons_of_mem _ inside)]
      · rw [fill_cons_of_le ends, fill_cons_of_le ends, head _ ends]

theorem fill_add (other : Level → ℕ → ℕ) (levels : List Level) (amount : ℕ) :
    fill depth (fun level taken => pay level taken + other level taken) levels amount =
      fill depth pay levels amount + fill depth other levels amount := by
  induction levels generalizing amount with
  | nil => rfl
  | cons level levels ih =>
      rcases Nat.lt_or_ge (depth level) amount with exhausts | ends
      · rw [fill_cons_of_lt exhausts, fill_cons_of_lt exhausts, fill_cons_of_lt exhausts, ih,
          Nat.add_add_add_comm]
      · rw [fill_cons_of_le ends, fill_cons_of_le ends, fill_cons_of_le ends]

/-- Where one way never pays more than another, the difference is what the walk loses. -/
theorem fill_add_fill_sub {other : Level → ℕ → ℕ}
    (less : ∀ level ∈ levels, ∀ taken ≤ depth level, other level taken ≤ pay level taken)
    (amount : ℕ) :
    fill depth other levels amount +
        fill depth (fun level taken => pay level taken - other level taken) levels amount =
      fill depth pay levels amount := by
  rw [← fill_add]
  apply fill_congr
  intro level inside taken within
  exact Nat.add_sub_of_le (less level inside taken within)

end Ladder
