import Mathlib.Algebra.Group.Action.Defs
import Mathlib.Algebra.Order.BigOperators.Group.List
import Mathlib.Algebra.Order.Ring.Nat
import Mathlib.Data.List.Nodup

/-!
# Elements seen before

A filter that lets every element through once, until what it remembers grows too large and is
forgotten.  The elements it remembers are those it has let through since, in their order.
-/

/-- The elements that a filter has let through since it was last emptied. -/
structure Seen (α : Type*) where
  elements : List α
  distinct : elements.Nodup

namespace Seen

variable {α : Type*}

def empty : Seen α where
  elements := []
  distinct := .nil

instance : Inhabited (Seen α) := ⟨empty⟩

@[simp] theorem elements_empty : (empty : Seen α).elements = [] := rfl

/-- A set is emptied once it is larger than it may be. -/
def clearOver (seen : Seen α) (bound : ℕ) : Seen α :=
  if seen.elements.length > bound then empty else seen

theorem length_clearOver_le (seen : Seen α) (bound : ℕ) :
    (seen.clearOver bound).elements.length ≤ bound := by
  rw [clearOver]
  split
  · exact Nat.zero_le _
  · next small => exact Nat.le_of_not_gt small

/-! ## Periods -/

section

variable {bound : ℕ} {passed : List α} {seen : Seen α}

/-- What has passed from the start is what a filter has forgotten, period by period, and then
what it remembers; a period ends only when it is longer than the bound. -/
def Passed (bound : ℕ) (passed : List α) (seen : Seen α) : Prop :=
  ∃ forgotten : List (List α), passed = forgotten.flatten ++ seen.elements ∧
    ∀ period ∈ forgotten, period.Nodup ∧ bound < period.length

theorem Passed.empty : Passed bound [] (empty : Seen α) :=
  ⟨[], rfl, List.forall_mem_nil _⟩

theorem Passed.clearOver (history : Passed bound passed seen) :
    Passed bound passed (seen.clearOver bound) := by
  rw [Seen.clearOver]
  split
  · next large =>
      rcases history with ⟨forgotten, rfl, long⟩
      refine ⟨forgotten ++ [seen.elements], ?_, ?_⟩
      · rw [List.flatten_append, List.flatten_singleton, elements_empty, List.append_nil]
      · intro period member
        rcases List.mem_append.mp member with before | last
        · exact long period before
        · rw [List.mem_singleton.mp last]
          exact ⟨seen.distinct, large⟩
  · exact history

theorem Passed.mem (history : Passed bound passed seen) {element : α}
    (known : element ∈ seen.elements) : element ∈ passed := by
  rcases history with ⟨forgotten, rfl, _⟩
  exact List.mem_append_right _ known

theorem length_flatten_ge {periods : List (List α)}
    (long : ∀ period ∈ periods, bound < period.length) :
    periods.length * (bound + 1) ≤ periods.flatten.length := by
  rw [List.length_flatten, ← List.length_map List.length, ← smul_eq_mul]
  apply List.card_nsmul_le_sum
  intro length member
  rcases List.mem_map.mp member with ⟨period, inside, rfl⟩
  exact long period inside

end

/-! ## What passes -/

variable [DecidableEq α]

/-- Insert an element, and tell whether it is new. -/
def insert (seen : Seen α) (element : α) : Bool × Seen α :=
  if fresh : element ∈ seen.elements then (false, seen)
  else
    (true,
      { elements := seen.elements ++ [element]
        distinct := List.nodup_append'.mpr
          ⟨seen.distinct, List.nodup_singleton _, List.disjoint_singleton.mpr fresh⟩ })

/-- The elements of a list that are new when their turn comes. -/
def filter (seen : Seen α) : List α → List α × Seen α
  | [] => ([], seen)
  | element :: rest =>
      let (fresh, seen) := seen.insert element
      let (passed, seen) := seen.filter rest
      (if fresh then element :: passed else passed, seen)

theorem insert_of_mem {seen : Seen α} {element : α} (known : element ∈ seen.elements) :
    seen.insert element = (false, seen) := dif_pos known

theorem insert_of_notMem {seen : Seen α} {element : α} (fresh : element ∉ seen.elements) :
    (seen.insert element).1 = true ∧
      (seen.insert element).2.elements = seen.elements ++ [element] := by
  rw [insert, dif_neg fresh]
  exact ⟨rfl, rfl⟩

/-- What has passed is remembered behind what was remembered before. -/
theorem elements_filter (seen : Seen α) (list : List α) :
    (seen.filter list).2.elements = seen.elements ++ (seen.filter list).1 := by
  induction list generalizing seen with
  | nil => exact (List.append_nil _).symm
  | cons element rest ih =>
      by_cases known : element ∈ seen.elements
      · simp only [filter, insert_of_mem known, Bool.false_eq_true, if_false]
        exact ih seen
      · have inserted := insert_of_notMem known
        simp only [filter, inserted.1, if_true]
        rw [ih, inserted.2, List.append_assoc, List.singleton_append]

/-- Everything passes that was not remembered. -/
theorem mem_filter {seen : Seen α} {list : List α} {element : α} :
    element ∈ (seen.filter list).1 ↔ element ∈ list ∧ element ∉ seen.elements := by
  induction list generalizing seen with
  | nil => simp [filter]
  | cons first rest ih =>
      by_cases known : first ∈ seen.elements
      · simp only [filter, insert_of_mem known, Bool.false_eq_true, if_false, List.mem_cons]
        rw [ih]
        constructor
        · exact fun both => ⟨.inr both.1, both.2⟩
        · rintro ⟨same | later, unseen⟩
          · exact absurd (same ▸ known) unseen
          · exact ⟨later, unseen⟩
      · have inserted := insert_of_notMem known
        simp only [filter, inserted.1, if_true, List.mem_cons]
        rw [ih, inserted.2, List.mem_append, List.mem_singleton]
        by_cases same : element = first
        · subst same
          simp [known]
        · simp [same]

/-- Nothing passes twice. -/
theorem nodup_filter (seen : Seen α) (list : List α) : (seen.filter list).1.Nodup := by
  have distinct := (seen.filter list).2.distinct
  rw [elements_filter] at distinct
  exact distinct.sublist (List.sublist_append_right _ _)

variable {bound : ℕ} {passed : List α} {seen : Seen α}

theorem Passed.filter (history : Passed bound passed seen) (list : List α) :
    Passed bound (passed ++ (seen.filter list).1) (seen.filter list).2 := by
  rcases history with ⟨forgotten, rfl, long⟩
  refine ⟨forgotten, ?_, long⟩
  rw [elements_filter, List.append_assoc]

theorem count_flatten_le {periods : List (List α)} (distinct : ∀ period ∈ periods, period.Nodup)
    (element : α) : periods.flatten.count element ≤ periods.length := by
  rw [List.count_flatten, ← List.length_map (List.count element),
    ← Nat.mul_one (List.length _), ← smul_eq_mul]
  apply List.sum_le_card_nsmul
  intro count member
  rcases List.mem_map.mp member with ⟨period, inside, rfl⟩
  exact List.nodup_iff_count_le_one.mp (distinct period inside) element

/-- An element passes once, and again only when more than the bound have passed. -/
theorem Passed.count_le (history : Passed bound passed seen) (element : α) :
    passed.count element ≤ passed.length / (bound + 1) + 1 := by
  rcases history with ⟨forgotten, rfl, long⟩
  have before := count_flatten_le (fun period inside => (long period inside).1) element
  have now := List.nodup_iff_count_le_one.mp seen.distinct element
  have periods : forgotten.length ≤ (forgotten.flatten ++ seen.elements).length / (bound + 1) := by
    apply (Nat.le_div_iff_mul_le (Nat.succ_pos bound)).mpr
    have lengths := length_flatten_ge fun period inside => (long period inside).2
    rw [List.length_append]
    exact lengths.trans (Nat.le_add_right _ _)
  rw [List.count_append]
  exact Nat.add_le_add (before.trans periods) now

end Seen
