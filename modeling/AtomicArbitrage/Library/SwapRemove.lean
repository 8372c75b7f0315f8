import Mathlib.Data.List.Perm.Basic
import Mathlib.Data.List.Basic

/-!
# Removal by swapping

An array drops an entry by moving its last one into the gap.  The order of the entries
changes; which entries are left does not depend on that, as long as places are visited
from the back to the front.
-/

namespace SwapRemove

variable {α : Type*}

/-- The last entry takes the place of the dropped one.  A place out of range is refused. -/
def swapRemove? (entries : List α) (place : Nat) : Option (List α) :=
  match entries.getLast? with
  | none => none
  | some last =>
      if place < entries.length then some ((entries.set place last).dropLast) else none

/-- Drops the entries at some places, the last place first. -/
def removeAll (places : List Nat) (entries : List α) : Option (List α) :=
  places.reverse.foldlM swapRemove? entries

/-- The places of the true marks, counted from `start`. -/
def places : List Bool → (start : Nat) → List Nat
  | [], _ => []
  | true :: marks, start => start :: places marks (start + 1)
  | false :: marks, start => places marks (start + 1)

/-- The entries under the true marks. -/
def marked : List Bool → List α → List α
  | true :: marks, entry :: entries => entry :: marked marks entries
  | false :: marks, _ :: entries => marked marks entries
  | _, _ => []

@[simp] theorem marked_nil (marks : List Bool) : marked marks ([] : List α) = [] := by
  cases marks with
  | nil => rfl
  | cons mark marks => cases mark <;> rfl

theorem places_succ (marks : List Bool) (start : Nat) :
    places marks (start + 1) = (places marks start).map (· + 1) := by
  induction marks generalizing start with
  | nil => rfl
  | cons mark marks ih =>
      cases mark with
      | false => exact ih (start + 1)
      | true => exact congrArg (_ :: ·) (ih (start + 1))

/-- Dropping a place behind the first entry leaves that entry where it is. -/
theorem swapRemove?_succ (entry : α) {entries : List α} {place : Nat} :
    swapRemove? (entry :: entries) (place + 1) =
      (swapRemove? entries place).map (entry :: ·) := by
  cases shape : entries with
  | nil => simp [swapRemove?]
  | cons next rest =>
      have last : (entry :: next :: rest).getLast? = (next :: rest).getLast? := by
        rw [List.getLast?_cons_cons]
      simp only [swapRemove?]
      rw [last]
      cases (next :: rest).getLast? with
      | none => rfl
      | some value =>
          by_cases inside : place < (next :: rest).length
          · have inside' : place + 1 < (entry :: next :: rest).length :=
              Nat.succ_lt_succ inside
            have filled : (next :: rest).set place value ≠ [] := by
              rw [ne_eq, List.set_eq_nil_iff]
              exact List.cons_ne_nil next rest
            simp only [inside, inside', if_true, List.set_cons_succ, Option.map_some,
              List.dropLast_cons_of_ne_nil filled]
          · have outside : ¬place + 1 < (entry :: next :: rest).length :=
              fun within => inside (Nat.lt_of_succ_lt_succ within)
            simp only [inside, outside, if_false, Option.map_none]

/-- Dropping the first entry leaves the others, in some order. -/
theorem swapRemove?_zero (entry : α) (entries : List α) :
    ∃ left, swapRemove? (entry :: entries) 0 = some left ∧ left.Perm entries := by
  rcases List.eq_nil_or_concat entries with rfl | ⟨front, last, rfl⟩
  · exact ⟨[], rfl, .nil⟩
  · rw [List.concat_eq_append]
    refine ⟨last :: front, ?_, (List.perm_append_singleton last front).symm⟩
    have ends : (entry :: (front ++ [last])).getLast? = some last := by
      rw [← List.cons_append, List.getLast?_concat]
    simp only [swapRemove?, ends, List.length_cons, Nat.zero_lt_succ, if_true,
      List.set_cons_zero]
    rw [← List.cons_append, List.dropLast_concat]

theorem length_swapRemove? {entries left : List α} {place : Nat}
    (dropped : swapRemove? entries place = some left) : left.length + 1 = entries.length := by
  rw [swapRemove?] at dropped
  split at dropped
  · exact absurd dropped nofun
  · split at dropped
    · next inside =>
        rw [← Option.some_inj.mp dropped, List.length_dropLast, List.length_set]
        omega
    · exact absurd dropped nofun

/-- Only a place out of range is refused. -/
theorem outside_of_swapRemove? {entries : List α} {place : Nat}
    (refused : swapRemove? entries place = none) : entries[place]? = none := by
  rw [swapRemove?] at refused
  cases entries with
  | nil => rfl
  | cons entry entries =>
      rw [List.getLast?_cons] at refused
      simp only at refused
      split at refused
      · cases refused
      · next outside => exact List.getElem?_eq_none (Nat.not_lt.mp outside)

/-- The dropped entry stood at its place, and the others are left. -/
theorem perm_of_swapRemove? {entries left : List α} {place : Nat}
    (dropped : swapRemove? entries place = some left) :
    ∃ entry, entries[place]? = some entry ∧ (entry :: left).Perm entries := by
  induction place generalizing entries left with
  | zero =>
      cases entries with
      | nil => cases dropped
      | cons entry entries =>
          rcases swapRemove?_zero entry entries with ⟨others, found, permuted⟩
          rw [dropped, Option.some_inj] at found
          rw [found]
          exact ⟨entry, rfl, permuted.cons entry⟩
  | succ place ih =>
      cases entries with
      | nil => cases dropped
      | cons head entries =>
          rw [swapRemove?_succ] at dropped
          rcases Option.map_eq_some_iff.mp dropped with ⟨others, inner, rfl⟩
          rcases ih inner with ⟨entry, found, permuted⟩
          exact ⟨entry, found, (List.Perm.swap head entry others).trans (permuted.cons head)⟩

/-- Any entry can be dropped from some place. -/
theorem exists_swapRemove? {entry : α} {entries : List α} (inside : entry ∈ entries) :
    ∃ place left, entries[place]? = some entry ∧ swapRemove? entries place = some left ∧
      (entry :: left).Perm entries := by
  rcases List.getElem?_of_mem inside with ⟨place, found⟩
  cases dropped : swapRemove? entries place with
  | none =>
      rw [outside_of_swapRemove? dropped] at found
      cases found
  | some left =>
      rcases perm_of_swapRemove? dropped with ⟨other, same, permuted⟩
      rw [found, Option.some_inj] at same
      subst same
      exact ⟨place, left, found, dropped, permuted⟩

theorem removeAll_succ (entry : α) (places : List Nat) (entries : List α) :
    removeAll (places.map (· + 1)) (entry :: entries) =
      (removeAll places entries).map (entry :: ·) := by
  simp only [removeAll]
  rw [List.foldlM_reverse, List.foldlM_reverse]
  induction places with
  | nil => rfl
  | cons place places ih =>
      rw [List.map_cons, List.foldrM_cons, List.foldrM_cons, ih]
      cases List.foldrM (fun place entries => swapRemove? entries place) entries places with
      | none => rfl
      | some left => exact swapRemove?_succ entry

theorem removeAll_cons (place : Nat) (places : List Nat) (entries : List α) :
    removeAll (place :: places) entries =
      (removeAll places entries).bind (swapRemove? · place) := by
  simp only [removeAll]
  rw [List.foldlM_reverse, List.foldlM_reverse, List.foldrM_cons]
  rfl

/-- Removal at the true marks succeeds, and what it drops and what it leaves make up the
entries. -/
theorem removeAll_places (marks : List Bool) (entries : List α)
    (fits : marks.length ≤ entries.length) :
    ∃ left, removeAll (places marks 0) entries = some left ∧
      (marked marks entries ++ left).Perm entries := by
  induction marks generalizing entries with
  | nil => exact ⟨entries, rfl, .refl entries⟩
  | cons mark marks ih =>
      cases entries with
      | nil => exact absurd fits (Nat.not_succ_le_zero _)
      | cons entry entries =>
          rcases ih entries (Nat.le_of_succ_le_succ fits) with ⟨left, removed, together⟩
          have behind : removeAll (places marks 1) (entry :: entries) =
              some (entry :: left) := by
            rw [places_succ, removeAll_succ, removed, Option.map_some]
          cases mark with
          | false =>
              refine ⟨entry :: left, behind, ?_⟩
              exact List.perm_middle.trans (together.cons entry)
          | true =>
              rcases swapRemove?_zero entry left with ⟨rest, dropped, same⟩
              refine ⟨rest, ?_, ?_⟩
              · exact (removeAll_cons 0 (places marks 1) _).trans (by rw [behind]; exact dropped)
              · exact ((same.append_left _).trans together).cons entry

/-- As many entries are dropped as there are places. -/
theorem length_marked (marks : List Bool) (start : Nat) (entries : List α)
    (fits : marks.length ≤ entries.length) :
    (marked marks entries).length = (places marks start).length := by
  induction marks generalizing start entries with
  | nil => rfl
  | cons mark marks ih =>
      cases entries with
      | nil => exact absurd fits (Nat.not_succ_le_zero _)
      | cons entry entries =>
          have rest := ih (start + 1) entries (Nat.le_of_succ_le_succ fits)
          cases mark with
          | false => exact rest
          | true => exact congrArg Nat.succ rest

/-- Marks that are all false drop nothing. -/
theorem marked_of_false {marks : List Bool} (entries : List α)
    (none : ∀ mark ∈ marks, mark = false) : marked marks entries = [] := by
  induction marks generalizing entries with
  | nil => rfl
  | cons mark marks ih =>
      have first : mark = false := none mark (List.mem_cons_self ..)
      subst first
      cases entries with
      | nil => rfl
      | cons entry entries =>
          exact ih entries fun mark inside => none mark (List.mem_cons_of_mem _ inside)

/-- Marks behind the last true one do not matter: what is dropped lies in a front. -/
theorem marked_sublist_front {marks later : List Bool} (front back : List α)
    (fits : marks.length ≤ front.length) (none : ∀ mark ∈ later, mark = false) :
    (marked (marks ++ later) (front ++ back)).Sublist front := by
  induction marks generalizing front with
  | nil =>
      rw [List.nil_append, marked_of_false _ none]
      exact List.nil_sublist front
  | cons mark marks ih =>
      cases front with
      | nil => exact absurd fits (Nat.not_succ_le_zero _)
      | cons entry front =>
          have rest := ih front (Nat.le_of_succ_le_succ fits)
          cases mark with
          | false => exact rest.cons entry
          | true => exact rest.cons_cons entry

end SwapRemove
