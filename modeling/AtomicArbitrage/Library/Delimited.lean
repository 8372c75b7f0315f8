import Mathlib.Data.List.Basic

/-!
# Words between separators

Splitting a text at its separators finds exactly the words that stand between two separators,
or between a separator and an end of the text.
-/

namespace Delimited

variable {α : Type*}

/-- A word without separators stands in a text, with a separator or an end of the text on
either side. -/
structure Stands (separates : α → Bool) (front word back text : List α) : Prop where
  placed : text = front ++ (word ++ back)
  plain : ∀ character ∈ word, separates character = false
  opened : ∀ character ∈ front.getLast?, separates character = true
  closed : ∀ character ∈ back.head?, separates character = true

variable {separates : α → Bool} {front word back text : List α}

/-- The first word of a text ends where the first separator stands. -/
theorem exists_first (separates : α → Bool) (text : List α) :
    (∀ character ∈ text, separates character = false) ∨
      ∃ word separator rest, text = word ++ separator :: rest ∧ separates separator = true ∧
        ∀ character ∈ word, separates character = false := by
  induction text with
  | nil => exact .inl nofun
  | cons character text ih =>
      cases marks : separates character with
      | true => exact .inr ⟨[], character, text, rfl, marks, nofun⟩
      | false =>
          rcases ih with plain | ⟨word, separator, rest, rfl, separating, plain⟩
          · exact .inl (List.forall_mem_cons.mpr ⟨marks, plain⟩)
          · exact .inr ⟨character :: word, separator, rest, rfl, separating,
              List.forall_mem_cons.mpr ⟨marks, plain⟩⟩

theorem Stands.mem_splitOnP (stands : Stands separates front word back text) :
    word ∈ text.splitOnP separates := by
  have behind : word ∈ (word ++ back).splitOnP separates := by
    cases back with
    | nil =>
        rw [List.append_nil, List.splitOnP_eq_singleton stands.plain]
        exact List.mem_singleton_self word
    | cons separator back =>
        rw [List.splitOnP_append_cons_of_forall_mem stands.plain separator
          (stands.closed separator rfl)]
        exact List.mem_cons_self ..
  rw [stands.placed]
  rcases List.eq_nil_or_concat front with rfl | ⟨earlier, separator, rfl⟩
  · exact behind
  · rw [List.concat_eq_append] at *
    have separating : separates separator = true := stands.opened separator List.getLast?_concat
    rw [List.append_assoc, List.singleton_append, List.splitOnP_append_cons _ _ separating]
    exact List.mem_append_right _ behind

theorem exists_stands (length : ℕ) (text : List α) (short : text.length ≤ length)
    (inside : word ∈ text.splitOnP separates) :
    ∃ front back, Stands separates front word back text := by
  induction length generalizing text with
  | zero =>
      rw [List.length_eq_zero_iff.mp (Nat.le_zero.mp short), List.splitOnP_nil,
        List.mem_singleton] at inside
      subst inside
      exact ⟨[], [], List.length_eq_zero_iff.mp (Nat.le_zero.mp short), nofun, nofun, nofun⟩
  | succ length ih =>
      rcases exists_first separates text with plain | ⟨first, separator, rest, rfl, marks, plain⟩
      · rw [List.splitOnP_eq_singleton plain, List.mem_singleton] at inside
        subst inside
        exact ⟨[], [], (List.append_nil word).symm, plain, nofun, nofun⟩
      · rw [List.splitOnP_append_cons_of_forall_mem plain separator marks,
          List.mem_cons] at inside
        rcases inside with same | later
        · subst same
          refine ⟨[], separator :: rest, rfl, plain, nofun, ?_⟩
          intro character head
          rw [List.head?_cons, Option.mem_some_iff] at head
          rw [← head]
          exact marks
        · have shorter : rest.length ≤ length := by
            rw [List.length_append, List.length_cons] at short
            omega
          rcases ih rest shorter later with ⟨front, back, stands⟩
          refine ⟨first ++ separator :: front, back, ?_, stands.plain, ?_, stands.closed⟩
          · rw [stands.placed, List.append_assoc, List.cons_append]
          · intro character last
            rw [List.getLast?_append_of_ne_nil _ (List.cons_ne_nil _ _)] at last
            cases front with
            | nil =>
                rw [List.getLast?_singleton, Option.mem_some_iff] at last
                rw [← last]
                exact marks
            | cons head front =>
                rw [List.getLast?_cons_cons] at last
                exact stands.opened character last

/-- The words of a text are those that stand in it. -/
theorem mem_splitOnP_iff :
    word ∈ text.splitOnP separates ↔ ∃ front back, Stands separates front word back text := by
  constructor
  · exact exists_stands text.length text (Nat.le_refl _)
  · rintro ⟨front, back, stands⟩
    exact stands.mem_splitOnP

end Delimited
