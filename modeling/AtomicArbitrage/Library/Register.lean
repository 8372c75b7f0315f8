import Mathlib.Data.List.Basic
import Mathlib.Order.MinMax

/-!
# Registers under stamped writes

A register holds one entry with a stamp.  A guarded write replaces it by a newer entry
only; what it holds after many writes does not depend on their order, up to entries of
the same stamp.
-/

namespace Register

variable {Entry Stamp : Type*} [LinearOrder Stamp]

/-- A write that gives way to an entry at least as new. -/
def guardedWrite (stamp : Entry → Stamp) (held entry : Entry) : Entry :=
  if stamp held < stamp entry then entry else held

variable {stamp : Entry → Stamp}

/-- After guarded writes the first entry is held while none is newer; otherwise a newer
one with the greatest stamp is. -/
theorem foldl_guardedWrite (held : Entry) (writes : List Entry) :
    (writes.foldl (guardedWrite stamp) held = held ∧
        ∀ entry ∈ writes, stamp entry ≤ stamp held) ∨
      (writes.foldl (guardedWrite stamp) held ∈ writes ∧
        stamp held < stamp (writes.foldl (guardedWrite stamp) held) ∧
        ∀ entry ∈ writes, stamp entry ≤ stamp (writes.foldl (guardedWrite stamp) held)) := by
  induction writes generalizing held with
  | nil => exact .inl ⟨rfl, nofun⟩
  | cons entry writes ih =>
      simp only [List.foldl_cons, List.forall_mem_cons]
      by_cases newer : stamp held < stamp entry
      · have written : guardedWrite stamp held entry = entry := if_pos newer
        rw [written]
        right
        rcases ih entry with ⟨same, older⟩ | ⟨inside, later, greatest⟩
        · rw [same]
          exact ⟨List.mem_cons_self .., newer, le_refl _, older⟩
        · exact ⟨List.mem_cons_of_mem _ inside, newer.trans later, later.le, greatest⟩
      · have kept : guardedWrite stamp held entry = held := if_neg newer
        rw [kept]
        rcases ih held with ⟨same, older⟩ | ⟨inside, later, greatest⟩
        · exact .inl ⟨same, not_lt.mp newer, older⟩
        · exact .inr ⟨List.mem_cons_of_mem _ inside, later,
            (not_lt.mp newer).trans later.le, greatest⟩

/-- A running maximum is the first value or one that was met, and bounds all of them. -/
theorem foldl_max (held : Stamp) (values : List Stamp) :
    (values.foldl max held = held ∨ values.foldl max held ∈ values) ∧
      held ≤ values.foldl max held ∧ ∀ value ∈ values, value ≤ values.foldl max held := by
  induction values generalizing held with
  | nil => exact ⟨.inl rfl, le_refl _, nofun⟩
  | cons value values ih =>
      rcases ih (max held value) with ⟨origin, above, bounds⟩
      simp only [List.foldl_cons, List.forall_mem_cons]
      refine ⟨?_, (le_max_left _ _).trans above, (le_max_right _ _).trans above, bounds⟩
      rcases origin with first | met
      · rw [first]
        rcases max_choice held value with left | right
        · exact .inl left
        · rw [right]
          exact .inr (List.mem_cons_self ..)
      · exact .inr (List.mem_cons_of_mem _ met)

end Register
