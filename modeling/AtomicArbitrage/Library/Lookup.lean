import Mathlib.Data.List.Forall2

/-!
# Reading a table through indices

A list of values stands for a list of indices into a table.  Two tables give the same
values exactly when they agree on the indices that are used, and two tables with a
common front differ behind it only.
-/

namespace Lookup

variable {α β : Type*}

/-- `values` are the entries of `table` at `indices`, all of them present. -/
def Reads (table : List α) (indices : List Nat) (values : List α) : Prop :=
  List.Forall₂ (fun index value => table[index]? = some value) indices values

variable {table other : List α} {indices : List Nat} {values : List α}

/-- Another table gives the same values exactly when it agrees on every index used. -/
theorem Reads.iff_agree (reads : Reads table indices values) :
    Reads other indices values ↔ ∀ index ∈ indices, other[index]? = table[index]? := by
  rw [Reads] at reads ⊢
  induction reads with
  | nil => simp
  | @cons index value indices values entry _ ih =>
      rw [List.forall₂_cons, List.forall_mem_cons, ih, entry]

/-- A relation that reads a table, lifted to lists: agreement on the indices of every
element is agreement on all of them. -/
theorem forall₂_iff_agree {γ : Type*}
    {reads : List α → β → γ → Prop} {used : β → List Nat}
    (step : ∀ {element result}, reads table element result →
      (reads other element result ↔ ∀ index ∈ used element, other[index]? = table[index]?))
    {elements : List β} {results : List γ}
    (all : List.Forall₂ (reads table) elements results) :
    List.Forall₂ (reads other) elements results ↔
      ∀ index ∈ elements.flatMap used, other[index]? = table[index]? := by
  induction all with
  | nil => simp
  | @cons element result elements results head _ ih =>
      rw [List.forall₂_cons, step head, ih, List.flatMap_cons]
      simp only [List.mem_append, or_imp, forall_and]

/-- Tables with a common front agree wherever their backs do. -/
theorem append_agree_iff {front back back' : List α} {index : Nat} :
    (front ++ back)[index]? = (front ++ back')[index]? ↔
      (front.length ≤ index → back[index - front.length]? = back'[index - front.length]?) := by
  rcases Nat.lt_or_ge index front.length with inside | behind
  · rw [List.getElem?_append_left inside, List.getElem?_append_left inside]
    exact iff_of_true rfl fun behind => absurd inside (Nat.not_lt.mpr behind)
  · rw [List.getElem?_append_right behind, List.getElem?_append_right behind]
    exact (imp_iff_right behind).symm

/-- Related lists grow at their ends by related elements. -/
theorem forall₂_concat_iff {related : α → β → Prop} {left : List α} {right : List β}
    {last : α} {last' : β} :
    List.Forall₂ related (left ++ [last]) (right ++ [last']) ↔
      List.Forall₂ related left right ∧ related last last' := by
  rw [← List.forall₂_reverse_iff, List.reverse_append, List.reverse_append]
  simp only [List.reverse_cons, List.reverse_nil, List.nil_append, List.cons_append,
    List.forall₂_cons, List.forall₂_reverse_iff]
  exact and_comm

/-! ## First positions in a byte -/

variable [DecidableEq α]

/-- A first position cut down to a byte finds its value exactly when the byte holds it:
a smaller position is before the first one. -/
theorem getElem?_byte_idxOf_iff {rest : List α} {value : α} (present : value ∈ table) :
    (table ++ rest)[(UInt8.ofNat (table.idxOf value)).toNat]? = some value ↔
      table.idxOf value < 256 := by
  have inside : table.idxOf value < table.length := List.idxOf_lt_length_of_mem present
  rw [UInt8.toNat_ofNat']
  constructor
  · intro found
    by_contra large
    have before : table.idxOf value % 2 ^ 8 < table.idxOf value := by omega
    rw [List.getElem?_append_left (Nat.lt_trans before inside),
      List.getElem?_eq_getElem (Nat.lt_trans before inside), Option.some_inj] at found
    have distinct := List.not_of_lt_findIdx (show _ < table.findIdx (· == value) from before)
    exact beq_eq_false_iff_ne.mp distinct found
  · intro small
    rw [Nat.mod_eq_of_lt small, List.getElem?_append_left inside,
      List.getElem?_eq_getElem inside, List.getElem_idxOf]

end Lookup
