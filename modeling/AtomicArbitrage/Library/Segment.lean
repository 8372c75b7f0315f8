import Mathlib.Data.List.Basic

/-!
# Segments of a list

A list laid out in consecutive blocks is read through base-plus-offset indices.  A
segment says where a block starts, so that an index into the whole list becomes an
index into the block, whatever surrounds it.
-/

namespace Segment

variable {α β : Type*}

/-- `block` occupies the positions of `whole` from `base` on. -/
def At (whole : List α) (base : Nat) (block : List α) : Prop :=
  ∃ front back, whole = front ++ (block ++ back) ∧ front.length = base

variable {whole block : List α} {base : Nat}

namespace At

/-- Reading inside a block. -/
theorem getElem? (placed : At whole base block) {offset : Nat}
    (inside : offset < block.length) : whole[base + offset]? = block[offset]? := by
  rcases placed with ⟨front, back, rfl, rfl⟩
  rw [List.getElem?_append_right (by omega), Nat.add_sub_cancel_left,
    List.getElem?_append_left inside]

/-- Reading a known element of a block. -/
theorem read (placed : At whole base block) {offset : Nat} {value : α}
    (entry : block[offset]? = some value) : whole[base + offset]? = some value := by
  have inside : offset < block.length := (List.getElem?_eq_some_iff.mp entry).1
  rw [placed.getElem? inside, entry]

/-- Reading inside a block, with a default for positions outside the list. -/
theorem getD (placed : At whole base block) {offset : Nat} (inside : offset < block.length)
    (fallback : α) : whole.getD (base + offset) fallback = block.getD offset fallback := by
  rw [List.getD_eq_getElem?_getD, List.getD_eq_getElem?_getD, placed.getElem? inside]

theorem length_le (placed : At whole base block) : base + block.length ≤ whole.length := by
  rcases placed with ⟨front, back, rfl, rfl⟩
  simp only [List.length_append]
  omega

/-- The first part of a block starts where the block does. -/
theorem left {first second : List α} (placed : At whole base (first ++ second)) :
    At whole base first := by
  rcases placed with ⟨front, back, rfl, width⟩
  exact ⟨front, second ++ back, by simp, width⟩

/-- The second part of a block starts after the first. -/
theorem right {first second : List α} (placed : At whole base (first ++ second)) :
    At whole (base + first.length) second := by
  rcases placed with ⟨front, back, rfl, rfl⟩
  exact ⟨front ++ first, back, by simp, by simp⟩

/-- A part of a block is a block, at the shifted position. -/
theorem slice (placed : At whole base block) (offset count : Nat)
    (inside : offset + count ≤ block.length) :
    At whole (base + offset) ((block.drop offset).take count) := by
  have split : block.take offset ++
      ((block.drop offset).take count ++ (block.drop offset).drop count) = block := by
    rw [List.take_append_drop, List.take_append_drop]
  have width : (block.take offset).length = offset := List.length_take_of_le (by omega)
  have rest := (split ▸ placed).right.left
  rwa [width] at rest

/-- Mapping the whole list maps the block in place. -/
theorem map (image : α → β) (placed : At whole base block) :
    At (whole.map image) base (block.map image) := by
  rcases placed with ⟨front, back, rfl, rfl⟩
  exact ⟨front.map image, back.map image, by simp, by simp⟩

end At

end Segment
