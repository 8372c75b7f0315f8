import AtomicArbitrage.Library.Avoids
import Mathlib.Data.List.Basic
import Mathlib.Data.Nat.Notation

/-!
# Slices that panic

Reads of a byte string as a program with bounds checks makes them: a range that does not lie
inside the string, an index behind its end and a difference below zero each end the program.
-/

namespace Slices

open Outcome

/-- Why the program ends. -/
inductive Panic where
  | range
  | index
  | underflow
deriving DecidableEq

variable {α : Type*}

/-- `data[start..stop]`. -/
def slice (data : List α) (start stop : ℕ) : Except Panic (List α) :=
  if start ≤ stop ∧ stop ≤ data.length then .ok ((data.drop start).take (stop - start))
  else .error .range

/-- `data[position]`. -/
def index (data : List α) (position : ℕ) : Except Panic α := orFail data[position]? .index

/-- `left - right` on indices. -/
def sub (left right : ℕ) : Except Panic ℕ :=
  if right ≤ left then .ok (left - right) else .error .underflow

/-- `data.windows(pattern.len()).position(|w| w == pattern)`: where a pattern begins first. -/
def position? [DecidableEq α] (data pattern : List α) : Option ℕ :=
  (List.range (data.length + 1 - pattern.length)).find? fun start =>
    (data.drop start).take pattern.length = pattern

variable {data : List α} {start stop left right pos : ℕ}

theorem slice_of_le (ordered : start ≤ stop) (inside : stop ≤ data.length) :
    slice data start stop = .ok ((data.drop start).take (stop - start)) :=
  if_pos ⟨ordered, inside⟩

theorem index_of_lt (inside : pos < data.length) :
    index data pos = .ok (data.get ⟨pos, inside⟩) := by
  rw [index, List.getElem?_eq_getElem inside]
  rfl

theorem sub_of_le (le : right ≤ left) : sub left right = .ok (left - right) := if_pos le

theorem le_of_sub {difference : ℕ} (computed : sub left right = .ok difference) :
    right ≤ left := by
  rw [sub] at computed
  split at computed
  · assumption
  · cases computed

theorem position?_eq_some [DecidableEq α] {pattern : List α}
    (found : position? data pattern = some pos) :
    pos + pattern.length < data.length + 1 ∧ (data.drop pos).take pattern.length = pattern := by
  have inside := List.mem_range.mp (List.mem_of_find?_eq_some found)
  have same := List.find?_some found
  exact ⟨by omega, of_decide_eq_true same⟩

end Slices
