import Mathlib.Algebra.BigOperators.Group.List.Basic
import Mathlib.Data.List.Nodup
import Mathlib.Data.List.Perm.Basic

/-!
# Association maps

A finite map is the list of its entries with distinct keys, in the order in which an
iteration meets them.
-/

/-- Entries with distinct keys. -/
structure AssocMap (Key Value : Type*) where
  entries : List (Key × Value)
  distinct : (entries.map Prod.fst).Nodup

namespace AssocMap

variable {Key Value : Type*} [DecidableEq Key]

/-- The map without entries. -/
def empty : AssocMap Key Value where
  entries := []
  distinct := List.nodup_nil

/-- The value of a key. -/
def get (map : AssocMap Key Value) (key : Key) : Option Value :=
  (map.entries.find? fun entry => entry.1 = key).map Prod.snd

/-- The entries that pass a test. -/
def retain (map : AssocMap Key Value) (keep : Key × Value → Bool) : AssocMap Key Value where
  entries := map.entries.filter keep
  distinct := map.distinct.sublist ((List.filter_sublist).map Prod.fst)

/-- A new value for a key. -/
def insert (map : AssocMap Key Value) (key : Key) (value : Value) : AssocMap Key Value where
  entries := map.entries.filter (fun entry => entry.1 ≠ key) ++ [(key, value)]
  distinct := by
    rw [List.map_append, List.nodup_append]
    refine ⟨map.distinct.sublist ((List.filter_sublist).map Prod.fst),
      List.nodup_singleton key, ?_⟩
    intro left inside right last
    rw [List.map_singleton, List.mem_singleton] at last
    rcases List.mem_map.mp inside with ⟨entry, kept, rfl⟩
    rw [last]
    exact of_decide_eq_true (List.mem_filter.mp kept).2

/-- The value of a key changed, where it has one. -/
def modify (map : AssocMap Key Value) (key : Key) (change : Value → Value) :
    AssocMap Key Value where
  entries := map.entries.map fun entry =>
    if entry.1 = key then (entry.1, change entry.2) else entry
  distinct := by
    have keys : (map.entries.map fun entry =>
        if entry.1 = key then (entry.1, change entry.2) else entry).map Prod.fst =
          map.entries.map Prod.fst := by
      rw [List.map_map]
      apply List.map_congr_left
      intro entry _
      rw [Function.comp_apply]
      split
      · rfl
      · rfl
    rw [keys]
    exact map.distinct

variable {map : AssocMap Key Value} {key other : Key} {value : Value}

/-- The entries are exactly the keys with their values. -/
theorem mem_entries_iff : (key, value) ∈ map.entries ↔ map.get key = some value := by
  rcases map with ⟨entries, distinct⟩
  simp only [get]
  induction entries with
  | nil => exact iff_of_false List.not_mem_nil nofun
  | cons entry entries ih =>
      rcases entry with ⟨head, held⟩
      rw [List.map_cons, List.nodup_cons] at distinct
      rw [List.mem_cons, Prod.mk.injEq, List.find?_cons]
      by_cases same : head = key
      · subst same
        have elsewhere : (head, value) ∉ entries :=
          fun inside => distinct.1 (List.mem_map.mpr ⟨_, inside, rfl⟩)
        simp [elsewhere, eq_comm]
      · have differ : key ≠ head := Ne.symm same
        rw [ih distinct.2]
        simp [same, differ]

theorem get_insert :
    (map.insert key value).get other = if other = key then some value else map.get other := by
  apply Option.ext
  intro result
  rw [← mem_entries_iff, insert, List.mem_append, List.mem_filter, List.mem_singleton,
    Prod.mk.injEq]
  by_cases same : other = key
  · simp [same, eq_comm]
  · simp [same, mem_entries_iff]

theorem get_retain {keep : Key × Value → Bool} :
    (map.retain keep).get key = (map.get key).filter fun value => keep (key, value) := by
  apply Option.ext
  intro result
  rw [← mem_entries_iff, retain, List.mem_filter, mem_entries_iff, Option.filter_eq_some_iff]

theorem get_modify {change : Value → Value} :
    (map.modify key change).get other =
      if other = key then (map.get other).map change else map.get other := by
  rcases map with ⟨entries, distinct⟩
  simp only [get, modify]
  clear distinct
  induction entries with
  | nil => simp
  | cons entry entries ih =>
      rw [List.map_cons, List.find?_cons, List.find?_cons]
      by_cases held : entry.1 = key
      · rw [if_pos held]
        by_cases asked : entry.1 = other
        · have same : other = key := asked.symm.trans held
          simp [asked, same]
        · simp only [asked, decide_false]
          exact ih
      · rw [if_neg held]
        by_cases asked : entry.1 = other
        · have differ : ¬other = key := fun same => held (asked.trans same)
          simp [asked, differ]
        · simp only [asked, decide_false]
          exact ih

/-! ## Sums over the values -/

section

variable {Weight : Type*} [AddCommMonoid Weight] (weight : Value → Weight)

/-- The weights of all values. -/
def total (map : AssocMap Key Value) : Weight :=
  (map.entries.map fun entry => weight entry.2).sum

/-- A value for a new key adds its weight. -/
theorem total_insert (fresh : map.get key = none) :
    (map.insert key value).total weight = map.total weight + weight value := by
  have kept : map.entries.filter (fun entry => entry.1 ≠ key) = map.entries := by
    rw [List.filter_eq_self]
    intro entry inside
    rw [decide_eq_true_eq]
    intro same
    have held : map.get key = some entry.2 := mem_entries_iff.mp (same ▸ inside)
    rw [fresh] at held
    cases held
  rw [total, insert]
  simp only [kept, List.map_append, List.sum_append, List.map_singleton, List.sum_singleton]
  rfl

/-- A changed value gives its weight for its new one. -/
theorem total_modify (change : Value → Value) (held : map.get key = some value) :
    (map.modify key change).total weight + weight value =
      map.total weight + weight (change value) := by
  rcases map with ⟨entries, distinct⟩
  simp only [get, total, modify] at held ⊢
  induction entries with
  | nil => cases held
  | cons entry entries ih =>
      rw [List.map_cons, List.nodup_cons] at distinct
      rw [List.find?_cons] at held
      by_cases same : entry.1 = key
      · have others : (entries.map fun entry =>
            if entry.1 = key then (entry.1, change entry.2) else entry) = entries := by
          have each : ∀ other ∈ entries,
              (if other.1 = key then (other.1, change other.2) else other) = other := by
            intro other inside
            apply if_neg
            intro again
            exact distinct.1 (List.mem_map.mpr ⟨other, inside, again.trans same.symm⟩)
          exact (List.map_congr_left each).trans (List.map_id entries)
        simp only [same, decide_true, Option.map_some, Option.some_inj] at held
        rw [List.map_cons, others, if_pos same, List.map_cons, List.sum_cons, List.map_cons,
          List.sum_cons, held]
        simp only [add_comm, add_left_comm]
      · simp only [same, decide_false] at held
        have rest := ih distinct.2 held
        rw [List.map_cons, if_neg same, List.map_cons, List.sum_cons, List.map_cons,
          List.sum_cons, add_assoc, rest, add_assoc]

end

end AssocMap
