import AtomicArbitrage.Library.AssocMap
import Mathlib.Algebra.BigOperators.Group.List.Basic
import Mathlib.Algebra.Ring.Nat
import Mathlib.Data.List.Induction

/-!
# Grouped maps

A map from keys to lists of values holds the same as a table with a row for each key and
value.  The table is read back by pushing each row to the list of its key.
-/

namespace AssocMap

variable {Key Value : Type*} [DecidableEq Key]

/-- The rows of a grouped map. -/
def rows (map : AssocMap Key (List Value)) : List (Key × Value) :=
  map.entries.flatMap fun entry => entry.2.map fun value => (entry.1, value)

/-- A value is pushed to the list of its key. -/
def push (map : AssocMap Key (List Value)) (row : Key × Value) : AssocMap Key (List Value) :=
  map.insert row.1 ((map.get row.1).getD [] ++ [row.2])

/-- The grouped map of some rows. -/
def group (rows : List (Key × Value)) : AssocMap Key (List Value) :=
  rows.foldl push .empty

/-- The values that pass a test, under the keys that keep one. -/
def retainMembers (map : AssocMap Key (List Value)) (keep : Value → Bool) :
    AssocMap Key (List Value) where
  entries := (map.entries.map fun entry => (entry.1, entry.2.filter keep)).filter
    fun entry => !entry.2.isEmpty
  distinct := by
    have keys : (map.entries.map fun entry => (entry.1, entry.2.filter keep)).map Prod.fst =
        map.entries.map Prod.fst := by
      rw [List.map_map]
      rfl
    exact (keys ▸ map.distinct).sublist ((List.filter_sublist).map Prod.fst)

variable {map : AssocMap Key (List Value)} {key : Key} {value : Value}

/-- No key has an empty list. -/
def NoEmptyList (map : AssocMap Key (List Value)) : Prop :=
  ∀ key values, map.get key = some values → values ≠ []

theorem mem_rows_iff :
    (key, value) ∈ map.rows ↔ ∃ values, map.get key = some values ∧ value ∈ values := by
  rw [rows, List.mem_flatMap]
  constructor
  · intro found
    rcases found with ⟨⟨key', values⟩, inside, member⟩
    rcases List.mem_map.mp member with ⟨_, listed, same⟩
    cases same
    exact ⟨values, mem_entries_iff.mp inside, listed⟩
  · intro found
    rcases found with ⟨values, held, listed⟩
    exact ⟨(key, values), mem_entries_iff.mpr held, List.mem_map.mpr ⟨value, listed, rfl⟩⟩

omit [DecidableEq Key] in
theorem length_rows : map.rows.length = (map.entries.map fun entry => entry.2.length).sum := by
  rw [rows, List.length_flatMap]
  simp only [List.length_map]

/-! ## Grouping -/

/-- The values of the rows of one key. -/
def valuesOf (rows : List (Key × Value)) (key : Key) : List Value :=
  (rows.filter fun row => row.1 = key).map Prod.snd

theorem valuesOf_append (left right : List (Key × Value)) (key : Key) :
    valuesOf (left ++ right) key = valuesOf left key ++ valuesOf right key := by
  rw [valuesOf, List.filter_append, List.map_append]
  rfl

/-- The rows of one entry belong to its key. -/
theorem valuesOf_entry (held : Key) (values : List Value) (key : Key) :
    valuesOf (values.map fun value => (held, value)) key = if held = key then values else [] := by
  have same (values : List Value) :
      valuesOf (values.map fun value => (held, value)) key =
        values.filter fun _ => held = key := by
    rw [valuesOf, List.filter_map, List.map_map]
    exact List.map_id _
  rw [same]
  split
  · next here => simp [here]
  · next elsewhere => simp [elsewhere]

/-- A group is what the rows of its key hold, in their order. -/
theorem get_group (rows : List (Key × Value)) (key : Key) :
    (group rows).get key = if valuesOf rows key = [] then none else some (valuesOf rows key) := by
  induction rows using List.reverseRecOn with
  | nil => rfl
  | append_singleton rows row ih =>
      have pushed : group (rows ++ [row]) = (group rows).push row := by
        rw [group, List.foldl_append, List.foldl_cons, List.foldl_nil]
        rfl
      have last : valuesOf [row] key = if row.1 = key then [row.2] else [] :=
        valuesOf_entry row.1 [row.2] key
      rw [pushed, push, get_insert, valuesOf_append, last]
      by_cases same : row.1 = key
      · have nonempty : valuesOf rows key ++ [row.2] ≠ [] :=
          List.append_ne_nil_of_right_ne_nil _ (List.cons_ne_nil _ _)
        rw [if_pos same.symm, if_pos same, if_neg nonempty, same, ih]
        split
        · next none => rw [none, Option.getD_none]
        · rw [Option.getD_some]
      · rw [if_neg (Ne.symm same), if_neg same, List.append_nil, ih]

/-- The rows of a key in a map are its list. -/
theorem valuesOf_rows (map : AssocMap Key (List Value)) (key : Key) :
    valuesOf map.rows key = (map.get key).getD [] := by
  rcases map with ⟨entries, distinct⟩
  simp only [rows, get]
  induction entries with
  | nil => rfl
  | cons entry entries ih =>
      rcases entry with ⟨held, values⟩
      rw [List.map_cons, List.nodup_cons] at distinct
      rw [List.flatMap_cons, valuesOf_append, valuesOf_entry, ih distinct.2]
      by_cases same : held = key
      · subst same
        have missing : entries.find? (fun entry => entry.1 = held) = none := by
          apply List.find?_eq_none.mpr
          intro entry inside equal
          exact distinct.1 (List.mem_map.mpr ⟨entry, inside, of_decide_eq_true equal⟩)
        have found : ((held, values) :: entries).find? (fun entry => entry.1 = held) =
            some (held, values) := List.find?_cons_of_pos (decide_eq_true rfl)
        rw [if_pos rfl, missing, found]
        exact List.append_nil values
      · have later : ((held, values) :: entries).find? (fun entry => entry.1 = key) =
            entries.find? (fun entry => entry.1 = key) :=
          List.find?_cons_of_neg (by simpa using same)
        rw [if_neg same, later, List.nil_append]

/-- A map without empty lists is read back from its rows, each list up to its order. -/
theorem get_group_perm (full : NoEmptyList map) {rows : List (Key × Value)}
    (same : rows.Perm map.rows) (key : Key) :
    Option.Rel List.Perm ((group rows).get key) (map.get key) := by
  have values : (valuesOf rows key).Perm ((map.get key).getD []) := by
    rw [← valuesOf_rows]
    exact (same.filter _).map _
  rw [get_group]
  cases held : map.get key with
  | none =>
      rw [held, Option.getD_none] at values
      rw [if_pos values.eq_nil]
      exact .none
  | some list =>
      rw [held, Option.getD_some] at values
      rw [if_neg fun empty => full key list held (empty ▸ values).symm.eq_nil]
      exact .some values

/-- The rows of a map are those of the other keys and those of one key. -/
theorem rows_perm_retain (map : AssocMap Key (List Value)) (key : Key) :
    map.rows.Perm ((map.retain fun entry => entry.1 ≠ key).rows ++
      ((map.get key).getD []).map fun value => (key, value)) := by
  rcases map with ⟨entries, distinct⟩
  simp only [rows, retain, get]
  induction entries with
  | nil => exact .refl []
  | cons entry entries ih =>
      rcases entry with ⟨held, values⟩
      rw [List.map_cons, List.nodup_cons] at distinct
      by_cases same : held = key
      · subst same
        have others : entries.filter (fun entry => entry.1 ≠ held) = entries := by
          apply List.filter_eq_self.mpr
          intro entry inside
          apply decide_eq_true
          intro same
          exact distinct.1 (List.mem_map.mpr ⟨entry, inside, same⟩)
        rw [List.filter_cons_of_neg (by simp), others, List.flatMap_cons,
          List.find?_cons_of_pos (by simp), Option.map_some, Option.getD_some]
        exact List.perm_append_comm
      · rw [List.filter_cons_of_pos (by simpa using same), List.flatMap_cons, List.flatMap_cons,
          List.find?_cons_of_neg (by simpa using same), List.append_assoc]
        exact (ih distinct.2).append_left _

/-- Grouping keeps the rows, up to their order. -/
theorem rows_group_perm (rows : List (Key × Value)) : (group rows).rows.Perm rows := by
  induction rows using List.reverseRecOn with
  | nil => exact .refl []
  | append_singleton rows row ih =>
      have pushed : (group (rows ++ [row])).rows =
          ((group rows).retain fun entry => entry.1 ≠ row.1).rows ++
            (((group rows).get row.1).getD [] ++ [row.2]).map fun value => (row.1, value) := by
        rw [group, List.foldl_append, List.foldl_cons, List.foldl_nil, push, AssocMap.rows, insert,
          List.flatMap_append, List.flatMap_singleton]
        rfl
      rw [pushed, List.map_append, ← List.append_assoc]
      exact ((rows_perm_retain (group rows) row.1).symm.trans ih).append_right [row]

/-! ## Retaining -/

omit [DecidableEq Key] in
theorem rows_retainMembers (map : AssocMap Key (List Value)) (keep : Value → Bool) :
    (map.retainMembers keep).rows = map.rows.filter fun row => keep row.2 := by
  rcases map with ⟨entries, distinct⟩
  simp only [rows, retainMembers]
  clear distinct
  induction entries with
  | nil => rfl
  | cons entry entries ih =>
      have kept : (entry.2.map fun value => (entry.1, value)).filter (fun row => keep row.2) =
          (entry.2.filter keep).map fun value => (entry.1, value) := by
        rw [List.filter_map]
        rfl
      rw [List.map_cons, List.flatMap_cons, List.filter_append, kept, ← ih]
      cases left : entry.2.filter keep with
      | nil => rw [List.filter_cons_of_neg (by simp), List.map_nil, List.nil_append]
      | cons value values =>
          rw [List.filter_cons_of_pos (by simp), List.flatMap_cons]

theorem get_retainMembers (map : AssocMap Key (List Value)) (keep : Value → Bool) (key : Key) :
    (map.retainMembers keep).get key =
      ((map.get key).map fun values => values.filter keep).filter fun values =>
        !values.isEmpty := by
  apply Option.ext
  intro result
  rw [← mem_entries_iff, retainMembers, List.mem_filter, Option.filter_eq_some_iff,
    Option.map_eq_some_iff, List.mem_map]
  apply and_congr_left
  intro _
  constructor
  · intro found
    rcases found with ⟨⟨held, values⟩, inside, same⟩
    cases same
    exact ⟨values, mem_entries_iff.mp inside, rfl⟩
  · intro found
    rcases found with ⟨values, held, rfl⟩
    exact ⟨(key, values), mem_entries_iff.mpr held, rfl⟩

theorem get_retainMembers_eq_some {keep : Value → Bool} {values : List Value} :
    (map.retainMembers keep).get key = some values ↔
      ∃ all, map.get key = some all ∧ all.filter keep = values ∧ values ≠ [] := by
  rw [get_retainMembers, Option.filter_eq_some_iff, Option.map_eq_some_iff, Bool.not_eq_true',
    List.isEmpty_eq_false_iff]
  constructor
  · intro found
    rcases found with ⟨⟨all, held, kept⟩, nonempty⟩
    exact ⟨all, held, kept, nonempty⟩
  · intro found
    rcases found with ⟨all, held, kept, nonempty⟩
    exact ⟨⟨all, held, kept⟩, nonempty⟩

theorem noEmptyList_retainMembers (map : AssocMap Key (List Value)) (keep : Value → Bool) :
    (map.retainMembers keep).NoEmptyList := by
  intro key values held
  rcases get_retainMembers_eq_some.mp held with ⟨_, _, _, nonempty⟩
  exact nonempty

/-- A list whose values all pass is kept as it is. -/
theorem get_retainMembers_of_forall (full : NoEmptyList map) {keep : Value → Bool}
    {values : List Value} (held : map.get key = some values)
    (pass : ∀ value ∈ values, keep value = true) :
    (map.retainMembers keep).get key = some values := by
  apply get_retainMembers_eq_some.mpr
  exact ⟨values, held, List.filter_eq_self.mpr pass, full key values held⟩

/-- The values that are left are those that pass. -/
theorem mem_get_retainMembers {keep : Value → Bool} :
    (∃ values, (map.retainMembers keep).get key = some values ∧ value ∈ values) ↔
      (∃ values, map.get key = some values ∧ value ∈ values) ∧ keep value = true := by
  rw [← mem_rows_iff, ← mem_rows_iff, rows_retainMembers, List.mem_filter]

/-- When all values pass, every list is kept as it is. -/
theorem get_retainMembers_all (full : NoEmptyList map) {keep : Value → Bool}
    (pass : ∀ value, keep value = true) : (map.retainMembers keep).get key = map.get key := by
  apply Option.ext
  intro values
  constructor
  · intro kept
    rcases get_retainMembers_eq_some.mp kept with ⟨all, held, same, _⟩
    rw [List.filter_eq_self.mpr fun value _ => pass value] at same
    exact held.trans (congrArg some same)
  · intro held
    exact get_retainMembers_of_forall full held fun value _ => pass value

end AssocMap
