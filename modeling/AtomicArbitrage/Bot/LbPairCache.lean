import AtomicArbitrage.Library.AssocMap
import AtomicArbitrage.Library.Runs
import Mathlib.Data.List.Induction

/-!
# Pool addresses across restarts

The bot maps each mint to the address of a pool and writes new mappings to a table.  A
restart reads the table back in the order in which the database returns its rows, later
rows over earlier ones.
-/

namespace AtomicArbitrage.Bot

/-- Mint to pool address: `DLMM_TOKEN_LBPAIR_CACHE`. -/
abbrev TokenCache := AssocMap String String

/-- The in-memory map and the rows of the table `lb_pairs`. -/
structure LbPairs where
  cache : TokenCache
  table : List (String × String)

/-! ## Statements -/

/-- `INSERT OR REPLACE`, under the primary key `(mint, lb_pair)`. -/
def insertOrReplace (table : List (String × String)) (row : String × String) :
    List (String × String) :=
  table.erase row ++ [row]

/-- `lb_pairs_insert_both`. -/
def lbPairsInsertBoth (table : List (String × String)) (mintA mintB lbPair : String) :
    List (String × String) :=
  [mintA, mintB].foldl (fun table mint => insertOrReplace table (mint, lbPair)) table

/-- `lb_pairs_replace_all`. -/
def lbPairsReplaceAll (entries : List (String × String)) : List (String × String) := entries

/-- `lb_pairs_load_all`, extended into an empty map: the rows in the order of the query's
result. -/
def loadLbPairs (rows : List (String × String)) : TokenCache :=
  rows.foldl (fun cache row => cache.insert row.1 row.2) .empty

namespace LbPairs

/-! ## Operations -/

/-- `cache_dlmm_lb_pair`. -/
def cacheDlmmLbPair (s : LbPairs) (mintA mintB lbPair : String) : LbPairs :=
  let isNew := (s.cache.get mintA).isNone
  let cache := (s.cache.insert mintA lbPair).insert mintB lbPair
  if isNew then { cache, table := lbPairsInsertBoth s.table mintA mintB lbPair }
  else { s with cache }

/-- `cleanup_stale_lb_pairs`, of the pools whose account is gone. -/
def cleanupStaleLbPairs (s : LbPairs) (stale : List String) : LbPairs :=
  if stale.isEmpty then s
  else
    let cache := s.cache.retain fun entry => !stale.contains entry.2
    if cache.entries.length < s.cache.entries.length then
      { cache, table := lbPairsReplaceAll cache.entries }
    else { s with cache }

inductive Operation where
  | cache (mintA mintB lbPair : String)
  | cleanup (stale : List String)

def apply (s : LbPairs) : Operation → LbPairs
  | .cache mintA mintB lbPair => s.cacheDlmmLbPair mintA mintB lbPair
  | .cleanup stale => s.cleanupStaleLbPairs stale

/-- The state after a start: the rows of the table are loaded as the query returns
them. -/
def loaded (table rows : List (String × String)) : LbPairs where
  cache := loadLbPairs rows
  table := table

/-! ## Restarts -/

/-- A restart restores the map, in whatever order the query returns the rows. -/
def Survives (s : LbPairs) : Prop :=
  ∀ rows, rows.Perm s.table → ∀ mint, (loadLbPairs rows).get mint = s.cache.get mint

/-- The rows of the table are exactly the entries of the map. -/
def Mirrored (s : LbPairs) : Prop :=
  ∀ mint lbPair, (mint, lbPair) ∈ s.table ↔ s.cache.get mint = some lbPair

/-- No mint has rows for two pools. -/
def Functional (table : List (String × String)) : Prop :=
  ∀ mint first second, (mint, first) ∈ table → (mint, second) ∈ table → first = second

/-- A new first mint is written, so its partner must have no other pool; a known first
mint is not, so both must have this pool already. -/
def Clean (s : LbPairs) : Operation → Prop
  | .cache mintA mintB lbPair =>
      (s.cache.get mintA = none ∧ ∀ held, s.cache.get mintB = some held → held = lbPair) ∨
        (s.cache.get mintA = some lbPair ∧ s.cache.get mintB = some lbPair)
  | .cleanup _ => True

/-! ## Loading -/

/-- A loaded mint has the pool of one of its rows, the last one. -/
theorem get_loadLbPairs_concat (rows : List (String × String)) (row : String × String)
    (mint : String) :
    (loadLbPairs (rows ++ [row])).get mint =
      if mint = row.1 then some row.2 else (loadLbPairs rows).get mint := by
  rw [loadLbPairs, List.foldl_append, List.foldl_cons, List.foldl_nil, AssocMap.get_insert]
  rfl

/-- Rows for one pool a mint load exactly as they stand. -/
theorem get_loadLbPairs {rows : List (String × String)} (functional : Functional rows)
    (mint lbPair : String) :
    (loadLbPairs rows).get mint = some lbPair ↔ (mint, lbPair) ∈ rows := by
  induction rows using List.reverseRecOn with
  | nil => exact iff_of_false nofun List.not_mem_nil
  | append_singleton rows row ih =>
      rcases row with ⟨last, held⟩
      have front : Functional rows := by
        intro other first second inside inside'
        exact functional other first second (List.mem_append_left _ inside)
          (List.mem_append_left _ inside')
      rw [get_loadLbPairs_concat, List.mem_append, List.mem_singleton, Prod.mk.injEq]
      by_cases same : mint = last
      · subst same
        rw [if_pos rfl]
        constructor
        · intro found
          exact .inr ⟨rfl, (Option.some_inj.mp found).symm⟩
        · intro found
          rcases found with earlier | here
          · rw [functional mint lbPair held (List.mem_append_left _ earlier)
              (List.mem_append_right _ (List.mem_singleton_self _))]
          · rw [here.2]
      · rw [if_neg same, ih front]
        exact ⟨.inl, fun found => found.resolve_right fun here => same here.1⟩

/-- A restart restores the map exactly when the table mirrors it. -/
theorem survives_iff_mirrored (s : LbPairs) : Survives s ↔ Mirrored s := by
  constructor
  · intro survives
    have read : ∀ mint lbPair, (mint, lbPair) ∈ s.table → s.cache.get mint = some lbPair := by
      intro mint lbPair inside
      -- an order that returns this row last
      have order : (s.table.erase (mint, lbPair) ++ [(mint, lbPair)]).Perm s.table :=
        (List.perm_append_singleton _ _).trans (List.perm_cons_erase inside).symm
      rw [← survives _ order mint, get_loadLbPairs_concat, if_pos rfl]
    have functional : Functional s.table := by
      intro mint first second inside inside'
      have same := read mint first inside
      rw [read mint second inside', Option.some_inj] at same
      exact same.symm
    intro mint lbPair
    rw [← survives s.table (.refl _) mint]
    exact (get_loadLbPairs functional mint lbPair).symm
  · intro mirrored rows order mint
    have functional : Functional rows := by
      intro other first second inside inside'
      have same := (mirrored other first).mp (order.mem_iff.mp inside)
      rw [(mirrored other second).mp (order.mem_iff.mp inside'), Option.some_inj] at same
      exact same.symm
    apply Option.ext
    intro lbPair
    rw [get_loadLbPairs functional, order.mem_iff]
    exact mirrored mint lbPair

/-! ## Steps -/

theorem mem_insertOrReplace {table : List (String × String)} {row other : String × String} :
    other ∈ insertOrReplace table row ↔ other ∈ table ∨ other = row := by
  rw [insertOrReplace]
  rw [List.mem_append, List.mem_singleton]
  by_cases same : other = row
  · simp [same]
  · simp [same, List.mem_erase_of_ne same]

theorem mem_lbPairsInsertBoth {table : List (String × String)} {mintA mintB lbPair : String}
    {row : String × String} :
    row ∈ lbPairsInsertBoth table mintA mintB lbPair ↔
      row ∈ table ∨ row = (mintA, lbPair) ∨ row = (mintB, lbPair) := by
  simp only [lbPairsInsertBoth, List.foldl_cons, List.foldl_nil, mem_insertOrReplace, or_assoc]

section

variable {s : LbPairs}

theorem mirrored_cache_iff (mirrored : Mirrored s) (mintA mintB lbPair : String) :
    Mirrored (s.cacheDlmmLbPair mintA mintB lbPair) ↔ Clean s (.cache mintA mintB lbPair) := by
  have held (mint : String) :
      (((s.cache.insert mintA lbPair).insert mintB lbPair).get mint) =
        if mint = mintB then some lbPair
        else if mint = mintA then some lbPair else s.cache.get mint := by
    rw [AssocMap.get_insert, AssocMap.get_insert]
  cases before : s.cache.get mintA with
  | none =>
      have result : s.cacheDlmmLbPair mintA mintB lbPair =
          { cache := (s.cache.insert mintA lbPair).insert mintB lbPair
            table := lbPairsInsertBoth s.table mintA mintB lbPair } := by
        simp [cacheDlmmLbPair, before]
      rw [result]
      rw [Mirrored, Clean]
      simp only [held, mem_lbPairsInsertBoth, Prod.mk.injEq, before, true_and, reduceCtorEq,
        false_and, or_false]
      constructor
      · intro after other partner
        have row := (mirrored mintB other).mpr partner
        have kept := (after mintB other).mp (.inl row)
        rw [if_pos rfl, Option.some_inj] at kept
        exact kept.symm
      · intro free mint other
        by_cases second : mint = mintB
        · subst second
          rw [if_pos rfl, mirrored]
          constructor
          · intro either
            rcases either with partner | here | here
            · rw [free other partner]
            · rw [here.2]
            · rw [here.2]
          · intro same
            exact .inr (.inr ⟨rfl, (Option.some_inj.mp same).symm⟩)
        · rw [if_neg second]
          by_cases first : mint = mintA
          · subst first
            have absent : (mint, other) ∉ s.table := by
              rw [mirrored, before]
              intro same
              cases same
            simp [absent, second, eq_comm]
          · rw [if_neg first, mirrored]
            simp [first, second]
  | some earlier =>
      have result : s.cacheDlmmLbPair mintA mintB lbPair =
          { s with cache := (s.cache.insert mintA lbPair).insert mintB lbPair } := by
        simp [cacheDlmmLbPair, before]
      rw [result]
      rw [Mirrored, Clean]
      simp only [held, before, reduceCtorEq, false_and, false_or]
      constructor
      · intro after
        have first : s.cache.get mintA = some lbPair := by
          rw [← mirrored, after]
          split
          · rfl
          · exact if_pos rfl
        have second : s.cache.get mintB = some lbPair := by
          rw [← mirrored, after, if_pos rfl]
        exact ⟨before.symm.trans first, second⟩
      · intro known mint other
        rw [mirrored]
        have first := before.trans known.1
        by_cases same : mint = mintB
        · rw [if_pos same, same, known.2]
        · rw [if_neg same]
          by_cases same' : mint = mintA
          · rw [if_pos same', same', first]
          · rw [if_neg same']

/-- An eviction writes the whole map, or has changed nothing. -/
theorem mirrored_cleanup (mirrored : Mirrored s) (stale : List String) :
    Mirrored (s.cleanupStaleLbPairs stale) := by
  simp only [cleanupStaleLbPairs]
  split
  · exact mirrored
  · split
    · intro mint lbPair
      exact AssocMap.mem_entries_iff
    · next all =>
        intro mint lbPair
        have kept : (s.cache.retain fun entry => !stale.contains entry.2).entries =
            s.cache.entries :=
          List.filter_sublist.eq_of_length_le (Nat.not_lt.mp all)
        rw [mirrored, ← AssocMap.mem_entries_iff, ← AssocMap.mem_entries_iff, kept]

theorem survives_apply_iff (survives : Survives s) (operation : Operation) :
    Survives (s.apply operation) ↔ Clean s operation := by
  rw [survives_iff_mirrored] at survives ⊢
  cases operation with
  | cache mintA mintB lbPair => exact mirrored_cache_iff survives mintA mintB lbPair
  | cleanup stale => exact iff_of_true (mirrored_cleanup survives stale) trivial

end

/-- A loaded state survives another restart exactly when its table has one pool a mint. -/
theorem survives_loaded_iff {table rows : List (String × String)} (order : rows.Perm table) :
    Survives (loaded table rows) ↔ Functional table := by
  constructor
  · intro survives mint first second inside inside'
    have mirrored := (survives_iff_mirrored _).mp survives
    have same := (mirrored mint first).mp inside
    rw [(mirrored mint second).mp inside', Option.some_inj] at same
    exact same.symm
  · intro functional
    have rowsFunctional : Functional rows := by
      intro mint first second inside inside'
      exact functional mint first second (order.mem_iff.mp inside) (order.mem_iff.mp inside')
    apply (survives_iff_mirrored _).mpr
    intro mint lbPair
    exact order.mem_iff.symm.trans (get_loadLbPairs rowsFunctional mint lbPair).symm

/-- From a loaded state, every state of a run survives a restart exactly when the table had
one pool a mint and every operation is clean. -/
theorem survives_iff_clean {table rows : List (String × String)} (order : rows.Perm table)
    (run : List Operation) :
    Runs.Always apply Survives (loaded table rows) run ↔
      Functional table ∧ Runs.Throughout apply Clean (loaded table rows) run := by
  have throughout (survives : Survives (loaded table rows)) :=
    Runs.always_iff_throughout run survives
      fun _ operation survives => survives_apply_iff survives operation
  constructor
  · intro always
    have first : Survives (loaded table rows) := by
      cases run with
      | nil => exact always
      | cons _ _ => exact always.1
    exact ⟨(survives_loaded_iff order).mp first, (throughout first).mp always⟩
  · intro both
    exact (throughout ((survives_loaded_iff order).mpr both.1)).mpr both.2

/-- A fresh pair is written, and then evicted. -/
theorem survives_iff_clean_sample :
    Runs.Always apply Survives (loaded [] [])
      [.cache "SOL" "meme" "pool", .cleanup ["pool"]] := by
  apply (survives_iff_clean (.refl []) _).mpr
  refine ⟨nofun, .inl ⟨rfl, nofun⟩, trivial, trivial⟩

/-- The second meme mint of wrapped SOL is never written. -/
theorem not_survives_second_meme :
    ¬Runs.Always apply Survives (loaded [] [])
      [.cache "SOL" "meme" "pool", .cache "SOL" "other" "second"] := by
  intro always
  have survives : Survives (((loaded [] []).apply (.cache "SOL" "meme" "pool")).apply
      (.cache "SOL" "other" "second")) := always.2.2
  have restored := survives _ (.refl _) "other"
  exact absurd restored (by decide)

end LbPairs

end AtomicArbitrage.Bot
