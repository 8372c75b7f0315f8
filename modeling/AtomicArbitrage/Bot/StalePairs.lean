import AtomicArbitrage.Bot.CacheEntry
import AtomicArbitrage.Bot.LbPairCache
import AtomicArbitrage.Client.Dlmm
import AtomicArbitrage.Library.Grouping
import AtomicArbitrage.Solana.Base58

/-!
# Stale pairs

A DLMM pool whose account is gone is evicted from three caches and, where an eviction has
changed them, from the two tables that back them.  A restart reads the tables back.
-/

namespace AtomicArbitrage.Bot

open Client (DlmmPoolReserves)

/-! ## Tables -/

structure DlmmPoolMetadata where
  lbPair : String
  tokenXMint : String
  tokenYMint : String
  binStep : UInt16
  baseFactor : UInt16
  binArrayBitmapExtension : Option String
deriving DecidableEq

/-- A row of `dlmm_metadata`, with its integer columns. -/
structure DlmmMetadataRow where
  key : String
  lbPair : String
  tokenXMint : String
  tokenYMint : String
  binStep : Int64
  baseFactor : Int64
  binArrayBitmapExtension : Option String
deriving DecidableEq

namespace DlmmMetadataRow

/-- The parameters of the insertion. -/
def ofPool (key : String) (pool : DlmmPoolMetadata) : DlmmMetadataRow where
  key
  lbPair := pool.lbPair
  tokenXMint := pool.tokenXMint
  tokenYMint := pool.tokenYMint
  binStep := pool.binStep.toUInt64.toInt64
  baseFactor := pool.baseFactor.toUInt64.toInt64
  binArrayBitmapExtension := pool.binArrayBitmapExtension

/-- The pool that is loaded from a row. -/
def pool (row : DlmmMetadataRow) : DlmmPoolMetadata where
  lbPair := row.lbPair
  tokenXMint := row.tokenXMint
  tokenYMint := row.tokenYMint
  binStep := row.binStep.toUInt64.toUInt16
  baseFactor := row.baseFactor.toUInt64.toUInt16
  binArrayBitmapExtension := row.binArrayBitmapExtension

/-- Both casts of a column undo one another. -/
@[simp] theorem pool_ofPool (key : String) (pool : DlmmPoolMetadata) :
    (ofPool key pool).pool = pool := by
  simp [ofPool, DlmmMetadataRow.pool]

end DlmmMetadataRow

/-- `DLMM_POOL_METADATA`. -/
abbrev MetadataCache := AssocMap String (List DlmmPoolMetadata)

/-- `INSERT`, under the primary key `(key, lb_pair)`: a row that conflicts is only logged. -/
def insertRow (table : List DlmmMetadataRow) (row : DlmmMetadataRow) : List DlmmMetadataRow :=
  if table.any fun other => other.key = row.key ∧ other.lbPair = row.lbPair then table
  else table ++ [row]

/-- `dlmm_metadata_replace_all`. -/
def dlmmMetadataReplaceAll (entries : List (String × List DlmmPoolMetadata)) :
    List DlmmMetadataRow :=
  entries.foldl
    (fun table entry =>
      entry.2.foldl (fun table pool => insertRow table (.ofPool entry.1 pool)) table) []

/-- `save_metadata_cache`. -/
def saveMetadataCache (cache : MetadataCache) : List DlmmMetadataRow :=
  dlmmMetadataReplaceAll cache.entries

/-- The rows of a metadata cache. -/
def savedRows (cache : MetadataCache) : List DlmmMetadataRow :=
  cache.rows.map fun row => .ofPool row.1 row.2

/-- `load_metadata_cache` into an empty map: the rows in the order of the query's result. -/
def loadMetadataCache (rows : List DlmmMetadataRow) : MetadataCache :=
  rows.foldl (fun map row => map.push (row.key, row.pool)) .empty

/-! ## Eviction -/

/-- The caches of DLMM pools and the tables behind two of them. -/
structure DlmmCaches where
  lbPairs : LbPairs
  reserves : PoolCache (Option DlmmPoolReserves)
  metadata : MetadataCache
  metadataTable : List DlmmMetadataRow

/-- The pairs that were fetched without a result. -/
def staleLbPairs (allLbPairs : List Pubkey) (allReserves : List (Option DlmmPoolReserves)) :
    List String :=
  ((allLbPairs.zip allReserves).filter fun fetched => fetched.2.isNone).map fun fetched =>
    fetched.1.toBase58

/-- The number of pools in the metadata cache. -/
def poolCount (cache : MetadataCache) : ℕ :=
  (cache.entries.map fun entry => entry.2.length).sum

namespace DlmmCaches

/-- `cleanup_stale_lb_pairs`. -/
def cleanupStaleLbPairs (s : DlmmCaches) (allLbPairs : List Pubkey)
    (allReserves : List (Option DlmmPoolReserves)) : DlmmCaches :=
  let stale := staleLbPairs allLbPairs allReserves
  if stale.isEmpty then s
  else
    let lbPairs := s.lbPairs.cleanupStaleLbPairs stale
    let reserves := s.reserves.retain fun entry =>
      match entry.2.data with
      | some reserves => !stale.contains reserves.lbPair
      | none => true
    let metadata := s.metadata.retainMembers fun pool => !stale.contains pool.lbPair
    let metadataTable :=
      if poolCount metadata < poolCount s.metadata then saveMetadataCache metadata
      else s.metadataTable
    { lbPairs, reserves, metadata, metadataTable }

/-- The tables hold what the caches do: a row for each mint, and one for each pool of each
key. -/
structure Mirrored (s : DlmmCaches) : Prop where
  lbPairs : s.lbPairs.Mirrored
  metadata : s.metadataTable.Perm (savedRows s.metadata)

/-- The metadata cache has no empty list, and no list has two pools of one pair. -/
structure WellFormed (cache : MetadataCache) : Prop where
  nonempty : cache.NoEmptyList
  distinct : ∀ key pools, cache.get key = some pools → (pools.map DlmmPoolMetadata.lbPair).Nodup

end DlmmCaches

/-! ## Saving and loading -/

section

variable {cache : MetadataCache} {rows table : List DlmmMetadataRow}

/-- Rows with distinct primary keys are all inserted. -/
theorem foldl_insertRow (rows table : List DlmmMetadataRow)
    (distinct : ((table ++ rows).map fun row => (row.key, row.lbPair)).Nodup) :
    rows.foldl insertRow table = table ++ rows := by
  induction rows generalizing table with
  | nil => exact (List.append_nil table).symm
  | cons row rows ih =>
      have fresh : insertRow table row = table ++ [row] := by
        apply if_neg
        intro conflict
        rcases List.any_eq_true.mp conflict with ⟨other, inside, same⟩
        rcases of_decide_eq_true same with ⟨key, lbPair⟩
        rw [List.map_append, List.nodup_append] at distinct
        exact distinct.2.2 (other.key, other.lbPair) (List.mem_map.mpr ⟨other, inside, rfl⟩)
          (row.key, row.lbPair) (List.mem_map.mpr ⟨row, List.mem_cons_self, rfl⟩)
          (Prod.ext key lbPair)
      have regroup : table ++ row :: rows = table ++ [row] ++ rows := by
        rw [List.append_assoc, List.singleton_append]
      rw [List.foldl_cons, fresh, ih _ (regroup ▸ distinct), regroup]

theorem dlmmMetadataReplaceAll_eq (entries : List (String × List DlmmPoolMetadata)) :
    dlmmMetadataReplaceAll entries =
      (entries.flatMap fun entry => entry.2.map (DlmmMetadataRow.ofPool entry.1)).foldl
        insertRow [] := by
  rw [dlmmMetadataReplaceAll, List.foldl_flatMap]
  congr 1
  funext table entry
  rw [List.foldl_map]

theorem savedRows_eq (cache : MetadataCache) :
    savedRows cache =
      cache.entries.flatMap fun entry => entry.2.map (DlmmMetadataRow.ofPool entry.1) := by
  rw [savedRows, AssocMap.rows, List.map_flatMap]
  congr 1
  funext entry
  rw [List.map_map]
  rfl

/-- A saved list is one of the lists, so the primary keys are distinct. -/
theorem nodup_savedRows
    (distinct : ∀ key pools, cache.get key = some pools →
      (pools.map DlmmPoolMetadata.lbPair).Nodup) :
    ((savedRows cache).map fun row => (row.key, row.lbPair)).Nodup := by
  rw [savedRows_eq, List.map_flatMap, List.nodup_flatMap]
  constructor
  · intro entry inside
    have within := distinct entry.1 entry.2 (AssocMap.mem_entries_iff.mp inside)
    have keyed := within.map (f := fun lbPair => (entry.1, lbPair)) fun _ _ same =>
      (Prod.mk.inj same).2
    rw [List.map_map] at keyed ⊢
    exact keyed
  · have apart := List.pairwise_map.mp cache.distinct
    apply apart.imp
    intro first second differ row inside inside'
    rcases List.mem_map.mp inside with ⟨row₁, listed, rfl⟩
    rcases List.mem_map.mp inside' with ⟨row₂, listed', same⟩
    rcases List.mem_map.mp listed with ⟨pool₁, _, rfl⟩
    rcases List.mem_map.mp listed' with ⟨pool₂, _, rfl⟩
    exact differ (Prod.mk.inj same).1.symm

/-- Saving writes the rows of the cache. -/
theorem saveMetadataCache_eq
    (distinct : ∀ key pools, cache.get key = some pools →
      (pools.map DlmmPoolMetadata.lbPair).Nodup) :
    saveMetadataCache cache = savedRows cache := by
  rw [saveMetadataCache, dlmmMetadataReplaceAll_eq, ← savedRows_eq]
  exact foldl_insertRow _ [] (nodup_savedRows distinct)

theorem loadMetadataCache_eq (rows : List DlmmMetadataRow) :
    loadMetadataCache rows = AssocMap.group (rows.map fun row => (row.key, row.pool)) := by
  rw [loadMetadataCache, AssocMap.group, List.foldl_map]

/-- A mirrored cache is read back, each list up to its order. -/
theorem loadMetadataCache_perm (full : cache.NoEmptyList) (order : rows.Perm (savedRows cache))
    (key : String) :
    Option.Rel List.Perm ((loadMetadataCache rows).get key) (cache.get key) := by
  have same : (rows.map fun row => (row.key, row.pool)).Perm cache.rows := by
    have read := order.map fun row => (row.key, row.pool)
    have saved : (savedRows cache).map (fun row => (row.key, row.pool)) = cache.rows := by
      rw [savedRows, List.map_map, List.map_congr_left fun row _ => ?_, List.map_id]
      exact Prod.ext rfl (DlmmMetadataRow.pool_ofPool row.1 row.2)
    rwa [saved] at read
  rw [loadMetadataCache_eq]
  exact AssocMap.get_group_perm full same key

/-- The rows of what is retained are the rows of retained pairs. -/
theorem mem_savedRows_retainMembers {row : DlmmMetadataRow} (keep : String → Bool) :
    row ∈ savedRows (cache.retainMembers fun pool => keep pool.lbPair) ↔
      row ∈ savedRows cache ∧ keep row.lbPair = true := by
  rw [savedRows, savedRows, AssocMap.rows_retainMembers, List.mem_map, List.mem_map]
  constructor
  · intro found
    rcases found with ⟨⟨key, pool⟩, inside, rfl⟩
    rcases List.mem_filter.mp inside with ⟨before, kept⟩
    exact ⟨⟨(key, pool), before, rfl⟩, kept⟩
  · intro found
    rcases found with ⟨⟨⟨key, pool⟩, before, rfl⟩, kept⟩
    exact ⟨(key, pool), List.mem_filter.mpr ⟨before, kept⟩, rfl⟩

end

/-! ## Frame -/

/-- The fetch of this pair had no result. -/
def Gone (allLbPairs : List Pubkey) (allReserves : List (Option DlmmPoolReserves))
    (lbPair : String) : Prop :=
  ∃ pair, (pair, none) ∈ allLbPairs.zip allReserves ∧ pair.toBase58 = lbPair

theorem mem_staleLbPairs {allLbPairs : List Pubkey}
    {allReserves : List (Option DlmmPoolReserves)} {lbPair : String} :
    lbPair ∈ staleLbPairs allLbPairs allReserves ↔ Gone allLbPairs allReserves lbPair := by
  rw [staleLbPairs, List.mem_map]
  constructor
  · intro found
    rcases found with ⟨⟨pair, result⟩, inside, text⟩
    rcases List.mem_filter.mp inside with ⟨fetched, failed⟩
    cases result with
    | none => exact ⟨pair, fetched, text⟩
    | some => cases failed
  · intro found
    rcases found with ⟨pair, fetched, text⟩
    exact ⟨(pair, none), List.mem_filter.mpr ⟨fetched, rfl⟩, text⟩

namespace DlmmCaches

/-- No cache or table mentions a pair that is gone, everything else is as before, and a
restart reads back what is left. -/
structure Cleaned (gone : String → Prop) (before after : DlmmCaches) : Prop where
  tokens : ∀ mint lbPair, after.lbPairs.cache.get mint = some lbPair ↔
    before.lbPairs.cache.get mint = some lbPair ∧ ¬gone lbPair
  reserves : ∀ key entry, after.reserves.get key = some entry ↔
    before.reserves.get key = some entry ∧
      ∀ reserves, entry.data = some reserves → ¬gone reserves.lbPair
  metadata : ∀ key pool, (∃ pools, after.metadata.get key = some pools ∧ pool ∈ pools) ↔
    (∃ pools, before.metadata.get key = some pools ∧ pool ∈ pools) ∧ ¬gone pool.lbPair
  unchanged : ∀ key pools, before.metadata.get key = some pools →
    (∀ pool ∈ pools, ¬gone pool.lbPair) → after.metadata.get key = some pools
  ordered : ∀ key pools, after.metadata.get key = some pools →
    ∃ all, before.metadata.get key = some all ∧ pools.Sublist all
  nonempty : after.metadata.NoEmptyList
  tokenRows : ∀ mint lbPair, (mint, lbPair) ∈ after.lbPairs.table ↔
    (mint, lbPair) ∈ before.lbPairs.table ∧ ¬gone lbPair
  metadataRows : ∀ row, row ∈ after.metadataTable ↔
    row ∈ before.metadataTable ∧ ¬gone row.lbPair
  tokensRestored : ∀ rows, rows.Perm after.lbPairs.table →
    ∀ mint, (loadLbPairs rows).get mint = after.lbPairs.cache.get mint
  metadataRestored : ∀ rows, rows.Perm after.metadataTable →
    ∀ key, Option.Rel List.Perm ((loadMetadataCache rows).get key) (after.metadata.get key)

section

variable {s : DlmmCaches} {allLbPairs : List Pubkey}
  {allReserves : List (Option DlmmPoolReserves)}

theorem lbPairs_cleanup :
    (s.cleanupStaleLbPairs allLbPairs allReserves).lbPairs =
      s.lbPairs.cleanupStaleLbPairs (staleLbPairs allLbPairs allReserves) := by
  simp only [cleanupStaleLbPairs]
  split
  · next none => rw [LbPairs.cleanupStaleLbPairs, if_pos none]
  · rfl

theorem get_tokens_cleanup (mint lbPair : String) :
    (s.cleanupStaleLbPairs allLbPairs allReserves).lbPairs.cache.get mint = some lbPair ↔
      s.lbPairs.cache.get mint = some lbPair ∧ ¬Gone allLbPairs allReserves lbPair := by
  rw [lbPairs_cleanup, ← mem_staleLbPairs]
  generalize staleLbPairs allLbPairs allReserves = stale
  have retained : (s.lbPairs.cleanupStaleLbPairs stale).cache.get mint =
      (s.lbPairs.cache.get mint).filter fun lbPair => !stale.contains lbPair := by
    simp only [LbPairs.cleanupStaleLbPairs]
    split
    · next none =>
        rw [List.isEmpty_iff.mp none]
        cases s.lbPairs.cache.get mint with
        | none => rfl
        | some => rfl
    · split
      · exact AssocMap.get_retain
      · exact AssocMap.get_retain
  rw [retained, Option.filter_eq_some_iff, Bool.not_eq_true', List.contains_eq_mem,
    decide_eq_false_iff_not]

theorem get_reserves_cleanup (key : String)
    (entry : CacheEntry (Option DlmmPoolReserves)) :
    (s.cleanupStaleLbPairs allLbPairs allReserves).reserves.get key = some entry ↔
      s.reserves.get key = some entry ∧
        ∀ reserves, entry.data = some reserves →
          ¬Gone allLbPairs allReserves reserves.lbPair := by
  simp only [← mem_staleLbPairs, cleanupStaleLbPairs]
  generalize staleLbPairs allLbPairs allReserves = stale
  split
  · next none =>
      rw [List.isEmpty_iff.mp none]
      exact (and_iff_left fun _ _ => List.not_mem_nil).symm
  · rw [AssocMap.get_retain, Option.filter_eq_some_iff]
    apply and_congr_right
    intro _
    cases entry.data with
    | none =>
        apply iff_of_true rfl
        intro reserves same
        cases same
    | some reserves => simp

/-- Without an empty list, an eviction of nothing keeps the metadata too. -/
theorem metadata_cleanup (full : s.metadata.NoEmptyList) (key : String) :
    (s.cleanupStaleLbPairs allLbPairs allReserves).metadata.get key =
      (s.metadata.retainMembers fun pool =>
        !(staleLbPairs allLbPairs allReserves).contains pool.lbPair).get key := by
  simp only [cleanupStaleLbPairs]
  generalize staleLbPairs allLbPairs allReserves = stale
  split
  · next none =>
      rw [List.isEmpty_iff.mp none]
      exact (AssocMap.get_retainMembers_all full fun _ => rfl).symm
  · rfl

/-- The table is written again exactly when a pool was evicted. -/
theorem metadataTable_cleanup (mirrored : s.metadataTable.Perm (savedRows s.metadata))
    (wellFormed : WellFormed s.metadata) :
    (s.cleanupStaleLbPairs allLbPairs allReserves).metadataTable.Perm
      (savedRows (s.metadata.retainMembers fun pool =>
        !(staleLbPairs allLbPairs allReserves).contains pool.lbPair)) := by
  simp only [cleanupStaleLbPairs]
  generalize staleLbPairs allLbPairs allReserves = stale
  let keep (pool : DlmmPoolMetadata) : Bool := !stale.contains pool.lbPair
  have retained : (s.metadata.retainMembers keep).rows =
      s.metadata.rows.filter fun row => keep row.2 := AssocMap.rows_retainMembers s.metadata keep
  have rest (all : (s.metadata.rows.filter fun row => keep row.2) = s.metadata.rows) :
      s.metadataTable.Perm (savedRows (s.metadata.retainMembers keep)) := by
    rw [savedRows, retained, all]
    exact mirrored
  split
  · next none =>
      apply rest
      have empty := List.isEmpty_iff.mp none
      apply List.filter_eq_self.mpr
      intro row _
      simp [keep, empty]
  · split
    · rw [saveMetadataCache_eq]
      intro key pools held
      rcases AssocMap.get_retainMembers_eq_some.mp held with ⟨all, before, kept, _⟩
      exact (wellFormed.distinct key all before).sublist
        ((kept ▸ List.filter_sublist).map DlmmPoolMetadata.lbPair)
    · next all =>
        apply rest
        rw [poolCount, poolCount, ← AssocMap.length_rows, ← AssocMap.length_rows, retained] at all
        exact List.filter_sublist.eq_of_length_le (Nat.not_lt.mp all)

/-- From mirrored caches, an eviction removes exactly what mentions a pair that is gone. -/
theorem cleaned_cleanup (mirrored : Mirrored s) (wellFormed : WellFormed s.metadata) :
    Cleaned (Gone allLbPairs allReserves) s
      (s.cleanupStaleLbPairs allLbPairs allReserves) := by
  let keep (lbPair : String) : Bool := !(staleLbPairs allLbPairs allReserves).contains lbPair
  have keep_iff (lbPair : String) :
      keep lbPair = true ↔ ¬Gone allLbPairs allReserves lbPair := by
    rw [← mem_staleLbPairs, Bool.not_eq_true', List.contains_eq_mem, decide_eq_false_iff_not]
  have held (key : String) :
      (s.cleanupStaleLbPairs allLbPairs allReserves).metadata.get key =
        (s.metadata.retainMembers fun pool => keep pool.lbPair).get key :=
    metadata_cleanup wellFormed.nonempty key
  have table : (s.cleanupStaleLbPairs allLbPairs allReserves).metadataTable.Perm
      (savedRows (s.metadata.retainMembers fun pool => keep pool.lbPair)) :=
    metadataTable_cleanup mirrored.metadata wellFormed
  have tokens : (s.cleanupStaleLbPairs allLbPairs allReserves).lbPairs.Mirrored := by
    rw [lbPairs_cleanup]
    exact LbPairs.mirrored_cleanup mirrored.lbPairs _
  constructor
  case tokens => exact get_tokens_cleanup
  case reserves => exact get_reserves_cleanup
  case metadata =>
    intro key pool
    rw [held, AssocMap.mem_get_retainMembers, keep_iff]
  case unchanged =>
    intro key pools before clean
    rw [held]
    exact AssocMap.get_retainMembers_of_forall wellFormed.nonempty before
      fun pool inside => (keep_iff pool.lbPair).mpr (clean pool inside)
  case ordered =>
    intro key pools after
    rw [held] at after
    rcases AssocMap.get_retainMembers_eq_some.mp after with ⟨all, before, kept, _⟩
    exact ⟨all, before, kept ▸ List.filter_sublist⟩
  case nonempty =>
    intro key pools after
    rw [held] at after
    exact AssocMap.noEmptyList_retainMembers s.metadata _ key pools after
  case tokenRows =>
    intro mint lbPair
    rw [tokens mint lbPair, mirrored.lbPairs mint lbPair]
    exact get_tokens_cleanup mint lbPair
  case metadataRows =>
    intro row
    rw [table.mem_iff, mirrored.metadata.mem_iff, mem_savedRows_retainMembers, keep_iff]
  case tokensRestored => exact (LbPairs.survives_iff_mirrored _).mpr tokens
  case metadataRestored =>
    intro rows order key
    rw [held]
    exact loadMetadataCache_perm (AssocMap.noEmptyList_retainMembers s.metadata _)
      (order.trans table) key

end

/-- A pool of the pair of mints `SOL` and `meme`. -/
def samplePool (pair : Pubkey) : DlmmPoolMetadata where
  lbPair := pair.toBase58
  tokenXMint := "SOL"
  tokenYMint := "meme"
  binStep := 100
  baseFactor := 10000
  binArrayBitmapExtension := none

/-- The pool whose account is still there. -/
def sampleReserves : DlmmPoolReserves where
  lbPair := Pubkey.zero.toBase58
  tokenXMint := "SOL"
  tokenYMint := "meme"
  reserveXAddress := "x"
  reserveYAddress := "y"
  binArrayAddresses := []
  binArrayBitmapExtension := none

/-- Two pools of one pair of mints, with their tables. -/
def sampleCaches : DlmmCaches :=
  let tokens : TokenCache :=
    (AssocMap.empty.insert "SOL" Pubkey.zero.toBase58).insert "meme" (Pubkey.ofNat 1).toBase58
  let metadata : MetadataCache :=
    AssocMap.empty.insert "SOL:meme" [samplePool .zero, samplePool (.ofNat 1)]
  { lbPairs := { cache := tokens, table := tokens.entries }
    reserves := AssocMap.empty.insert "SOL:meme" ⟨some sampleReserves, 0, false⟩
    metadata
    metadataTable := savedRows metadata }

/-- The second pool is gone. -/
theorem cleaned_cleanup_sample :
    Cleaned (Gone [.zero, .ofNat 1] [some sampleReserves, none]) sampleCaches
      (sampleCaches.cleanupStaleLbPairs [.zero, .ofNat 1] [some sampleReserves, none]) := by
  apply cleaned_cleanup
  · exact ⟨fun _ _ => AssocMap.mem_entries_iff, .refl _⟩
  · have held (key : String) (pools : List DlmmPoolMetadata)
        (found : sampleCaches.metadata.get key = some pools) :
        pools = [samplePool .zero, samplePool (.ofNat 1)] := by
      have inside := AssocMap.mem_entries_iff.mpr found
      exact (Prod.mk.inj (List.mem_singleton.mp inside)).2
    constructor
    · intro key pools found
      rw [held key pools found]
      exact List.cons_ne_nil _ _
    · intro key pools found
      rw [held key pools found]
      apply List.nodup_cons.mpr
      refine ⟨?_, List.nodup_singleton _⟩
      intro inside
      have same := Pubkey.toBase58_injective (List.mem_singleton.mp inside)
      exact absurd same (by decide)

end DlmmCaches

end AtomicArbitrage.Bot
