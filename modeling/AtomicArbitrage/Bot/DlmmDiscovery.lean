import AtomicArbitrage.Bot.BinWindow
import AtomicArbitrage.Bot.PoolStore
import Mathlib.Data.List.MinMax

/-!
# Discovery of DLMM pools

A call for the pools of a mint is answered from a cache for ten seconds.  After that it asks for
the pools in the metadata and, where none of these is deep enough, for all pools of the program.
Other calls run while it waits.
-/

namespace AtomicArbitrage.Bot

def dlmmReserveTtlSecs : ℕ := 10

section

variable {Data : Type}

/-- `CacheEntry::new_negative`. -/
def CacheEntry.newNegative (data : Data) (now : Instant) : CacheEntry Data where
  data
  updatedAt := now
  negative := true

/-- `age_secs`. -/
def CacheEntry.ageSecs (entry : CacheEntry Data) (now : Instant) : ℕ :=
  elapsedSecs entry.updatedAt now

end

/-- `next_utc_midnight`. -/
def nextUtcMidnight (unixTime : ℕ) : ℕ := (unixTime / 86400 + 1) * 86400

/-! ## Calls -/

/-- A call of `fetch_dlmm_by_mints`, for a mint of the whitelist and SOL or USDC. -/
structure DlmmQuery where
  solMint : String
  memeMint : String
  minReserveLamports : UInt64
  quoted : solMint = Client.nativeSolMint ∨ solMint = Client.usdcMint
  traded : memeMint ≠ Client.nativeSolMint ∧ memeMint ≠ Client.usdcMint
  plain : Plain memeMint

namespace DlmmQuery

variable (query : DlmmQuery)

/-- The key of the caches. -/
def key : String := cacheKey query.solMint query.memeMint

/-- `sol_res`. -/
def solRes (pool : DlmmPoolFetched) : UInt64 :=
  if pool.tokenXMint = query.solMint then pool.reserveX else pool.reserveY

/-- The pool is quoted in the mint of the call. -/
def Quotes (tokenXMint tokenYMint : String) : Prop :=
  tokenXMint = query.solMint ∨ tokenYMint = query.solMint

instance (tokenXMint tokenYMint : String) : Decidable (query.Quotes tokenXMint tokenYMint) :=
  inferInstanceAs (Decidable (_ ∨ _))

/-- The deepest pool: of equal ones the last. -/
def best (pools : List DlmmPoolFetched) : Option DlmmPoolFetched :=
  pools.reverse.argmax fun pool => (query.solRes pool).toNat

end DlmmQuery

/-- What a call waits for. -/
inductive DlmmStage where
  /-- The reserves of pools in the metadata. -/
  | metadata (metas : List DlmmPoolMetadata)
  /-- The pools of the program, beside the one that is known from an event. -/
  | programAccounts (known : Option Pubkey)
  /-- The reserves of these pools. -/
  | reserves (lbPairs : List Pubkey)

/-- A call that waits. -/
structure DlmmTask where
  query : DlmmQuery
  stage : DlmmStage

/-- The result of a call. -/
structure DlmmAnswer where
  query : DlmmQuery
  time : Instant
  cached : Bool
  pools : List DlmmPoolFetched

/-- What a call is told while it waits: by the node, by the cache of the stream for each pool,
and by `discover_lb_pairs_via_gpa` for both orders of the mints. -/
structure DlmmReplies where
  rpc : Rpc
  pairCache : Pubkey → GeyserPoolCache
  reserveCache : Pubkey → GeyserPoolCache
  arrayCache : Pubkey → GeyserPoolCache
  programAccounts : List Pubkey

/-! ## The state -/

/-- The caches of DLMM pools, their tables, the calls that wait and the results so far. -/
structure DlmmStore where
  now : Instant
  unixTime : ℕ
  lbPairs : LbPairs
  pools : PoolCache (Option DlmmPoolFetched)
  metadata : MetadataCache
  metadataTable : List DlmmMetadataRow
  zeroSkip : AssocMap String ℕ
  tasks : List DlmmTask
  answers : List DlmmAnswer

/-- The part of a pool that an eviction reads. -/
def DlmmPoolFetched.toReserves (pool : DlmmPoolFetched) : Client.DlmmPoolReserves where
  lbPair := pool.lbPair
  tokenXMint := pool.tokenXMint
  tokenYMint := pool.tokenYMint
  reserveXAddress := pool.reserveXAddress
  reserveYAddress := pool.reserveYAddress
  binArrayAddresses := pool.binArrayAddresses
  binArrayBitmapExtension := pool.binArrayBitmapExtension

/-- What the metadata keeps of a pool. -/
def DlmmPoolFetched.poolMeta (pool : DlmmPoolFetched) : DlmmPoolMetadata where
  lbPair := pool.lbPair
  tokenXMint := pool.tokenXMint
  tokenYMint := pool.tokenYMint
  binStep := pool.binStep
  baseFactor := pool.baseFactor
  binArrayBitmapExtension := pool.binArrayBitmapExtension

/-- `all_lb_pairs`: the known pool and those of the program, each once. -/
def allLbPairs (known : Option Pubkey) (found : List Pubkey) : List Pubkey :=
  found.foldl (fun all pair => if pair ∈ all then all else all ++ [pair]) known.toList

namespace DlmmStore

/-- The first start, with empty tables. -/
def start (uptime unixTime : ℕ) : DlmmStore where
  now := uptime
  unixTime
  lbPairs := { cache := .empty, table := [] }
  pools := .empty
  metadata := .empty
  metadataTable := []
  zeroSkip := .empty
  tasks := []
  answers := []

section

variable (query : DlmmQuery) (s : DlmmStore)

/-- The call returns. -/
def answer (cached : Bool) (pools : List DlmmPoolFetched) : DlmmStore :=
  { s with answers := { query, time := s.now, cached, pools } :: s.answers }

/-- The call waits. -/
def wait (stage : DlmmStage) : DlmmStore :=
  { s with tasks := s.tasks ++ [{ query, stage }] }

/-- The answer of the reserve cache. -/
def cachedPools : Option (List DlmmPoolFetched) := do
  let entry ← AssocMap.get s.pools query.key
  if entry.ageSecs s.now < dlmmReserveTtlSecs then some entry.data.toList else none

/-- `cached_metas`: what is in the metadata and not to be skipped. -/
def cachedMetas : List DlmmPoolMetadata :=
  ((AssocMap.get s.metadata query.key).getD []).filter fun poolMeta =>
    ((AssocMap.get s.zeroSkip poolMeta.lbPair).map fun deadline =>
      decide (s.unixTime ≥ deadline)).getD true

/-- The discovery of all pools: it asks for those of the program. -/
def discover : DlmmStore :=
  s.wait query
    (.programAccounts ((AssocMap.get s.lbPairs.cache query.memeMint).bind Pubkey.fromStr?))

/-- `fetch_dlmm_by_mints`, as far as it goes without an answer. -/
def ask : DlmmStore :=
  match s.cachedPools query with
  | some pools => s.answer query true pools
  | none =>
      if (s.cachedMetas query).isEmpty then s.discover query
      else s.wait query (.metadata (s.cachedMetas query))

/-- Pools that are too shallow are skipped until a deadline. -/
def markSkipped (lbPairs : List String) (deadline : ℕ) : DlmmStore :=
  { s with
    zeroSkip := lbPairs.foldl (fun skip lbPair => skip.insert lbPair deadline) s.zeroSkip }

/-- Pools that could not be read leave the metadata of the key. -/
def evictDead (dead : List String) : DlmmStore :=
  if dead.isEmpty then s
  else
    match AssocMap.get s.metadata query.key with
    | none => s
    | some pools =>
        let kept := pools.filter fun poolMeta => !dead.contains poolMeta.lbPair
        let metadata :=
          if kept.isEmpty then s.metadata.retain fun entry => entry.1 ≠ query.key
          else s.metadata.modify query.key fun _ => kept
        { s with metadata, metadataTable := saveMetadataCache metadata }

/-- The deepest pool is cached. -/
def cacheBest (pools : List DlmmPoolFetched) : DlmmStore :=
  { s with pools := AssocMap.insert s.pools query.key (.new (query.best pools) s.now) }

/-- That there is no pool is cached. -/
def cacheNegative : DlmmStore :=
  { s with pools := AssocMap.insert s.pools query.key (.newNegative none s.now) }

/-- The pools become the metadata of the key. -/
def saveMetadata (pools : List DlmmPoolFetched) : DlmmStore :=
  let metadata := s.metadata.insert query.key (pools.map DlmmPoolFetched.poolMeta)
  { s with metadata, metadataTable := saveMetadataCache metadata }

/-- `cleanup_stale_lb_pairs`: here the cache holds whole pools, which are evicted by the same
test. -/
def cleanupStaleLbPairs (lbPairs : List Pubkey) (allReserves : List (Option DlmmPoolFetched)) :
    DlmmStore :=
  let reserves := allReserves.map (Option.map DlmmPoolFetched.toReserves)
  let stale := staleLbPairs lbPairs reserves
  let others : DlmmCaches :=
    { lbPairs := s.lbPairs
      reserves := .empty
      metadata := s.metadata
      metadataTable := s.metadataTable }
  let cleaned := others.cleanupStaleLbPairs lbPairs reserves
  { s with
    lbPairs := cleaned.lbPairs
    pools := s.pools.retain fun entry =>
      match entry.2.data with
      | some pool => !stale.contains pool.lbPair
      | none => true
    metadata := cleaned.metadata
    metadataTable := cleaned.metadataTable }

/-- The pools of the program have been found. -/
def programAccountsAnswered (known : Option Pubkey) (found : List Pubkey) : DlmmStore :=
  let all := allLbPairs known found
  let s :=
    match (all.drop known.toList.length).head? with
    | none => s
    | some pair =>
        { s with
          lbPairs := s.lbPairs.cacheDlmmLbPair query.solMint query.memeMint pair.toBase58 }
  if all.isEmpty then (s.cacheNegative query).answer query false []
  else s.wait query (.reserves all)

variable (pda : FindProgramAddress)

/-- The reserves of the pools in the metadata have been fetched. -/
def metadataAnswered (rpc : Rpc) (metas : List DlmmPoolMetadata) : DlmmStore :=
  let results := metas.map fun poolMeta =>
    (poolMeta.lbPair, fetchReservesWithMetadata pda rpc poolMeta)
  let liveResults := results.filterMap Prod.snd
  let belowThreshold := (results.filter fun result =>
    result.2.any fun pool => query.solRes pool < query.minReserveLamports).map Prod.fst
  let deadPools := (results.filter fun result => result.2.isNone).map Prod.fst
  let usable := liveResults.filter fun pool => query.solRes pool ≥ query.minReserveLamports
  let s := (s.markSkipped belowThreshold (s.unixTime + 1800)).evictDead query deadPools
  if usable.isEmpty then s.discover query
  else (s.cacheBest query usable).answer query false usable

/-- The reserves of all pools have been fetched. -/
def reservesAnswered (replies : DlmmReplies) (lbPairs : List Pubkey) : DlmmStore :=
  let allReserves := lbPairs.map fun pair =>
    fetchReservesInner pda (replies.pairCache pair) (replies.reserveCache pair)
      (replies.arrayCache pair) replies.rpc pair
  let s := s.cleanupStaleLbPairs lbPairs allReserves
  let onQuote := (allReserves.filterMap id).filter fun pool =>
    query.Quotes pool.tokenXMint pool.tokenYMint
  let belowThreshold := onQuote.filter fun pool =>
    query.solRes pool < query.minReserveLamports
  let validReserves := onQuote.filter fun pool =>
    ¬query.solRes pool < query.minReserveLamports
  let s := s.markSkipped (belowThreshold.map DlmmPoolFetched.lbPair) (nextUtcMidnight s.unixTime)
  if validReserves.isEmpty then (s.cacheNegative query).answer query false []
  else
    ((s.cacheBest query validReserves).saveMetadata query validReserves).answer query false
      validReserves

/-- A call goes on with what it is told. -/
def resume (replies : DlmmReplies) (task : DlmmTask) : DlmmStore :=
  match task.stage with
  | .metadata metas => s.metadataAnswered task.query pda replies.rpc metas
  | .programAccounts known => s.programAccountsAnswered task.query known replies.programAccounts
  | .reserves lbPairs => s.reservesAnswered task.query pda replies lbPairs

/-- A new process: `load_lb_pair_cache`, of rows that a query returns in any order. -/
def restart (pairOrder : String × String → String × String → Bool)
    (metadataOrder : DlmmMetadataRow → DlmmMetadataRow → Bool) : DlmmStore :=
  { s with
    lbPairs := { s.lbPairs with cache := loadLbPairs (s.lbPairs.table.mergeSort pairOrder) }
    pools := .empty
    metadata := loadMetadataCache (s.metadataTable.mergeSort metadataOrder)
    zeroSkip := .empty
    tasks := [] }

end

/-- What happens, in any order. -/
inductive Step where
  | tick (nanos : ℕ)
  | wallClock (unixTime : ℕ)
  | asked (query : DlmmQuery)
  | told (position : ℕ) (replies : DlmmReplies)
  | swapSeen (mintA mintB lbPair : String)
  | restarted (pairOrder : String × String → String × String → Bool)
      (metadataOrder : DlmmMetadataRow → DlmmMetadataRow → Bool)

def step (pda : FindProgramAddress) (s : DlmmStore) : Step → DlmmStore
  | .tick nanos => { s with now := s.now + nanos }
  | .wallClock unixTime => { s with unixTime }
  | .asked query => s.ask query
  | .told position replies =>
      match s.tasks[position]? with
      | none => s
      | some task => { s with tasks := s.tasks.eraseIdx position }.resume pda replies task
  | .swapSeen mintA mintB lbPair =>
      { s with lbPairs := s.lbPairs.cacheDlmmLbPair mintA mintB lbPair }
  | .restarted pairOrder metadataOrder => s.restart pairOrder metadataOrder

end DlmmStore

/-! ## Calls of one pair -/

namespace DlmmQuery

theorem plain_solMint (query : DlmmQuery) : Plain query.solMint := by
  rcases query.quoted with sol | usdc
  · rw [sol]
    decide
  · rw [usdc]
    decide

/-- A mint of the whitelist is never the quote of a call. -/
theorem solMint_ne_memeMint (query other : DlmmQuery) : query.solMint ≠ other.memeMint := by
  intro same
  rcases query.quoted with sol | usdc
  · exact other.traded.1 (same ▸ sol)
  · exact other.traded.2 (same ▸ usdc)

/-- A key determines the pair of a call. -/
theorem key_inj {query other : DlmmQuery} (same : query.key = other.key) :
    query.solMint = other.solMint ∧ query.memeMint = other.memeMint := by
  have sorted := sortMints_of_cacheKey other.plain_solMint other.plain same
  rcases sortMints_cases query.solMint query.memeMint with kept | swapped
  · rcases sortMints_cases other.solMint other.memeMint with kept' | swapped'
    · rw [kept, kept', Prod.mk.injEq] at sorted
      exact sorted
    · rw [kept, swapped', Prod.mk.injEq] at sorted
      exact absurd sorted.1 (solMint_ne_memeMint query other)
  · rcases sortMints_cases other.solMint other.memeMint with kept' | swapped'
    · rw [swapped, kept', Prod.mk.injEq] at sorted
      exact absurd sorted.2 (solMint_ne_memeMint query other)
    · rw [swapped, swapped', Prod.mk.injEq] at sorted
      exact ⟨sorted.2, sorted.1⟩

/-- What a call quotes depends on its key. -/
theorem quotes_of_key {query other : DlmmQuery} (same : query.key = other.key)
    {tokenXMint tokenYMint : String} (quotes : other.Quotes tokenXMint tokenYMint) :
    query.Quotes tokenXMint tokenYMint := by
  rw [Quotes, (key_inj same).1]
  exact quotes

end DlmmQuery

/-! ## The metadata and its table -/

namespace DlmmStore

/-- The table holds the metadata, and each list is of different pools that its key quotes. -/
structure MetadataSound (metadata : MetadataCache) (table : List DlmmMetadataRow) : Prop where
  wellFormed : DlmmCaches.WellFormed metadata
  mirrored : table.Perm (savedRows metadata)
  quoted : ∀ (query : DlmmQuery) (pools : List DlmmPoolMetadata),
    AssocMap.get metadata query.key = some pools →
      ∀ poolMeta ∈ pools, query.Quotes poolMeta.tokenXMint poolMeta.tokenYMint

section

variable {metadata : MetadataCache} {table : List DlmmMetadataRow} {query : DlmmQuery}

/-- Saved metadata. -/
theorem MetadataSound.saved (wellFormed : DlmmCaches.WellFormed metadata)
    (quoted : ∀ (query : DlmmQuery) (pools : List DlmmPoolMetadata),
      AssocMap.get metadata query.key = some pools →
        ∀ poolMeta ∈ pools, query.Quotes poolMeta.tokenXMint poolMeta.tokenYMint) :
    MetadataSound metadata (saveMetadataCache metadata) where
  wellFormed
  mirrored := by rw [saveMetadataCache_eq wellFormed.distinct]
  quoted

/-- Metadata of which every list is part of one that was sound before. -/
theorem MetadataSound.sublists (sound : MetadataSound metadata table) {less : MetadataCache}
    {rows : List DlmmMetadataRow} (mirrored : rows.Perm (savedRows less))
    (part : ∀ key pools, AssocMap.get less key = some pools →
      pools ≠ [] ∧ ∃ all, AssocMap.get metadata key = some all ∧ pools.Sublist all) :
    MetadataSound less rows where
  wellFormed := by
    constructor
    · intro key pools held
      exact (part key pools held).1
    · intro key pools held
      rcases (part key pools held).2 with ⟨all, before, sublist⟩
      exact (sound.wellFormed.distinct key all before).sublist (sublist.map _)
  mirrored
  quoted := by
    intro query pools held poolMeta inside
    rcases (part query.key pools held).2 with ⟨all, before, sublist⟩
    exact sound.quoted query all before poolMeta (sublist.subset inside)

/-- The eviction of dead pools writes the table again. -/
theorem metadataSound_evictDead {s : DlmmStore}
    (sound : MetadataSound s.metadata s.metadataTable) (dead : List String) :
    MetadataSound (s.evictDead query dead).metadata (s.evictDead query dead).metadataTable := by
  have saved {less : MetadataCache}
      (part : ∀ key pools, AssocMap.get less key = some pools →
        pools ≠ [] ∧ ∃ all, AssocMap.get s.metadata key = some all ∧ pools.Sublist all) :
      MetadataSound less (saveMetadataCache less) := by
    have kept := sound.sublists (.refl (savedRows less)) part
    exact .saved kept.wellFormed kept.quoted
  simp only [evictDead]
  split
  · exact sound
  · split
    · exact sound
    · next pools before =>
        apply saved
        intro key list held
        split at held
        · rw [AssocMap.get_retain, Option.filter_eq_some_iff] at held
          exact ⟨sound.wellFormed.nonempty key list held.1, list, held.1, .refl list⟩
        · next some =>
            rw [AssocMap.get_modify] at held
            split at held
            · next same =>
                rw [same, before, Option.map_some, Option.some_inj] at held
                rw [same, ← held]
                refine ⟨?_, pools, before, List.filter_sublist⟩
                intro none
                exact some (List.isEmpty_iff.mpr none)
            · exact ⟨sound.wellFormed.nonempty key list held, list, held, .refl list⟩

/-- So does the eviction of stale pairs, where it changes something. -/
theorem metadataSound_cleanup {s : DlmmStore}
    (sound : MetadataSound s.metadata s.metadataTable) (lbPairs : List Pubkey)
    (allReserves : List (Option DlmmPoolFetched)) :
    MetadataSound (s.cleanupStaleLbPairs lbPairs allReserves).metadata
      (s.cleanupStaleLbPairs lbPairs allReserves).metadataTable := by
  let others : DlmmCaches :=
    { lbPairs := s.lbPairs
      reserves := .empty
      metadata := s.metadata
      metadataTable := s.metadataTable }
  have rows := @DlmmCaches.metadataTable_cleanup others lbPairs
    (allReserves.map (Option.map DlmmPoolFetched.toReserves)) sound.mirrored sound.wellFormed
  simp only [cleanupStaleLbPairs, DlmmCaches.cleanupStaleLbPairs] at rows ⊢
  split
  · exact sound
  · next some =>
      rw [if_neg some] at rows
      apply sound.sublists rows
      intro key pools held
      rcases AssocMap.get_retainMembers_eq_some.mp held with ⟨all, before, kept, nonempty⟩
      exact ⟨nonempty, all, before, kept ▸ List.filter_sublist⟩

/-- New metadata of a key: different pools that the call quotes. -/
theorem metadataSound_save {s : DlmmStore} (sound : MetadataSound s.metadata s.metadataTable)
    {pools : List DlmmPoolFetched} (some : pools ≠ [])
    (distinct : (pools.map DlmmPoolFetched.lbPair).Nodup)
    (quoted : ∀ pool ∈ pools, query.Quotes pool.tokenXMint pool.tokenYMint) :
    MetadataSound (s.saveMetadata query pools).metadata
      (s.saveMetadata query pools).metadataTable := by
  have written (key : String) :
      AssocMap.get (s.saveMetadata query pools).metadata key =
        if key = query.key then Option.some (pools.map DlmmPoolFetched.poolMeta)
        else AssocMap.get s.metadata key := AssocMap.get_insert
  apply MetadataSound.saved
  · constructor
    · intro key list held
      rw [written] at held
      split at held
      · intro none
        rw [none, Option.some_inj] at held
        exact some (List.map_eq_nil_iff.mp held)
      · exact sound.wellFormed.nonempty key list held
    · intro key list held
      rw [written] at held
      split at held
      · rw [← Option.some_inj.mp held, List.map_map]
        exact distinct
      · exact sound.wellFormed.distinct key list held
  · intro other list held
    rw [written] at held
    split at held
    · next same =>
        rw [← Option.some_inj.mp held]
        intro poolMeta inside
        rcases List.mem_map.mp inside with ⟨pool, member, rfl⟩
        exact DlmmQuery.quotes_of_key same (quoted pool member)
    · exact sound.quoted other list held

/-- The rows of some metadata are those of what is loaded from them. -/
theorem savedRows_load {rows : List DlmmMetadataRow} (order : rows.Perm (savedRows metadata)) :
    rows.Perm (savedRows (loadMetadataCache rows)) := by
  have columns : ∀ row ∈ rows, DlmmMetadataRow.ofPool row.key row.pool = row := by
    intro row inside
    rcases List.mem_map.mp (order.mem_iff.mp inside) with ⟨⟨key, pool⟩, -, rfl⟩
    rw [DlmmMetadataRow.pool_ofPool]
    rfl
  have grouped := (AssocMap.rows_group_perm (rows.map fun row => (row.key, row.pool))).map
    fun row => DlmmMetadataRow.ofPool row.1 row.2
  rw [List.map_map] at grouped
  rw [savedRows, loadMetadataCache_eq]
  refine (grouped.trans (.of_eq ?_)).symm
  exact (List.map_congr_left columns).trans (List.map_id rows)

/-- A restart reads the metadata back, whatever the order of the rows. -/
theorem metadataSound_load (sound : MetadataSound metadata table)
    {rows : List DlmmMetadataRow} (order : rows.Perm table) :
    MetadataSound (loadMetadataCache rows) table := by
  have saved := order.trans sound.mirrored
  have lists := loadMetadataCache_perm sound.wellFormed.nonempty saved
  have before {key : String} {pools : List DlmmPoolMetadata}
      (held : AssocMap.get (loadMetadataCache rows) key = some pools) :
      ∃ all, AssocMap.get metadata key = some all ∧ pools.Perm all := by
    have related := lists key
    rw [held] at related
    generalize AssocMap.get metadata key = there at related
    cases related with
    | some same => exact ⟨_, rfl, same⟩
  refine ⟨⟨?_, ?_⟩, order.symm.trans (savedRows_load saved), ?_⟩
  · intro key pools held
    rcases before held with ⟨all, there, same⟩
    intro none
    rw [none] at same
    exact sound.wellFormed.nonempty key all there same.symm.eq_nil
  · intro key pools held
    rcases before held with ⟨all, there, same⟩
    exact (same.map DlmmPoolMetadata.lbPair).nodup_iff.mpr
      (sound.wellFormed.distinct key all there)
  · intro query pools held poolMeta inside
    rcases before held with ⟨all, there, same⟩
    exact sound.quoted query all there poolMeta (same.mem_iff.mp inside)

end

/-! ## What the fetches find -/

section

variable {pda : FindProgramAddress} {rpc : Rpc} {pool : DlmmPoolFetched}

/-- A fetch with metadata takes the mints from there. -/
theorem mints_of_fetchReservesWithMetadata {poolMeta : DlmmPoolMetadata}
    (fetched : fetchReservesWithMetadata pda rpc poolMeta = some pool) :
    pool.tokenXMint = poolMeta.tokenXMint ∧ pool.tokenYMint = poolMeta.tokenYMint := by
  simp only [fetchReservesWithMetadata, Option.bind_eq_bind, Option.bind_eq_some_iff] at fetched
  rcases fetched with ⟨_, _, _, _, fetched⟩
  split at fetched
  · simp only [Option.bind_none, reduceCtorEq] at fetched
  simp only [Option.bind_eq_some_iff, Option.pure_def, Option.some_inj] at fetched
  rcases fetched with ⟨_, _, _, _, _, _, _, _, _, _, rfl⟩
  exact ⟨rfl, rfl⟩

/-- A fetch of a pool is of this pool. -/
theorem lbPair_of_fetchReservesInner {pairCache reserveCache arrayCache : GeyserPoolCache}
    {pair : Pubkey}
    (fetched : fetchReservesInner pda pairCache reserveCache arrayCache rpc pair = some pool) :
    pool.lbPair = pair.toBase58 := by
  rcases Option.bind_eq_some_iff.mp fetched with ⟨_, _, fetched⟩
  split at fetched
  · simp only [Option.bind_eq_bind, Option.bind_none, reduceCtorEq] at fetched
  simp only [Option.bind_eq_bind, Option.bind_eq_some_iff] at fetched
  rcases fetched with ⟨_, _, _, _, _, _, _, _, _, _, _, _, _, _, _, _, fetched⟩
  rw [← Option.some_inj.mp fetched]

/-- Fetches of different pools are of different pools. -/
theorem nodup_fetched {fetch : Pubkey → Option DlmmPoolFetched} {lbPairs : List Pubkey}
    (named : ∀ pair pool, fetch pair = some pool → pool.lbPair = pair.toBase58)
    (distinct : lbPairs.Nodup) :
    (((lbPairs.map fetch).filterMap id).map DlmmPoolFetched.lbPair).Nodup := by
  have sublist : (((lbPairs.map fetch).filterMap id).map DlmmPoolFetched.lbPair).Sublist
      (lbPairs.map Pubkey.toBase58) := by
    clear distinct
    induction lbPairs with
    | nil => exact .slnil
    | cons pair lbPairs ih =>
        rw [List.map_cons, List.map_cons]
        cases found : fetch pair with
        | none => exact ih.cons _
        | some pool =>
            rw [List.filterMap_cons, id, List.map_cons, named pair pool found]
            exact ih.cons_cons _
  exact (distinct.map Pubkey.toBase58_injective).sublist sublist

theorem nodup_allLbPairs (known : Option Pubkey) (found : List Pubkey) :
    (allLbPairs known found).Nodup := by
  have added (found all : List Pubkey) (distinct : all.Nodup) :
      (found.foldl (fun all pair => if pair ∈ all then all else all ++ [pair]) all).Nodup := by
    induction found generalizing all with
    | nil => exact distinct
    | cons pair found ih =>
        rw [List.foldl_cons]
        split
        · exact ih all distinct
        · next new =>
            apply ih
            rw [← List.concat_eq_append]
            exact distinct.concat new
  apply added
  cases known with
  | none => exact List.nodup_nil
  | some pair => exact List.nodup_singleton pair

end

end DlmmStore

end AtomicArbitrage.Bot
