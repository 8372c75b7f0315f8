import AtomicArbitrage.Bot.CacheEntry
import AtomicArbitrage.Client.Constants

/-!
# The cache of CPMM pools

A pool is looked up by its two mints, or by one mint alone: that reverse lookup scans the
cache in whatever order the map iterates.  A fresh entry without data ends it, whoever it is
about; and the keys are searched for the text of the mint, whichever mints the pool has.
-/

namespace AtomicArbitrage.Bot

/-- What the cache holds of a CPMM pool. -/
structure PoolStateData where
  poolPubkey : String
  configPubkey : String
  token0Mint : String
  token1Mint : String
  token0Vault : String
  token1Vault : String
  token0VaultRaw : UInt64
  token1VaultRaw : UInt64
deriving DecidableEq

abbrev CpmmCache := PoolCache (Option PoolStateData)

/-- `get_pool_state`. -/
def getPoolState (cache : CpmmCache) (now : Instant) (t0 t1 : String) :
    Option PoolStateData :=
  PoolCache.getFresh cache now (cacheKey t0 t1)

/-- The body of the scan: `none` goes on to the next item, `some` returns. -/
def scanItem (now : Instant) (mint : String)
    (item : String × CacheEntry (Option PoolStateData)) : Option (Option PoolStateData) :=
  if item.2.isStale now then none
  else
    match item.2.data with
    | none => some none
    | some state => if textContains item.1 mint then some (some state) else none

/-- `get_pool_state_by_mint`. -/
def getPoolStateByMint (cache : CpmmCache) (now : Instant) (mint : String) :
    Option PoolStateData :=
  (cache.entries.findSome? (scanItem now mint)).join

/-- The two mints of a pool are these two. -/
def PoolStateData.IsPair (state : PoolStateData) (sol meme : String) : Prop :=
  (state.token0Mint = sol ∧ state.token1Mint = meme) ∨
    (state.token0Mint = meme ∧ state.token1Mint = sol)

/-- One of the two mints of a pool. -/
def PoolStateData.HasMint (state : PoolStateData) (mint : String) : Prop :=
  state.token0Mint = mint ∨ state.token1Mint = mint

instance (state : PoolStateData) (mint : String) : Decidable (state.HasMint mint) :=
  inferInstanceAs (Decidable (state.token0Mint = mint ∨ state.token1Mint = mint))

/-- An item is fresh and holds data. -/
def usable (now : Instant) (item : String × CacheEntry (Option PoolStateData)) : Bool :=
  !item.2.isStale now && item.2.data.isSome

/-- An item is fresh and holds a state under a key with the mint. -/
def IsHit (now : Instant) (mint : String) (item : String × CacheEntry (Option PoolStateData))
    (state : PoolStateData) : Prop :=
  item.2.isStale now = false ∧ item.2.data = some state ∧ textContains item.1 mint = true

namespace CpmmCache

/-- What the lookup by mint is for, in the order of one iteration: it finds a pool where the
cache has one, a pool of the mint, and is not led by the entries that hold nothing of use. -/
structure Complete (cache : CpmmCache) (now : Instant) (mint : String) : Prop where
  found : (∃ item ∈ cache.entries, usable now item = true ∧ textContains item.1 mint = true) →
    (getPoolStateByMint cache now mint).isSome = true
  right : ∀ state, getPoolStateByMint cache now mint = some state → state.HasMint mint
  unrelated : (getPoolStateByMint cache now mint).isSome =
    (getPoolStateByMint (cache.retain (usable now)) now mint).isSome

/-- Where the cache has a pool for the mint, no fresh entry is without data, and every such
pool is of the mint. -/
structure Answers (cache : CpmmCache) (now : Instant) (mint : String) : Prop where
  unblocked : (∃ item ∈ cache.entries, ∃ state, IsHit now mint item state) →
    ∀ item ∈ cache.entries, item.2.isStale now = false → item.2.data ≠ none
  right : ∀ item ∈ cache.entries, ∀ state, IsHit now mint item state → state.HasMint mint

/-- The entries in the order of another iteration. -/
def reorder (cache : CpmmCache)
    (entries : List (String × CacheEntry (Option PoolStateData)))
    (permuted : entries.Perm cache.entries) : CpmmCache where
  entries := entries
  distinct := (permuted.map Prod.fst).nodup_iff.mpr cache.distinct

variable {cache : CpmmCache} {now : Instant} {mint : String}
  {item : String × CacheEntry (Option PoolStateData)} {state : PoolStateData}

theorem scanItem_eq_some :
    scanItem now mint item = some (some state) ↔ IsHit now mint item state := by
  rw [scanItem, IsHit]
  cases item.2.isStale now with
  | true => simp
  | false =>
      cases item.2.data with
      | none => simp
      | some held =>
          cases textContains item.1 mint with
          | false => simp
          | true => simp

theorem scanItem_eq_blocked :
    scanItem now mint item = some none ↔ item.2.isStale now = false ∧ item.2.data = none := by
  rw [scanItem]
  cases item.2.isStale now with
  | true => simp
  | false =>
      cases item.2.data with
      | none => simp
      | some held =>
          cases textContains item.1 mint with
          | false => simp
          | true => simp

theorem usable_and_contains_iff :
    usable now item = true ∧ textContains item.1 mint = true ↔
      ∃ state, IsHit now mint item state := by
  rw [usable, Bool.and_eq_true, Bool.not_eq_true', Option.isSome_iff_exists]
  constructor
  · intro both
    rcases both with ⟨⟨fresh, state, held⟩, contains⟩
    exact ⟨state, fresh, held, contains⟩
  · intro hit
    rcases hit with ⟨state, fresh, held, contains⟩
    exact ⟨⟨fresh, state, held⟩, contains⟩

/-- Whatever the scan returns is a hit. -/
theorem exists_hit (found : getPoolStateByMint cache now mint = some state) :
    ∃ item ∈ cache.entries, IsHit now mint item state := by
  rw [getPoolStateByMint, Option.join_eq_some_iff] at found
  rcases List.exists_of_findSome?_eq_some found with ⟨item, inside, hit⟩
  exact ⟨item, inside, scanItem_eq_some.mp hit⟩

/-- Where nothing ends it early, the scan returns a hit if there is one. -/
theorem isSome_of_hit
    (unblocked : ∀ item ∈ cache.entries, item.2.isStale now = false → item.2.data ≠ none)
    (hit : ∃ item ∈ cache.entries, ∃ state, IsHit now mint item state) :
    (getPoolStateByMint cache now mint).isSome = true := by
  rcases hit with ⟨item, inside, state, hit⟩
  rw [getPoolStateByMint]
  cases scanned : cache.entries.findSome? (scanItem now mint) with
  | none =>
      have passed := List.findSome?_eq_none_iff.mp scanned item inside
      rw [scanItem_eq_some.mpr hit] at passed
      cases passed
  | some result =>
      cases result with
      | none =>
          rcases List.exists_of_findSome?_eq_some scanned with ⟨other, otherIn, blocks⟩
          have blocked := scanItem_eq_blocked.mp blocks
          exact absurd blocked.2 (unblocked other otherIn blocked.1)
      | some found => rfl

/-- An item that is met first ends the scan if it is fresh and holds nothing. -/
theorem scan_blocked {entries : List (String × CacheEntry (Option PoolStateData))}
    (first : cache.entries = item :: entries) (fresh : item.2.isStale now = false)
    (nothing : item.2.data = none) : getPoolStateByMint cache now mint = none := by
  rw [getPoolStateByMint, first, List.findSome?_cons,
    scanItem_eq_blocked.mpr ⟨fresh, nothing⟩]
  rfl

/-- A hit that is met first is what the scan returns. -/
theorem scan_hit {entries : List (String × CacheEntry (Option PoolStateData))}
    (first : cache.entries = item :: entries) (hit : IsHit now mint item state) :
    getPoolStateByMint cache now mint = some state := by
  rw [getPoolStateByMint, first, List.findSome?_cons, scanItem_eq_some.mpr hit]
  rfl

/-- Some iteration meets a given item first. -/
theorem exists_first (inside : item ∈ cache.entries) :
    ∃ order : CpmmCache, order.entries.Perm cache.entries ∧
      ∃ entries, order.entries = item :: entries :=
  ⟨cache.reorder _ (List.perm_cons_erase inside).symm, (List.perm_cons_erase inside).symm, _, rfl⟩

theorem Answers.perm {order : CpmmCache} (answers : cache.Answers now mint)
    (permuted : order.entries.Perm cache.entries) : order.Answers now mint where
  unblocked hit item inside := by
    apply answers.unblocked _ item (permuted.subset inside)
    rcases hit with ⟨other, otherIn, found⟩
    exact ⟨other, permuted.subset otherIn, found⟩
  right item inside := answers.right item (permuted.subset inside)

/-- The entries of use are the same hits. -/
theorem hit_retain_iff :
    (∃ item ∈ (cache.retain (usable now)).entries, ∃ state, IsHit now mint item state) ↔
      ∃ item ∈ cache.entries, ∃ state, IsHit now mint item state := by
  constructor
  · intro hit
    rcases hit with ⟨item, inside, found⟩
    exact ⟨item, List.mem_of_mem_filter inside, found⟩
  · intro hit
    rcases hit with ⟨item, inside, found⟩
    have use := (usable_and_contains_iff.mpr found).1
    exact ⟨item, List.mem_filter.mpr ⟨inside, use⟩, found⟩

/-- No entry of use ends a scan. -/
theorem unblocked_retain :
    ∀ item ∈ (cache.retain (usable now)).entries, item.2.isStale now = false →
      item.2.data ≠ none := by
  intro item inside _ nothing
  have use := (List.mem_filter.mp inside).2
  rw [usable, nothing] at use
  simp at use

theorem Answers.complete (answers : cache.Answers now mint) : cache.Complete now mint := by
  have found (hit : ∃ item ∈ cache.entries, ∃ state, IsHit now mint item state) :
      (getPoolStateByMint cache now mint).isSome = true :=
    isSome_of_hit (answers.unblocked hit) hit
  refine ⟨?_, ?_, ?_⟩
  · intro hit
    apply found
    rcases hit with ⟨item, inside, both⟩
    exact ⟨item, inside, usable_and_contains_iff.mp both⟩
  · intro state result
    rcases exists_hit result with ⟨item, inside, hit⟩
    exact answers.right item inside state hit
  · rw [Bool.eq_iff_iff]
    constructor
    · intro some
      rcases Option.isSome_iff_exists.mp some with ⟨state, result⟩
      rcases exists_hit result with ⟨item, inside, hit⟩
      exact isSome_of_hit unblocked_retain (hit_retain_iff.mpr ⟨item, inside, state, hit⟩)
    · intro some
      rcases Option.isSome_iff_exists.mp some with ⟨state, result⟩
      rcases exists_hit result with ⟨item, inside, hit⟩
      exact found (hit_retain_iff.mp ⟨item, inside, state, hit⟩)

/-- Whatever the order of the iteration, the lookup by mint is complete exactly when every hit
is a pool of the mint and, where there is a hit, no fresh entry is without data. -/
theorem complete_iff (cache : CpmmCache) (now : Instant) (mint : String) :
    (∀ order : CpmmCache, order.entries.Perm cache.entries → order.Complete now mint) ↔
      cache.Answers now mint := by
  constructor
  · intro complete
    constructor
    · intro hit item inside fresh nothing
      rcases exists_first inside with ⟨order, permuted, entries, first⟩
      rcases hit with ⟨other, otherIn, state, hit⟩
      have found := (complete order permuted).found
        ⟨other, permuted.symm.subset otherIn, usable_and_contains_iff.mpr ⟨state, hit⟩⟩
      rw [scan_blocked first fresh nothing] at found
      cases found
    · intro item inside state hit
      rcases exists_first inside with ⟨order, permuted, entries, first⟩
      exact (complete order permuted).right state (scan_hit first hit)
  · intro answers order permuted
    exact (answers.perm permuted).complete

end CpmmCache

/-- A meme mint that is traded against the dollar. -/
def sampleMeme : String := "DezXAZ8z7PnrnRJjz3wXBoRgixCa6xjnB7YaB1pPB263"

/-- Its dollar pool. -/
def sampleDollarPool : PoolStateData where
  poolPubkey := "pool"
  configPubkey := Client.cpmmAmmConfig
  token0Mint := sampleMeme
  token1Mint := Client.usdcMint
  token0Vault := "vault0"
  token1Vault := "vault1"
  token0VaultRaw := 1000
  token1VaultRaw := 2000

def sampleCpmmCache : CpmmCache where
  entries := [(cacheKey sampleMeme Client.usdcMint,
    { data := some sampleDollarPool, updatedAt := 0, negative := false })]
  distinct := by simp

/-- A pair that has no pool is met before the dollar pool of the meme mint. -/
def CpmmCache.sampleBlocked : CpmmCache where
  entries :=
    (cacheKey "other" Client.nativeSolMint, { data := none, updatedAt := 0, negative := true }) ::
      sampleCpmmCache.entries
  distinct := by decide +kernel

theorem CpmmCache.not_complete_blocked :
    ¬∀ (cache : CpmmCache) (now : Instant) (mint : String), cache.Complete now mint := by
  intro all
  have missing : getPoolStateByMint sampleBlocked 5 sampleMeme = none := by decide +kernel
  have found := (all sampleBlocked 5 sampleMeme).found
    ⟨sampleCpmmCache.entries.head (by simp [sampleCpmmCache]), by
      exact List.mem_cons_of_mem _ (List.head_mem _), by decide +kernel, by decide +kernel⟩
  rw [missing] at found
  cases found

end AtomicArbitrage.Bot
