import AtomicArbitrage.Bot.CpmmCache

/-!
# Finding a CPMM pool for a route

The route builders ask the cache for the pool of wrapped SOL and the traded mint, and fall
back to the lookup by that mint alone.  They take the mint of the other vault to be SOL.
-/

namespace AtomicArbitrage.Bot

/-- The resolution that all route builders share. -/
def resolveCpmm (cache : CpmmCache) (now : Instant) (sol meme : String) :
    Option PoolStateData :=
  (getPoolState cache now sol meme).or (getPoolStateByMint cache now meme)

/-- The builders' price of the pool: what they take for the SOL vault, then the other. -/
def cpmmSides (sol : String) (state : PoolStateData) : UInt64 × UInt64 :=
  if state.token0Mint = sol then (state.token0VaultRaw, state.token1VaultRaw)
  else (state.token1VaultRaw, state.token0VaultRaw)

/-! ## The right pool -/

/-- A balance that the pool records for a mint. -/
def PoolStateData.Holds (state : PoolStateData) (mint : String) (amount : UInt64) : Prop :=
  (state.token0Mint = mint ∧ state.token0VaultRaw = amount) ∨
    (state.token1Mint = mint ∧ state.token1VaultRaw = amount)

/-- Of a pool of the pair, the builders price each vault by its own mint. -/
theorem cpmmSides_of_isPair {state : PoolStateData} {sol meme : String}
    (pair : state.IsPair sol meme) :
    state.Holds sol (cpmmSides sol state).1 ∧ state.Holds meme (cpmmSides sol state).2 := by
  rw [cpmmSides]
  rcases pair with ⟨first, second⟩ | ⟨first, second⟩
  · rw [if_pos first]
    exact ⟨.inl ⟨first, rfl⟩, .inr ⟨second, rfl⟩⟩
  · split
    · next same => exact ⟨.inl ⟨same, rfl⟩, .inr ⟨second.trans (same.symm.trans first), rfl⟩⟩
    · exact ⟨.inr ⟨second, rfl⟩, .inl ⟨first, rfl⟩⟩

namespace CpmmCache

/-- A fresh entry under the pair's own key holds a state. -/
def OwnHit (cache : CpmmCache) (now : Instant) (sol meme : String) (state : PoolStateData) :
    Prop :=
  ∃ entry, (cacheKey sol meme, entry) ∈ cache.entries ∧ entry.isStale now = false ∧
    entry.data = some state

/-- What the cache holds under the pair's own key is of the pair; where nothing fresh is held
there, every fresh state under a key with the text of the mint is of the pair. -/
structure HoldsPair (cache : CpmmCache) (now : Instant) (sol meme : String) : Prop where
  own : ∀ state, cache.OwnHit now sol meme state → state.IsPair sol meme
  others : (∀ state, ¬cache.OwnHit now sol meme state) →
    ∀ item ∈ cache.entries, ∀ state, IsHit now meme item state → state.IsPair sol meme

variable {cache order : CpmmCache} {now : Instant} {sol meme : String} {state : PoolStateData}

/-- The direct lookup depends on the entries alone, not on their order. -/
theorem getPoolState_eq_some_iff (permuted : order.entries.Perm cache.entries) :
    getPoolState order now sol meme = some state ↔ cache.OwnHit now sol meme state := by
  rw [getPoolState, PoolCache.getFresh_eq_some, OwnHit]
  constructor
  · intro found
    rcases found with ⟨entry, held, hit⟩
    exact ⟨entry, permuted.subset (AssocMap.mem_entries_iff.mpr held), hit⟩
  · intro found
    rcases found with ⟨entry, inside, hit⟩
    exact ⟨entry, AssocMap.mem_entries_iff.mp (permuted.symm.subset inside), hit⟩

theorem getPoolState_eq_none_iff (permuted : order.entries.Perm cache.entries) :
    getPoolState order now sol meme = none ↔ ∀ state, ¬cache.OwnHit now sol meme state := by
  rw [Option.eq_none_iff_forall_ne_some]
  exact forall_congr' fun state => not_congr (getPoolState_eq_some_iff permuted)

/-- A resolved state is the pair's own, or a hit where the pair has none. -/
theorem resolveCpmm_cases (permuted : order.entries.Perm cache.entries)
    (resolved : resolveCpmm order now sol meme = some state) :
    cache.OwnHit now sol meme state ∨
      (∀ other, ¬cache.OwnHit now sol meme other) ∧
        ∃ item ∈ cache.entries, IsHit now meme item state := by
  rw [resolveCpmm, Option.or_eq_some_iff] at resolved
  rcases resolved with own | ⟨missing, scanned⟩
  · exact .inl ((getPoolState_eq_some_iff permuted).mp own)
  · rcases exists_hit scanned with ⟨item, inside, hit⟩
    exact .inr ⟨(getPoolState_eq_none_iff permuted).mp missing, item,
      permuted.subset inside, hit⟩

/-- Where the pair has no state of its own, some iteration resolves to any given hit. -/
theorem exists_resolveCpmm (missing : ∀ other, ¬cache.OwnHit now sol meme other)
    {item : String × CacheEntry (Option PoolStateData)} (inside : item ∈ cache.entries)
    (hit : IsHit now meme item state) :
    ∃ order : CpmmCache, order.entries.Perm cache.entries ∧
      resolveCpmm order now sol meme = some state := by
  rcases exists_first inside with ⟨order, permuted, entries, first⟩
  refine ⟨order, permuted, ?_⟩
  rw [resolveCpmm, (getPoolState_eq_none_iff permuted).mpr missing, Option.none_or]
  exact scan_hit first hit

end CpmmCache

/-- Whatever the order of the iteration, the resolution yields pools of the pair only, exactly
when the pair's own entry is of the pair and, where that entry gives nothing, every fresh
state under a key with the mint is. -/
theorem resolveCpmm_isPair_iff (cache : CpmmCache) (now : Instant) (sol meme : String) :
    (∀ order : CpmmCache, order.entries.Perm cache.entries →
      ∀ state, resolveCpmm order now sol meme = some state → state.IsPair sol meme) ↔
      cache.HoldsPair now sol meme := by
  constructor
  · intro paired
    constructor
    · intro state own
      apply paired cache (List.Perm.refl _)
      rw [resolveCpmm, (CpmmCache.getPoolState_eq_some_iff (List.Perm.refl _)).mpr own]
      rfl
    · intro missing item inside state hit
      rcases CpmmCache.exists_resolveCpmm missing inside hit with ⟨order, permuted, resolved⟩
      exact paired order permuted state resolved
  · intro holds order permuted state resolved
    rcases CpmmCache.resolveCpmm_cases permuted resolved with own | ⟨missing, item, inside, hit⟩
    · exact holds.own state own
    · exact holds.others missing item inside state hit

/-- With only its dollar pool in the cache, a meme mint is routed through that pool. -/
theorem resolveCpmm_dollar :
    ¬∀ state, resolveCpmm sampleCpmmCache 5 Client.nativeSolMint sampleMeme = some state →
      state.IsPair Client.nativeSolMint sampleMeme := by
  intro resolved
  have found : resolveCpmm sampleCpmmCache 5 Client.nativeSolMint sampleMeme =
      some sampleDollarPool := by decide +kernel
  rcases resolved _ found with ⟨first, _⟩ | ⟨_, second⟩
  · exact absurd first (by decide)
  · exact absurd second (by decide)

end AtomicArbitrage.Bot
