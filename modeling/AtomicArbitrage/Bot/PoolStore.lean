import AtomicArbitrage.Bot.MintCandidates
import AtomicArbitrage.Bot.WhirlpoolDecode
import AtomicArbitrage.Library.Runs

/-!
# The store of pools

CPMM pools are cached by the pair of their mints and by their address, Whirlpools by the pair.
What is fetched by pair is saved as well, and loaded at the next start, as an entry without
balances that is stale from the beginning.
-/

namespace AtomicArbitrage.Bot

/-! ## Entries -/

section

variable {Data : Type}

/-- `CacheEntry::new`, at a given instant. -/
def CacheEntry.new (data : Data) (now : Instant) : CacheEntry Data where
  data
  updatedAt := now
  negative := false

/-- `CacheEntry::new_persisted`: its time to live has passed. -/
def CacheEntry.newPersisted (data : Data) (now : Instant) : CacheEntry Data where
  data
  updatedAt := now - (cacheTtlSecs + 1) * 1000000000
  negative := false

/-- An entry for a key that has none. -/
def PoolCache.insertAbsent (cache : PoolCache Data) (key : String) (entry : CacheEntry Data) :
    PoolCache Data :=
  if (AssocMap.get cache key).isSome then cache else AssocMap.insert cache key entry

end

/-- `get_whirlpool_reserves`. -/
def getWhirlpoolReserves (cache : PoolCache (Option WhirlpoolReserves)) (now : Instant)
    (tokenX tokenY : String) : Option WhirlpoolReserves :=
  PoolCache.getFresh cache now (cacheKey tokenX tokenY)

/-- `get_discovered_cpmm_pool` and `get_discovered_whirlpool_pool`. -/
def getDiscovered (cache : PoolCache String) (now : Instant) (mintA mintB : String) :
    Option String := do
  let entry ← AssocMap.get cache (cacheKey mintA mintB)
  if entry.isStale now then none else some entry.data

/-! ## The state -/

/-- The table `cpmm_pools`: the address and the configuration of a pool by its two mints. -/
abbrev CpmmPools := AssocMap (String × String) (String × String)

/-- The table `whirlpool_pools`: the address and the tick spacing of a pool by its two mints. -/
abbrev WhirlpoolPools := AssocMap (String × String) (String × ℕ)

/-- The caches and the tables, and the clock. -/
structure PoolStore where
  now : Instant
  cpmm : CpmmCache
  whirlpool : PoolCache (Option WhirlpoolReserves)
  discoveredCpmm : PoolCache String
  discoveredWhirlpool : PoolCache String
  cpmmPools : CpmmPools
  whirlpoolPools : WhirlpoolPools

namespace PoolStore

/-- The start with these tables.  Instants are counted from a time before the clock of the
machine. -/
def start (uptime : ℕ) (cpmmPools : CpmmPools) (whirlpoolPools : WhirlpoolPools) : PoolStore where
  now := (cacheTtlSecs + 1) * 1000000000 + uptime
  cpmm := .empty
  whirlpool := .empty
  discoveredCpmm := .empty
  discoveredWhirlpool := .empty
  cpmmPools
  whirlpoolPools

/-- The pool of a row of `cpmm_pools`. -/
def cpmmOfRow (row : (String × String) × String × String) : PoolStateData where
  poolPubkey := row.2.1
  configPubkey := row.2.2
  token0Mint := row.1.1
  token1Mint := row.1.2
  token0Vault := ""
  token1Vault := ""
  token0VaultRaw := 0
  token1VaultRaw := 0

/-- The pool of a row of `whirlpool_pools`. -/
def whirlpoolOfRow (row : (String × String) × String × ℕ) : WhirlpoolReserves where
  lbPair := row.2.1
  tokenXMint := row.1.1
  tokenYMint := row.1.2
  reserveX := 0
  reserveY := 0
  reserveXAddress := ""
  reserveYAddress := ""
  binStep := row.2.2 % 65536
  sqrtPrice := 0
  tickCurrentIndex := 0
  feeRate := 0

/-- The body of the loops of `load_cpmm_pools` and `load_whirlpool_pools`. -/
def loadRow {Row Data : Type} (ofRow : (String × String) × Row → Data) (now : Instant)
    (cache : PoolCache (Option Data)) (row : (String × String) × Row) :
    PoolCache (Option Data) :=
  cache.insertAbsent (cacheKey row.1.1 row.1.2) (.newPersisted (some (ofRow row)) now)

/-- A new process: empty caches, `load_cpmm_pools` and `load_whirlpool_pools`. -/
def restart (s : PoolStore) : PoolStore :=
  { s with
    cpmm := s.cpmmPools.entries.foldl (loadRow cpmmOfRow s.now) .empty
    whirlpool := s.whirlpoolPools.entries.foldl (loadRow whirlpoolOfRow s.now) .empty
    discoveredCpmm := .empty
    discoveredWhirlpool := .empty }

/-- A fetch by pair has come back: what it has found is saved, and its outcome is cached
(`fetch_cpmm_now`, behind its check of the cache). -/
def cpmmFetched (pda : FindProgramAddress) (rpc : Rpc) (t0 t1 : String) (s : PoolStore) :
    PoolStore :=
  let state := fetchCpmmPool pda rpc t0 t1
  { s with
    cpmm := AssocMap.insert s.cpmm (cacheKey t0 t1) (.new state s.now)
    cpmmPools :=
      match state with
      | none => s.cpmmPools
      | some state => s.cpmmPools.insert (state.token0Mint, state.token1Mint)
          (state.poolPubkey, state.configPubkey) }

/-- A fetch by address has come back: its outcome is cached by address and, if the cache has no
pool for the pair of the mints, by pair (`fetch_cpmm_by_address`, behind its check). -/
def cpmmFetchedByAddress (pda : FindProgramAddress) (rpc : Rpc) (poolAddr : String)
    (s : PoolStore) : PoolStore :=
  let state := readPoolStateAt pda rpc poolAddr
  let cache := AssocMap.insert s.cpmm ("addr:" ++ poolAddr) (.new state s.now)
  { s with
    cpmm :=
      match state with
      | none => cache
      | some state =>
          let mintKey := cacheKey state.token0Mint state.token1Mint
          if ((AssocMap.get cache mintKey).bind CacheEntry.data).isSome then cache
          else AssocMap.insert cache mintKey (.new (some state) s.now) }

/-- A fetch of a Whirlpool by pair has come back (`fetch_whirlpool_by_mints`, behind its
check). -/
def whirlpoolFetched (pda : FindProgramAddress) (rpc : Rpc) (mintA mintB : String)
    (s : PoolStore) : PoolStore :=
  let state := fetchWhirlpoolPool pda rpc mintA mintB
  { s with
    whirlpool := AssocMap.insert s.whirlpool (cacheKey mintA mintB) (.new state s.now)
    whirlpoolPools :=
      match state with
      | none => s.whirlpoolPools
      | some state => s.whirlpoolPools.insert (state.tokenXMint, state.tokenYMint)
          (state.lbPair, state.binStep) }

/-- What happens to the store, in any order. -/
inductive Step where
  | tick (nanos : ℕ)
  | restart
  | cpmmFetched (rpc : Rpc) (t0 t1 : String)
  | cpmmFetchedByAddress (rpc : Rpc) (poolAddr : String)
  | whirlpoolFetched (rpc : Rpc) (mintA mintB : String)
  | discoveredCpmm (mintA mintB poolAddr : String)
  | discoveredWhirlpool (mintA mintB poolAddr : String)

variable (pda : FindProgramAddress)

def step (s : PoolStore) : Step → PoolStore
  | .tick nanos => { s with now := s.now + nanos }
  | .restart => s.restart
  | .cpmmFetched rpc t0 t1 => s.cpmmFetched pda rpc t0 t1
  | .cpmmFetchedByAddress rpc poolAddr => s.cpmmFetchedByAddress pda rpc poolAddr
  | .whirlpoolFetched rpc mintA mintB => s.whirlpoolFetched pda rpc mintA mintB
  | .discoveredCpmm mintA mintB poolAddr =>
      -- `cache_discovered_cpmm_pool`
      { s with
        discoveredCpmm :=
          AssocMap.insert s.discoveredCpmm (cacheKey mintA mintB) (.new poolAddr s.now) }
  | .discoveredWhirlpool mintA mintB poolAddr =>
      -- `cache_discovered_whirlpool_pool`
      { s with
        discoveredWhirlpool :=
          AssocMap.insert s.discoveredWhirlpool (cacheKey mintA mintB) (.new poolAddr s.now) }

end PoolStore

/-! ## Keys -/

/-- A text without a colon. -/
def Plain (text : String) : Prop := ':' ∉ text.toList

instance (text : String) : Decidable (Plain text) := inferInstanceAs (Decidable (¬_ ∈ _))

theorem plain_toBase58 (key : Pubkey) : Plain key.toBase58 := by
  intro inside
  have digit := isBase58_iff.mp (isBase58_toBase58 key) ':' inside
  exact absurd digit (by decide)

/-- Two texts around a colon can be told apart. -/
theorem colon_inj {left right text other : String} (first : Plain left) (second : Plain right) :
    left ++ ":" ++ right = text ++ ":" ++ other ↔ left = text ∧ right = other := by
  have split : left.toList ++ ':' :: right.toList = text.toList ++ ':' :: other.toList ↔ _ :=
    List.append_cons_inj_of_notMem first second
  rw [← String.toList_inj, String.toList_append, String.toList_append, String.toList_append,
    String.toList_append, List.append_assoc, List.append_assoc]
  refine split.trans ?_
  rw [String.toList_inj, String.toList_inj]
  exact and_congr_right fun _ => and_iff_right rfl

theorem sortMints_cases (t0 t1 : String) :
    sortMints t0 t1 = (t0, t1) ∨ sortMints t0 t1 = (t1, t0) := by
  rw [sortMints]
  split
  · exact .inl rfl
  · exact .inr rfl

theorem sortMints_comm (t0 t1 : String) : sortMints t0 t1 = sortMints t1 t0 := by
  rw [sortMints, sortMints]
  split
  · next less => exact (if_neg (String.lt_asymm less)).symm
  · next more =>
      split
      · rfl
      · next other =>
          have same := String.le_antisymm (String.not_lt.mp more) (String.not_lt.mp other)
          rw [same]

theorem cacheKey_eq (t0 t1 : String) :
    cacheKey t0 t1 = (sortMints t0 t1).1 ++ ":" ++ (sortMints t0 t1).2 := by
  rw [cacheKey, sortMints]
  split
  · rfl
  · rfl

/-- A pair in text order is plain when both mints are. -/
theorem plain_sortMints {a b : String} (plainA : Plain a) (plainB : Plain b) :
    Plain (sortMints a b).1 ∧ Plain (sortMints a b).2 := by
  rcases sortMints_cases a b with kept | swapped
  · rw [kept]
    exact ⟨plainA, plainB⟩
  · rw [swapped]
    exact ⟨plainB, plainA⟩

/-- A key determines its pair. -/
theorem sortMints_of_cacheKey {a b t0 t1 : String} (plainA : Plain a) (plainB : Plain b)
    (same : cacheKey t0 t1 = cacheKey a b) : sortMints t0 t1 = sortMints a b := by
  rcases plain_sortMints plainA plainB with ⟨low, high⟩
  rw [cacheKey_eq, cacheKey_eq] at same
  rcases (colon_inj low high).mp same.symm with ⟨first, second⟩
  exact Prod.ext first.symm second.symm

/-- A key determines its pair of addresses. -/
theorem sortMints_of_toBase58 {a b : Pubkey} {t0 t1 : String}
    (same : cacheKey t0 t1 = cacheKey a.toBase58 b.toBase58) :
    sortMints t0 t1 = sortMints a.toBase58 b.toBase58 :=
  sortMints_of_cacheKey (plain_toBase58 a) (plain_toBase58 b) same

/-- No pair of addresses has the key of an address. -/
theorem cacheKey_ne_addr (a b : Pubkey) (poolAddr : String) :
    cacheKey a.toBase58 b.toBase58 ≠ "addr:" ++ poolAddr := by
  intro same
  have long (key : Pubkey) : key.toBase58 ≠ "addr" := by
    intro short
    have length := congrArg (fun text => text.toList.length) short
    simp only [Pubkey.toBase58, String.toList_ofList, List.length_map] at length
    have least := key.le_length_base58Digits
    rw [length] at least
    exact absurd least (by decide)
  rcases plain_sortMints (plain_toBase58 a) (plain_toBase58 b) with ⟨low, high⟩
  have split : "addr:" ++ poolAddr = "addr" ++ ":" ++ poolAddr := rfl
  rw [cacheKey_eq, split] at same
  have first := ((colon_inj low high).mp same).1
  rcases sortMints_cases a.toBase58 b.toBase58 with kept | swapped
  · rw [kept] at first
    exact long a first
  · rw [swapped] at first
    exact long b first

/-- Two texts in an order are a pair in either order. -/
theorem PoolStateData.isPair_of_sortMints {state : PoolStateData} {t0 t1 : String}
    (same : sortMints state.token0Mint state.token1Mint = sortMints t0 t1) :
    state.IsPair t0 t1 := by
  rcases sortMints_cases state.token0Mint state.token1Mint with own | own
  · rcases sortMints_cases t0 t1 with asked | asked
    · rw [own, asked, Prod.mk.injEq] at same
      exact .inl same
    · rw [own, asked, Prod.mk.injEq] at same
      exact .inr same
  · rcases sortMints_cases t0 t1 with asked | asked
    · rw [own, asked, Prod.mk.injEq] at same
      exact .inr same.symm
    · rw [own, asked, Prod.mk.injEq] at same
      exact .inl same.symm

/-! ## What the fetches find -/

section

variable {pda : FindProgramAddress} {rpc : Rpc}

/-- A fetch by pair finds a pool of the pair. -/
theorem sortMints_of_fetchCpmmPool {t0 t1 : String} {state : PoolStateData}
    (fetched : fetchCpmmPool pda rpc t0 t1 = some state) :
    sortMints state.token0Mint state.token1Mint = sortMints t0 t1 := by
  simp only [fetchCpmmPool, Option.bind_eq_bind, Option.bind_eq_some_iff] at fetched
  rcases fetched with ⟨low, -, high, -, ⟨pool, config⟩, -, account, -, fetched⟩
  split at fetched
  · cases fetched
  · simp only [Option.bind_eq_some_iff] at fetched
    rcases fetched with ⟨mint0, -, mint1, -, fetched⟩
    split at fetched
    · cases fetched
    · next accepted =>
        rw [← Option.some_inj.mp fetched]
        have ordered : sortMints (sortMints t0 t1).1 (sortMints t0 t1).2 = sortMints t0 t1 := by
          rcases sortMints_cases t0 t1 with kept | swapped
          · rw [kept]
            exact kept
          · rw [swapped]
            exact (sortMints_comm t1 t0).trans swapped
        have mints : (mint0 = (sortMints t0 t1).1 ∧ mint1 = (sortMints t0 t1).2) ∨
            (mint0 = (sortMints t0 t1).2 ∧ mint1 = (sortMints t0 t1).1) := by
          tauto
        rcases mints with ⟨first, second⟩ | ⟨first, second⟩
        · rw [first, second]
          exact ordered
        · rw [first, second, sortMints_comm]
          exact ordered

end

/-! ## Ages -/

section

variable {Data : Type}

theorem isStale_new {data : Data} {added now : Instant} :
    (CacheEntry.new data added).isStale now = false ↔ elapsedSecs added now ≤ 60 := by
  simp [CacheEntry.new, CacheEntry.isStale, cacheTtlSecs]

/-- A loaded entry is stale from the beginning. -/
theorem isStale_newPersisted {data : Data} {loaded now : Instant}
    (late : (cacheTtlSecs + 1) * 1000000000 ≤ loaded) (after : loaded ≤ now) :
    (CacheEntry.newPersisted data loaded).isStale now = true := by
  have far (loaded now : ℕ) (late : 61000000000 ≤ loaded) (after : loaded ≤ now) :
      60 < (now - (loaded - 61000000000)) / 1000000000 := by omega
  exact decide_eq_true (far loaded now late after)

end

/-! ## Runs -/

namespace PoolStore

variable {pda : FindProgramAddress} {s : PoolStore} {action : Step}

theorem now_step_le (s : PoolStore) (action : Step) : s.now ≤ (s.step pda action).now := by
  cases action with
  | tick nanos => exact Nat.le_add_right s.now nanos
  | restart | cpmmFetched | cpmmFetchedByAddress | whirlpoolFetched | discoveredCpmm
  | discoveredWhirlpool => exact le_refl s.now

theorem now_final_le (s : PoolStore) (run : List Step) :
    s.now ≤ (Runs.final (step pda) s run).now := by
  induction run generalizing s with
  | nil => exact le_refl s.now
  | cons action run ih => exact (now_step_le s action).trans (ih (s.step pda action))

/-- All that a start finds in a table is stale. -/
theorem get_load {Row Data : Type} {ofRow : (String × String) × Row → Data} {now : Instant}
    {rows : List ((String × String) × Row)} {key : String} {entry : CacheEntry (Option Data)}
    (held : AssocMap.get (rows.foldl (loadRow ofRow now) AssocMap.empty) key = some entry) :
    ∃ data, entry = .newPersisted data now := by
  have loads (rows : List ((String × String) × Row)) (cache : PoolCache (Option Data))
      (before : ∀ entry, AssocMap.get cache key = some entry →
        ∃ data, entry = .newPersisted data now)
      (entry : CacheEntry (Option Data))
      (held : AssocMap.get (rows.foldl (loadRow ofRow now) cache) key = some entry) :
      ∃ data, entry = .newPersisted data now := by
    induction rows generalizing cache with
    | nil => exact before entry held
    | cons row rows ih =>
        apply ih (loadRow ofRow now cache row) _ held
        intro other there
        rw [loadRow, PoolCache.insertAbsent] at there
        split at there
        · exact before other there
        · rw [AssocMap.get_insert] at there
          split at there
          · exact ⟨_, (Option.some_inj.mp there).symm⟩
          · exact before other there
  refine loads rows .empty ?_ entry held
  intro other there
  cases there

/-- A step of the run not more than a minute ago, with no restart since. -/
def Recent (pda : FindProgramAddress) (first : PoolStore) (run : List Step)
    (made : Step → Prop) : Prop :=
  ∃ front action back, run = front ++ action :: back ∧ made action ∧ Step.restart ∉ back ∧
    elapsedSecs (Runs.final (step pda) first front).now (Runs.final (step pda) first run).now ≤ 60

/-- A fresh entry of a cache whose entries are written by some steps, and which a restart leaves
with stale entries only, has been written recently. -/
theorem recent_of_get {Data : Type} (cache : PoolStore → PoolCache Data) {first : PoolStore}
    {run : List Step} {made : Step → Prop} {key : String} {entry : CacheEntry Data}
    (late : (cacheTtlSecs + 1) * 1000000000 ≤ first.now)
    (empty : AssocMap.get (cache first) key = none)
    (loaded : ∀ s : PoolStore, AssocMap.get (cache s.restart) key = some entry →
      ∃ data, entry = .newPersisted data s.now)
    (wrote : ∀ (s : PoolStore) (action : Step), AssocMap.get (cache s) key ≠ some entry →
      AssocMap.get (cache (s.step pda action)) key = some entry → action ≠ .restart →
        (∃ data, entry = .new data s.now) ∧ made action)
    (held : AssocMap.get (cache (Runs.final (step pda) first run)) key = some entry)
    (fresh : entry.isStale (Runs.final (step pda) first run).now = false) :
    Recent pda first run made := by
  have missing : ¬AssocMap.get (cache first) key = some entry := by
    rw [empty]
    exact (Option.some_ne_none entry).symm
  rcases @Runs.exists_last_step _ _ (step pda)
    (fun s => AssocMap.get (cache s) key = some entry) first run missing held with
    ⟨front, action, back, rfl, before, since⟩
  -- what a restart loads is stale, then and now
  have unloaded (early more : List Step)
      (split : front ++ action :: back = early ++ .restart :: more) :
      AssocMap.get (cache (Runs.final (step pda) first early).restart) key ≠ some entry := by
    intro there
    rcases loaded _ there with ⟨data, rfl⟩
    have ends : Runs.final (step pda) first (front ++ action :: back) =
        Runs.final (step pda) (Runs.final (step pda) first early).restart more := by
      rw [split, Runs.final_append]
      rfl
    rw [ends, isStale_newPersisted (late.trans (now_final_le first early))
      (now_final_le (Runs.final (step pda) first early).restart more)] at fresh
    cases fresh
  have here := since [] List.nil_prefix
  rw [Runs.final_append] at here
  have running : action ≠ .restart := by
    rintro rfl
    exact unloaded front back rfl here
  rcases wrote _ _ before here running with ⟨⟨data, rfl⟩, made⟩
  refine ⟨front, action, back, rfl, made, ?_, isStale_new.mp fresh⟩
  intro inside
  rcases List.append_of_mem inside with ⟨early, more, rfl⟩
  have again := since (early ++ [.restart]) ⟨more, by rw [List.append_assoc]; rfl⟩
  rw [← List.cons_append, ← List.append_assoc, Runs.final_append] at again
  exact unloaded (front ++ action :: early) more (by rw [List.append_assoc]; rfl) again

/-- The step has read this CPMM pool. -/
def Step.ReadsCpmm (pda : FindProgramAddress) (state : PoolStateData) : Step → Prop
  | .cpmmFetched rpc t0 t1 => fetchCpmmPool pda rpc t0 t1 = some state
  | .cpmmFetchedByAddress rpc poolAddr => readPoolStateAt pda rpc poolAddr = some state
  | _ => False

/-- The step has read this Whirlpool for the pair. -/
def Step.ReadsWhirlpool (pda : FindProgramAddress) (a b : Pubkey) (state : WhirlpoolReserves) :
    Step → Prop
  | .whirlpoolFetched rpc mintA mintB =>
      sortMints mintA mintB = sortMints a.toBase58 b.toBase58 ∧
        fetchWhirlpoolPool pda rpc mintA mintB = some state
  | _ => False

/-- The step has found this address of a CPMM pool of the pair in a transaction. -/
def Step.DiscoversCpmm (a b : Pubkey) (poolAddr : String) : Step → Prop
  | .discoveredCpmm mintA mintB found =>
      sortMints mintA mintB = sortMints a.toBase58 b.toBase58 ∧ found = poolAddr
  | _ => False

/-- The step has found this address of a Whirlpool of the pair in a transaction. -/
def Step.DiscoversWhirlpool (a b : Pubkey) (poolAddr : String) : Step → Prop
  | .discoveredWhirlpool mintA mintB found =>
      sortMints mintA mintB = sortMints a.toBase58 b.toBase58 ∧ found = poolAddr
  | _ => False

/-- What the store answers at the end of a run is recent and of the pair in question. -/
structure Current (pda : FindProgramAddress) (first : PoolStore) (run : List Step) (s : PoolStore) :
    Prop where
  cpmm : ∀ (a b : Pubkey) (state : PoolStateData),
    getPoolState s.cpmm s.now a.toBase58 b.toBase58 = some state →
      state.IsPair a.toBase58 b.toBase58 ∧ Recent pda first run (Step.ReadsCpmm pda state)
  whirlpool : ∀ (a b : Pubkey) (state : WhirlpoolReserves),
    getWhirlpoolReserves s.whirlpool s.now a.toBase58 b.toBase58 = some state →
      Recent pda first run (Step.ReadsWhirlpool pda a b state)
  discoveredCpmm : ∀ (a b : Pubkey) (poolAddr : String),
    getDiscovered s.discoveredCpmm s.now a.toBase58 b.toBase58 = some poolAddr →
      Recent pda first run (Step.DiscoversCpmm a b poolAddr)
  discoveredWhirlpool : ∀ (a b : Pubkey) (poolAddr : String),
    getDiscovered s.discoveredWhirlpool s.now a.toBase58 b.toBase58 = some poolAddr →
      Recent pda first run (Step.DiscoversWhirlpool a b poolAddr)

section

variable {a b : Pubkey}

/-- An entry of a pair that a step of the process writes is of a pool of the pair. -/
theorem get_cpmm_of_step {entry : CacheEntry (Option PoolStateData)}
    (absent : AssocMap.get s.cpmm (cacheKey a.toBase58 b.toBase58) ≠ some entry)
    (held : AssocMap.get (s.step pda action).cpmm (cacheKey a.toBase58 b.toBase58) = some entry)
    (running : action ≠ .restart) :
    ∃ data, entry = .new data s.now ∧ ∀ state, data = some state →
      state.IsPair a.toBase58 b.toBase58 ∧ action.ReadsCpmm pda state := by
  cases action with
  | restart => exact absurd rfl running
  | tick | whirlpoolFetched | discoveredCpmm | discoveredWhirlpool => exact absurd held absent
  | cpmmFetched rpc t0 t1 =>
      simp only [step, cpmmFetched] at held
      rw [AssocMap.get_insert] at held
      split at held
      · next same =>
          refine ⟨_, (Option.some_inj.mp held).symm, ?_⟩
          intro state fetched
          exact ⟨PoolStateData.isPair_of_sortMints ((sortMints_of_fetchCpmmPool fetched).trans
            (sortMints_of_toBase58 same.symm)), fetched⟩
      · exact absurd held absent
  | cpmmFetchedByAddress rpc poolAddr =>
      simp only [step, cpmmFetchedByAddress] at held
      have elsewhere (entry : CacheEntry (Option PoolStateData)) :
          AssocMap.get (AssocMap.insert s.cpmm ("addr:" ++ poolAddr) entry)
              (cacheKey a.toBase58 b.toBase58) =
            AssocMap.get s.cpmm (cacheKey a.toBase58 b.toBase58) := by
        rw [AssocMap.get_insert, if_neg (cacheKey_ne_addr a b poolAddr)]
      cases read : readPoolStateAt pda rpc poolAddr with
      | none =>
          rw [read, elsewhere] at held
          exact absurd held absent
      | some state =>
          simp only [read] at held
          split at held
          · rw [elsewhere] at held
            exact absurd held absent
          · rw [AssocMap.get_insert] at held
            split at held
            · next same =>
                refine ⟨some state, (Option.some_inj.mp held).symm, ?_⟩
                intro other own
                cases own
                exact ⟨PoolStateData.isPair_of_sortMints (sortMints_of_toBase58 same.symm), read⟩
            · rw [elsewhere] at held
              exact absurd held absent

theorem get_whirlpool_of_step {entry : CacheEntry (Option WhirlpoolReserves)}
    (absent : AssocMap.get s.whirlpool (cacheKey a.toBase58 b.toBase58) ≠ some entry)
    (held : AssocMap.get (s.step pda action).whirlpool (cacheKey a.toBase58 b.toBase58) =
      some entry) (running : action ≠ .restart) :
    ∃ data, entry = .new data s.now ∧ ∀ state, data = some state →
      action.ReadsWhirlpool pda a b state := by
  cases action with
  | restart => exact absurd rfl running
  | tick | cpmmFetched | cpmmFetchedByAddress | discoveredCpmm | discoveredWhirlpool =>
      exact absurd held absent
  | whirlpoolFetched rpc mintA mintB =>
      simp only [step, whirlpoolFetched] at held
      rw [AssocMap.get_insert] at held
      split at held
      · next same =>
          refine ⟨_, (Option.some_inj.mp held).symm, ?_⟩
          intro state fetched
          exact ⟨sortMints_of_toBase58 same.symm, fetched⟩
      · exact absurd held absent

/-- An address that a step puts under a pair, into a cache of addresses. -/
theorem get_discovered_of_insert {cache : PoolCache String} {mintA mintB poolAddr : String}
    {entry : CacheEntry String}
    (absent : AssocMap.get cache (cacheKey a.toBase58 b.toBase58) ≠ some entry)
    (held : AssocMap.get (AssocMap.insert cache (cacheKey mintA mintB) (.new poolAddr s.now))
      (cacheKey a.toBase58 b.toBase58) = some entry) :
    entry = .new poolAddr s.now ∧ sortMints mintA mintB = sortMints a.toBase58 b.toBase58 := by
  rw [AssocMap.get_insert] at held
  split at held
  · next same =>
      exact ⟨(Option.some_inj.mp held).symm, sortMints_of_toBase58 same.symm⟩
  · exact absurd held absent

end

theorem getDiscovered_eq_some {cache : PoolCache String} {now : Instant}
    {mintA mintB poolAddr : String} (found : getDiscovered cache now mintA mintB = some poolAddr) :
    ∃ entry, AssocMap.get cache (cacheKey mintA mintB) = some entry ∧
      entry.isStale now = false ∧ entry.data = poolAddr := by
  simp only [getDiscovered, Option.bind_eq_bind, Option.bind_eq_some_iff] at found
  rcases found with ⟨entry, held, result⟩
  split at result
  · cases result
  · next fresh => exact ⟨entry, held, Bool.not_eq_true _ ▸ fresh, Option.some_inj.mp result⟩

section

variable {uptime : ℕ} {cpmmPools : CpmmPools} {whirlpoolPools : WhirlpoolPools} {run : List Step}
  {a b : Pubkey} {poolAddr : String}

theorem late_start : (cacheTtlSecs + 1) * 1000000000 ≤
    (start uptime cpmmPools whirlpoolPools).now :=
  Nat.le_add_right _ uptime

/-- A CPMM pool that the store answers. -/
theorem recent_cpmm {state : PoolStateData}
    (found : getPoolState (Runs.final (step pda) (start uptime cpmmPools whirlpoolPools) run).cpmm
      (Runs.final (step pda) (start uptime cpmmPools whirlpoolPools) run).now
      a.toBase58 b.toBase58 = some state) :
    state.IsPair a.toBase58 b.toBase58 ∧
      Recent pda (start uptime cpmmPools whirlpoolPools) run (Step.ReadsCpmm pda state) := by
  rcases PoolCache.getFresh_eq_some.mp found with ⟨entry, held, fresh, data⟩
  have both : Recent pda (start uptime cpmmPools whirlpoolPools) run fun action =>
      state.IsPair a.toBase58 b.toBase58 ∧ action.ReadsCpmm pda state := by
    refine recent_of_get PoolStore.cpmm late_start rfl (fun s there => get_load there) ?_ held fresh
    intro s action absent there running
    rcases get_cpmm_of_step absent there running with ⟨found, rfl, reads⟩
    exact ⟨⟨found, rfl⟩, reads state data⟩
  rcases both with ⟨front, action, back, split, made, rest⟩
  exact ⟨made.1, front, action, back, split, made.2, rest⟩

/-- A Whirlpool that the store answers. -/
theorem recent_whirlpool {state : WhirlpoolReserves}
    (found : getWhirlpoolReserves
      (Runs.final (step pda) (start uptime cpmmPools whirlpoolPools) run).whirlpool
      (Runs.final (step pda) (start uptime cpmmPools whirlpoolPools) run).now
      a.toBase58 b.toBase58 = some state) :
    Recent pda (start uptime cpmmPools whirlpoolPools) run
      (Step.ReadsWhirlpool pda a b state) := by
  rcases PoolCache.getFresh_eq_some.mp found with ⟨entry, held, fresh, data⟩
  refine recent_of_get PoolStore.whirlpool late_start rfl (fun s there => get_load there) ?_ held
    fresh
  intro s action absent there running
  rcases get_whirlpool_of_step absent there running with ⟨found, rfl, reads⟩
  exact ⟨⟨found, rfl⟩, reads state data⟩

/-- An address of a CPMM pool that the store answers. -/
theorem recent_discoveredCpmm
    (found : getDiscovered
      (Runs.final (step pda) (start uptime cpmmPools whirlpoolPools) run).discoveredCpmm
      (Runs.final (step pda) (start uptime cpmmPools whirlpoolPools) run).now
      a.toBase58 b.toBase58 = some poolAddr) :
    Recent pda (start uptime cpmmPools whirlpoolPools) run (Step.DiscoversCpmm a b poolAddr) := by
  rcases getDiscovered_eq_some found with ⟨entry, held, fresh, rfl⟩
  refine recent_of_get PoolStore.discoveredCpmm late_start rfl ?_ ?_ held fresh
  · intro s there
    cases there
  · intro s action absent there running
    cases action with
    | discoveredCpmm mintA mintB poolAddr =>
        rcases get_discovered_of_insert absent there with ⟨rfl, pair⟩
        exact ⟨⟨poolAddr, rfl⟩, pair, rfl⟩
    | restart => exact absurd rfl running
    | tick | cpmmFetched | cpmmFetchedByAddress | whirlpoolFetched | discoveredWhirlpool =>
        exact absurd there absent

/-- An address of a Whirlpool that the store answers. -/
theorem recent_discoveredWhirlpool
    (found : getDiscovered
      (Runs.final (step pda) (start uptime cpmmPools whirlpoolPools) run).discoveredWhirlpool
      (Runs.final (step pda) (start uptime cpmmPools whirlpoolPools) run).now
      a.toBase58 b.toBase58 = some poolAddr) :
    Recent pda (start uptime cpmmPools whirlpoolPools) run
      (Step.DiscoversWhirlpool a b poolAddr) := by
  rcases getDiscovered_eq_some found with ⟨entry, held, fresh, rfl⟩
  refine recent_of_get PoolStore.discoveredWhirlpool late_start rfl ?_ ?_ held fresh
  · intro s there
    cases there
  · intro s action absent there running
    cases action with
    | discoveredWhirlpool mintA mintB poolAddr =>
        rcases get_discovered_of_insert absent there with ⟨rfl, pair⟩
        exact ⟨⟨poolAddr, rfl⟩, pair, rfl⟩
    | restart => exact absurd rfl running
    | tick | cpmmFetched | cpmmFetchedByAddress | whirlpoolFetched | discoveredCpmm =>
        exact absurd there absent

end

/-- In every order of fetches, discoveries and restarts, whatever the nodes answer and whatever
the tables held, the store answers for a pair only what has been read for it in the last minute
since the last start: never a row of a table, and of the CPMM pools never one of other mints. -/
theorem current (uptime : ℕ) (cpmmPools : CpmmPools) (whirlpoolPools : WhirlpoolPools)
    (run : List Step) :
    Current pda (start uptime cpmmPools whirlpoolPools) run
      (Runs.final (step pda) (start uptime cpmmPools whirlpoolPools) run) where
  cpmm := fun _ _ _ found => recent_cpmm found
  whirlpool := fun _ _ _ found => recent_whirlpool found
  discoveredCpmm := fun _ _ _ found => recent_discoveredCpmm found
  discoveredWhirlpool := fun _ _ _ found => recent_discoveredWhirlpool found

end PoolStore

end AtomicArbitrage.Bot
