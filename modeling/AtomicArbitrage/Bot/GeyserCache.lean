import AtomicArbitrage.Library.Register
import AtomicArbitrage.Library.Runs
import Mathlib.Logic.Function.Basic

/-!
# Stream cache

The account and block updates of the stream are cached with their slots.  An account
update replaces the entry of its key whatever its slot is; a block update only gives way
to a newer one.
-/

namespace AtomicArbitrage.Bot

open Register

/-- `Hash`. -/
abbrev Hash := Vector UInt8 32

/-- `Hash::default()`. -/
def Hash.default : Hash := .replicate 32 0

structure CachedAccount where
  data : List UInt8
  slot : ℕ
  owner : List UInt8
deriving DecidableEq

structure GeyserPoolCache where
  accounts : String → Option CachedAccount
  latestSlot : ℕ
  latestBlockhash : Hash × ℕ

namespace GeyserPoolCache

/-- `GeyserPoolCache::default()`. -/
def empty : GeyserPoolCache where
  accounts := fun _ => none
  latestSlot := 0
  latestBlockhash := (Hash.default, 0)

def getWithSlot (cache : GeyserPoolCache) (pubkey : String) : Option (List UInt8 × ℕ) :=
  (cache.accounts pubkey).map fun entry => (entry.data, entry.slot)

def put (cache : GeyserPoolCache) (pubkey : String) (data owner : List UInt8) (slot : ℕ) :
    GeyserPoolCache :=
  { cache with
    latestSlot := max cache.latestSlot slot
    accounts := Function.update cache.accounts pubkey (some { data, slot, owner }) }

def putBlockhash (cache : GeyserPoolCache) (blockhash : Hash) (slot : ℕ) : GeyserPoolCache :=
  { cache with
    latestBlockhash :=
      if slot > cache.latestBlockhash.2 then (blockhash, slot) else cache.latestBlockhash }

/-- `get_fresh_blockhash`. -/
def getFreshBlockhash (cache : GeyserPoolCache) : Option Hash :=
  let h := cache.latestBlockhash
  let current := cache.latestSlot
  if h.2 > 0 ∧ current > 0 ∧ current - h.2 ≤ 10 then some h.1 else none

end GeyserPoolCache

/-- The calls of the stream on the cache. -/
inductive CacheCall where
  | put (pubkey : String) (data owner : List UInt8) (slot : ℕ)
  | putBlockhash (blockhash : Hash) (slot : ℕ)
deriving DecidableEq

namespace CacheCall

def apply (cache : GeyserPoolCache) : CacheCall → GeyserPoolCache
  | .put pubkey data owner slot => cache.put pubkey data owner slot
  | .putBlockhash blockhash slot => cache.putBlockhash blockhash slot

/-- The entry that a call puts, with its key. -/
def account? : CacheCall → Option (String × CachedAccount)
  | .put pubkey data owner slot => some (pubkey, { data, slot, owner })
  | .putBlockhash _ _ => none

/-- The hash that a call puts, with its slot. -/
def blockhash? : CacheCall → Option (Hash × ℕ)
  | .put _ _ _ _ => none
  | .putBlockhash blockhash slot => some (blockhash, slot)

end CacheCall

/-- All account updates of some calls. -/
def accountPuts (calls : List CacheCall) : List (String × CachedAccount) :=
  calls.filterMap CacheCall.account?

/-- The updates of one account, in their order. -/
def putsOf (pubkey : String) (calls : List CacheCall) : List CachedAccount :=
  ((accountPuts calls).filter fun update => update.1 = pubkey).map Prod.snd

/-- The block updates of some calls, in their order. -/
def blockhashPuts (calls : List CacheCall) : List (Hash × ℕ) :=
  calls.filterMap CacheCall.blockhash?

/-- The cache after some calls. -/
def cacheAfter (calls : List CacheCall) : GeyserPoolCache :=
  Runs.final CacheCall.apply .empty calls

/-- The newest state wins: for accounts, for the block hash and for the latest slot. -/
structure NewestWins (calls : List CacheCall) : Prop where
  account : ∀ pubkey, putsOf pubkey calls ≠ [] → ∃ newest ∈ putsOf pubkey calls,
    (cacheAfter calls).getWithSlot pubkey = some (newest.data, newest.slot) ∧
      ∀ update ∈ putsOf pubkey calls, update.slot ≤ newest.slot
  blockhash : blockhashPuts calls ≠ [] → ∃ newest ∈ blockhashPuts calls,
    (cacheAfter calls).latestBlockhash.1 = newest.1 ∧
      ∀ update ∈ blockhashPuts calls, update.2 ≤ newest.2
  latest : ((cacheAfter calls).latestSlot = 0 ∨
      ∃ update ∈ accountPuts calls, update.2.slot = (cacheAfter calls).latestSlot) ∧
    ∀ update ∈ accountPuts calls, update.2.slot ≤ (cacheAfter calls).latestSlot

/-- The last update of every account is one of its newest, and block hashes come from
behind the genesis slot. -/
structure InOrder (calls : List CacheCall) : Prop where
  account : ∀ pubkey, ∀ last ∈ (putsOf pubkey calls).getLast?,
    ∀ update ∈ putsOf pubkey calls, update.slot ≤ last.slot
  blockhash : blockhashPuts calls ≠ [] → ∃ update ∈ blockhashPuts calls,
    0 < update.2 ∨ update.1 = Hash.default

/-! ## What the cache holds -/

section

variable (calls : List CacheCall)

/-- An account's entry is the last update of its key. -/
theorem final_accounts (cache : GeyserPoolCache) (pubkey : String) :
    (Runs.final CacheCall.apply cache calls).accounts pubkey =
      (putsOf pubkey calls).getLast?.or (cache.accounts pubkey) := by
  induction calls generalizing cache with
  | nil => rfl
  | cons call calls ih =>
      rw [Runs.final_cons, ih]
      cases call with
      | putBlockhash blockhash slot => rfl
      | put key data owner slot =>
          by_cases same : key = pubkey
          · subst same
            have puts : putsOf key (.put key data owner slot :: calls) =
                { data, slot, owner } :: putsOf key calls := by
              simp [putsOf, accountPuts, CacheCall.account?]
            rw [puts, List.getLast?_cons]
            simp only [CacheCall.apply, GeyserPoolCache.put, Function.update_self]
            cases (putsOf key calls).getLast? with
            | none => rfl
            | some last => rfl
          · have puts : putsOf pubkey (.put key data owner slot :: calls) =
                putsOf pubkey calls := by
              simp [putsOf, accountPuts, CacheCall.account?, same]
            rw [puts]
            simp only [CacheCall.apply, GeyserPoolCache.put,
              Function.update_of_ne (Ne.symm same)]

/-- The block hash is written under a guard. -/
theorem final_latestBlockhash (cache : GeyserPoolCache) :
    (Runs.final CacheCall.apply cache calls).latestBlockhash =
      (blockhashPuts calls).foldl (guardedWrite Prod.snd) cache.latestBlockhash := by
  induction calls generalizing cache with
  | nil => rfl
  | cons call calls ih =>
      rw [Runs.final_cons, ih]
      cases call with
      | putBlockhash blockhash slot => rfl
      | put key data owner slot => rfl

theorem final_latestSlot (cache : GeyserPoolCache) :
    (Runs.final CacheCall.apply cache calls).latestSlot =
      ((accountPuts calls).map fun update => update.2.slot).foldl max cache.latestSlot := by
  induction calls generalizing cache with
  | nil => rfl
  | cons call calls ih =>
      rw [Runs.final_cons, ih]
      cases call with
      | putBlockhash blockhash slot => rfl
      | put key data owner slot => rfl

end

section

variable {calls : List CacheCall}

theorem getWithSlot_cacheAfter (pubkey : String) :
    (cacheAfter calls).getWithSlot pubkey =
      (putsOf pubkey calls).getLast?.map fun last => (last.data, last.slot) := by
  rw [GeyserPoolCache.getWithSlot, cacheAfter, final_accounts]
  exact congrArg _ (Option.or_none)

/-- The latest slot is the greatest of all account updates, whatever their order. -/
theorem latestSlot_cacheAfter :
    ((cacheAfter calls).latestSlot = 0 ∨
        ∃ update ∈ accountPuts calls, update.2.slot = (cacheAfter calls).latestSlot) ∧
      ∀ update ∈ accountPuts calls, update.2.slot ≤ (cacheAfter calls).latestSlot := by
  have greatest := foldl_max 0 ((accountPuts calls).map fun update => update.2.slot)
  rw [cacheAfter, final_latestSlot]
  refine ⟨?_, ?_⟩
  · rcases greatest.1 with zero | met
    · exact .inl zero
    · rcases List.mem_map.mp met with ⟨update, inside, same⟩
      exact .inr ⟨update, inside, same⟩
  · intro update inside
    exact greatest.2.2 _ (List.mem_map_of_mem inside)

/-- The block hash is the newest, unless all came from the genesis slot. -/
theorem latestBlockhash_cacheAfter :
    ((cacheAfter calls).latestBlockhash = (Hash.default, 0) ∧
        ∀ update ∈ blockhashPuts calls, update.2 = 0) ∨
      ((cacheAfter calls).latestBlockhash ∈ blockhashPuts calls ∧
        0 < (cacheAfter calls).latestBlockhash.2 ∧
        ∀ update ∈ blockhashPuts calls, update.2 ≤ (cacheAfter calls).latestBlockhash.2) := by
  have held := @foldl_guardedWrite (Hash × ℕ) ℕ _ Prod.snd (Hash.default, 0)
    (blockhashPuts calls)
  rw [cacheAfter, final_latestBlockhash]
  rcases held with ⟨same, older⟩ | newer
  · left
    exact ⟨same, fun update inside => Nat.le_zero.mp (older update inside)⟩
  · exact .inr newer

/-- The cached account is a newest one exactly when the last update is. -/
theorem newest_account_iff (pubkey : String) :
    (putsOf pubkey calls ≠ [] → ∃ newest ∈ putsOf pubkey calls,
        (cacheAfter calls).getWithSlot pubkey = some (newest.data, newest.slot) ∧
          ∀ update ∈ putsOf pubkey calls, update.slot ≤ newest.slot) ↔
      ∀ last ∈ (putsOf pubkey calls).getLast?,
        ∀ update ∈ putsOf pubkey calls, update.slot ≤ last.slot := by
  rw [getWithSlot_cacheAfter]
  constructor
  · intro wins last ending update inside
    rcases wins (List.ne_nil_of_mem inside) with ⟨newest, _, held, greatest⟩
    rw [ending, Option.map_some, Option.some_inj, Prod.mk.injEq] at held
    rw [held.2]
    exact greatest update inside
  · intro ordered filled
    have ending := List.getLast?_eq_some_getLast filled
    refine ⟨(putsOf pubkey calls).getLast filled, List.getLast_mem filled, ?_, ?_⟩
    · rw [ending, Option.map_some]
    · exact ordered _ ending

theorem newest_blockhash_iff :
    (blockhashPuts calls ≠ [] → ∃ newest ∈ blockhashPuts calls,
        (cacheAfter calls).latestBlockhash.1 = newest.1 ∧
          ∀ update ∈ blockhashPuts calls, update.2 ≤ newest.2) ↔
      (blockhashPuts calls ≠ [] → ∃ update ∈ blockhashPuts calls,
        0 < update.2 ∨ update.1 = Hash.default) := by
  apply imp_congr_right
  intro _
  rcases @latestBlockhash_cacheAfter calls with ⟨default, zero⟩ | ⟨inside, later, greatest⟩
  · rw [default]
    constructor
    · intro wins
      rcases wins with ⟨newest, inside, same, _⟩
      exact ⟨newest, inside, .inr same.symm⟩
    · intro some
      rcases some with ⟨update, inside, positive | same⟩
      · exact absurd (zero update inside) (Nat.pos_iff_ne_zero.mp positive)
      · refine ⟨update, inside, same.symm, ?_⟩
        intro other listed
        rw [zero other listed]
        exact Nat.zero_le _
  · apply iff_of_true
    · exact ⟨_, inside, rfl, greatest⟩
    · exact ⟨_, inside, .inl later⟩

/-- The newest state wins exactly when no account is left with an update older than one
before it: the cache keeps the last update, not the newest. -/
theorem newestWins_iff (calls : List CacheCall) : NewestWins calls ↔ InOrder calls := by
  constructor
  · intro wins
    exact ⟨fun pubkey => (newest_account_iff pubkey).mp (wins.account pubkey),
      newest_blockhash_iff.mp wins.blockhash⟩
  · intro ordered
    exact ⟨fun pubkey => (newest_account_iff pubkey).mpr (ordered.account pubkey),
      newest_blockhash_iff.mpr ordered.blockhash, latestSlot_cacheAfter⟩

/-- A replay after a reconnect leaves the older state in the cache. -/
theorem not_newestWins_replay :
    ¬NewestWins [.put "pool" [2] [] 600, .put "pool" [1] [] 100] := by
  intro wins
  have ordered := (newest_account_iff "pool").mp (wins.account "pool")
  have older := ordered { data := [1], slot := 100, owner := [] } (by decide)
    { data := [2], slot := 600, owner := [] } (by decide)
  exact absurd older (by decide)

end

end AtomicArbitrage.Bot
