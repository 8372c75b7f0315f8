import AtomicArbitrage.Bot.GeyserCache

/-!
# Freshness

Readers judge how old cached data is by the latest slot that the stream has delivered.
The chain advances whether the stream delivers or not, so the distance to the chain is
bounded by the distance to the latest slot and the stream's own lag.
-/

namespace AtomicArbitrage.Bot

/-! ## Readers -/

/-- The test by which `fetch_bins_fresh` and the other readers accept a cached account. -/
def acceptsCached (latest cachedSlot : ℕ) : Bool :=
  latest > 0 ∧ latest - cachedSlot ≤ 2

/-- `is_opportunity_fresh`, with the latest slot of the global cache. -/
def isOpportunityFresh (latestSlot snapshotSlot currentSlot maxAge : ℕ) : Bool :=
  if snapshotSlot = 0 ∨ currentSlot = 0 then false
  else if latestSlot > 0 then true
  else currentSlot - snapshotSlot ≤ maxAge

/-! ## The chain and the stream -/

/-- The chain's current slot, and the cache that the stream fills. -/
structure ChainView where
  slot : ℕ
  cache : GeyserPoolCache

namespace ChainView

/-- What can happen next.  An update is `age` slots old when it is delivered. -/
inductive Event where
  | advance (slots : ℕ)
  | account (pubkey : String) (data owner : List UInt8) (age : ℕ)
  | blockMeta (blockhash : Hash) (age : ℕ)
  /-- The stream stalls, ends or reconnects; the cache keeps its content. -/
  | stall

/-- The call on the cache that an event causes while the chain is at some slot. -/
def Event.call? (slot : ℕ) : Event → Option CacheCall
  | .account pubkey data owner age => some (.put pubkey data owner (slot - age))
  | .blockMeta blockhash age => some (.putBlockhash blockhash (slot - age))
  | _ => none

/-- One event. -/
def step (view : ChainView) (event : Event) : ChainView where
  slot :=
    match event with
    | .advance slots => view.slot + slots
    | _ => view.slot
  cache := ((event.call? view.slot).map (CacheCall.apply view.cache)).getD view.cache

/-- The calls that a run makes on the cache. -/
def deliveries : ℕ → List Event → List CacheCall
  | _, [] => []
  | slot, event :: run =>
      (event.call? slot).toList ++
        deliveries (match event with | .advance slots => slot + slots | _ => slot) run

/-- The view at the end of a run from an empty cache. -/
def after (slot : ℕ) (run : List Event) : ChainView :=
  Runs.final step { slot, cache := .empty } run

/-- How far the stream is behind the chain. -/
def lag (view : ChainView) : ℕ := view.slot - view.cache.latestSlot

theorem final_cache (slot : ℕ) (cache : GeyserPoolCache) (run : List Event) :
    (Runs.final step { slot, cache } run).cache =
      Runs.final CacheCall.apply cache (deliveries slot run) := by
  induction run generalizing slot cache with
  | nil => rfl
  | cons event run ih =>
      cases event with
      | advance slots => exact ih (slot + slots) cache
      | account pubkey data owner age => exact ih slot _
      | blockMeta blockhash age => exact ih slot _
      | stall => exact ih slot cache

/-- A slot that a call puts. -/
def slotOf : CacheCall → ℕ
  | .put _ _ _ slot => slot
  | .putBlockhash _ slot => slot

/-- No delivered update is ahead of the chain. -/
theorem deliveries_le (slot : ℕ) (cache : GeyserPoolCache) (run : List Event) :
    slot ≤ (Runs.final step { slot, cache } run).slot ∧
      ∀ call ∈ deliveries slot run,
        slotOf call ≤ (Runs.final step { slot, cache } run).slot := by
  induction run generalizing slot cache with
  | nil => exact ⟨Nat.le_refl _, nofun⟩
  | cons event run ih =>
      cases event with
      | advance slots =>
          have rest := ih (slot + slots) cache
          exact ⟨(Nat.le_add_right _ _).trans rest.1, rest.2⟩
      | stall => exact ih slot cache
      | account pubkey data owner age =>
          have rest := ih slot (cache.put pubkey data owner (slot - age))
          refine ⟨rest.1, List.forall_mem_cons.mpr ⟨?_, rest.2⟩⟩
          exact (Nat.sub_le _ _).trans rest.1
      | blockMeta blockhash age =>
          have rest := ih slot (cache.putBlockhash blockhash (slot - age))
          refine ⟨rest.1, List.forall_mem_cons.mpr ⟨?_, rest.2⟩⟩
          exact (Nat.sub_le _ _).trans rest.1

end ChainView

/-! ## How old accepted data can be -/

open ChainView

section

variable {slot : ℕ} {run : List Event}

/-- A fresh block hash came from the stream, and is at most ten slots older than the
latest slot. -/
theorem freshBlockhash_bound {blockhash : Hash}
    (fresh : (after slot run).cache.getFreshBlockhash = some blockhash) :
    ∃ cachedSlot, .putBlockhash blockhash cachedSlot ∈ deliveries slot run ∧
      cachedSlot ≤ (after slot run).slot ∧
      (after slot run).slot - cachedSlot ≤ 10 + (after slot run).lag := by
  have cache : (after slot run).cache = cacheAfter (deliveries slot run) :=
    final_cache slot .empty run
  simp only [GeyserPoolCache.getFreshBlockhash] at fresh
  split at fresh
  · next conditions =>
      rcases conditions with ⟨positive, _, recent⟩
      have same := Option.some_inj.mp fresh
      rcases @latestBlockhash_cacheAfter (deliveries slot run) with ⟨default, _⟩ | ⟨inside, _, _⟩
      · rw [cache, default] at positive
        exact absurd positive (Nat.lt_irrefl 0)
      · rw [← cache] at inside
        rcases List.mem_filterMap.mp inside with ⟨call, delivered, put⟩
        cases call with
        | put _ _ _ _ => exact absurd put nofun
        | putBlockhash hash cachedSlot =>
            have entry := Option.some_inj.mp put
            have hashed : hash = blockhash := (congrArg Prod.fst entry).trans same
            have dated : cachedSlot = (after slot run).cache.latestBlockhash.2 :=
              congrArg Prod.snd entry
            have within := (deliveries_le slot .empty run).2 _ delivered
            refine ⟨cachedSlot, hashed ▸ delivered, within, ?_⟩
            rw [← dated] at recent
            rw [lag]
            omega
  · exact absurd fresh nofun

/-- An accepted account came from the stream, and is at most two slots older than the
latest slot. -/
theorem acceptedAccount_bound {pubkey : String} {data : List UInt8} {cachedSlot : ℕ}
    (held : (after slot run).cache.getWithSlot pubkey = some (data, cachedSlot))
    (accepted : acceptsCached (after slot run).cache.latestSlot cachedSlot = true) :
    (∃ owner, .put pubkey data owner cachedSlot ∈ deliveries slot run) ∧
      cachedSlot ≤ (after slot run).slot ∧
      (after slot run).slot - cachedSlot ≤ 2 + (after slot run).lag := by
  have cache : (after slot run).cache = cacheAfter (deliveries slot run) :=
    final_cache slot .empty run
  rw [cache, getWithSlot_cacheAfter, Option.map_eq_some_iff] at held
  rcases held with ⟨entry, last, same⟩
  rcases List.mem_map.mp (List.mem_of_getLast? last) with ⟨update, listed, rfl⟩
  rcases List.mem_filter.mp listed with ⟨put, keyed⟩
  rcases List.mem_filterMap.mp put with ⟨call, delivered, is⟩
  have recent := (of_decide_eq_true accepted).2
  cases call with
  | putBlockhash _ _ => exact absurd is nofun
  | put key _ owner putSlot =>
      cases is
      cases same
      have named : key = pubkey := of_decide_eq_true keyed
      subst named
      have within := (deliveries_le slot .empty run).2 _ delivered
      refine ⟨⟨owner, delivered⟩, within, ?_⟩
      rw [lag]
      omega

/-- In every run, what a reader takes for fresh is as old against the chain as the reader
allows against the latest slot, plus the lag of the stream; and an opportunity passes by
its age or because the stream has delivered an account. -/
theorem freshness (slot : ℕ) (run : List Event) :
    (∀ blockhash, (after slot run).cache.getFreshBlockhash = some blockhash →
      ∃ cachedSlot, .putBlockhash blockhash cachedSlot ∈ deliveries slot run ∧
        cachedSlot ≤ (after slot run).slot ∧
        (after slot run).slot - cachedSlot ≤ 10 + (after slot run).lag) ∧
    (∀ pubkey data cachedSlot,
      (after slot run).cache.getWithSlot pubkey = some (data, cachedSlot) →
      acceptsCached (after slot run).cache.latestSlot cachedSlot = true →
      (∃ owner, .put pubkey data owner cachedSlot ∈ deliveries slot run) ∧
        cachedSlot ≤ (after slot run).slot ∧
        (after slot run).slot - cachedSlot ≤ 2 + (after slot run).lag) ∧
    (∀ snapshotSlot currentSlot maxAge,
      isOpportunityFresh (after slot run).cache.latestSlot snapshotSlot currentSlot maxAge =
        true →
      currentSlot - snapshotSlot ≤ maxAge ∨
        ∃ update ∈ accountPuts (deliveries slot run), 0 < update.2.slot) := by
  refine ⟨fun _ => freshBlockhash_bound, fun _ _ _ => acceptedAccount_bound, ?_⟩
  intro snapshotSlot currentSlot maxAge fresh
  rw [isOpportunityFresh] at fresh
  split at fresh
  · exact absurd fresh Bool.false_ne_true
  · split at fresh
    · next streaming =>
        right
        have cache : (after slot run).cache = cacheAfter (deliveries slot run) :=
          final_cache slot .empty run
        rw [cache] at streaming
        rcases (@latestSlot_cacheAfter (deliveries slot run)).1 with zero | ⟨update, inside, same⟩
        · exact absurd zero (Nat.pos_iff_ne_zero.mp streaming)
        · exact ⟨update, inside, same ▸ streaming⟩
    · exact .inl (of_decide_eq_true fresh)

end

/-- The stream delivers an account and a block hash at slot one hundred and stalls while
the chain moves on by a thousand slots: all three readers still take the data for fresh. -/
theorem stalled_stream_fresh :
    let view := after 100 [.account "pool" [1] [] 0, .blockMeta Hash.default 0, .stall,
      .advance 1000]
    view.slot = 1100 ∧
      view.cache.getFreshBlockhash = some Hash.default ∧ view.cache.latestBlockhash.2 = 100 ∧
      view.cache.getWithSlot "pool" = some ([1], 100) ∧
      acceptsCached view.cache.latestSlot 100 = true ∧
      isOpportunityFresh view.cache.latestSlot 100 1100 20 = true := by
  decide +kernel

end AtomicArbitrage.Bot
