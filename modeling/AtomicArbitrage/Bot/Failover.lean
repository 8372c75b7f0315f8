import AtomicArbitrage.Bot.CacheEntry
import AtomicArbitrage.Library.RoundRobin
import Mathlib.Data.List.Nodup
import Mathlib.Data.Nat.Prime.Basic

/-!
# Failover between endpoints

The pool hands out its RPC clients in turn by a counter that every call advances.  A
rotation is meant to skip the endpoint that has just failed: it advances the counter by one
step more, behind the endpoint that it returns.
-/

namespace AtomicArbitrage.Bot

open RoundRobin

/-- A shared client: its endpoint and the allocation that tells it from the others. -/
structure RpcClient where
  url : String
  allocation : ℕ
deriving DecidableEq

/-- `RpcPool`.  The counter is a word of the machine, as the number of clients is. -/
structure RpcPool where
  clients : List RpcClient
  counter : UInt64
  nonempty : clients ≠ []
  distinct : clients.Nodup
  small : clients.length < 2 ^ 64

namespace RpcPool

/-- The clients of `RpcPool::new`: one for the primary URL and one for each fallback. -/
def allocate (primaryUrl : String) (fallbackUrls : List String) : List RpcClient :=
  (primaryUrl :: fallbackUrls).zipIdx.map fun (url, allocation) => { url, allocation }

theorem allocate_nodup (primaryUrl : String) (fallbackUrls : List String) :
    (allocate primaryUrl fallbackUrls).Nodup := by
  apply List.Nodup.of_map RpcClient.allocation
  have allocations : (allocate primaryUrl fallbackUrls).map RpcClient.allocation =
      (primaryUrl :: fallbackUrls).zipIdx.map Prod.snd := List.map_map
  rw [allocations, List.zipIdx_map_snd]
  exact List.nodup_range' 1

/-- `RpcPool::new`. -/
def new (primaryUrl : String) (fallbackUrls : List String)
    (small : (allocate primaryUrl fallbackUrls).length < 2 ^ 64) : RpcPool where
  clients := allocate primaryUrl fallbackUrls
  counter := 0
  nonempty := by simp [allocate]
  distinct := allocate_nodup primaryUrl fallbackUrls
  small := small

section

variable (pool : RpcPool)

theorem length_pos : 0 < pool.clients.length := List.length_pos_iff.mpr pool.nonempty

/-- `self.clients[idx]`, at the value of the counter. -/
def client : RpcClient :=
  pool.clients.get ⟨pool.counter.toNat % pool.clients.length, Nat.mod_lt _ pool.length_pos⟩

/-- `fetch_add`, which wraps. -/
def advance (steps : UInt64) : RpcPool := { pool with counter := pool.counter + steps }

/-- `current`. -/
def current : RpcClient × RpcPool := (pool.client, pool.advance 1)

/-- `rotate`. -/
def rotate : Option RpcClient × RpcPool := (some pool.client, pool.advance 2)

/-- What `maybe_failover` takes for an error of the connection. -/
def isConnectionError (errorMsg : String) : Bool :=
  textContains errorMsg "timed out" || textContains errorMsg "connection" ||
    textContains errorMsg "Connection" || textContains errorMsg "deadline" ||
    textContains errorMsg "error trying to connect" || textContains errorMsg "Timeout"

/-- `maybe_failover`. -/
def maybeFailover (errorMsg : String) : RpcPool :=
  if isConnectionError errorMsg then pool.rotate.2 else pool

/-- The pool behind some calls of `current`. -/
def after : ℕ → RpcPool
  | 0 => pool
  | calls + 1 => (after calls).current.2

/-- The clients that some calls of `current` return, one after the other. -/
def served (calls : ℕ) : List RpcClient :=
  (List.range calls).map fun call => (pool.after call).current.1

/-- When the client that `current` returned has failed, neither the rotation nor the next
call returns it, and any turn of calls, however many others lie before it, returns every
client. -/
structure FailsOver (skipped : ℕ) : Prop where
  rotated : pool.current.2.rotate.1 ≠ some pool.current.1
  next : ∀ errorMsg, isConnectionError errorMsg = true →
    (pool.current.2.maybeFailover errorMsg).current.1 ≠ pool.current.1
  covered : ∀ client ∈ pool.clients,
    client ∈ (pool.current.2.rotate.2.after skipped).served pool.clients.length

/-- The pool does not have three clients, and the counter does not wrap in these calls, or the
slots behind the wrap are apart from those in front of it. -/
structure Turns (skipped : ℕ) : Prop where
  rotated : pool.counter.toNat + 1 = 2 ^ 64 → ¬pool.clients.length ∣ 2 ^ 64 - 1
  next : pool.counter.toNat + 3 < 2 ^ 64 → pool.clients.length ≠ 3
  wrapped : 2 ^ 64 ≤ pool.counter.toNat + 3 → ¬pool.clients.length ∣ 2 ^ 64 - 3
  covered : pool.clients.length ∣ 2 ^ 64 ∨
    (pool.counter.toNat + 3 + skipped) % 2 ^ 64 + pool.clients.length ≤ 2 ^ 64

end

/-! ## Slots -/

section

variable {pool : RpcPool}

theorem counter_after (calls : ℕ) :
    (pool.after calls).counter.toNat = (pool.counter.toNat + calls) % 2 ^ 64 := by
  induction calls with
  | zero => exact (Nat.mod_eq_of_lt pool.counter.toNat_lt).symm
  | succ calls ih =>
      have step : (pool.after (calls + 1)).counter = (pool.after calls).counter + 1 := rfl
      rw [step, UInt64.toNat_add, ih, UInt64.toNat_one, Nat.mod_add_mod, Nat.add_assoc]

theorem clients_after (calls : ℕ) : (pool.after calls).clients = pool.clients := by
  induction calls with
  | zero => rfl
  | succ calls ih => exact ih

/-- A pool of the same clients returns the client at the slot of its own counter. -/
theorem client_of_slot {other : RpcPool} {step : ℕ} (same : other.clients = pool.clients)
    (counter : other.counter.toNat = (pool.counter.toNat + step) % 2 ^ 64) :
    other.client =
      pool.clients.get ⟨slot (2 ^ 64) pool.clients.length pool.counter.toNat step,
        slot_lt pool.length_pos step⟩ := by
  rw [client]
  rw [List.get_eq_getElem, List.get_eq_getElem]
  simp only [same, counter]
  rfl

/-- The client at a slot is that of the counter when the slots are the same. -/
theorem client_eq_iff {other : RpcPool} {step : ℕ} (same : other.clients = pool.clients)
    (counter : other.counter.toNat = (pool.counter.toNat + step) % 2 ^ 64) :
    other.client = pool.client ↔
      slot (2 ^ 64) pool.clients.length pool.counter.toNat step =
        slot (2 ^ 64) pool.clients.length pool.counter.toNat 0 := by
  have start : pool.counter.toNat = (pool.counter.toNat + 0) % 2 ^ 64 :=
    (Nat.mod_eq_of_lt pool.counter.toNat_lt).symm
  rw [client_of_slot same counter, client_of_slot rfl start, pool.distinct.injective_get.eq_iff,
    Fin.mk.injEq]

theorem served_iff {clients : List RpcClient} {calls : ℕ} (same : pool.clients = clients)
    (turn : calls = clients.length) :
    (∀ client ∈ clients, client ∈ pool.served calls) ↔
      Covers (2 ^ 64) clients.length pool.counter.toNat := by
  subst same turn
  have returned (call : ℕ) : (pool.after call).current.1 =
      pool.clients.get ⟨slot (2 ^ 64) pool.clients.length pool.counter.toNat call,
        slot_lt pool.length_pos call⟩ :=
    client_of_slot (clients_after call) (counter_after call)
  simp only [served, List.mem_map, List.mem_range, returned]
  constructor
  · intro all index inside
    rcases all _ (List.get_mem pool.clients ⟨index, inside⟩) with ⟨call, less, same⟩
    exact ⟨call, less, Fin.mk.inj (pool.distinct.injective_get same)⟩
  · intro covers client inside
    rcases List.get_of_mem inside with ⟨index, rfl⟩
    rcases covers index.val index.isLt with ⟨call, less, reaches⟩
    exact ⟨call, less, congrArg pool.clients.get (Fin.ext reaches)⟩

end

/-! ## The rotation -/

/-- The rotation behind `current` returns the same client when its slot is the next one. -/
theorem rotate_current_iff (pool : RpcPool) :
    pool.current.2.rotate.1 = some pool.current.1 ↔
      if pool.counter.toNat + 1 < 2 ^ 64 then pool.clients.length ∣ 1
      else pool.clients.length ∣ 2 ^ 64 - 1 := by
  have small : pool.counter.toNat < 2 ^ 64 := pool.counter.toNat_lt
  have clients : pool.current.2.clients = pool.clients := rfl
  have counter : pool.current.2.counter.toNat = (pool.counter.toNat + 1) % 2 ^ 64 :=
    UInt64.toNat_add _ _
  rw [← slot_eq_iff small (by decide), ← client_eq_iff clients counter]
  exact Option.some_inj

/-- `current` and `rotate` together are three steps of the counter. -/
theorem counter_rotate (pool : RpcPool) :
    pool.current.2.rotate.2.counter.toNat = (pool.counter.toNat + 3) % 2 ^ 64 := by
  have steps : pool.current.2.rotate.2.counter = pool.counter + 3 := UInt64.add_assoc _ _ _
  rw [steps]
  exact UInt64.toNat_add _ _

theorem current_rotate_iff (pool : RpcPool) :
    pool.current.2.rotate.2.current.1 = pool.current.1 ↔
      if pool.counter.toNat + 3 < 2 ^ 64 then pool.clients.length ∣ 3
      else pool.clients.length ∣ 2 ^ 64 - 3 := by
  have small : pool.counter.toNat < 2 ^ 64 := pool.counter.toNat_lt
  have clients : pool.current.2.rotate.2.clients = pool.clients := rfl
  rw [← slot_eq_iff small (by decide), ← client_eq_iff clients pool.counter_rotate]
  exact Iff.rfl

theorem served_rotate_iff (pool : RpcPool) (skipped : ℕ) :
    (∀ client ∈ pool.clients,
      client ∈ (pool.current.2.rotate.2.after skipped).served pool.clients.length) ↔
        pool.clients.length ∣ 2 ^ 64 ∨
          (pool.counter.toNat + 3 + skipped) % 2 ^ 64 + pool.clients.length ≤ 2 ^ 64 := by
  have start : (pool.current.2.rotate.2.after skipped).counter.toNat =
      (pool.counter.toNat + 3 + skipped) % 2 ^ 64 := by
    rw [counter_after, counter_rotate, Nat.mod_add_mod]
  have clients : (pool.current.2.rotate.2.after skipped).clients = pool.clients :=
    clients_after skipped
  rw [served_iff clients rfl, start, covers_iff (Nat.mod_lt _ (by decide)) pool.small.le]

/-- An error of the connection. -/
def timedOut : String := "timed out"

theorem isConnectionError_timedOut : isConnectionError timedOut = true := by decide

/-- A pool of two or more clients leaves the one that has failed, and serves every one within
each turn, exactly when it does not have three of them and the wrap of the counter does not
come between. -/
theorem failsOver_iff (pool : RpcPool) (skipped : ℕ) (two : 2 ≤ pool.clients.length) :
    pool.FailsOver skipped ↔ pool.Turns skipped := by
  have small : pool.counter.toNat < 2 ^ 64 := pool.counter.toNat_lt
  have three : pool.clients.length ∣ 3 ↔ pool.clients.length = 3 := by
    rw [Nat.dvd_prime Nat.prime_three]
    omega
  have one : ¬pool.clients.length ∣ 1 := by
    rw [Nat.dvd_one]
    omega
  constructor
  · intro fails
    have skips := fails.next timedOut isConnectionError_timedOut
    rw [maybeFailover, if_pos isConnectionError_timedOut] at skips
    exact {
      rotated := by
        intro last divides
        have same := pool.rotate_current_iff.mpr (by rw [if_neg (by omega)]; exact divides)
        exact fails.rotated same
      next := by
        intro inside clients
        have same := pool.current_rotate_iff.mpr
          (by rw [if_pos inside]; exact three.mpr clients)
        exact skips same
      wrapped := by
        intro wraps divides
        have same := pool.current_rotate_iff.mpr (by rw [if_neg (by omega)]; exact divides)
        exact skips same
      covered := (pool.served_rotate_iff skipped).mp fails.covered }
  · intro turns
    exact {
      rotated := by
        intro same
        have divides := pool.rotate_current_iff.mp same
        split at divides
        · exact one divides
        · exact turns.rotated (by omega) divides
      next := by
        intro errorMsg connection same
        rw [maybeFailover, if_pos connection] at same
        have divides := pool.current_rotate_iff.mp same
        split at divides
        · next inside => exact turns.next inside (three.mp divides)
        · exact turns.wrapped (by omega) divides
      covered := (pool.served_rotate_iff skipped).mpr turns.covered }

/-- Two endpoints take turns. -/
theorem failsOver_two : (new "helius" ["shyft"] (by decide)).FailsOver 0 :=
  (failsOver_iff _ 0 (by decide)).mpr
    { rotated := by decide
      next := by decide
      wrapped := by decide
      covered := .inl (by decide) }

/-- With three endpoints the call behind the rotation is back at the one that has failed. -/
theorem not_failsOver_three :
    ¬∀ (pool : RpcPool) (skipped : ℕ), 2 ≤ pool.clients.length → pool.FailsOver skipped := by
  intro all
  have fails := all (new "helius" ["shyft", "quicknode"] (by decide)) 0 (by decide)
  exact fails.next timedOut isConnectionError_timedOut (by decide)

end RpcPool

end AtomicArbitrage.Bot
