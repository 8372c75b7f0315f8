import AtomicArbitrage.Bot.MintCandidates
import AtomicArbitrage.Bot.Whitelist
import AtomicArbitrage.Library.Seen
import Mathlib.Data.List.Destutter
import Mathlib.Data.List.Sort
import Mathlib.Data.String.Basic

/-!
# From logs to the whitelist

The listener reads notifications of transactions.  One that names a whitelisted mint becomes
an event of the main loop; the mints of another are offered to the discovery task, which
whitelists those that are traded on two venues.  Background tasks offer the mints of the pools
that they read out of transactions.  The main loop takes the events, and marks the mints on
which it has traded.
-/

namespace AtomicArbitrage.Bot

/-! ## Notifications -/

/-- `SwapEvent`. -/
structure SwapEvent where
  mint : Option String
deriving DecidableEq

/-- The program that a transaction comes from. -/
inductive EventProgram where
  | pumpfun
  | dlmm
  | cpmm
  | whirlpool
  | unknown
deriving DecidableEq

/-- `determine_program`. -/
def determineProgram (logs : List String) : EventProgram :=
  (logs.findSome? fun log =>
    if textContains log "pAMMBay6oceH" then some .pumpfun
    else if textContains log "LBUZKhRx" then some .dlmm
    else if textContains log "CPMMoo8L3F4" then some .cpmm
    else if textContains log "whirLbMiicVd" then some .whirlpool
    else none).getD .unknown

/-- The heuristic that the listener filters logs by. -/
def hasTrade (logs : List String) : Bool :=
  logs.any fun log =>
    textContains log "Swap" || textContains log "Buy" || textContains log "Sell"

/-- A notification, with the order in which the set of its candidates is gone through. -/
structure Notification (letters : Alphanumeric) where
  failed : Bool
  logs : List String
  signature : String
  candidates : List String
  distinct : candidates.Nodup
  complete : candidates.toFinset = extractMintCandidates letters logs

/-- The venues on which `verify_dual_presence` finds a pool of SOL and a mint. -/
structure VenuePresence where
  pumpswap : Bool
  dlmm : Bool
  cpmm : Bool
  whirlpool : Bool
deriving DecidableEq

/-- `verify_dual_presence`. -/
def verifyDualPresence (has : VenuePresence) : Bool :=
  has.pumpswap.toNat + has.dlmm.toNat + has.cpmm.toNat + has.whirlpool.toNat ≥ 2

/-! ## State -/

/-- Where the discovery task is. -/
inductive DiscoveryTask where
  /-- It collects up to 64 mints, or waits until its deadline. -/
  | collecting (buf : List String)
  /-- It goes through the mints of a batch. -/
  | draining (batch : List String)
  /-- It has asked for the pools of a mint. -/
  | verifying (mint : String) (batch : List String)

/-- The mints that the discovery task holds: no more than its buffer takes, and in a batch
every mint once. -/
def DiscoveryTask.Bounded : DiscoveryTask → Prop
  | .collecting buf => buf.length ≤ 64
  | .draining batch => batch.length ≤ 64 ∧ batch.Nodup
  | .verifying mint batch => (mint :: batch).length ≤ 64 ∧ (mint :: batch).Nodup

/-- The whitelist, the sets of the listener, the channels, the background tasks that wait for
a transaction, and the discovery task.  Nothing reads the mints that have been found on two
venues: they record why a mint was whitelisted. -/
structure Intake where
  store : WhitelistStore
  seenMints : Seen String
  processedSigs : Seen String
  events : List SwapEvent
  fetching : List (EventProgram × String)
  discoveries : List String
  task : DiscoveryTask
  found : List (String × VenuePresence)

namespace Intake

/-- The state when the listener starts. -/
def start (table : WhitelistTable) : Intake where
  store := .loaded table
  seenMints := .empty
  processedSigs := .empty
  events := []
  fetching := []
  discoveries := []
  task := .collecting []
  found := []

inductive Step (letters : Alphanumeric) where
  /-- A notification comes while the caches do, or do not, know a pool of the mint. -/
  | notified (notification : Notification letters) (cached : Bool)
  /-- The connection is lost; the listener starts over with empty sets. -/
  | reconnected
  /-- A background task has read two mints and a pool out of a transaction, or nothing. -/
  | fetched (place : ℕ) (result : Option (String × String × String))
  /-- The backscan sends a mint. -/
  | backscanned (mint : String)
  /-- The discovery task receives a mint. -/
  | collect
  /-- The buffer of the discovery task is full, or five seconds have passed. -/
  | deadline
  /-- The discovery task turns to the next mint of its batch. -/
  | next
  /-- The pools of a mint have been fetched. -/
  | answered (has : VenuePresence)
  /-- The main loop receives an event. -/
  | taken
  /-- The main loop has submitted a trade. -/
  | submitted (mint : String)

/-! ## Steps -/

/-- The mints of a transaction that names no whitelisted one are sent to the discovery task,
unless they have been before. -/
def feed (s : Intake) (candidates : List String) : Intake :=
  let (fresh, seen) := s.seenMints.filter candidates
  { s with
    seenMints := seen.clearOver 10000
    discoveries := s.discoveries ++ fresh }

/-- `tx.try_send`: an event for a full channel is dropped. -/
def trySend (s : Intake) (event : SwapEvent) : Intake :=
  if s.events.length < 4096 then { s with events := s.events ++ [event] } else s

/-- A background task is started, once for a transaction. -/
def spawnFetch (s : Intake) (program : EventProgram) (sig : String) : Intake :=
  let (fresh, processed) := s.processedSigs.insert sig
  { s with
    processedSigs := processed
    fetching := if fresh then s.fetching ++ [(program, sig)] else s.fetching }

/-- The three branches behind an event.  Only the one for DLMM empties the set. -/
def lookUp (s : Intake) (program : EventProgram) (sig : String) (cached : Bool) : Intake :=
  match program with
  | .dlmm =>
      if cached then s
      else
        let s := s.spawnFetch .dlmm sig
        { s with processedSigs := s.processedSigs.clearOver 1024 }
  | .cpmm => if cached then s else s.spawnFetch .cpmm sig
  | .whirlpool => if cached then s else s.spawnFetch .whirlpool sig
  | _ => s

/-- The body of `dual_listen_loop`. -/
def onNotification {letters : Alphanumeric} (s : Intake) (notification : Notification letters)
    (cached : Bool) : Intake :=
  if notification.failed then s
  else if !hasTrade notification.logs then s
  else
    match notification.candidates.find? fun mint => mint ∈ s.store.memory.all with
    | none => s.feed notification.candidates
    | some mint =>
        (s.trySend { mint := some mint }).lookUp (determineProgram notification.logs)
          notification.signature cached

/-- `buf.sort()`, then `buf.dedup_by(|a, b| a == b)`. -/
def sortDedup (buf : List String) : List String :=
  (buf.mergeSort fun first second => first ≤ second).destutter (· ≠ ·)

/-- Behind `verify_dual_presence`. -/
def onPresence (s : Intake) (mint : String) (batch : List String) (has : VenuePresence) :
    Intake :=
  let s := { s with task := .draining batch }
  if verifyDualPresence has then
    let (added, store) := s.store.verifyAndAdd mint
    { s with store := store, found := if added then s.found ++ [(mint, has)] else s.found }
  else s

/-- A step.  What cannot happen in a state leaves it as it is. -/
def step {letters : Alphanumeric} (s : Intake) : Step letters → Intake
  | .notified notification cached => s.onNotification notification cached
  | .reconnected => { s with seenMints := .empty, processedSigs := .empty }
  | .fetched place result =>
      match s.fetching[place]?, result with
      | none, _ => s
      | some _, none => { s with fetching := s.fetching.eraseIdx place }
      | some _, some (mintA, mintB, _) =>
          { s with
            fetching := s.fetching.eraseIdx place
            discoveries := s.discoveries ++ [mintA, mintB] }
  | .backscanned mint => { s with discoveries := s.discoveries ++ [mint] }
  | .collect =>
      match s.task, s.discoveries with
      | .collecting buf, mint :: rest =>
          if buf.length < 64 then
            { s with discoveries := rest, task := .collecting (buf ++ [mint]) }
          else s
      | _, _ => s
  | .deadline =>
      match s.task with
      | .collecting [] => s
      | .collecting buf => { s with task := .draining (sortDedup buf) }
      | _ => s
  | .next =>
      match s.task with
      | .draining [] => { s with task := .collecting [] }
      | .draining (mint :: batch) =>
          if mint ∈ s.store.memory.all then { s with task := .draining batch }
          else { s with task := .verifying mint batch }
      | _ => s
  | .answered has =>
      match s.task with
      | .verifying mint batch => s.onPresence mint batch has
      | _ => s
  | .taken => { s with events := s.events.tail }
  | .submitted mint => { s with store := s.store.markProfitable mint }

/-! ## Soundness -/

/-- The whitelist is that of the start and the mints found on two venues; the channel of the
main loop holds events of whitelisted mints only; what is held in memory is bounded. -/
structure Sound (table : WhitelistTable) (s : Intake) : Prop where
  store : s.store.InStep (WhitelistStore.loaded table).memory.blacklisted
  listed : ∀ mint, mint ∈ s.store.memory.all ↔
    mint ∈ (WhitelistStore.loaded table).memory.all ∨ mint ∈ s.found.map Prod.fst
  present : ∀ pair ∈ s.found, verifyDualPresence pair.2 = true
  events : ∀ event ∈ s.events, ∃ mint, event.mint = some mint ∧
    mint ∈ s.store.memory.all ∧ Plausible mint
  capacity : s.events.length ≤ 4096
  seen : s.seenMints.elements.length ≤ 10000
  task : s.task.Bounded

theorem sound_start (table : WhitelistTable) : Sound table (start table) where
  store := ⟨WhitelistStore.mirrored_loaded table, rfl⟩
  listed _ := (or_iff_left List.not_mem_nil).symm
  present := nofun
  events := nofun
  capacity := Nat.zero_le _
  seen := Nat.zero_le _
  task := Nat.zero_le _

/-! ### Batches -/

theorem length_sortDedup_le (buf : List String) : (sortDedup buf).length ≤ buf.length := by
  have shorter := ((buf.mergeSort fun first second => first ≤ second).destutter_sublist
    (· ≠ ·)).length_le
  rw [List.length_mergeSort] at shorter
  exact shorter

/-- In a sorted list equal elements are neighbours. -/
theorem nodup_sortDedup (buf : List String) : (sortDedup buf).Nodup := by
  have sorted : (sortDedup buf).Pairwise (· ≤ ·) :=
    (List.pairwise_mergeSort' (· ≤ ·) buf).sublist (List.destutter_sublist _ _)
  have differ := List.isChain_destutter (· ≠ ·) (buf.mergeSort fun first second => first ≤ second)
  have strict : (sortDedup buf).IsChain (· < ·) := by
    apply List.isChain_iff_forall_rel_of_append_cons_cons.mpr
    intro first second front back split
    apply lt_of_le_of_ne
    · exact List.isChain_iff_forall_rel_of_append_cons_cons.mp sorted.isChain split
    · exact List.isChain_iff_forall_rel_of_append_cons_cons.mp differ split
  exact (List.isChain_iff_pairwise.mp strict).imp ne_of_lt

/-! ### Steps -/

section

variable {table : WhitelistTable} {s : Intake}

theorem Sound.feed (sound : Sound table s) (candidates : List String) :
    Sound table (s.feed candidates) :=
  { sound with seen := Seen.length_clearOver_le _ _ }

theorem Sound.trySend (sound : Sound table s) {mint : String}
    (listed : mint ∈ s.store.memory.all) (credible : Plausible mint) :
    Sound table (s.trySend { mint := some mint }) := by
  rw [Intake.trySend]
  split
  · next space =>
      refine { sound with events := ?_, capacity := ?_ }
      · intro event inside
        rcases List.mem_append.mp inside with before | new
        · exact sound.events event before
        · rw [List.mem_singleton] at new
          subst new
          exact ⟨mint, rfl, listed, credible⟩
      · rw [List.length_append, List.length_singleton]
        exact space
  · exact sound

theorem Sound.spawnFetch (sound : Sound table s) (program : EventProgram) (sig : String) :
    Sound table (s.spawnFetch program sig) :=
  { sound with }

theorem Sound.lookUp (sound : Sound table s) (program : EventProgram) (sig : String)
    (cached : Bool) : Sound table (s.lookUp program sig cached) := by
  cases program with
  | dlmm =>
      rw [Intake.lookUp]
      split
      · exact sound
      · exact { sound.spawnFetch .dlmm sig with }
  | cpmm =>
      rw [Intake.lookUp]
      split
      · exact sound
      · exact sound.spawnFetch .cpmm sig
  | whirlpool =>
      rw [Intake.lookUp]
      split
      · exact sound
      · exact sound.spawnFetch .whirlpool sig
  | pumpfun => exact sound
  | unknown => exact sound

theorem Sound.onNotification {letters : Alphanumeric} (sound : Sound table s)
    (notification : Notification letters) (cached : Bool) :
    Sound table (s.onNotification notification cached) := by
  rw [Intake.onNotification]
  split
  · exact sound
  · split
    · exact sound
    · cases matched : notification.candidates.find? fun mint => mint ∈ s.store.memory.all with
      | none => exact sound.feed notification.candidates
      | some mint =>
          have listed := List.find?_some matched
          rw [decide_eq_true_eq] at listed
          have candidate : mint ∈ extractMintCandidates letters notification.logs := by
            rw [← notification.complete, List.mem_toFinset]
            exact List.mem_of_find?_eq_some matched
          exact (sound.trySend listed (plausible_of_candidate candidate)).lookUp _ _ _

/-- A mint found on two venues joins the whitelist unless it is there, or blacklisted. -/
theorem Sound.verifyAndAdd (sound : Sound table s) {mint : String} {has : VenuePresence}
    (present : verifyDualPresence has = true) :
    Sound table { s with
      store := (s.store.verifyAndAdd mint).2
      found := if (s.store.verifyAndAdd mint).1 then s.found ++ [(mint, has)] else s.found } := by
  have store := sound.store.apply (.verifyAndAdd mint)
  rw [WhitelistStore.apply] at store
  rw [WhitelistStore.verifyAndAdd] at store ⊢
  split
  · exact sound
  · split
    · exact sound
    · next fresh allowed =>
        rw [if_neg fresh, if_neg allowed] at store
        refine { sound with store := store, listed := ?_, present := ?_, events := ?_ }
        · intro other
          simp only [Finset.mem_insert, sound.listed, if_true, List.map_append, List.map_cons,
            List.map_nil, List.mem_append, List.mem_singleton]
          tauto
        · intro pair inside
          rcases List.mem_append.mp inside with before | new
          · exact sound.present pair before
          · rw [List.mem_singleton] at new
            subst new
            exact present
        · intro event inside
          rcases sound.events event inside with ⟨other, same, listed, credible⟩
          exact ⟨other, same, Finset.mem_insert_of_mem listed, credible⟩

theorem all_markProfitable (store : WhitelistStore) (mint : String) :
    (store.markProfitable mint).memory.all = store.memory.all := by
  rw [WhitelistStore.markProfitable]
  split <;> rfl

theorem Sound.onPresence (sound : Sound table s) {mint : String} {batch : List String}
    (bounded : (DiscoveryTask.verifying mint batch).Bounded) (has : VenuePresence) :
    Sound table (s.onPresence mint batch has) := by
  have drained : Sound table { s with task := .draining batch } :=
    { sound with task := ⟨(Nat.le_succ _).trans bounded.1, bounded.2.of_cons⟩ }
  rw [Intake.onPresence]
  split
  · next present => exact drained.verifyAndAdd present
  · exact drained

theorem Sound.step {letters : Alphanumeric} (sound : Sound table s) (action : Step letters) :
    Sound table (s.step action) := by
  have task := sound.task
  cases action with
  | notified notification cached => exact sound.onNotification notification cached
  | reconnected => exact { sound with seen := Nat.zero_le _ }
  | fetched place result =>
      simp only [Intake.step]
      split
      · exact sound
      · exact { sound with }
      · exact { sound with }
  | backscanned mint => exact { sound with }
  | collect =>
      simp only [Intake.step]
      split
      · next buf mint rest phase waiting =>
          split
          · next space =>
              refine { sound with task := ?_ }
              rw [DiscoveryTask.Bounded, List.length_append, List.length_singleton]
              exact space
          · exact sound
      · exact sound
  | deadline =>
      simp only [Intake.step]
      split
      · exact sound
      · next buf _ phase =>
          rw [phase] at task
          exact { sound with
            task := ⟨(length_sortDedup_le buf).trans task, nodup_sortDedup buf⟩ }
      · exact sound
  | next =>
      simp only [Intake.step]
      split
      · exact { sound with task := Nat.zero_le _ }
      · next mint batch phase =>
          rw [phase] at task
          split
          · exact { sound with task := ⟨(Nat.le_succ _).trans task.1, task.2.of_cons⟩ }
          · exact { sound with task := task }
      · exact sound
  | answered has =>
      simp only [Intake.step]
      split
      · next mint batch phase =>
          rw [phase] at task
          exact sound.onPresence task has
      · exact sound
  | taken =>
      refine { sound with events := ?_, capacity := ?_ }
      · exact fun event inside => sound.events event (List.mem_of_mem_tail inside)
      · exact (List.tail_sublist _).length_le.trans sound.capacity
  | submitted mint =>
      have store := sound.store.apply (.markProfitable mint)
      have all := all_markProfitable s.store mint
      refine { sound with store := store, listed := ?_, events := ?_ }
      · intro other
        simp only [Intake.step, all]
        exact sound.listed other
      · simp only [Intake.step, all]
        exact sound.events

end

/-- However notifications, background tasks, the discovery task and the main loop follow each
other, every event that waits for the main loop is of a plausible mint that is whitelisted and
not blacklisted, the whitelist has grown exactly by mints that were found on two venues, and the
blacklist is that of the start.  The channel of events, the set of seen mints and the batch of
the discovery task keep their bounds; the channel of mints and the background tasks have none. -/
theorem intake_sound {letters : Alphanumeric} (table : WhitelistTable)
    (run : List (Step letters)) :
    let s := Runs.final step (start table) run
    Sound table s ∧ ∀ event ∈ s.events, ∃ mint, event.mint = some mint ∧
      mint ∉ s.store.memory.blacklisted := by
  intro s
  have sound : Sound table s :=
    Runs.final_of_kept run (sound_start table) fun _ action holds => holds.step action
  refine ⟨sound, ?_⟩
  intro event inside
  rcases sound.events event inside with ⟨mint, same, listed, _⟩
  have disjoint := WhitelistStore.disjoint_blacklisted sound.store.1
  exact ⟨mint, same, Finset.disjoint_left.mp disjoint listed⟩

/-! ## The set of signatures -/

/-- Swaps of CPMM pools that name one mint, each in a transaction of its own. -/
def cpmmSwaps (mint : String) (count : ℕ) : List String × String :=
  (["Program CPMMoo8L3F4 Swap", mint], String.ofList (List.replicate count 's'))

/-- The listener can be notified of any transaction. -/
theorem exists_notification (letters : Alphanumeric) (logs : List String) (signature : String) :
    ∃ notification : Notification letters, notification.failed = false ∧
      notification.logs = logs ∧ notification.signature = signature :=
  ⟨{ failed := false
     logs := logs
     signature := signature
     candidates := (extractMintCandidates letters logs).sort (· ≤ ·)
     distinct := Finset.sort_nodup _ _
     complete := Finset.sort_toFinset _ _ }, rfl, rfl, rfl⟩

/-- A text that is an address stands in the log that consists of it. -/
theorem candidate_of_log (letters : Alphanumeric) {key : Pubkey} {logs : List String}
    (unknown : key.toBase58 ∉ knownFilter) (inside : key.toBase58 ∈ logs) :
    key.toBase58 ∈ extractMintCandidates letters logs := by
  apply toBase58_mem_candidates.mpr
  refine ⟨unknown, key.toBase58, inside, [], [], ?_, ?_, nofun, nofun⟩
  · exact (List.append_nil _).symm
  · intro character member
    have digit := isBase58_iff.mp (isBase58_toBase58 key) character member
    rw [(plain_of_digit? digit letters).1, Bool.not_true]

/-- A swap of an uncached CPMM pool of a whitelisted mint adds its signature for good. -/
theorem processedSigs_cpmm {letters : Alphanumeric} {s : Intake} {key : Pubkey}
    (listed : key.toBase58 ∈ s.store.memory.all) (unknown : key.toBase58 ∉ knownFilter)
    (count : ℕ) (notification : Notification letters) (sent : notification.failed = false)
    (logs : notification.logs = (cpmmSwaps key.toBase58 count).1)
    (signature : notification.signature = (cpmmSwaps key.toBase58 count).2) :
    let next := s.step (.notified notification false)
    next.store = s.store ∧
      next.processedSigs = (s.processedSigs.insert (cpmmSwaps key.toBase58 count).2).2 := by
  have trade : hasTrade notification.logs = true := by
    rw [logs, cpmmSwaps, hasTrade, List.any_cons]
    have first : textContains "Program CPMMoo8L3F4 Swap" "Swap" = true := by decide +kernel
    rw [first]
    rfl
  have program : determineProgram notification.logs = .cpmm := by
    have first : (textContains "Program CPMMoo8L3F4 Swap" "pAMMBay6oceH" = false ∧
        textContains "Program CPMMoo8L3F4 Swap" "LBUZKhRx" = false) ∧
          textContains "Program CPMMoo8L3F4 Swap" "CPMMoo8L3F4" = true := by decide +kernel
    rw [logs, cpmmSwaps, determineProgram, List.findSome?_cons]
    simp only [first, Bool.false_eq_true, if_false, if_true, Option.getD_some]
  have candidate : key.toBase58 ∈ notification.candidates := by
    rw [← List.mem_toFinset, notification.complete]
    apply candidate_of_log letters unknown
    rw [logs, cpmmSwaps]
    exact List.mem_cons_of_mem _ (List.mem_singleton_self _)
  simp only [step, onNotification, sent, trade, Bool.false_eq_true, Bool.not_true, if_false]
  cases matched : notification.candidates.find? fun mint => mint ∈ s.store.memory.all with
  | none =>
      have missed := List.find?_eq_none.mp matched key.toBase58 candidate
      exact absurd (decide_eq_true listed) missed
  | some mint =>
      simp only [program, lookUp, trySend, spawnFetch, signature, Bool.false_eq_true, if_false]
      split
      · exact ⟨rfl, rfl⟩
      · exact ⟨rfl, rfl⟩

/-- After any number of such swaps the set holds all their signatures. -/
theorem exists_cpmm_run (letters : Alphanumeric) (table : WhitelistTable) {key : Pubkey}
    (listed : key.toBase58 ∈ (WhitelistStore.loaded table).memory.all)
    (unknown : key.toBase58 ∉ knownFilter) (count : ℕ) :
    ∃ run : List (Step letters),
      (Runs.final step (start table) run).store = .loaded table ∧
        (Runs.final step (start table) run).processedSigs.elements =
          (List.range count).map fun swap => (cpmmSwaps key.toBase58 swap).2 := by
  induction count with
  | zero => exact ⟨[], rfl, rfl⟩
  | succ count ih =>
      rcases ih with ⟨run, store, elements⟩
      rcases exists_notification letters (cpmmSwaps key.toBase58 count).1
        (cpmmSwaps key.toBase58 count).2 with ⟨notification, sent, logs, signature⟩
      have next := processedSigs_cpmm (store ▸ listed) unknown count notification sent logs
        signature
      refine ⟨run ++ [.notified notification false], ?_, ?_⟩
      · rw [Runs.final_append]
        exact next.1.trans store
      · have fresh : (cpmmSwaps key.toBase58 count).2 ∉
            (Runs.final step (start table) run).processedSigs.elements := by
          rw [elements]
          intro inside
          rcases List.mem_map.mp inside with ⟨swap, earlier, same⟩
          have lengths := congrArg String.length same
          simp only [cpmmSwaps, String.length_ofList, List.length_replicate] at lengths
          exact absurd (List.mem_range.mp earlier) (by rw [lengths]; exact lt_irrefl _)
        rw [Runs.final_append]
        refine (congrArg Seen.elements next.2).trans ?_
        rw [(Seen.insert_of_notMem fresh).2, elements, List.range_succ, List.map_append,
          List.map_singleton]

/-- The set of signatures that have been looked up has no bound: swaps of a whitelisted mint in
CPMM pools add to it, and only an event of DLMM would empty it. -/
theorem processedSigs_unbounded (letters : Alphanumeric) (table : WhitelistTable) (key : Pubkey)
    (listed : key.toBase58 ∈ (WhitelistStore.loaded table).memory.all)
    (unknown : key.toBase58 ∉ knownFilter) (bound : ℕ) :
    ∃ run : List (Step letters),
      bound < (Runs.final step (start table) run).processedSigs.elements.length := by
  rcases exists_cpmm_run letters table listed unknown (bound + 1) with ⟨run, _, elements⟩
  refine ⟨run, ?_⟩
  rw [elements, List.length_map, List.length_range]
  exact Nat.lt_succ_self bound

/-- A table of one verified mint. -/
def sampleWhitelist : WhitelistTable :=
  whitelistUpsert .empty (Pubkey.ofNat (2 ^ 255)).toBase58 "verified"

/-- The test of ASCII is one of the tests of letters and figures. -/
def asciiLetters : Alphanumeric where
  test := Char.isAlphanum
  ascii _ _ := rfl

theorem processedSigs_unbounded_sample : ∃ run : List (Step asciiLetters),
    1024 < (Runs.final step (start sampleWhitelist) run).processedSigs.elements.length :=
  processedSigs_unbounded asciiLetters sampleWhitelist (.ofNat (2 ^ 255)) (by decide +kernel)
    (by decide +kernel) 1024

end Intake

end AtomicArbitrage.Bot
