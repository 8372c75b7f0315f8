import AtomicArbitrage.Bot.CacheEntry
import AtomicArbitrage.Bot.GeyserCache
import Mathlib.Data.List.Basic

/-!
# Replay of the account stream

The task behind the stream connects, asks for the updates from some slot on, streams and
connects again.  The slot it asks from is computed from an anchor, which the start of the bot
sets once, and from the latest slot of the cache.
-/

namespace AtomicArbitrage.Bot

/-- Where a turn of the task stands. -/
inductive StreamPhase where
  | connecting
  /-- The request is sent. -/
  | subscribing
  | streaming
  | sleeping
deriving DecidableEq

/-- What the server sees of the task. -/
inductive StreamEntry where
  | requested (fromSlot : Option ℕ)
  | established
deriving DecidableEq

/-- `STARTUP_SLOT` and the cache, with the turn of the task.  Nothing reads the log. -/
structure StreamTask where
  startupSlot : ℕ
  cache : GeyserPoolCache
  phase : StreamPhase
  log : List StreamEntry

namespace StreamTask

/-- The task when it is spawned.  The anchor is zero where the node did not say its slot. -/
def start (anchor : ℕ) : StreamTask where
  startupSlot := anchor
  cache := .empty
  phase := .connecting
  log := []

/-- The texts for which the loop over the stream gives up. -/
def isPruned (message : String) : Bool :=
  textContains message "past the valid range" || textContains message "broadcast from"

/-- The texts for which the task forgets its anchor. -/
def isPrunedReplay (message : String) : Bool :=
  isPruned message || textContains message "failed to get replay position"

/-- `replay_from`. -/
def replayFrom (s : StreamTask) : Option ℕ :=
  if s.startupSlot = 0 then none
  else if s.cache.latestSlot > 500 then some (s.cache.latestSlot - 500)
  else if s.startupSlot > 1000 then some (s.startupSlot - 1000)
  else none

/-- The arm `Err(e)` of the task. -/
def failed (s : StreamTask) (message : String) : StreamTask :=
  { s with
    startupSlot := if isPrunedReplay message then 0 else s.startupSlot
    phase := .sleeping }

/-- The arm `Ok(())` of the task. -/
def ended (s : StreamTask) : StreamTask := { s with startupSlot := 0, phase := .sleeping }

/-- What happens next. -/
inductive Event where
  /-- The connection or the question for the version fails. -/
  | connectFailed (message : String)
  | subscribe
  | subscribeFailed (message : String)
  | subscribed
  | update (call : CacheCall)
  | recvError (message : String)
  | streamEnded
  /-- The five seconds are over. -/
  | wake

/-- A step.  An event of another phase does nothing. -/
def step (s : StreamTask) : Event → StreamTask
  | .connectFailed message =>
      match s.phase with
      | .connecting => s.failed message
      | _ => s
  | .subscribe =>
      match s.phase with
      | .connecting =>
          { s with phase := .subscribing, log := s.log ++ [.requested s.replayFrom] }
      | _ => s
  | .subscribeFailed message =>
      match s.phase with
      | .subscribing => s.failed message
      | _ => s
  | .subscribed =>
      match s.phase with
      | .subscribing => { s with phase := .streaming, log := s.log ++ [.established] }
      | _ => s
  | .update call =>
      match s.phase with
      | .streaming => { s with cache := call.apply s.cache }
      | _ => s
  | .recvError message =>
      match s.phase with
      | .streaming =>
          if isPruned message then
            { s with startupSlot := 0 }.failed ("from_slot pruned: " ++ message)
          else s
      | _ => s
  | .streamEnded =>
      match s.phase with
      | .streaming => s.ended
      | _ => s
  | .wake =>
      match s.phase with
      | .sleeping => { s with phase := .connecting }
      | _ => s

/-- What a cold start asks for. -/
def coldReplay (anchor : ℕ) : Option ℕ :=
  if anchor > 1000 then some (anchor - 1000) else none

/-- Behind an established stream and behind a request without a replay stand only requests
without one. -/
def LiveBehind (earlier later : StreamEntry) : Prop :=
  earlier = .established ∨ earlier = .requested none →
    ∀ fromSlot, later = .requested fromSlot → fromSlot = none

/-- Every request asks for the replay of the cold start or for none, and the first stream, or
the first request without a replay, ends the replays. -/
structure ReplaysOnce (anchor : ℕ) (log : List StreamEntry) : Prop where
  cold : ∀ fromSlot, .requested fromSlot ∈ log → fromSlot = none ∨ fromSlot = coldReplay anchor
  live : log.Pairwise LiveBehind

/-! ## The anchor -/

/-- No stream has been established and the anchor is the one of the start, so that the cache
is empty and every request was the same. -/
structure Cold (anchor : ℕ) (s : StreamTask) : Prop where
  anchored : s.startupSlot = anchor
  empty : s.cache.latestSlot = 0
  requests : ∀ entry ∈ s.log, entry = .requested (coldReplay anchor)

/-- Outside the stream the anchor is forgotten, or the start is still cold. -/
structure Consistent (anchor : ℕ) (s : StreamTask) : Prop where
  once : ReplaysOnce anchor s.log
  anchor : s.phase = .streaming ∨ s.startupSlot = 0 ∨ Cold anchor s

section

variable {anchor : ℕ} {s : StreamTask}

theorem consistent_start (anchor : ℕ) : Consistent anchor (start anchor) where
  once := ⟨nofun, .nil⟩
  anchor := .inr (.inr ⟨rfl, rfl, nofun⟩)

theorem replayFrom_forgotten (forgotten : s.startupSlot = 0) : s.replayFrom = none :=
  if_pos forgotten

theorem replayFrom_cold (cold : Cold anchor s) : s.replayFrom = coldReplay anchor := by
  rw [replayFrom, cold.anchored, cold.empty]
  by_cases zero : anchor = 0
  · subst zero
    rfl
  · rw [if_neg zero, if_neg (Nat.not_lt_zero 500), coldReplay]

/-- A failure keeps the start cold, or forgets the anchor. -/
theorem Consistent.failed (consistent : Consistent anchor s) (message : String)
    (waits : s.phase ≠ .streaming) : Consistent anchor (s.failed message) where
  once := consistent.once
  anchor := by
    right
    rw [StreamTask.failed]
    cases isPrunedReplay message with
    | true => exact .inl rfl
    | false =>
        rcases consistent.anchor with streams | forgotten | cold
        · exact absurd streams waits
        · exact .inl forgotten
        · exact .inr ⟨cold.anchored, cold.empty, cold.requests⟩

/-- The end of a stream forgets the anchor. -/
theorem Consistent.forgotten (consistent : Consistent anchor s) {next : StreamTask}
    (log : next.log = s.log) (forgotten : next.startupSlot = 0) : Consistent anchor next where
  once := by
    rw [log]
    exact consistent.once
  anchor := .inr (.inl forgotten)

/-- An entry behind which nothing replays can be added wherever it is live itself. -/
theorem ReplaysOnce.append {log : List StreamEntry} (once : ReplaysOnce anchor log)
    {entry : StreamEntry}
    (cold : ∀ fromSlot, entry = .requested fromSlot →
      fromSlot = none ∨ fromSlot = coldReplay anchor)
    (live : ∀ earlier ∈ log, LiveBehind earlier entry) : ReplaysOnce anchor (log ++ [entry]) where
  cold fromSlot inside := by
    rcases List.mem_append.mp inside with before | last
    · exact once.cold fromSlot before
    · exact cold fromSlot (List.mem_singleton.mp last).symm
  live := by
    rw [List.pairwise_append]
    refine ⟨once.live, List.pairwise_singleton _ _, ?_⟩
    intro earlier before later last
    rw [List.mem_singleton.mp last]
    exact live earlier before

theorem Consistent.subscribe (consistent : Consistent anchor s) (waits : s.phase = .connecting) :
    Consistent anchor
      { s with phase := .subscribing, log := s.log ++ [.requested s.replayFrom] } := by
  rcases consistent.anchor with streams | forgotten | cold
  · rw [waits] at streams
    cases streams
  · have none := replayFrom_forgotten forgotten
    refine ⟨consistent.once.append ?_ ?_, .inr (.inl forgotten)⟩
    · intro fromSlot same
      rw [none] at same
      exact .inl (StreamEntry.requested.inj same).symm
    · intro earlier _ _ fromSlot same
      rw [none] at same
      exact (StreamEntry.requested.inj same).symm
  · have asked := replayFrom_cold cold
    refine ⟨consistent.once.append ?_ ?_, .inr (.inr ⟨cold.anchored, cold.empty, ?_⟩)⟩
    · intro fromSlot same
      rw [asked] at same
      exact .inr (StreamEntry.requested.inj same).symm
    · intro earlier before ends fromSlot same
      -- The requests so far are the one that is added, and no stream is among them.
      rw [cold.requests earlier before] at ends
      rw [asked] at same
      rcases ends with established | live
      · cases established
      · exact (StreamEntry.requested.inj same).symm.trans (StreamEntry.requested.inj live)
    · intro entry inside
      rcases List.mem_append.mp inside with before | last
      · exact cold.requests entry before
      · rw [List.mem_singleton.mp last, asked]

theorem Consistent.subscribed (consistent : Consistent anchor s) :
    Consistent anchor { s with phase := .streaming, log := s.log ++ [.established] } where
  once := consistent.once.append nofun fun _ _ _ => nofun
  anchor := .inl rfl

/-- Every step is consistent. -/
theorem Consistent.step (consistent : Consistent anchor s) (event : Event) :
    Consistent anchor (s.step event) := by
  cases event with
  | connectFailed message =>
      cases phase : s.phase with
      | connecting =>
          simp only [StreamTask.step, phase]
          exact consistent.failed message (by rw [phase]; exact nofun)
      | _ =>
          simp only [StreamTask.step, phase]
          exact consistent
  | subscribe =>
      cases phase : s.phase with
      | connecting =>
          simp only [StreamTask.step, phase]
          exact consistent.subscribe phase
      | _ =>
          simp only [StreamTask.step, phase]
          exact consistent
  | subscribeFailed message =>
      cases phase : s.phase with
      | subscribing =>
          simp only [StreamTask.step, phase]
          exact consistent.failed message (by rw [phase]; exact nofun)
      | _ =>
          simp only [StreamTask.step, phase]
          exact consistent
  | subscribed =>
      cases phase : s.phase with
      | subscribing =>
          simp only [StreamTask.step, phase]
          exact consistent.subscribed
      | _ =>
          simp only [StreamTask.step, phase]
          exact consistent
  | update call =>
      cases phase : s.phase with
      | streaming =>
          simp only [StreamTask.step, phase]
          exact ⟨consistent.once, .inl rfl⟩
      | _ =>
          simp only [StreamTask.step, phase]
          exact consistent
  | recvError message =>
      cases phase : s.phase with
      | streaming =>
          simp only [StreamTask.step, phase]
          split
          · apply consistent.forgotten
            · rfl
            · exact ite_self 0
          · exact consistent
      | _ =>
          simp only [StreamTask.step, phase]
          exact consistent
  | streamEnded =>
      cases phase : s.phase with
      | streaming =>
          simp only [StreamTask.step, phase]
          exact consistent.forgotten rfl rfl
      | _ =>
          simp only [StreamTask.step, phase]
          exact consistent
  | wake =>
      cases phase : s.phase with
      | sleeping =>
          simp only [StreamTask.step, phase]
          refine ⟨consistent.once, .inr ?_⟩
          rcases consistent.anchor with streams | forgotten | cold
          · rw [phase] at streams
            cases streams
          · exact .inl forgotten
          · exact .inr ⟨cold.anchored, cold.empty, cold.requests⟩
      | _ =>
          simp only [StreamTask.step, phase]
          exact consistent

end

/-- After every run from the start of the bot, the task has asked for a replay only before its
first stream, and each time for the one of the cold start: no gap between two streams is ever
asked for. -/
theorem replaysOnce (anchor : ℕ) (run : List Event) :
    ReplaysOnce anchor (Runs.final step (start anchor) run).log := by
  have consistent : Consistent anchor (Runs.final step (start anchor) run) :=
    Runs.final_of_kept run (consistent_start anchor) fun _ event held => held.step event
  exact consistent.once

end StreamTask

end AtomicArbitrage.Bot
