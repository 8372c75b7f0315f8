import AtomicArbitrage.Bot.Confirmation
import AtomicArbitrage.Bot.Risk

/-!
# Trades in flight

The tracker counts the trades that wait for a confirmation; the channel and the pending
list of the confirmation task hold them.  The main loop and the task take their steps in
any order.
-/

namespace AtomicArbitrage.Bot

open SwapRemove

/-- The tracker, the confirmation channel and the pending list of the task. -/
structure InFlight where
  tracker : RiskTracker
  channel : List PendingConfirmation
  pending : List PendingConfirmation

namespace InFlight

/-- The state before the first trade. -/
def start (today : NaiveDate) : InFlight where
  tracker := .new today
  channel := []
  pending := []

/-- The steps of the main loop and of the task. -/
inductive Step where
  /-- A transaction was accepted: `record_submitted`, then `send`, under one lock. -/
  | submitted (p : PendingConfirmation)
  /-- A submission failed. -/
  | submitFailed
  /-- `try_recv` moves one entry to the pending list. -/
  | receive
  /-- An entry is booked and dropped. -/
  | confirm (place : Nat) (actualPnlSol : ℚ) (succeeded : Bool) (now : Instant)
  /-- The entries that a cycle leaves stand in another order. -/
  | reorder (pending : List PendingConfirmation)
  /-- The older entries of a long pending list are dropped. -/
  | evict
  | checkLimits (opp : OpportunityRisk) (today : NaiveDate) (now : Instant)

/-- The eviction at the end of a cycle. -/
def evicted (pending : List PendingConfirmation) : List PendingConfirmation :=
  if pending.length > 128 then pending.drop (pending.length - 64) else pending

/-- A step.  Receiving from an empty channel and confirming a place out of range do
nothing.

A cycle of the task books all entries that have landed, one after the other under the lock of
the tracker, and then drops them from the last place to the first.  Here one step books an entry
and drops it at once: the list belongs to the task alone, and no booking reads the entry of
another.  Only the order of what is left can differ, and a further step of the cycle sets that
(`Books.exists_run_of_cycle`). -/
def step (risk : RiskConfig) (s : InFlight) : Step → InFlight
  | .submitted p =>
      { s with tracker := s.tracker.recordSubmitted, channel := s.channel ++ [p] }
  | .submitFailed =>
      { s with tracker :=
        { s.tracker with tradesAttempted := s.tracker.tradesAttempted + 1 } }
  | .receive =>
      match s.channel with
      | [] => s
      | p :: channel => { s with channel, pending := s.pending ++ [p] }
  | .confirm place pnl succeeded now =>
      match swapRemove? s.pending place with
      | none => s
      | some pending =>
          { s with tracker := s.tracker.recordConfirmation pnl succeeded risk now, pending }
  | .reorder pending => if pending.Perm s.pending then { s with pending } else s
  | .evict => { s with pending := evicted s.pending }
  | .checkLimits opp today now =>
      { s with tracker := (s.tracker.checkLimits opp risk today now).1 }

/-- The trades in flight. -/
def count (s : InFlight) : Nat := s.channel.length + s.pending.length

/-- Every trade in flight is counted as pending, and every outcome and every pending trade
as an attempt. -/
structure Conserved (s : InFlight) : Prop where
  counted : s.tracker.tradesPending = s.count
  attempted : s.tracker.tradesSucceeded + s.tracker.tradesFailedOnchain +
    s.tracker.tradesPending ≤ s.tracker.tradesAttempted

/-- Nothing in flight is forgotten: no eviction of a long list, and no new day while the
breaker lets the date through and a trade is in flight. -/
def Clean (s : InFlight) : Step → Prop
  | .evict => s.pending.length ≤ 128
  | .checkLimits _ today now =>
      s.tracker.Passes now → today ≠ s.tracker.currentDate → s.count = 0
  | _ => True

end InFlight

/-! ## Counters -/

namespace RiskTracker

/-- The four counters of trades. -/
def counters (t : RiskTracker) : ℕ × ℕ × ℕ × ℕ :=
  (t.tradesAttempted, t.tradesPending, t.tradesSucceeded, t.tradesFailedOnchain)

theorem rollOver_counters (t : RiskTracker) (today : NaiveDate) :
    (t.rollOver today).counters = if today ≠ t.currentDate then (0, 0, 0, 0) else t.counters := by
  rw [rollOver]
  split <;> rfl

theorem testLimits_counters (t : RiskTracker) (opp : OpportunityRisk) (risk : RiskConfig)
    (now : Instant) : (t.testLimits opp risk now).1.counters = t.counters := by
  rcases t.testLimits_cases opp risk now with same | set
  · rw [same]
  · rw [set]
    rfl

/-- A check forgets the counters exactly when it gets to a new day. -/
theorem checkLimits_counters (t : RiskTracker) (opp : OpportunityRisk) (risk : RiskConfig)
    (today : NaiveDate) (now : Instant) :
    (¬(t.Passes now ∧ today ≠ t.currentDate) ∧
        (t.checkLimits opp risk today now).1.counters = t.counters) ∨
      ((t.Passes now ∧ today ≠ t.currentDate) ∧
        (t.checkLimits opp risk today now).1.counters = (0, 0, 0, 0)) := by
  have passed (cooled : RiskTracker) (passes : t.Passes now)
      (result : t.coolDown now = some cooled) (same : cooled.counters = t.counters)
      (dated : cooled.currentDate = t.currentDate) :
      (¬(t.Passes now ∧ today ≠ t.currentDate) ∧
          (t.checkLimits opp risk today now).1.counters = t.counters) ∨
        ((t.Passes now ∧ today ≠ t.currentDate) ∧
          (t.checkLimits opp risk today now).1.counters = (0, 0, 0, 0)) := by
    rw [checkLimits, result]
    simp only [testLimits_counters, rollOver_counters, dated, same]
    by_cases changed : today ≠ t.currentDate
    · exact .inr ⟨⟨passes, changed⟩, if_pos changed⟩
    · exact .inl ⟨fun both => changed both.2, if_neg changed⟩
  rcases t.coolDown_cases now with ⟨stays, result⟩ | ⟨passes, _, result⟩ | ⟨passes, _, result⟩
  · left
    refine ⟨fun both => stays both.1, ?_⟩
    rw [checkLimits, result]
  · exact passed _ passes result rfl rfl
  · exact passed _ passes result rfl rfl

/-- A confirmation moves one trade from pending to its outcome. -/
theorem recordConfirmation_counters (t : RiskTracker) (pnl : ℚ) (succeeded : Bool)
    (risk : RiskConfig) (now : Instant) :
    (t.recordConfirmation pnl succeeded risk now).counters =
      (t.tradesAttempted, t.tradesPending - 1, t.tradesSucceeded + succeeded.toNat,
        t.tradesFailedOnchain + (!succeeded).toNat) := by
  have checked (u : RiskTracker) : (u.checkCircuitBreaker risk now).counters = u.counters := by
    rw [checkCircuitBreaker]
    split <;> rfl
  rw [recordConfirmation, checked]
  cases succeeded with
  | false => rfl
  | true => rfl

end RiskTracker

/-! ## Conservation -/

namespace InFlight

variable {risk : RiskConfig} {s : InFlight}

theorem conserved_start (today : NaiveDate) : Conserved (start today) where
  counted := rfl
  attempted := Nat.le_refl 0

/-- Conservation, by the counters. -/
theorem conserved_iff :
    Conserved s ↔ s.tracker.counters.2.1 = s.count ∧
      s.tracker.counters.2.2.1 + s.tracker.counters.2.2.2 + s.tracker.counters.2.1 ≤
        s.tracker.counters.1 :=
  ⟨fun conserved => ⟨conserved.counted, conserved.attempted⟩,
    fun both => ⟨both.1, both.2⟩⟩

theorem conserved_confirm (conserved : Conserved s) (place : Nat) (pnl : ℚ)
    (succeeded : Bool) (now : Instant) :
    Conserved (step risk s (.confirm place pnl succeeded now)) := by
  cases dropped : swapRemove? s.pending place with
  | none =>
      simp only [step, dropped]
      exact conserved
  | some left =>
      simp only [step, dropped]
      have width := length_swapRemove? dropped
      have counted := conserved.counted
      have attempted := conserved.attempted
      rw [count] at counted
      apply conserved_iff.mpr
      simp only [RiskTracker.recordConfirmation_counters, count]
      cases succeeded with
      | false =>
          simp only [Bool.toNat_false, Bool.not_false, Bool.toNat_true]
          constructor <;> omega
      | true =>
          simp only [Bool.toNat_false, Bool.not_true, Bool.toNat_true]
          constructor <;> omega

theorem conserved_evict_iff (conserved : Conserved s) :
    Conserved (step risk s .evict) ↔ s.pending.length ≤ 128 := by
  constructor
  · intro after
    by_contra long
    have lost : (evicted s.pending).length = 64 := by
      rw [evicted, if_pos (by omega), List.length_drop]
      omega
    have before := conserved.counted
    have counted := after.counted
    simp only [step, count] at before counted
    omega
  · intro short
    have kept : evicted s.pending = s.pending := if_neg (Nat.not_lt.mpr short)
    rw [step]
    simp only [kept]
    exact conserved

theorem conserved_checkLimits_iff (conserved : Conserved s) (opp : OpportunityRisk)
    (today : NaiveDate) (now : Instant) :
    Conserved (step risk s (.checkLimits opp today now)) ↔
      (s.tracker.Passes now → today ≠ s.tracker.currentDate → s.count = 0) := by
  have counters := s.tracker.checkLimits_counters opp risk today now
  have inFlight : (step risk s (.checkLimits opp today now)).count = s.count := rfl
  rw [conserved_iff, inFlight]
  rw [step]
  rcases counters with ⟨stays, same⟩ | ⟨rolls, zero⟩
  · rw [same]
    apply iff_of_true (conserved_iff.mp conserved)
    intro passes changed
    exact absurd ⟨passes, changed⟩ stays
  · rw [zero]
    constructor
    · intro after _ _
      exact after.1.symm
    · intro idle
      exact ⟨(idle rolls.1 rolls.2).symm, Nat.le_refl 0⟩

/-- A step conserves the trades in flight exactly when it is clean. -/
theorem conserved_step_iff (conserved : Conserved s) (action : Step) :
    Conserved (step risk s action) ↔ Clean s action := by
  have counted := conserved.counted
  have attempted := conserved.attempted
  cases action with
  | submitted p =>
      apply iff_of_true _ trivial
      constructor
      · simp only [step, RiskTracker.recordSubmitted, count, List.length_append,
          List.length_singleton] at counted ⊢
        omega
      · simp only [step, RiskTracker.recordSubmitted]
        omega
  | submitFailed =>
      exact iff_of_true ⟨counted, Nat.le_succ_of_le attempted⟩ trivial
  | receive =>
      apply iff_of_true _ trivial
      cases waiting : s.channel with
      | nil =>
          simp only [step, waiting]
          exact conserved
      | cons p channel =>
          simp only [step, waiting]
          refine ⟨?_, attempted⟩
          simp only [count, waiting, List.length_append, List.length_cons,
            List.length_nil] at counted ⊢
          omega
  | confirm place pnl succeeded now =>
      exact iff_of_true (conserved_confirm conserved place pnl succeeded now) trivial
  | reorder pending =>
      apply iff_of_true _ trivial
      rw [step]
      split
      · next permuted =>
          refine ⟨?_, attempted⟩
          simp only [count, permuted.length_eq] at counted ⊢
          exact counted
      · exact conserved
  | evict => exact conserved_evict_iff conserved
  | checkLimits opp today now => exact conserved_checkLimits_iff conserved opp today now

/-- Along a run the trades in flight are conserved exactly when every step is clean. -/
theorem conserved_iff_clean (risk : RiskConfig) (today : NaiveDate) (run : List Step) :
    Runs.Always (step risk) Conserved (start today) run ↔
      Runs.Throughout (step risk) Clean (start today) run :=
  Runs.always_iff_throughout run (conserved_start today)
    fun _ action conserved => conserved_step_iff conserved action

/-- A trade is submitted, a check follows after midnight, and then the trade is confirmed:
the check forgets the trade, and the confirmation counts an outcome without an attempt. -/
theorem not_conserved_midnight :
    ¬Runs.Always (step ⟨1 / 1000, 50, 10⟩) Conserved (start 20000)
      [.submitted sampleTrade, .checkLimits ⟨1, 1⟩ 20001 5, .receive,
        .confirm 0 (1 / 100) true 6] := by
  intro always
  have conserved := always.2.2.1
  have clean := (conserved_checkLimits_iff always.2.1 ⟨1, 1⟩ 20001 5).mp conserved
    (fun set => absurd set Bool.false_ne_true) (by decide)
  exact absurd clean (by decide)

end InFlight

end AtomicArbitrage.Bot
