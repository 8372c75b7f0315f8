import AtomicArbitrage.Bot.CacheEntry
import AtomicArbitrage.Library.Runs
import Mathlib.Algebra.BigOperators.Group.List.Basic
import Mathlib.Algebra.Order.Field.Rat
import Mathlib.Tactic.Linarith

/-!
# Runtime risk control

The tracker of daily profit and loss, with its circuit breaker.  Amounts of SOL are read
as exact rationals, days as day numbers and instants as nanoseconds on the monotonic
clock.
-/

namespace AtomicArbitrage.Bot

/-! ## Tracker -/

/-- `NaiveDate`, as a day number. -/
abbrev NaiveDate := ℤ

def breakerCooldownSecs : ℕ := 1800

/-- What is read of a `RiskConfig`. -/
structure RiskConfig where
  minProfitThresholdSol : ℚ
  maxSingleInvestmentSol : ℚ
  maxDailyLossSol : ℚ

/-- What the tracker reads of an `ArbitrageOpportunity`. -/
structure OpportunityRisk where
  investmentSol : ℚ
  netProfitSol : ℚ

/-- The two texts of `breaker_reason`, by the amounts they print. -/
inductive BreakerReason where
  /-- "daily loss limit exceeded: {max_daily_loss_sol:.3} SOL" -/
  | projected (maxDailyLossSol : ℚ)
  /-- "daily loss limit exceeded after trade: daily_pnl={:.3} < -{:.3}" -/
  | afterTrade (dailyPnlSol maxDailyLossSol : ℚ)
deriving DecidableEq

structure RiskTracker where
  currentDate : NaiveDate
  dailyPnlSol : ℚ
  tradesAttempted : ℕ
  tradesPending : ℕ
  tradesSucceeded : ℕ
  tradesFailedOnchain : ℕ
  totalNetProfitSol : ℚ
  cumulativeFailedFeeSol : ℚ
  circuitBreaker : Bool
  breakerReason : Option BreakerReason
  breakerTriggeredAt : Option Instant
deriving DecidableEq

namespace RiskTracker

/-- `RiskTracker::new`, on a given day. -/
def new (today : NaiveDate) : RiskTracker where
  currentDate := today
  dailyPnlSol := 0
  tradesAttempted := 0
  tradesPending := 0
  tradesSucceeded := 0
  tradesFailedOnchain := 0
  totalNetProfitSol := 0
  cumulativeFailedFeeSol := 0
  circuitBreaker := false
  breakerReason := none
  breakerTriggeredAt := none

/-- The first block of `check_limits`: `none` where it returns at once. -/
def coolDown (t : RiskTracker) (now : Instant) : Option RiskTracker :=
  if t.circuitBreaker then
    match t.breakerTriggeredAt with
    | some triggered =>
        if elapsedSecs triggered now ≥ breakerCooldownSecs then
          some { t with
            circuitBreaker := false
            breakerReason := none
            breakerTriggeredAt := none
            dailyPnlSol := 0 }
        else none
    | none => none
  else some t

/-- The second block of `check_limits`: a new day starts over. -/
def rollOver (t : RiskTracker) (today : NaiveDate) : RiskTracker :=
  if today ≠ t.currentDate then
    { t with
      currentDate := today
      dailyPnlSol := 0
      tradesAttempted := 0
      tradesPending := 0
      tradesSucceeded := 0
      tradesFailedOnchain := 0
      cumulativeFailedFeeSol := 0 }
  else t

/-- The breaker is set, now and for a reason. -/
def trigger (t : RiskTracker) (reason : BreakerReason) (now : Instant) : RiskTracker :=
  { t with
    circuitBreaker := true
    breakerTriggeredAt := some now
    breakerReason := some reason }

/-- The limits that `check_limits` tests once breaker and date are settled. -/
def testLimits (t : RiskTracker) (opp : OpportunityRisk) (risk : RiskConfig) (now : Instant) :
    RiskTracker × Bool :=
  if opp.netProfitSol < risk.minProfitThresholdSol then (t, false)
  else if opp.investmentSol > risk.maxSingleInvestmentSol then (t, false)
  else if t.dailyPnlSol + opp.netProfitSol < -risk.maxDailyLossSol then
    (t.trigger (.projected risk.maxDailyLossSol) now, false)
  else (t, true)

/-- `check_limits`. -/
def checkLimits (t : RiskTracker) (opp : OpportunityRisk) (risk : RiskConfig)
    (today : NaiveDate) (now : Instant) : RiskTracker × Bool :=
  match t.coolDown now with
  | none => (t, false)
  | some cooled => (cooled.rollOver today).testLimits opp risk now

/-- `record_submitted`. -/
def recordSubmitted (t : RiskTracker) : RiskTracker :=
  { t with
    tradesAttempted := t.tradesAttempted + 1
    tradesPending := t.tradesPending + 1 }

/-- `check_circuit_breaker`. -/
def checkCircuitBreaker (t : RiskTracker) (risk : RiskConfig) (now : Instant) : RiskTracker :=
  if t.dailyPnlSol < -risk.maxDailyLossSol then
    t.trigger (.afterTrade t.dailyPnlSol risk.maxDailyLossSol) now
  else t

/-- The counters of `record_confirmation`; the subtraction saturates at zero. -/
def countConfirmation (t : RiskTracker) (actualPnlSol : ℚ) (succeeded : Bool) : RiskTracker :=
  if succeeded then
    { t with
      tradesPending := t.tradesPending - 1
      tradesSucceeded := t.tradesSucceeded + 1
      dailyPnlSol := t.dailyPnlSol + actualPnlSol
      totalNetProfitSol := t.totalNetProfitSol + actualPnlSol }
  else
    { t with
      tradesPending := t.tradesPending - 1
      tradesFailedOnchain := t.tradesFailedOnchain + 1
      cumulativeFailedFeeSol := t.cumulativeFailedFeeSol + max (-actualPnlSol) 0
      dailyPnlSol := t.dailyPnlSol + actualPnlSol
      totalNetProfitSol := t.totalNetProfitSol + actualPnlSol }

/-- `record_confirmation`. -/
def recordConfirmation (t : RiskTracker) (actualPnlSol : ℚ) (succeeded : Bool)
    (risk : RiskConfig) (now : Instant) : RiskTracker :=
  (t.countConfirmation actualPnlSol succeeded).checkCircuitBreaker risk now

/-! ## What `check_limits` can do -/

/-- The breaker lets `check_limits` pass its first block. -/
def Passes (t : RiskTracker) (now : Instant) : Prop :=
  t.circuitBreaker = true →
    ∃ triggered, t.breakerTriggeredAt = some triggered ∧
      breakerCooldownSecs ≤ elapsedSecs triggered now

/-- The first block either returns, or leaves a tracker without a breaker whose daily
loss is kept or forgotten with it. -/
theorem coolDown_cases (t : RiskTracker) (now : Instant) :
    (¬t.Passes now ∧ t.coolDown now = none) ∨
      (t.Passes now ∧ t.circuitBreaker = false ∧ t.coolDown now = some t) ∨
      (t.Passes now ∧ t.circuitBreaker = true ∧ t.coolDown now = some
        { t with
          circuitBreaker := false
          breakerReason := none
          breakerTriggeredAt := none
          dailyPnlSol := 0 }) := by
  rw [coolDown, Passes]
  cases breaker : t.circuitBreaker with
  | false => simp
  | true =>
      cases since : t.breakerTriggeredAt with
      | none => simp
      | some triggered =>
          by_cases cooled : elapsedSecs triggered now ≥ breakerCooldownSecs
          · simp [cooled]
          · simp [cooled]

/-- Testing the limits changes nothing, or sets the breaker. -/
theorem testLimits_cases (t : RiskTracker) (opp : OpportunityRisk) (risk : RiskConfig)
    (now : Instant) :
    (t.testLimits opp risk now).1 = t ∨
      (t.testLimits opp risk now).1 = t.trigger (.projected risk.maxDailyLossSol) now := by
  rw [testLimits]
  split
  · exact .inl rfl
  · split
    · exact .inl rfl
    · split
      · exact .inr rfl
      · exact .inl rfl

/-- An opportunity that a check lets through is within every limit, and the check leaves the
breaker unset. -/
theorem checkLimits_allowed (t : RiskTracker) (opp : OpportunityRisk) (risk : RiskConfig)
    (today : NaiveDate) (now : Instant) (allowed : (t.checkLimits opp risk today now).2 = true) :
    risk.minProfitThresholdSol ≤ opp.netProfitSol ∧
      opp.investmentSol ≤ risk.maxSingleInvestmentSol ∧
      (t.checkLimits opp risk today now).1.circuitBreaker = false ∧
      -risk.maxDailyLossSol ≤ (t.checkLimits opp risk today now).1.dailyPnlSol +
        opp.netProfitSol := by
  have within {u : RiskTracker} (clear : u.circuitBreaker = false)
      (allowed : (u.testLimits opp risk now).2 = true) :
      risk.minProfitThresholdSol ≤ opp.netProfitSol ∧
        opp.investmentSol ≤ risk.maxSingleInvestmentSol ∧
        (u.testLimits opp risk now).1.circuitBreaker = false ∧
        -risk.maxDailyLossSol ≤ (u.testLimits opp risk now).1.dailyPnlSol +
          opp.netProfitSol := by
    rw [testLimits] at allowed ⊢
    split_ifs at allowed ⊢ with small large loss
    exact ⟨not_lt.mp small, not_lt.mp large, clear, not_lt.mp loss⟩
  have rolled (u : RiskTracker) (clear : u.circuitBreaker = false) :
      (u.rollOver today).circuitBreaker = false := by
    rw [rollOver]
    split
    · exact clear
    · exact clear
  rcases t.coolDown_cases now with ⟨_, result⟩ | ⟨_, clear, result⟩ | ⟨_, _, result⟩
  · simp only [checkLimits, result] at allowed
    exact absurd allowed Bool.false_ne_true
  · simp only [checkLimits, result] at allowed ⊢
    exact within (rolled _ clear) allowed
  · simp only [checkLimits, result] at allowed ⊢
    exact within (rolled _ rfl) allowed

end RiskTracker

/-! ## The breaker -/

/-- The calls on a tracker. -/
inductive RiskCall where
  | checkLimits (opp : OpportunityRisk) (today : NaiveDate) (now : Instant)
  | recordSubmitted
  | recordConfirmation (actualPnlSol : ℚ) (succeeded : Bool) (now : Instant)

namespace RiskCall

/-- A call, under a fixed configuration. -/
def apply (risk : RiskConfig) (t : RiskTracker) : RiskCall → RiskTracker
  | .checkLimits opp today now => (t.checkLimits opp risk today now).1
  | .recordSubmitted => t.recordSubmitted
  | .recordConfirmation pnl succeeded now => t.recordConfirmation pnl succeeded risk now

end RiskCall

/-- A loss beyond the limit has set the breaker, and a breaker that is set says when and
why. -/
structure BreakerSound (risk : RiskConfig) (t : RiskTracker) : Prop where
  lossSets : t.dailyPnlSol < -risk.maxDailyLossSol → t.circuitBreaker = true
  timed : t.circuitBreaker = true → t.breakerTriggeredAt.isSome
  explained : t.circuitBreaker = true → t.breakerReason.isSome

namespace BreakerSound

variable {risk : RiskConfig} {t : RiskTracker}

theorem new (positive : 0 < risk.maxDailyLossSol) (today : NaiveDate) :
    BreakerSound risk (.new today) where
  lossSets := by
    intro loss
    simp only [RiskTracker.new] at loss
    linarith
  timed := nofun
  explained := nofun

/-- Setting the breaker is sound whatever the tracker held. -/
theorem trigger (reason : BreakerReason) (now : Instant) :
    BreakerSound risk (t.trigger reason now) where
  lossSets _ := rfl
  timed _ := rfl
  explained _ := rfl

/-- A day without loss needs no breaker. -/
theorem of_zero (positive : 0 < risk.maxDailyLossSol) (clear : t.circuitBreaker = false)
    (zero : t.dailyPnlSol = 0) : BreakerSound risk t where
  lossSets := by
    intro loss
    rw [zero] at loss
    linarith
  timed set := absurd (clear.symm.trans set) Bool.false_ne_true
  explained set := absurd (clear.symm.trans set) Bool.false_ne_true

theorem rollOver (positive : 0 < risk.maxDailyLossSol) (sound : BreakerSound risk t)
    (clear : t.circuitBreaker = false) (today : NaiveDate) :
    BreakerSound risk (t.rollOver today) := by
  rw [RiskTracker.rollOver]
  split
  · exact of_zero positive clear rfl
  · exact sound

theorem testLimits (sound : BreakerSound risk t) (opp : OpportunityRisk) (now : Instant) :
    BreakerSound risk (t.testLimits opp risk now).1 := by
  rcases t.testLimits_cases opp risk now with same | set
  · rw [same]
    exact sound
  · rw [set]
    exact trigger _ _

theorem checkLimits (positive : 0 < risk.maxDailyLossSol) (sound : BreakerSound risk t)
    (opp : OpportunityRisk) (today : NaiveDate) (now : Instant) :
    BreakerSound risk (t.checkLimits opp risk today now).1 := by
  rw [RiskTracker.checkLimits]
  rcases t.coolDown_cases now with ⟨_, cooled⟩ | ⟨_, clear, cooled⟩ | ⟨_, _, cooled⟩
  · rw [cooled]
    exact sound
  · rw [cooled]
    exact (sound.rollOver positive clear today).testLimits opp now
  · rw [cooled]
    exact ((of_zero positive rfl rfl).rollOver positive rfl today).testLimits opp now

/-- After a trade the breaker is tested again, so its state before does not matter as
long as it says when and why it was set. -/
theorem checkCircuitBreaker (timed : t.circuitBreaker = true → t.breakerTriggeredAt.isSome)
    (explained : t.circuitBreaker = true → t.breakerReason.isSome) (now : Instant) :
    BreakerSound risk (t.checkCircuitBreaker risk now) := by
  rw [RiskTracker.checkCircuitBreaker]
  split
  · exact trigger _ _
  · next within => exact ⟨fun loss => absurd loss within, timed, explained⟩

theorem recordConfirmation (sound : BreakerSound risk t) (pnl : ℚ) (succeeded : Bool)
    (now : Instant) : BreakerSound risk (t.recordConfirmation pnl succeeded risk now) := by
  apply checkCircuitBreaker
  · cases succeeded with
    | false => exact sound.timed
    | true => exact sound.timed
  · cases succeeded with
    | false => exact sound.explained
    | true => exact sound.explained

/-- Every call keeps the breaker sound. -/
theorem apply (positive : 0 < risk.maxDailyLossSol) (sound : BreakerSound risk t)
    (call : RiskCall) : BreakerSound risk (call.apply risk t) := by
  cases call with
  | checkLimits opp today now => exact sound.checkLimits positive opp today now
  | recordSubmitted => exact ⟨sound.lossSets, sound.timed, sound.explained⟩
  | recordConfirmation pnl succeeded now => exact sound.recordConfirmation pnl succeeded now

end BreakerSound

/-! ## The total -/

namespace RiskTracker

variable {risk : RiskConfig}

/-- A check never touches the total. -/
theorem checkLimits_total (t : RiskTracker) (opp : OpportunityRisk) (today : NaiveDate)
    (now : Instant) :
    (t.checkLimits opp risk today now).1.totalNetProfitSol = t.totalNetProfitSol := by
  have rolled (u : RiskTracker) :
      (u.rollOver today).totalNetProfitSol = u.totalNetProfitSol := by
    rw [rollOver]
    split <;> rfl
  have tested (u : RiskTracker) :
      (u.testLimits opp risk now).1.totalNetProfitSol = u.totalNetProfitSol := by
    rcases u.testLimits_cases opp risk now with same | set
    · rw [same]
    · rw [set]
      rfl
  rw [checkLimits]
  rcases t.coolDown_cases now with ⟨_, cooled⟩ | ⟨_, _, cooled⟩ | ⟨_, _, cooled⟩
  · rw [cooled]
  · rw [cooled, tested, rolled]
  · rw [cooled, tested, rolled]

theorem recordConfirmation_total (t : RiskTracker) (pnl : ℚ) (succeeded : Bool)
    (now : Instant) :
    (t.recordConfirmation pnl succeeded risk now).totalNetProfitSol =
      t.totalNetProfitSol + pnl := by
  have checked (u : RiskTracker) :
      (u.checkCircuitBreaker risk now).totalNetProfitSol = u.totalNetProfitSol := by
    rw [checkCircuitBreaker]
    split <;> rfl
  rw [recordConfirmation, checked]
  cases succeeded with
  | false => rfl
  | true => rfl

end RiskTracker

end AtomicArbitrage.Bot
