import AtomicArbitrage.Bot.Failover
import AtomicArbitrage.Bot.Freshness
import AtomicArbitrage.Bot.JitoLimiter
import AtomicArbitrage.Bot.Listener
import AtomicArbitrage.Bot.Scan
import AtomicArbitrage.Bot.Trades
import AtomicArbitrage.Bot.WrapGuard

/-!
# The main loop

The main loop takes an event, scans for opportunities and tries each of them: it checks the
limits, the age of the prices, the balances and the simulation, submits, and books the trade.
Whenever it waits for an answer, the listener, the discovery task, the stream and the
confirmation task can take their steps, and time passes.
-/

namespace AtomicArbitrage.Bot

/-! ## Context -/

/-- What the main loop reads of its context. -/
structure EventLoopContext where
  risk : RiskConfig
  dryRun : Bool
  wallet : Bool
  cuFeeBufferPct : UInt32
  ataRentReserveSol : ℚ
  simulatorEnabled : Bool
  senderEnabled : Bool
  cuCostSol : ℚ
  priorityFeeSol : ℚ

/-- The native SOL that a trade requires. -/
def EventLoopContext.requiredSol (ctx : EventLoopContext) : ℚ :=
  let bufferPct : ℚ := ctx.cuFeeBufferPct.toNat / 100
  ctx.cuCostSol * (1 + bufferPct) + ctx.ataRentReserveSol

/-- `Venue::name`. -/
def Venue.name : Venue → String
  | .pumpSwapAmm => "PumpSwap AMM"
  | .meteoraDlmm => "Meteora DLMM"
  | .raydiumAmmv4 => "Raydium AMMv4"
  | .raydiumCpmm => "Raydium CPMM"
  | .orcaWhirlpool => "Orca Whirlpool"

/-- What the tracker reads of an opportunity. -/
def ArbitrageOpportunity.forRisk (opp : ArbitrageOpportunity) : OpportunityRisk where
  investmentSol := opp.investmentSol
  netProfitSol := opp.netProfitSol

def maxSlotAge : ℕ := 20

/-- `submit_atomic_tx`, with the answer of the node. -/
def submitAtomicTx (minSlot : ℕ) (answer : Except String String) : Except String String :=
  if minSlot > 0 then answer else .error "min_slot must be > 0; got 0 (unset snapshot slot)"

/-! ## State -/

/-- A slot that the age of an opportunity is tested at: the latest of the stream when it was
asked for, what was taken for the slot, and the latest of the stream at the test. -/
structure SlotCheck where
  grpcSlot : ℕ
  slot : ℕ
  latestSlot : ℕ

/-- An opportunity that is tried: the event it is for, and the opportunities behind it.  Nothing
reads the other fields, which record what its checks have found: the tracker behind the check of
the limits, the first slot, the balance of the wallet, and the transaction whose simulation has
succeeded. -/
structure Attempt where
  mint : String
  opp : ArbitrageOpportunity
  rest : List ArbitrageOpportunity
  checked : RiskTracker
  slotCheck : SlotCheck := ⟨0, 0, 0⟩
  lamports : ℕ := 0
  simulated : Option (List UInt8) := none

/-- An accepted transaction; the slot before the submission is `pre_submit_slot`. -/
structure Submission where
  attempt : Attempt
  txBytes : List UInt8
  preSubmit : SlotCheck
  signature : String

/-- What an attempt waits for. -/
inductive Stage where
  /-- The slot and the balance; the stream has delivered a slot, or zero. -/
  | funding (grpcSlot : ℕ)
  /-- `ensure_wsol_balance`. -/
  | wrapping
  | building
  | simulating (txBytes : List UInt8)
  /-- The slot before the submission; the stream has delivered a slot, or zero. -/
  | rechecking (txBytes : List UInt8) (grpcSlot : ℕ)
  /-- The answer of the block engine. -/
  | bundling (txBytes : List UInt8) (preSubmit : SlotCheck)
  /-- `submit_atomic_tx`. -/
  | sending (txBytes : List UInt8) (preSubmit : SlotCheck)
  /-- The lock of the whitelist, behind a submission. -/
  | accepted (submission : Submission)
  /-- The lock of the tracker. -/
  | booking (submission : Submission)
  /-- The lock of the tracker, behind a failure. -/
  | failed

/-- Where the main loop waits. -/
inductive LoopPoint where
  | idle
  | scanning (mint : String)
  /-- At the top of the loop over the opportunities. -/
  | weighing (mint : String) (opps : List ArbitrageOpportunity)
  | trying (attempt : Attempt) (stage : Stage)

/-- The accepted transaction that the main loop is about to book. -/
def LoopPoint.unbooked : LoopPoint → List Submission
  | .trying _ (.accepted submission) => [submission]
  | .trying _ (.booking submission) => [submission]
  | _ => []

/-- The state of the bot.  Nothing reads the last field: it records the accepted
transactions. -/
structure EventLoop where
  intake : Intake
  books : Books
  wrap : WrapGuard
  rpcPool : RpcPool
  latestSlot : ℕ
  jito : JitoLimiter
  point : LoopPoint
  log : List Submission

/-- The steps of the confirmation task. -/
inductive ConfirmationStep where
  | receive
  | confirm (place : Nat) (actualPnlSol : ℚ) (succeeded : Bool) (now : Instant)
  | reorder (pending : List PendingConfirmation)
  | evict

def ConfirmationStep.book : ConfirmationStep → Books.Step
  | .receive => .receive
  | .confirm place pnl succeeded now => .confirm place pnl succeeded now
  | .reorder pending => .reorder pending
  | .evict => .evict

namespace EventLoop

/-- The state when the main loop starts, with what the clock of the machine shows. -/
def start (pool : RpcPool) (table : WhitelistTable) (today : NaiveDate) (trades : TradesTable)
    (clock : ℤ) : EventLoop where
  intake := .start table
  books := .start today trades
  wrap := .start
  rpcPool := pool
  latestSlot := 0
  jito := .start clock
  point := .idle
  log := []

/-- The answers that an attempt can wait for. -/
inductive Answer where
  | funds (rpcSlot balance : Option ℕ)
  /-- An answer to `ensure_wsol_balance`. -/
  | wrapped (event : WrapGuard.Event)
  | built (result : Except String (List UInt8))
  | simulated (succeeded : Bool)
  | slot (rpcSlot : Option ℕ)
  | bundled (result : Option String)
  | sent (result : Except String String)

inductive Step (letters : Alphanumeric) where
  /-- A step of the listener, of a background task or of the discovery task. -/
  | background (action : Intake.Step letters)
  | confirmation (action : ConfirmationStep)
  /-- The stream delivers a slot. -/
  | streamed (slot : ℕ)
  /-- Another task calls `RpcPool::current`. -/
  | pooled
  /-- The task wakes that resets the flag of the wrap guard. -/
  | wake
  /-- An event is received. -/
  | take
  | scanned (opps : List ArbitrageOpportunity)
  /-- The next opportunity is weighed. -/
  | weigh (today : NaiveDate) (now : Instant)
  | answered (answer : Answer)
  /-- The lock has been acquired that the main loop waits for. -/
  | locked
  /-- Time passes, in nanoseconds. -/
  | elapsed (nanos : ℕ)
  /-- The clock of the machine is set. -/
  | clockSet (reading : ℤ)

/-! ## Steps -/

/-- The steps of the intake that are the main loop's own. -/
def ofLoop {letters : Alphanumeric} : Intake.Step letters → Bool
  | .taken => true
  | .submitted _ => true
  | _ => false

/-- `continue` in the loop over the opportunities. -/
def skip (s : EventLoop) (attempt : Attempt) : EventLoop :=
  { s with point := .weighing attempt.mint attempt.rest }

/-- From the event to the scan. -/
def onTake (letters : Alphanumeric) (s : EventLoop) : EventLoop :=
  match s.intake.events with
  | [] => s
  | event :: _ =>
      let s := { s with intake := s.intake.step (.taken : Intake.Step letters) }
      match event.mint with
      | none => s
      | some mint =>
          if mint ∈ s.intake.store.memory.blacklisted then s
          else { s with rpcPool := s.rpcPool.current.2, point := .scanning mint }

variable (ctx : EventLoopContext)

/-- From the top of the loop to the questions for the slot and the balance. -/
def onWeigh (s : EventLoop) (mint : String) (opps : List ArbitrageOpportunity)
    (today : NaiveDate) (now : Instant) : EventLoop :=
  match opps with
  | [] => { s with point := .idle }
  | opp :: opps =>
      let s := { s with point := .weighing mint opps }
      if opp.netProfitSol < ctx.risk.minProfitThresholdSol then s
      else
        let (checked, allowed) :=
          s.books.inFlight.tracker.checkLimits opp.forRisk ctx.risk today now
        let s := { s with
          books := s.books.step ctx.risk (.checkLimits opp.forRisk today now) }
        if !allowed then s
        else if ctx.dryRun then s
        else if !ctx.wallet then s
        else
          { s with
            point := .trying { mint := mint, opp := opp, rest := opps, checked := checked }
              (.funding s.latestSlot) }

/-- Behind the slot and the balance. -/
def onFunds (s : EventLoop) (attempt : Attempt) (grpcSlot : ℕ) (rpcSlot balance : Option ℕ) :
    EventLoop :=
  match if grpcSlot > 0 then some grpcSlot else rpcSlot with
  | none => s.skip attempt
  | some curSlot =>
      if !isOpportunityFresh s.latestSlot attempt.opp.slot curSlot maxSlotAge then s.skip attempt
      else
        match balance with
        | none => s.skip attempt
        | some lamports =>
            let balanceSol : ℚ := lamports / 1000000000
            if balanceSol < ctx.requiredSol then s.skip attempt
            else
              { s with
                wrap := s.wrap.step ctx.risk.maxSingleInvestmentSol
                  (.enter (solToLamports attempt.opp.investmentSol))
                point := .trying
                  { attempt with
                    slotCheck := ⟨grpcSlot, curSlot, s.latestSlot⟩
                    lamports := lamports } .wrapping }

/-- Behind an answer to `ensure_wsol_balance`: a wrap that was submitted ends the attempt. -/
def onWrap (s : EventLoop) (attempt : Attempt) (event : WrapGuard.Event) : EventLoop :=
  let s := { s with wrap := s.wrap.step ctx.risk.maxSingleInvestmentSol event }
  if s.wrap.call = .idle then
    if s.wrap.submitted then s.skip attempt else { s with point := .trying attempt .building }
  else s

/-- The question for the slot before the submission. -/
def recheck (s : EventLoop) (attempt : Attempt) (txBytes : List UInt8) : EventLoop :=
  { s with point := .trying attempt (.rechecking txBytes s.latestSlot) }

/-- Behind `build_atomic_arbitrage_tx`. -/
def onBuilt (s : EventLoop) (attempt : Attempt) : Except String (List UInt8) → EventLoop
  | .ok txBytes =>
      if ctx.simulatorEnabled then { s with point := .trying attempt (.simulating txBytes) }
      else s.recheck attempt txBytes
  | .error message => { s with rpcPool := s.rpcPool.maybeFailover message }.skip attempt

/-- Behind the simulation. -/
def onSimulated (s : EventLoop) (attempt : Attempt) (txBytes : List UInt8) (succeeded : Bool) :
    EventLoop :=
  if succeeded then s.recheck { attempt with simulated := some txBytes } txBytes
  else s.skip attempt

/-- `submit_via_jito` up to its request.  A call that the limit refuses fails, and the
transaction goes to the node. -/
def submitViaJito (s : EventLoop) (attempt : Attempt) (txBytes : List UInt8)
    (preSubmit : SlotCheck) : EventLoop :=
  match s.jito.request with
  | none => { s with point := .trying attempt (.sending txBytes preSubmit) }
  | some jito => { s with jito, point := .trying attempt (.bundling txBytes preSubmit) }

/-- Behind the slot before the submission. -/
def onRechecked (s : EventLoop) (attempt : Attempt) (txBytes : List UInt8) (grpcSlot : ℕ)
    (rpcSlot : Option ℕ) : EventLoop :=
  let preSubmitSlot := if grpcSlot > 0 then grpcSlot else rpcSlot.getD 0
  if preSubmitSlot = 0 then s.skip attempt
  else if !isOpportunityFresh s.latestSlot attempt.opp.slot preSubmitSlot maxSlotAge then
    s.skip attempt
  else
    let preSubmit : SlotCheck := ⟨grpcSlot, preSubmitSlot, s.latestSlot⟩
    if ctx.senderEnabled then s.submitViaJito attempt txBytes preSubmit
    else { s with point := .trying attempt (.sending txBytes preSubmit) }

/-- A transaction has been accepted. -/
def accept (s : EventLoop) (attempt : Attempt) (txBytes : List UInt8) (preSubmit : SlotCheck)
    (signature : String) : EventLoop :=
  let submission : Submission := { attempt, txBytes, preSubmit, signature }
  { s with point := .trying attempt (.accepted submission), log := s.log ++ [submission] }

/-- Behind the answer of the block engine; whatever `submit_via_jito` fails with, the transaction
goes to the node next. -/
def onBundled (s : EventLoop) (attempt : Attempt) (txBytes : List UInt8) (preSubmit : SlotCheck) :
    Option String → EventLoop
  | some bundleId => s.accept attempt txBytes preSubmit bundleId
  | none => { s with point := .trying attempt (.sending txBytes preSubmit) }

/-- Behind `submit_atomic_tx`. -/
def onSent (s : EventLoop) (attempt : Attempt) (txBytes : List UInt8) (preSubmit : SlotCheck)
    (answer : Except String String) : EventLoop :=
  match submitAtomicTx attempt.opp.slot answer with
  | .ok sig => s.accept attempt txBytes preSubmit sig
  | .error message =>
      { s with
        rpcPool := s.rpcPool.maybeFailover message
        point := .trying attempt .failed }

/-- What the books are told of an accepted transaction. -/
def bookingOf (submission : Submission) : Books.Step :=
  .submitted
    { signature := submission.signature
      estimatedNetProfitSol := submission.attempt.opp.netProfitSol
      priorityFeeSol := ctx.priorityFeeSol }
    { tokenMint := submission.attempt.opp.tokenMint
      buyVenue := submission.attempt.opp.buyVenue.name
      sellVenue := submission.attempt.opp.sellVenue.name
      investmentSol := submission.attempt.opp.investmentSol
      estimatedProfitSol := submission.attempt.opp.netProfitSol }

/-- Behind an answer; any other than the one that the attempt waits for does not reach it. -/
def onAnswer (s : EventLoop) (attempt : Attempt) : Stage → Answer → EventLoop
  | .funding grpcSlot, .funds rpcSlot balance => s.onFunds ctx attempt grpcSlot rpcSlot balance
  | .wrapping, .wrapped event => s.onWrap ctx attempt event
  | .building, .built result => s.onBuilt ctx attempt result
  | .simulating txBytes, .simulated succeeded => s.onSimulated attempt txBytes succeeded
  | .rechecking txBytes grpcSlot, .slot rpcSlot =>
      s.onRechecked ctx attempt txBytes grpcSlot rpcSlot
  | .bundling txBytes preSubmit, .bundled result => s.onBundled attempt txBytes preSubmit result
  | .sending txBytes preSubmit, .sent result => s.onSent attempt txBytes preSubmit result
  | _, _ => s

variable {letters : Alphanumeric}

/-- Behind a lock. -/
def onLock (letters : Alphanumeric) (s : EventLoop) (attempt : Attempt) : Stage → EventLoop
  | .accepted submission =>
      { s with
        intake := s.intake.step (.submitted attempt.mint : Intake.Step letters)
        point := .trying attempt (.booking submission) }
  | .booking submission =>
      { s with books := s.books.step ctx.risk (bookingOf ctx submission) }.skip attempt
  | .failed => { s with books := s.books.step ctx.risk .submitFailed }.skip attempt
  | _ => s

/-- A step.  What cannot happen in a state leaves it as it is. -/
def step (s : EventLoop) : Step letters → EventLoop
  | .background action =>
      if ofLoop action then s else { s with intake := s.intake.step action }
  | .confirmation action => { s with books := s.books.step ctx.risk action.book }
  | .streamed slot => { s with latestSlot := max s.latestSlot slot }
  | .pooled => { s with rpcPool := s.rpcPool.current.2 }
  | .wake => { s with wrap := s.wrap.step ctx.risk.maxSingleInvestmentSol .wake }
  | .take =>
      match s.point with
      | .idle => s.onTake letters
      | _ => s
  | .scanned opps =>
      match s.point with
      | .scanning mint => { s with point := .weighing mint opps }
      | _ => s
  | .weigh today now =>
      match s.point with
      | .weighing mint opps => s.onWeigh ctx mint opps today now
      | _ => s
  | .answered answer =>
      match s.point with
      | .trying attempt stage => s.onAnswer ctx attempt stage answer
      | _ => s
  | .locked =>
      match s.point with
      | .trying attempt stage => s.onLock ctx letters attempt stage
      | _ => s
  | .elapsed nanos => { s with jito := { s.jito with clock := s.jito.clock.pass nanos } }
  | .clockSet reading => { s with jito := { s.jito with clock := s.jito.clock.set reading } }

/-! ## What shows in the books -/

/-- The step of the books that a step of the bot takes. -/
def bookCall? (s : EventLoop) : Step letters → Option Books.Step
  | .confirmation action => some action.book
  | .weigh today now =>
      match s.point with
      | .weighing _ (opp :: _) =>
          if opp.netProfitSol < ctx.risk.minProfitThresholdSol then none
          else some (.checkLimits opp.forRisk today now)
      | _ => none
  | .locked =>
      match s.point with
      | .trying _ (.booking submission) => some (bookingOf ctx submission)
      | .trying _ .failed => some .submitFailed
      | _ => none
  | _ => none

/-- What an answer can do besides moving on: a request to Jito is made, and a transaction is
accepted. -/
structure Turn (s next : EventLoop) : Prop where
  intake : next.intake = s.intake
  books : next.books = s.books
  log : (next.log = s.log ∧ (next.point = s.point ∨ next.point.unbooked = [])) ∨
    ∃ submission, next.log = s.log ++ [submission] ∧ next.point.unbooked = [submission]
  jito : next.jito = s.jito ∨ s.jito.request = some next.jito

section

variable {ctx} {s next : EventLoop} {attempt : Attempt} {txBytes : List UInt8}
  {preSubmit : SlotCheck}

/-- Nothing but the point has moved. -/
theorem Turn.quiet (same : (next.intake, next.books, next.log, next.jito) =
      (s.intake, s.books, s.log, s.jito))
    (point : next.point = s.point ∨ next.point.unbooked = []) : Turn s next := by
  simp only [Prod.mk.injEq] at same
  rcases same with ⟨intake, books, log, jito⟩
  exact ⟨intake, books, .inl ⟨log, point⟩, .inl jito⟩

theorem turn_onFunds (grpcSlot : ℕ) (rpcSlot balance : Option ℕ) :
    Turn s (s.onFunds ctx attempt grpcSlot rpcSlot balance) := by
  simp only [onFunds]
  split
  · exact .quiet rfl (.inr rfl)
  · split
    · exact .quiet rfl (.inr rfl)
    · split
      · exact .quiet rfl (.inr rfl)
      · split
        · exact .quiet rfl (.inr rfl)
        · exact .quiet rfl (.inr rfl)

theorem turn_onWrap (event : WrapGuard.Event) : Turn s (s.onWrap ctx attempt event) := by
  simp only [onWrap]
  split
  · split
    · exact .quiet rfl (.inr rfl)
    · exact .quiet rfl (.inr rfl)
  · exact .quiet rfl (.inl rfl)

theorem turn_onBuilt (result : Except String (List UInt8)) :
    Turn s (s.onBuilt ctx attempt result) := by
  cases result with
  | ok txBytes =>
      simp only [onBuilt]
      split
      · exact .quiet rfl (.inr rfl)
      · exact .quiet rfl (.inr rfl)
  | error message => exact .quiet rfl (.inr rfl)

theorem turn_onSimulated (succeeded : Bool) :
    Turn s (s.onSimulated attempt txBytes succeeded) := by
  cases succeeded with
  | true => exact .quiet rfl (.inr rfl)
  | false => exact .quiet rfl (.inr rfl)

theorem turn_submitViaJito : Turn s (s.submitViaJito attempt txBytes preSubmit) := by
  rw [submitViaJito]
  split
  · exact .quiet rfl (.inr rfl)
  · next jito made => exact ⟨rfl, rfl, .inl ⟨rfl, .inr rfl⟩, .inr made⟩

theorem turn_onRechecked (grpcSlot : ℕ) (rpcSlot : Option ℕ) :
    Turn s (s.onRechecked ctx attempt txBytes grpcSlot rpcSlot) := by
  rw [onRechecked]
  generalize (if grpcSlot > 0 then grpcSlot else rpcSlot.getD 0) = slot
  split
  · exact .quiet rfl (.inr rfl)
  · split
    · exact .quiet rfl (.inr rfl)
    · simp only
      split
      · exact turn_submitViaJito
      · exact .quiet rfl (.inr rfl)

theorem turn_accept (signature : String) :
    Turn s (s.accept attempt txBytes preSubmit signature) where
  intake := rfl
  books := rfl
  log := .inr ⟨_, rfl, rfl⟩
  jito := .inl rfl

theorem turn_onBundled (answer : Option String) :
    Turn s (s.onBundled attempt txBytes preSubmit answer) := by
  cases answer with
  | some bundleId => exact turn_accept bundleId
  | none => exact .quiet rfl (.inr rfl)

theorem turn_onSent (answer : Except String String) :
    Turn s (s.onSent attempt txBytes preSubmit answer) := by
  rw [onSent]
  split
  · exact turn_accept _
  · exact .quiet rfl (.inr rfl)

theorem turn_onAnswer (stage : Stage) (answer : Answer) :
    Turn s (s.onAnswer ctx attempt stage answer) := by
  unfold onAnswer
  split
  · exact turn_onFunds _ _ _
  · exact turn_onWrap _
  · exact turn_onBuilt _
  · exact turn_onSimulated _
  · exact turn_onRechecked _ _
  · exact turn_onBundled _
  · exact turn_onSent _
  · exact .quiet rfl (.inl rfl)

variable (ctx s) in
/-- No answer reaches an attempt whose transaction has been accepted. -/
theorem onAnswer_or (attempt : Attempt) (stage : Stage) (answer : Answer) :
    (LoopPoint.trying attempt stage).unbooked = [] ∨
      s.onAnswer ctx attempt stage answer = s := by
  cases stage with
  | accepted submission => exact .inr rfl
  | booking submission => exact .inr rfl
  | _ => exact .inl rfl

variable (letters) in
/-- Taking an event touches neither the books nor the log. -/
theorem onTake_rest (idle : s.point = .idle) :
    ((s.onTake letters).books, (s.onTake letters).log, (s.onTake letters).jito) =
        (s.books, s.log, s.jito) ∧
      (s.onTake letters).point.unbooked = [] := by
  have free : s.point.unbooked = [] := by
    rw [idle]
    rfl
  rw [onTake]
  split
  · exact ⟨rfl, free⟩
  · next event _ _ =>
      cases event.mint with
      | none => exact ⟨rfl, free⟩
      | some mint =>
          simp only
          split
          · exact ⟨rfl, free⟩
          · exact ⟨rfl, rfl⟩

variable (ctx s) in
/-- Weighing an opportunity touches neither the intake nor the log. -/
theorem onWeigh_rest (mint : String) (opps : List ArbitrageOpportunity) (today : NaiveDate)
    (now : Instant) :
    let next := s.onWeigh ctx mint opps today now
    (next.intake, next.log, next.jito) = (s.intake, s.log, s.jito) ∧
      next.point.unbooked = [] := by
  cases opps with
  | nil => exact ⟨rfl, rfl⟩
  | cons opp opps =>
      simp only [onWeigh]
      split_ifs
      · exact ⟨rfl, rfl⟩
      · exact ⟨rfl, rfl⟩
      · exact ⟨rfl, rfl⟩
      · exact ⟨rfl, rfl⟩
      · exact ⟨rfl, rfl⟩

theorem books_onWeigh (mint : String) (opps : List ArbitrageOpportunity) (today : NaiveDate)
    (now : Instant) :
    (s.onWeigh ctx mint opps today now).books =
      match opps with
      | [] => s.books
      | opp :: _ =>
          if opp.netProfitSol < ctx.risk.minProfitThresholdSol then s.books
          else s.books.step ctx.risk (.checkLimits opp.forRisk today now) := by
  cases opps with
  | nil => rfl
  | cons opp opps =>
      simp only [onWeigh]
      split_ifs
      · rfl
      · rfl
      · rfl
      · rfl
      · rfl

end

/-- The books see of the bot the checks, submissions and failures of the main loop and the
steps of the confirmation task. -/
theorem shows_books :
    Runs.Shows (step ctx) (Books.step ctx.risk) EventLoop.books
      (@bookCall? ctx letters) := by
  intro s action
  cases action with
  | background action =>
      simp only [step, bookCall?]
      split
      · rfl
      · rfl
  | take =>
      simp only [step, bookCall?]
      split
      · next idle => exact congrArg Prod.fst (onTake_rest letters idle).1
      · rfl
  | scanned opps =>
      simp only [step, bookCall?]
      split
      · rfl
      · rfl
  | weigh today now =>
      cases point : s.point with
      | weighing mint opps =>
          simp only [step, bookCall?, point, books_onWeigh]
          cases opps with
          | nil => rfl
          | cons opp opps =>
              simp only
              split
              · rfl
              · rfl
      | _ => simp only [step, bookCall?, point, Option.elim_none]
  | answered answer =>
      simp only [step, bookCall?]
      split
      · exact (turn_onAnswer _ _).books
      · rfl
  | locked =>
      cases point : s.point with
      | trying attempt stage =>
          cases stage with
          | _ => simp only [step, bookCall?, point, onLock, skip, Option.elim]
      | _ => simp only [step, bookCall?, point, Option.elim_none]
  | _ => rfl

end EventLoop

end AtomicArbitrage.Bot
