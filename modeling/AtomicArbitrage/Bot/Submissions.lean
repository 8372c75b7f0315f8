import AtomicArbitrage.Bot.EventLoop

/-!
# Submissions

Whatever the other tasks do while the main loop waits, a transaction is submitted only behind
its checks; a mint becomes profitable only by a submission; and requests to Jito keep their
distance, as far as the clock of the machine does.
-/

namespace AtomicArbitrage.Bot

/-! ## Checks -/

/-- A mint that the bot trades. -/
structure Tradable (store : WhitelistStore) (mint : String) : Prop where
  listed : mint ∈ store.memory.all
  credible : Plausible mint

/-- What the first checks ask of an opportunity: the limits, which left the breaker unset, a
wallet, and no dry run. -/
structure Qualified (ctx : EventLoopContext) (attempt : Attempt) : Prop where
  profit : ctx.risk.minProfitThresholdSol ≤ attempt.opp.netProfitSol
  size : attempt.opp.investmentSol ≤ ctx.risk.maxSingleInvestmentSol
  breaker : attempt.checked.circuitBreaker = false
  loss : -ctx.risk.maxDailyLossSol ≤ attempt.checked.dailyPnlSol + attempt.opp.netProfitSol
  live : ctx.dryRun = false
  signer : ctx.wallet = true

/-- A test of the age of an opportunity has passed.  The slot is known, and it is that of the
stream if there was one when it was asked for; it is no more than twenty slots ahead of the
opportunity, but for a stream that has delivered a slot by the time of the test. -/
structure SlotCheck.Passed (check : SlotCheck) (snapshotSlot : ℕ) : Prop where
  dated : 0 < snapshotSlot
  known : 0 < check.slot
  streamed : 0 < check.grpcSlot → check.slot = check.grpcSlot
  order : check.grpcSlot ≤ check.latestSlot
  recent : check.latestSlot = 0 → check.slot ≤ snapshotSlot + maxSlotAge

/-- A first slot at which the opportunity is fresh, and a balance that covers the fees. -/
structure Funded (ctx : EventLoopContext) (attempt : Attempt) : Prop where
  fresh : attempt.slotCheck.Passed attempt.opp.slot
  covered : ctx.requiredSol ≤ attempt.lamports / 1000000000

/-- What is checked of a transaction before it is submitted: the first checks of its
opportunity, its simulation where the simulator is enabled, and a slot that was asked for later
and at which the opportunity is fresh. -/
structure Ready (ctx : EventLoopContext) (attempt : Attempt) (txBytes : List UInt8)
    (preSubmit : SlotCheck) : Prop where
  funded : Funded ctx attempt
  simulated : ctx.simulatorEnabled = true → attempt.simulated = some txBytes
  fresh : preSubmit.Passed attempt.opp.slot
  later : attempt.slotCheck.latestSlot ≤ preSubmit.grpcSlot

/-- What all checks ask of a submission, with a stream that has since got to a slot. -/
structure Submission.Cleared (ctx : EventLoopContext) (store : WhitelistStore) (latestSlot : ℕ)
    (submission : Submission) : Prop where
  tradable : Tradable store submission.attempt.mint
  qualified : Qualified ctx submission.attempt
  ready : Ready ctx submission.attempt submission.txBytes submission.preSubmit
  past : submission.preSubmit.latestSlot ≤ latestSlot

/-- What the checks up to a stage have established. -/
def Stage.Cleared (ctx : EventLoopContext) (latestSlot : ℕ) (log : List Submission)
    (attempt : Attempt) : Stage → Prop
  | .funding grpcSlot => grpcSlot ≤ latestSlot
  | .wrapping | .building | .simulating _ =>
      Funded ctx attempt ∧ attempt.slotCheck.latestSlot ≤ latestSlot
  | .rechecking txBytes grpcSlot =>
      (Funded ctx attempt ∧ attempt.slotCheck.latestSlot ≤ grpcSlot) ∧
        (ctx.simulatorEnabled = true → attempt.simulated = some txBytes) ∧ grpcSlot ≤ latestSlot
  | .bundling txBytes preSubmit =>
      ctx.senderEnabled = true ∧ Ready ctx attempt txBytes preSubmit ∧
        preSubmit.latestSlot ≤ latestSlot
  | .sending txBytes preSubmit =>
      Ready ctx attempt txBytes preSubmit ∧ preSubmit.latestSlot ≤ latestSlot
  | .accepted submission => submission ∈ log ∧ submission.attempt = attempt
  | .booking submission => submission ∈ log ∧ submission.attempt = attempt
  | .failed => True

/-- What the checks up to a point have established. -/
def LoopPoint.Cleared (ctx : EventLoopContext) (store : WhitelistStore) (latestSlot : ℕ)
    (log : List Submission) : LoopPoint → Prop
  | .idle => True
  | .scanning mint => Tradable store mint
  | .weighing mint _ => Tradable store mint
  | .trying attempt stage =>
      (Tradable store attempt.mint ∧ Qualified ctx attempt) ∧
        stage.Cleared ctx latestSlot log attempt

/-- The intake is sound, the checks up to the present point and those of all submissions have
been made, and every profitable mint was one at the start or has been traded. -/
structure EventLoop.Cleared (ctx : EventLoopContext) (table : WhitelistTable) (s : EventLoop) :
    Prop where
  intake : s.intake.Sound table
  point : s.point.Cleared ctx s.intake.store s.latestSlot s.log
  log : ∀ submission ∈ s.log, submission.Cleared ctx s.intake.store s.latestSlot
  profitable : ∀ mint ∈ s.intake.store.memory.profitable,
    mint ∈ (WhitelistStore.loaded table).memory.profitable ∨
      ∃ submission ∈ s.log, submission.attempt.mint = mint

/-! ## What later steps keep -/

section

variable {ctx : EventLoopContext} {store grown : WhitelistStore} {latest later : ℕ}
  {log : List Submission}

theorem Tradable.mono {mint : String} (tradable : Tradable store mint)
    (more : store.memory.all ⊆ grown.memory.all) : Tradable grown mint :=
  ⟨more tradable.listed, tradable.credible⟩

theorem Submission.Cleared.mono {submission : Submission}
    (cleared : submission.Cleared ctx store latest) (more : store.memory.all ⊆ grown.memory.all)
    (le : latest ≤ later) : submission.Cleared ctx grown later :=
  { cleared with
    tradable := cleared.tradable.mono more
    past := cleared.past.trans le }

theorem Stage.Cleared.mono {attempt : Attempt} {stage : Stage}
    (cleared : stage.Cleared ctx latest log attempt) (le : latest ≤ later) :
    stage.Cleared ctx later log attempt := by
  cases stage with
  | funding grpcSlot => exact le_trans cleared le
  | wrapping | building | simulating => exact ⟨cleared.1, cleared.2.trans le⟩
  | rechecking txBytes grpcSlot => exact ⟨cleared.1, cleared.2.1, cleared.2.2.trans le⟩
  | bundling txBytes preSubmit => exact ⟨cleared.1, cleared.2.1, cleared.2.2.trans le⟩
  | sending txBytes preSubmit => exact ⟨cleared.1, cleared.2.trans le⟩
  | accepted submission => exact cleared
  | booking submission => exact cleared
  | failed => trivial

theorem LoopPoint.Cleared.mono {point : LoopPoint} (cleared : point.Cleared ctx store latest log)
    (more : store.memory.all ⊆ grown.memory.all) (le : latest ≤ later) :
    point.Cleared ctx grown later log := by
  cases point with
  | idle => trivial
  | scanning mint => exact Tradable.mono cleared more
  | weighing mint opps => exact Tradable.mono cleared more
  | trying attempt stage =>
      exact ⟨⟨cleared.1.1.mono more, cleared.1.2⟩, Stage.Cleared.mono cleared.2 le⟩

end

namespace Intake

variable {s : Intake} {letters : Alphanumeric}

theorem store_onNotification (notification : Notification letters) (cached : Bool) :
    (s.onNotification notification cached).store = s.store := by
  have looked (s : Intake) (program : EventProgram) (sig : String) :
      (s.lookUp program sig cached).store = s.store := by
    cases program with
    | pumpfun | unknown => rfl
    | dlmm | cpmm | whirlpool =>
        rw [lookUp]
        split
        · rfl
        · rfl
  rw [onNotification]
  split
  · rfl
  · split
    · rfl
    · split
      · rfl
      · rw [looked, trySend]
        split
        · rfl
        · rfl

/-- Only the answer for a mint, and a submission, change the whitelist. -/
theorem store_step (action : Step letters) :
    (s.step action).store = s.store ∨
      (∃ mint, (s.step action).store = (s.store.verifyAndAdd mint).2) ∨
        ∃ mint, action = .submitted mint ∧
          (s.step action).store = s.store.markProfitable mint := by
  cases action with
  | notified notification cached => exact .inl (store_onNotification notification cached)
  | submitted mint => exact .inr (.inr ⟨mint, rfl, rfl⟩)
  | answered has =>
      simp only [step]
      split
      · next mint batch _ =>
          rw [onPresence]
          split
          · exact .inr (.inl ⟨mint, rfl⟩)
          · exact .inl rfl
      · exact .inl rfl
  | fetched place result =>
      left
      simp only [step]
      split
      · rfl
      · rfl
      · rfl
  | collect =>
      left
      simp only [step]
      split
      · split
        · rfl
        · rfl
      · rfl
  | deadline =>
      left
      simp only [step]
      split
      · rfl
      · rfl
      · rfl
  | next =>
      left
      simp only [step]
      split
      · rfl
      · split
        · rfl
        · rfl
      · rfl
  | reconnected | backscanned | taken => exact .inl rfl

/-- No mint leaves the whitelist. -/
theorem all_subset_step (action : Step letters) :
    s.store.memory.all ⊆ (s.step action).store.memory.all := by
  rcases store_step (s := s) action with same | ⟨mint, added⟩ | ⟨mint, _, marked⟩
  · rw [same]
  · rw [added, WhitelistStore.verifyAndAdd]
    split
    · exact Finset.Subset.refl _
    · split
      · exact Finset.Subset.refl _
      · exact Finset.subset_insert _ _
  · rw [marked, all_markProfitable]

/-- A mint becomes profitable by a submission only. -/
theorem profitable_step {action : Step letters} {mint : String}
    (profitable : mint ∈ (s.step action).store.memory.profitable) :
    mint ∈ s.store.memory.profitable ∨ action = .submitted mint := by
  rcases store_step (s := s) action with same | ⟨other, added⟩ | ⟨other, action_eq, marked⟩
  · rw [same] at profitable
    exact .inl profitable
  · rw [added, WhitelistStore.verifyAndAdd] at profitable
    split at profitable
    · exact .inl profitable
    · split at profitable
      · exact .inl profitable
      · exact .inl profitable
  · rw [marked, WhitelistStore.markProfitable] at profitable
    split at profitable
    · rcases Finset.mem_insert.mp profitable with same | before
      · exact .inr (same ▸ action_eq)
      · exact .inl before
    · exact .inl profitable

end Intake

namespace EventLoop

variable {ctx : EventLoopContext} {table : WhitelistTable} {s : EventLoop}

/-- A step of the main loop that leaves the intake, the stream and the log alone. -/
theorem Cleared.moved (cleared : Cleared ctx table s) {next : EventLoop}
    (same : (next.intake, next.latestSlot, next.log) = (s.intake, s.latestSlot, s.log))
    (point : next.point.Cleared ctx s.intake.store s.latestSlot s.log) :
    Cleared ctx table next := by
  simp only [Prod.mk.injEq] at same
  rcases same with ⟨intake, latest, log⟩
  rw [← intake, ← latest, ← log] at point
  refine ⟨intake ▸ cleared.intake, point, ?_, ?_⟩
  · rw [intake, latest, log]
    exact cleared.log
  · rw [intake, log]
    exact cleared.profitable

/-- The stream delivers a slot. -/
theorem Cleared.streamed (cleared : Cleared ctx table s) (slot : ℕ) :
    Cleared ctx table { s with latestSlot := max s.latestSlot slot } := by
  have same := Finset.Subset.refl s.intake.store.memory.all
  refine ⟨cleared.intake, ?_, ?_, cleared.profitable⟩
  · exact LoopPoint.Cleared.mono cleared.point same (le_max_left _ _)
  · intro submission inside
    exact (cleared.log submission inside).mono same (le_max_left _ _)

/-- A step of the intake that marks no mint which has not been traded. -/
theorem Cleared.intakeStep {letters : Alphanumeric} (cleared : Cleared ctx table s)
    (action : Intake.Step letters) (point : LoopPoint)
    (reached : point.Cleared ctx s.intake.store s.latestSlot s.log)
    (traded : ∀ mint, action = .submitted mint →
      ∃ submission ∈ s.log, submission.attempt.mint = mint) :
    Cleared ctx table { s with intake := s.intake.step action, point := point } := by
  have more := s.intake.all_subset_step action
  refine ⟨cleared.intake.step action, LoopPoint.Cleared.mono reached more le_rfl, ?_, ?_⟩
  · intro submission inside
    exact (cleared.log submission inside).mono more le_rfl
  · intro mint profitable
    have held : mint ∈ (s.intake.step action).store.memory.profitable := profitable
    rcases Intake.profitable_step held with before | marked
    · exact cleared.profitable mint before
    · exact .inr (traded mint marked)

/-! ## Steps -/

/-- What the test of the age lets through. -/
theorem passed_of_fresh {grpcSlot slot latestSlot snapshotSlot : ℕ}
    (fresh : isOpportunityFresh latestSlot snapshotSlot slot maxSlotAge = true)
    (streamed : 0 < grpcSlot → slot = grpcSlot) (order : grpcSlot ≤ latestSlot) :
    SlotCheck.Passed ⟨grpcSlot, slot, latestSlot⟩ snapshotSlot := by
  rw [isOpportunityFresh] at fresh
  split at fresh
  · exact absurd fresh Bool.false_ne_true
  next known =>
  rw [not_or] at known
  refine ⟨Nat.pos_of_ne_zero known.1, Nat.pos_of_ne_zero known.2, streamed, order, ?_⟩
  intro none
  rw [if_neg (Nat.not_lt.mpr (le_of_eq none)), decide_eq_true_eq] at fresh
  exact Nat.sub_le_iff_le_add'.mp fresh

/-- The first checks read no more of an attempt than its opportunity and the tracker. -/
theorem qualified_of_same {attempt other : Attempt} (qualified : Qualified ctx attempt)
    (same : (other.opp, other.checked) = (attempt.opp, attempt.checked)) :
    Qualified ctx other := by
  rw [Prod.mk.injEq] at same
  rcases same with ⟨opp, checked⟩
  exact ⟨opp ▸ qualified.profit, opp ▸ qualified.size, checked ▸ qualified.breaker,
    opp ▸ checked ▸ qualified.loss, qualified.live, qualified.signer⟩

theorem fresh_of_not {fresh : Bool} (passed : ¬(!fresh) = true) : fresh = true := by
  cases fresh with
  | true => rfl
  | false => exact absurd rfl passed

section

variable {attempt : Attempt} {txBytes : List UInt8} {preSubmit : SlotCheck}
  (cleared : Cleared ctx table s)
include cleared

theorem Cleared.onTake (letters : Alphanumeric) : Cleared ctx table (s.onTake letters) := by
  rw [EventLoop.onTake]
  split
  · exact cleared
  · next event events waiting =>
      rcases cleared.intake.events event (waiting ▸ List.mem_cons_self ..) with
        ⟨mint, named, listed, credible⟩
      have untraded (mint : String) (same : (.taken : Intake.Step letters) = .submitted mint) :
          ∃ submission ∈ s.log, submission.attempt.mint = mint := by
        cases same
      have taken (point : LoopPoint)
          (reached : point.Cleared ctx s.intake.store s.latestSlot s.log) :=
        cleared.intakeStep (.taken : Intake.Step letters) point reached untraded
      rw [named]
      simp only
      split
      · exact taken s.point cleared.point
      · exact (taken (.scanning mint) ⟨listed, credible⟩).moved rfl ⟨listed, credible⟩

theorem Cleared.onWeigh {mint : String} (tradable : Tradable s.intake.store mint)
    (opps : List ArbitrageOpportunity) (today : NaiveDate) (now : Instant) :
    Cleared ctx table (s.onWeigh ctx mint opps today now) := by
  cases opps with
  | nil => exact cleared.moved rfl trivial
  | cons opp opps =>
      have passed :=
        s.books.inFlight.tracker.checkLimits_allowed opp.forRisk ctx.risk today now
      simp only [EventLoop.onWeigh]
      split
      · exact cleared.moved rfl tradable
      · split
        · exact cleared.moved rfl tradable
        · next allowed =>
            split
            · exact cleared.moved rfl tradable
            · next live =>
                split
                · exact cleared.moved rfl tradable
                · next signer =>
                    rcases passed (fresh_of_not allowed) with ⟨profit, size, breaker, loss⟩
                    have unset := Bool.eq_false_of_not_eq_true live
                    exact cleared.moved rfl ⟨⟨tradable, profit, size, breaker, loss, unset,
                      fresh_of_not signer⟩, le_refl s.latestSlot⟩

variable (base : Tradable s.intake.store attempt.mint ∧ Qualified ctx attempt)
include base

theorem Cleared.skip : Cleared ctx table (s.skip attempt) := cleared.moved rfl base.1

/-- The first look at the slot, and the balance. -/
theorem Cleared.onFunds {grpcSlot : ℕ} (asked : grpcSlot ≤ s.latestSlot)
    (rpcSlot balance : Option ℕ) :
    Cleared ctx table (s.onFunds ctx attempt grpcSlot rpcSlot balance) := by
  have skipped := cleared.skip base
  simp only [EventLoop.onFunds]
  split
  · exact skipped
  next curSlot answered =>
  split
  · exact skipped
  next fresh =>
  split
  · exact skipped
  split
  · exact skipped
  next lamports enough =>
  have streamed (live : 0 < grpcSlot) : curSlot = grpcSlot := by
    rw [if_pos live] at answered
    exact (Option.some_inj.mp answered).symm
  have passed := passed_of_fresh (fresh_of_not fresh) streamed asked
  exact cleared.moved rfl ⟨⟨base.1, qualified_of_same base.2 rfl⟩,
    ⟨passed, not_lt.mp enough⟩, le_refl s.latestSlot⟩

theorem Cleared.onWrap
    (funded : Funded ctx attempt ∧ attempt.slotCheck.latestSlot ≤ s.latestSlot)
    (event : WrapGuard.Event) : Cleared ctx table (s.onWrap ctx attempt event) := by
  simp only [EventLoop.onWrap]
  split
  · split
    · exact cleared.moved rfl base.1
    · exact cleared.moved rfl ⟨base, funded⟩
  · exact cleared.moved rfl cleared.point

theorem Cleared.recheck
    (funded : Funded ctx attempt ∧ attempt.slotCheck.latestSlot ≤ s.latestSlot)
    (simulated : ctx.simulatorEnabled = true → attempt.simulated = some txBytes) :
    Cleared ctx table (s.recheck attempt txBytes) :=
  cleared.moved rfl ⟨base, funded, simulated, le_refl s.latestSlot⟩

theorem Cleared.onBuilt
    (funded : Funded ctx attempt ∧ attempt.slotCheck.latestSlot ≤ s.latestSlot)
    (result : Except String (List UInt8)) : Cleared ctx table (s.onBuilt ctx attempt result) := by
  cases result with
  | ok txBytes =>
      simp only [EventLoop.onBuilt]
      split
      · exact cleared.moved rfl ⟨base, funded⟩
      · next disabled => exact cleared.recheck base funded fun enabled => absurd enabled disabled
  | error message => exact cleared.moved rfl base.1

theorem Cleared.onSimulated
    (funded : Funded ctx attempt ∧ attempt.slotCheck.latestSlot ≤ s.latestSlot)
    (succeeded : Bool) : Cleared ctx table (s.onSimulated attempt txBytes succeeded) := by
  cases succeeded with
  | true =>
      have recorded : Funded ctx { attempt with simulated := some txBytes } :=
        ⟨funded.1.fresh, funded.1.covered⟩
      exact cleared.recheck ⟨base.1, qualified_of_same base.2 rfl⟩ ⟨recorded, funded.2⟩
        fun _ => rfl
  | false => exact cleared.skip base

theorem Cleared.submitViaJito (enabled : ctx.senderEnabled = true)
    (ready : Ready ctx attempt txBytes preSubmit ∧ preSubmit.latestSlot ≤ s.latestSlot) :
    Cleared ctx table (s.submitViaJito attempt txBytes preSubmit) := by
  rw [EventLoop.submitViaJito]
  split
  · exact cleared.moved rfl ⟨base, ready⟩
  · exact cleared.moved rfl ⟨base, enabled, ready⟩

/-- The second look at the slot. -/
theorem Cleared.onRechecked {grpcSlot : ℕ}
    (funded : Funded ctx attempt ∧ attempt.slotCheck.latestSlot ≤ grpcSlot)
    (simulated : ctx.simulatorEnabled = true → attempt.simulated = some txBytes)
    (asked : grpcSlot ≤ s.latestSlot) (rpcSlot : Option ℕ) :
    Cleared ctx table (s.onRechecked ctx attempt txBytes grpcSlot rpcSlot) := by
  have streamed : 0 < grpcSlot →
      (if grpcSlot > 0 then grpcSlot else rpcSlot.getD 0) = grpcSlot := fun live => if_pos live
  rw [EventLoop.onRechecked]
  generalize (if grpcSlot > 0 then grpcSlot else rpcSlot.getD 0) = slot at streamed
  split
  · exact cleared.skip base
  split
  · exact cleared.skip base
  next fresh =>
  have ready : Ready ctx attempt txBytes ⟨grpcSlot, slot, s.latestSlot⟩ :=
    ⟨funded.1, simulated, passed_of_fresh (fresh_of_not fresh) streamed asked, funded.2⟩
  simp only
  split
  · next enabled => exact cleared.submitViaJito base enabled ⟨ready, le_refl _⟩
  · exact cleared.moved rfl ⟨base, ready, le_refl s.latestSlot⟩

theorem Cleared.accept
    (ready : Ready ctx attempt txBytes preSubmit ∧ preSubmit.latestSlot ≤ s.latestSlot)
    (signature : String) : Cleared ctx table (s.accept attempt txBytes preSubmit signature) := by
  refine ⟨cleared.intake, ?_, ?_, ?_⟩
  · exact ⟨base, List.mem_append_right _ (List.mem_singleton_self _), rfl⟩
  · intro submission inside
    rcases List.mem_append.mp inside with before | new
    · exact cleared.log submission before
    · rw [List.mem_singleton] at new
      subst new
      exact ⟨base.1, base.2, ready.1, ready.2⟩
  · intro mint profitable
    rcases cleared.profitable mint profitable with loaded | ⟨submission, inside, same⟩
    · exact .inl loaded
    · exact .inr ⟨submission, List.mem_append_left _ inside, same⟩

theorem Cleared.onBundled
    (ready : Ready ctx attempt txBytes preSubmit ∧ preSubmit.latestSlot ≤ s.latestSlot)
    (answer : Option String) :
    Cleared ctx table (s.onBundled attempt txBytes preSubmit answer) := by
  cases answer with
  | some bundleId => exact cleared.accept base ready bundleId
  | none => exact cleared.moved rfl ⟨base, ready⟩

theorem Cleared.onSent
    (ready : Ready ctx attempt txBytes preSubmit ∧ preSubmit.latestSlot ≤ s.latestSlot)
    (answer : Except String String) :
    Cleared ctx table (s.onSent attempt txBytes preSubmit answer) := by
  rw [EventLoop.onSent]
  split
  · exact cleared.accept base ready _
  · exact cleared.moved rfl ⟨base, trivial⟩

theorem Cleared.onAnswer {stage : Stage} (reached : stage.Cleared ctx s.latestSlot s.log attempt)
    (answer : Answer) :
    Cleared ctx table (s.onAnswer ctx attempt stage answer) := by
  unfold EventLoop.onAnswer
  split
  · exact cleared.onFunds base reached _ _
  · exact cleared.onWrap base reached _
  · exact cleared.onBuilt base reached _
  · exact cleared.onSimulated base reached _
  · exact cleared.onRechecked base reached.1 reached.2.1 reached.2.2 _
  · exact cleared.onBundled base reached.2 _
  · exact cleared.onSent base reached _
  · exact cleared

theorem Cleared.onLock (letters : Alphanumeric) {stage : Stage}
    (reached : stage.Cleared ctx s.latestSlot s.log attempt) :
    Cleared ctx table (s.onLock ctx letters attempt stage) := by
  cases stage with
  | accepted submission =>
      apply cleared.intakeStep
      · exact ⟨base, reached⟩
      · intro mint marked
        rw [Intake.Step.submitted.injEq] at marked
        exact ⟨submission, reached.1, reached.2 ▸ marked⟩
  | booking submission => exact cleared.moved rfl base.1
  | failed => exact cleared.moved rfl base.1
  | _ => exact cleared

end

theorem Cleared.step {letters : Alphanumeric} (cleared : Cleared ctx table s)
    (action : Step letters) : Cleared ctx table (s.step ctx action) := by
  have reached := cleared.point
  cases action with
  | background action =>
      simp only [EventLoop.step]
      split
      · exact cleared
      · next other =>
          apply cleared.intakeStep action s.point reached
          rintro mint rfl
          exact absurd rfl other
  | take =>
      simp only [EventLoop.step]
      split
      · exact cleared.onTake letters
      · exact cleared
  | scanned opps =>
      simp only [EventLoop.step]
      split
      · next mint point =>
          rw [point] at reached
          exact cleared.moved rfl reached
      · exact cleared
  | weigh today now =>
      simp only [EventLoop.step]
      split
      · next mint opps point =>
          rw [point] at reached
          exact cleared.onWeigh reached opps today now
      · exact cleared
  | answered answer =>
      simp only [EventLoop.step]
      split
      · next attempt stage point =>
          rw [point] at reached
          exact cleared.onAnswer reached.1 reached.2 answer
      · exact cleared
  | locked =>
      simp only [EventLoop.step]
      split
      · next attempt stage point =>
          rw [point] at reached
          exact cleared.onLock reached.1 letters reached.2
      · exact cleared
  | streamed slot => exact cleared.streamed slot
  | confirmation | pooled | wake | elapsed | clockSet => exact cleared.moved rfl reached

variable (ctx) in
/-- A step lets time pass, sets the clock, makes a request, or leaves the limiter alone. -/
theorem jito_step {letters : Alphanumeric} (s : EventLoop) (action : Step letters) :
    s.jito.Stepped (s.step ctx action).jito := by
  cases action with
  | elapsed nanos => exact .passed nanos rfl
  | clockSet reading => exact .set reading rfl
  | background action =>
      simp only [step]
      split
      · exact .still rfl
      · exact .still rfl
  | take =>
      simp only [step]
      split
      · next idle => exact .still (congrArg (fun fields => fields.2.2) (onTake_rest letters idle).1)
      · exact .still rfl
  | scanned opps =>
      simp only [step]
      split
      · exact .still rfl
      · exact .still rfl
  | weigh today now =>
      simp only [step]
      split
      · next mint opps point =>
          have rest := (onWeigh_rest ctx s mint opps today now).1
          exact .still (congrArg (fun fields => fields.2.2) rest)
      · exact .still rfl
  | answered answer =>
      simp only [step]
      split
      · next attempt stage point =>
          rcases (turn_onAnswer stage answer).jito with same | made
          · exact .still same
          · exact .requested made
      · exact .still rfl
  | locked =>
      simp only [step]
      split
      · next attempt stage point =>
          cases stage with
          | _ => exact .still rfl
      · exact .still rfl
  | confirmation | streamed | pooled | wake => exact .still rfl

/-- In every order of steps, between any two requests to Jito more than 1.099 seconds pass, less
what the clock of the machine is set forward in between. -/
theorem requests_spaced {letters : Alphanumeric} (ctx : EventLoopContext) (pool : RpcPool)
    (table : WhitelistTable) (today : NaiveDate) (trades : TradesTable) (clock : ℤ)
    (run : List (Step letters)) :
    (Runs.final (step ctx) (start pool table today trades clock) run).jito.requests.Pairwise
      fun earlier later => 1099000000 < earlier.span later := by
  have kept (s : EventLoop) (action : Step letters) (spaced : s.jito.Spaced) :
      (s.step ctx action).jito.Spaced := spaced.step (jito_step ctx s action)
  have spaced := @Runs.final_of_kept _ _ (step ctx) (fun s => s.jito.Spaced)
    (start pool table today trades clock) run (JitoLimiter.spaced_start clock) kept
  exact spaced.apart

end EventLoop

end AtomicArbitrage.Bot
