import AtomicArbitrage.Bot.Submissions

/-!
# Bookings

The table of trades holds what the main loop has had accepted, in order and once, with what the
confirmation task has found of it last; it agrees with the tracker for as long as signatures are
new.
-/

namespace AtomicArbitrage.Bot

namespace Books

/-! ## Rows -/

/-- The trade that a step submits. -/
def Step.submission? : Step → Option (PendingConfirmation × TradeData)
  | .submitted p trade => some (p, trade)
  | _ => none

/-- The row that some submissions write under a signature: the first one does. -/
def newRow (sig : String) (submissions : List (PendingConfirmation × TradeData)) :
    Option TradeRow :=
  (submissions.find? fun submission => submission.1.signature = sig).map fun submission =>
    submission.2.row

/-- The last outcome of a signature. -/
def lastOutcome (sig : String) (outcomes : List TradeOutcome) : Option TradeOutcome :=
  (outcomes.filter fun outcome => outcome.signature = sig).getLast?

/-- A row of the table behind some submissions and outcomes: one that there was, or else the
first that is submitted, with its last outcome. -/
def rowAfter (row : Option TradeRow) (sig : String)
    (submissions : List (PendingConfirmation × TradeData)) (outcomes : List TradeOutcome) :
    Option TradeRow :=
  (row.or (newRow sig submissions)).map fun row => row.settled (lastOutcome sig outcomes)

@[simp] theorem rowAfter_nil (row : Option TradeRow) (sig : String) :
    rowAfter row sig [] [] = row := by
  cases row with
  | none => rfl
  | some row => rfl

theorem newRow_append (sig : String) (front back : List (PendingConfirmation × TradeData)) :
    newRow sig (front ++ back) = (newRow sig front).or (newRow sig back) := by
  simp only [newRow, List.find?_append, Option.map_or]

theorem lastOutcome_append (sig : String) (front back : List TradeOutcome) :
    lastOutcome sig (front ++ back) = (lastOutcome sig back).or (lastOutcome sig front) := by
  rw [lastOutcome, List.filter_append, List.getLast?_append]
  rfl

theorem settled_or (row : TradeRow) (later earlier : Option TradeOutcome) :
    row.settled (later.or earlier) = (row.settled earlier).settled later := by
  cases later with
  | none => rfl
  | some outcome => cases earlier <;> rfl

section

variable {risk : RiskConfig} {s : Books} {sig : String}

/-- Every trade in flight has a row. -/
def Listed (s : Books) : Prop :=
  ∀ sig ∈ s.waiting.map PendingConfirmation.signature, (s.trades.get sig).isSome = true

theorem listed_start (today : NaiveDate) (trades : TradesTable) : Listed (start today trades) :=
  List.forall_mem_nil _

variable (risk s) in
/-- What a step confirms and leaves in flight has been in flight, or is submitted by it. -/
theorem flow_step (action : Step) :
    ((s.outcome? action).toList.map TradeOutcome.signature ++
        (s.step risk action).waiting.map PendingConfirmation.signature).Subperm
      (action.submission?.toList.map (fun submission => submission.1.signature) ++
        s.waiting.map PendingConfirmation.signature) := by
  cases action with
  | submitted p trade =>
      exact ((waiting_submitted p trade).map PendingConfirmation.signature).subperm
  | receive => exact (waiting_receive.map PendingConfirmation.signature).subperm
  | confirm place pnl succeeded now =>
      simp only [outcome?]
      rcases s.confirm_cases risk place pnl succeeded now with
        ⟨outside, same⟩ | ⟨p, left, found, inFlight, booked⟩
      · rw [outside, same]
        exact List.Subperm.refl _
      · rw [found, booked]
        exact (inFlight.map PendingConfirmation.signature).subperm
  | reorder pending =>
      rcases s.reorder_cases risk pending with ⟨permuted, same⟩ | same
      · rw [same]
        exact ((permuted.append_left s.inFlight.channel).map _).subperm
      · rw [same]
        exact List.Subperm.refl _
  | evict => exact (waiting_evict.map PendingConfirmation.signature).subperm
  | submitFailed | checkLimits => exact List.Subperm.refl _

variable (risk s) in
/-- Only a step that submits writes a row, and only one that confirms changes one. -/
theorem row_step (action : Step) (sig : String) :
    (s.step risk action).trades.get sig =
      rowAfter (s.trades.get sig) sig action.submission?.toList (s.outcome? action).toList := by
  cases action with
  | submitted p trade =>
      have written := get_insertSubmitted s.trades p.signature trade.tokenMint trade.buyVenue
        trade.sellVenue trade.investmentSol trade.estimatedProfitSol sig
      refine written.trans ?_
      rw [rowAfter, newRow, Step.submission?, Option.toList_some]
      by_cases same : p.signature = sig
      · subst same
        rw [List.find?_singleton]
        cases s.trades.get p.signature with
        | none => simp [TradeData.row, lastOutcome, outcome?, TradeRow.settled]
        | some row => simp [lastOutcome, outcome?, TradeRow.settled]
      · have other : sig ≠ p.signature := fun equal => same equal.symm
        simp [same, other, lastOutcome, outcome?, TradeRow.settled]
  | confirm place pnl succeeded now =>
      rcases s.confirm_cases risk place pnl succeeded now with
        ⟨outside, same⟩ | ⟨p, left, found, _, booked⟩
      · rw [same, outcome?, outside]
        exact (rowAfter_nil _ _).symm
      · rw [booked, outcome?, found]
        simp only [tradeUpdateConfirmed, AssocMap.get_modify, rowAfter, newRow, lastOutcome]
        by_cases same : p.signature = sig
        · subst same
          simp [Step.submission?, TradeRow.settled]
        · have other : sig ≠ p.signature := fun equal => same equal.symm
          simp [Step.submission?, TradeRow.settled, same, other]
  | submitFailed | receive | reorder | evict | checkLimits => exact (rowAfter_nil _ _).symm

theorem Listed.step (listed : Listed s) (action : Step) : Listed (s.step risk action) := by
  intro sig inFlight
  rw [row_step, rowAfter, Option.isSome_map, Option.isSome_or, Bool.or_eq_true]
  have flow := (s.flow_step risk action).subset (List.mem_append_right _ inFlight)
  rcases List.mem_append.mp flow with new | waits
  · right
    rcases List.mem_map.mp new with ⟨submission, inside, same⟩
    rw [newRow, Option.isSome_map, List.find?_isSome]
    exact ⟨submission, inside, decide_eq_true same⟩
  · exact .inl (listed sig waits)

/-- An outcome is of a signature that has a row, and its step submits nothing. -/
theorem Listed.outcome (listed : Listed s) {action : Step} {outcome : TradeOutcome}
    (confirmed : lastOutcome sig (s.outcome? action).toList = some outcome) :
    action.submission? = none ∧ (s.trades.get sig).isSome = true := by
  have inside := List.mem_of_getLast? confirmed
  rcases List.mem_filter.mp inside with ⟨made, same⟩
  cases action with
  | confirm place pnl succeeded now =>
      rcases Option.map_eq_some_iff.mp (Option.mem_toList.mp made) with ⟨p, found, rfl⟩
      refine ⟨rfl, listed sig (List.mem_map.mpr ⟨p, ?_, of_decide_eq_true same⟩)⟩
      exact List.mem_append_right _ (List.mem_of_getElem? found)
  | submitted | submitFailed | receive | reorder | evict | checkLimits =>
      exact absurd made List.not_mem_nil

variable (risk) in
/-- Over a run, a row stands under every signature that has been submitted: the one that there
was, or else the first, with the outcome that was confirmed last. -/
theorem row_final (listed : Listed s) (run : List Step) (sig : String) :
    (Runs.final (step risk) s run).trades.get sig =
      rowAfter (s.trades.get sig) sig (run.filterMap Step.submission?)
        (Runs.shown (step risk) outcome? s run) := by
  induction run generalizing s with
  | nil => exact (rowAfter_nil _ _).symm
  | cons action run ih =>
      rw [Runs.final_cons, ih (listed.step action), row_step, List.filterMap_eq_flatMap_toList,
        List.filterMap_eq_flatMap_toList, List.flatMap_cons, Runs.shown]
      simp only [rowAfter, newRow_append, lastOutcome_append, settled_or]
      cases confirmed : lastOutcome sig (s.outcome? action).toList with
      | none =>
          rw [← Option.or_assoc]
          simp only [TradeRow.settled, Option.map_id']
      | some outcome =>
          rcases listed.outcome confirmed with ⟨silent, held⟩
          rcases Option.isSome_iff_exists.mp held with ⟨row, held⟩
          simp only [silent, held, Option.map_some, Option.some_or]

variable (risk s) in
/-- Over a run, what is confirmed and what is left in flight has been in flight or submitted, and
no entry is used twice. -/
theorem flow_final (run : List Step) :
    ((Runs.shown (step risk) outcome? s run).map TradeOutcome.signature ++
        (Runs.final (step risk) s run).waiting.map PendingConfirmation.signature).Subperm
      ((run.filterMap Step.submission?).map (fun submission => submission.1.signature) ++
        s.waiting.map PendingConfirmation.signature) := by
  induction run generalizing s with
  | nil => exact List.Subperm.refl _
  | cons action run ih =>
      rw [List.filterMap_eq_flatMap_toList, List.flatMap_cons, ← List.filterMap_eq_flatMap_toList,
        Runs.shown, Runs.final_cons, List.map_append, List.map_append, List.append_assoc]
      have later := (List.subperm_append_left
        ((s.outcome? action).toList.map TradeOutcome.signature)).mpr (ih (s.step risk action))
      have now := (List.subperm_append_left ((run.filterMap Step.submission?).map
        fun submission => submission.1.signature)).mpr (s.flow_step risk action)
      refine later.trans ((List.perm_append_comm_assoc _ _ _).subperm.trans (now.trans ?_))
      rw [List.append_assoc]
      exact (List.perm_append_comm_assoc _ _ _).subperm

end

end Books

namespace EventLoop

variable {letters : Alphanumeric} {ctx : EventLoopContext}

/-! ## Bookings -/

/-- What the table is told of an accepted transaction. -/
def tradeOf (submission : Submission) : TradeData where
  tokenMint := submission.attempt.opp.tokenMint
  buyVenue := submission.attempt.opp.buyVenue.name
  sellVenue := submission.attempt.opp.sellVenue.name
  investmentSol := submission.attempt.opp.investmentSol
  estimatedProfitSol := submission.attempt.opp.netProfitSol

/-- What the confirmation task is told of it. -/
def pendingOf (ctx : EventLoopContext) (submission : Submission) : PendingConfirmation where
  signature := submission.signature
  estimatedNetProfitSol := submission.attempt.opp.netProfitSol
  priorityFeeSol := ctx.priorityFeeSol

/-- The transaction that a step books. -/
def bookedBy (s : EventLoop) : Step letters → List Submission
  | .locked =>
      match s.point with
      | .trying _ (.booking submission) => [submission]
      | _ => []
  | _ => []

/-- What a step confirms. -/
def outcome? (s : EventLoop) : Step letters → Option TradeOutcome
  | .confirmation action => s.books.outcome? action.book
  | _ => none

/-- Only these steps show as submissions in the books. -/
theorem submission?_bookCall? (s : EventLoop) (action : Step letters) :
    (s.bookCall? ctx action).toList.filterMap Books.Step.submission? =
      (s.bookedBy action).map fun submission => (pendingOf ctx submission, tradeOf submission) := by
  cases action with
  | confirmation action => cases action <;> rfl
  | weigh today now =>
      simp only [bookCall?, bookedBy]
      split
      · split
        · rfl
        · rfl
      · rfl
  | locked =>
      cases point : s.point with
      | trying attempt stage =>
          cases stage with
          | _ =>
              simp only [bookCall?, bookedBy, point]
              rfl
      | _ =>
          simp only [bookCall?, bookedBy, point]
          rfl
  | background | streamed | pooled | wake | take | scanned | answered | elapsed | clockSet => rfl

variable (ctx) in
/-- Only the steps of the confirmation task show as outcomes in the books. -/
theorem outcome?_bookCall? (s : EventLoop) (action : Step letters) :
    (s.bookCall? ctx action).bind s.books.outcome? = s.outcome? action := by
  cases action with
  | weigh today now =>
      simp only [bookCall?, outcome?]
      split
      · split
        · rfl
        · rfl
      · rfl
  | locked =>
      simp only [bookCall?, outcome?]
      split
      · rfl
      · rfl
      · rfl
  | confirmation | background | streamed | pooled | wake | take | scanned | answered | elapsed
  | clockSet => rfl

variable (ctx) in
/-- A step that accepts a transaction leaves it to be booked, and a step that books one has
found it accepted. -/
theorem log_step (s : EventLoop) (action : Step letters) :
    ∃ accepted, (s.step ctx action).log = s.log ++ accepted ∧
      s.point.unbooked ++ accepted = s.bookedBy action ++ (s.step ctx action).point.unbooked := by
  have still {next : EventLoop} (log : next.log = s.log)
      (point : s.point.unbooked = next.point.unbooked) :
      ∃ accepted, next.log = s.log ++ accepted ∧
        s.point.unbooked ++ accepted = [] ++ next.point.unbooked :=
    ⟨[], log.trans (List.append_nil _).symm, (List.append_nil _).trans point⟩
  cases action with
  | background action =>
      simp only [step, bookedBy]
      split
      · exact still rfl rfl
      · exact still rfl rfl
  | confirmation | streamed | pooled | wake | elapsed | clockSet => exact still rfl rfl
  | take =>
      simp only [step, bookedBy]
      split
      · next idle =>
          have rest := onTake_rest letters idle
          apply still
          · exact congrArg (fun fields => fields.2.1) rest.1
          · rw [rest.2, idle]
            rfl
      · exact still rfl rfl
  | scanned opps =>
      simp only [step, bookedBy]
      split
      · next mint point => exact still rfl (by rw [point]; rfl)
      · exact still rfl rfl
  | weigh today now =>
      simp only [step, bookedBy]
      split
      · next mint opps point =>
          have rest := onWeigh_rest ctx s mint opps today now
          apply still
          · exact congrArg (fun fields => fields.2.1) rest.1
          · rw [rest.2, point]
            rfl
      · exact still rfl rfl
  | answered answer =>
      simp only [step, bookedBy]
      split
      · next attempt stage point =>
          rcases onAnswer_or ctx s attempt stage answer with free | same
          · rw [← point] at free
            simp only [free, List.nil_append]
            rcases (turn_onAnswer stage answer).log with ⟨log, moved⟩ | ⟨submission, log, point⟩
            · refine ⟨[], log.trans (List.append_nil _).symm, ?_⟩
              rcases moved with stays | quiet
              · rw [stays, free]
              · exact quiet.symm
            · exact ⟨[submission], log, point.symm⟩
          · rw [same]
            exact still rfl rfl
      · exact still rfl rfl
  | locked =>
      cases point : s.point with
      | trying attempt stage =>
          cases stage with
          | booking submission =>
              simp only [step, bookedBy, point]
              exact ⟨[], (List.append_nil _).symm, rfl⟩
          | accepted submission =>
              simp only [step, bookedBy, point]
              exact ⟨[], (List.append_nil _).symm, rfl⟩
          | failed =>
              simp only [step, bookedBy, point]
              exact ⟨[], (List.append_nil _).symm, rfl⟩
          | _ =>
              simp only [step, bookedBy, point, onLock]
              exact ⟨[], (List.append_nil _).symm, rfl⟩
      | _ =>
          simp only [step, bookedBy, point]
          exact ⟨[], (List.append_nil _).symm, rfl⟩

variable (ctx) in
/-- Over a run, what is accepted is booked in order, but for what is about to be booked. -/
theorem log_final (s : EventLoop) (run : List (Step letters)) :
    ∃ booked accepted,
      (Runs.shown (step ctx) (bookCall? ctx) s run).filterMap Books.Step.submission? =
          booked.map (fun submission => (pendingOf ctx submission, tradeOf submission)) ∧
        (Runs.final (step ctx) s run).log = s.log ++ accepted ∧
        s.point.unbooked ++ accepted = booked ++ (Runs.final (step ctx) s run).point.unbooked := by
  induction run generalizing s with
  | nil => exact ⟨[], [], rfl, (List.append_nil _).symm, List.append_nil _⟩
  | cons action run ih =>
      rcases log_step ctx s action with ⟨first, grown, moved⟩
      rcases ih (s.step ctx action) with ⟨booked, accepted, submitted, log, rest⟩
      refine ⟨s.bookedBy action ++ booked, first ++ accepted, ?_, ?_, ?_⟩
      · rw [Runs.shown, List.filterMap_append, submission?_bookCall?, submitted, List.map_append]
      · rw [Runs.final_cons, log, grown, List.append_assoc]
      · rw [Runs.final_cons, ← List.append_assoc, moved, List.append_assoc, rest,
          List.append_assoc]

/-- In every order of steps, the accepted transactions are booked in order and once each, but
for one that the main loop is about to book; each is confirmed at most once; and under every
signature the table has the row of an earlier run, or else that of the trade that was booked
first, with the outcome that was confirmed last, and nothing else. -/
theorem bookings_exact (ctx : EventLoopContext) (pool : RpcPool) (table : WhitelistTable)
    (today : NaiveDate) (trades : TradesTable) (clock : ℤ) (run : List (Step letters)) :
    let first := start pool table today trades clock
    let s := Runs.final (step ctx) first run
    let outcomes := Runs.shown (step ctx) outcome? first run
    ∃ booked, s.log = booked ++ s.point.unbooked ∧
      (outcomes.map TradeOutcome.signature).Subperm (booked.map Submission.signature) ∧
      ∀ sig, s.books.trades.get sig =
        ((trades.get sig).or ((booked.find? fun submission => submission.signature = sig).map
          fun submission => (tradeOf submission).row)).map
            fun row => row.settled (Books.lastOutcome sig outcomes) := by
  intro first s outcomes
  rcases log_final ctx first run with ⟨booked, accepted, submitted, log, rest⟩
  have books : s.books = _ := (shows_books ctx).final first run
  have outcomes_eq : Runs.shown (Books.step ctx.risk) Books.outcome? (.start today trades)
      (Runs.shown (step ctx) (bookCall? ctx) first run) = outcomes := by
    have shown := (shows_books ctx).shown_shown Books.outcome? first run
    simp only [outcome?_bookCall?] at shown
    exact shown
  refine ⟨booked, log.trans rest, ?_, ?_⟩
  · have flow := (Books.start today trades).flow_final ctx.risk
      (Runs.shown (step ctx) (bookCall? ctx) first run)
    have idle : (Books.start today trades).waiting.map PendingConfirmation.signature = [] := rfl
    rw [outcomes_eq, submitted, List.map_map, idle, List.append_nil] at flow
    exact List.Subperm.trans (List.sublist_append_left _ _).subperm flow
  · intro sig
    rw [books]
    have row := Books.row_final ctx.risk (Books.listed_start today trades)
      (Runs.shown (step ctx) (bookCall? ctx) first run) sig
    rw [outcomes_eq, submitted, Books.rowAfter, Books.newRow, List.find?_map] at row
    refine row.trans ?_
    rw [Option.map_map]
    rfl

/-! ## Agreement -/

/-- Every trade in flight is counted, and the table agrees with the tracker. -/
structure InStep (before : ℚ) (books : Books) : Prop where
  conserved : books.inFlight.Conserved
  agree : books.Agree before

/-- A step of the books forgets no trade in flight and submits no signature again. -/
structure Orderly (books : Books) (call : Books.Step) : Prop where
  clean : books.inFlight.Clean call.tracked
  fresh : books.Fresh call

/-- In every order of steps, the counter of pending trades, the total of the tracker and the
table of trades stay in step for as long as the confirmation task drops no trade unconfirmed,
no new day starts over one, and no signature is accepted again; and no longer. -/
theorem books_inStep_iff (ctx : EventLoopContext) (pool : RpcPool) (table : WhitelistTable)
    (today : NaiveDate) (trades : TradesTable) (clock : ℤ) (run : List (Step letters)) :
    Runs.Always (step ctx) (fun s => InStep (trades.total TradeRow.profit) s.books)
        (start pool table today trades clock) run ↔
      Runs.Throughout (step ctx) (fun s action => ∀ call ∈ s.bookCall? ctx action,
        Orderly s.books call) (start pool table today trades clock) run := by
  refine (shows_books ctx).always_iff run ?_ ?_
  · exact ⟨InFlight.conserved_start today, Books.agree_start today trades⟩
  · intro books call inStep
    have clean : (books.step ctx.risk call).inFlight.Conserved ↔
        books.inFlight.Clean call.tracked :=
      InFlight.conserved_step_iff inStep.conserved call.tracked
    have fresh : (books.step ctx.risk call).Agree (trades.total TradeRow.profit) ↔
        books.Fresh call := Books.agree_step_iff inStep.agree call
    exact ⟨fun after => ⟨clean.mp after.conserved, fresh.mp after.agree⟩,
      fun orderly => ⟨clean.mpr orderly.clean, fresh.mpr orderly.fresh⟩⟩

end EventLoop

end AtomicArbitrage.Bot
