import AtomicArbitrage.Bot.InFlight
import AtomicArbitrage.Library.AssocMap

/-!
# The books

Every accepted trade has a row in the table `trades` of the database, which its confirmation
fills in.  The row is written under the lock under which the tracker counts the trade, so that
the table and the tracker change together.  The code only logs a statement that fails; here
statements succeed.  Amounts in floating point, and their sums, are read as exact rationals.
-/

namespace AtomicArbitrage.Bot

open SwapRemove

/-! ## The table -/

/-- A row of the table `trades`, without its times and its number. -/
structure TradeRow where
  tokenMint : String
  buyVenue : String
  sellVenue : String
  investmentSol : ℚ
  estimatedProfitSol : ℚ
  actualProfitSol : Option ℚ
  succeeded : Option Bool
deriving DecidableEq

/-- The rows by their signatures, which are unique. -/
abbrev TradesTable := AssocMap String TradeRow

/-- `trade_insert_submitted`: `INSERT OR IGNORE` of a row without an outcome. -/
def tradeInsertSubmitted (table : TradesTable) (sig mint buyVenue sellVenue : String)
    (investmentSol estimatedProfitSol : ℚ) : TradesTable :=
  match table.get sig with
  | some _ => table
  | none =>
      table.insert sig
        { tokenMint := mint
          buyVenue := buyVenue
          sellVenue := sellVenue
          investmentSol := investmentSol
          estimatedProfitSol := estimatedProfitSol
          actualProfitSol := none
          succeeded := none }

/-- `trade_update_confirmed`. -/
def tradeUpdateConfirmed (table : TradesTable) (sig : String) (actualPnlSol : ℚ)
    (succeeded : Bool) : TradesTable :=
  table.modify sig fun row =>
    { row with actualProfitSol := some actualPnlSol, succeeded := some succeeded }

/-- What a row adds to the sum of the column `actual_profit_sol`. -/
def TradeRow.profit (row : TradeRow) : ℚ := row.actualProfitSol.getD 0

/-- What is confirmed of a signature. -/
structure TradeOutcome where
  signature : String
  pnlSol : ℚ
  succeeded : Bool

/-- A row with an outcome, if there is one. -/
def TradeRow.settled (row : TradeRow) : Option TradeOutcome → TradeRow
  | none => row
  | some outcome =>
      { row with
        actualProfitSol := some outcome.pnlSol
        succeeded := some outcome.succeeded }

/-! ## The books -/

/-- What is written of a trade besides its signature. -/
structure TradeData where
  tokenMint : String
  buyVenue : String
  sellVenue : String
  investmentSol : ℚ
  estimatedProfitSol : ℚ

/-- The row of a trade without an outcome. -/
def TradeData.row (trade : TradeData) : TradeRow where
  tokenMint := trade.tokenMint
  buyVenue := trade.buyVenue
  sellVenue := trade.sellVenue
  investmentSol := trade.investmentSol
  estimatedProfitSol := trade.estimatedProfitSol
  actualProfitSol := none
  succeeded := none

/-- The trades in flight with the table. -/
structure Books where
  inFlight : InFlight
  trades : TradesTable

namespace Books

/-- The books when the bot starts, over the table of earlier runs. -/
def start (today : NaiveDate) (trades : TradesTable) : Books where
  inFlight := .start today
  trades := trades

inductive Step where
  /-- A transaction was accepted: it is counted, sent to the task and written to the table. -/
  | submitted (p : PendingConfirmation) (trade : TradeData)
  | submitFailed
  | receive
  /-- An entry is booked in the tracker and in the table, and dropped.  The code books all
  entries of a cycle that have landed before it drops any; see `exists_run_of_cycle`. -/
  | confirm (place : Nat) (actualPnlSol : ℚ) (succeeded : Bool) (now : Instant)
  /-- The entries that a cycle leaves stand in another order. -/
  | reorder (pending : List PendingConfirmation)
  | evict
  | checkLimits (opp : OpportunityRisk) (today : NaiveDate) (now : Instant)

/-- What a step is to the trades in flight. -/
def Step.tracked : Step → InFlight.Step
  | .submitted p _ => .submitted p
  | .submitFailed => .submitFailed
  | .receive => .receive
  | .confirm place pnl succeeded now => .confirm place pnl succeeded now
  | .reorder pending => .reorder pending
  | .evict => .evict
  | .checkLimits opp today now => .checkLimits opp today now

/-- What a step is to the table. -/
def write (s : Books) : Step → TradesTable
  | .submitted p trade =>
      tradeInsertSubmitted s.trades p.signature trade.tokenMint trade.buyVenue trade.sellVenue
        trade.investmentSol trade.estimatedProfitSol
  | .confirm place pnl succeeded _ =>
      match s.inFlight.pending[place]? with
      | none => s.trades
      | some p => tradeUpdateConfirmed s.trades p.signature pnl succeeded
  | _ => s.trades

def step (risk : RiskConfig) (s : Books) (action : Step) : Books where
  inFlight := s.inFlight.step risk action.tracked
  trades := s.write action

/-- The trades that wait for their outcome. -/
def waiting (s : Books) : List PendingConfirmation := s.inFlight.channel ++ s.inFlight.pending

/-- The books with another pending list. -/
def withPending (s : Books) (pending : List PendingConfirmation) : Books :=
  { s with inFlight := { s.inFlight with pending } }

/-- The table has grown by the tracker's total, and every trade in flight has a row of its own
that still waits for its outcome. -/
structure Agree (before : ℚ) (s : Books) : Prop where
  totals : s.trades.total TradeRow.profit = before + s.inFlight.tracker.totalNetProfitSol
  distinct : (s.waiting.map PendingConfirmation.signature).Nodup
  waits : ∀ p ∈ s.waiting, ∃ row, s.trades.get p.signature = some row ∧
    row.actualProfitSol = none

/-- The signature of a submission is neither in flight nor has an outcome. -/
def Fresh (s : Books) : Step → Prop
  | .submitted p _ =>
      p.signature ∉ s.waiting.map PendingConfirmation.signature ∧
        ∀ row, s.trades.get p.signature = some row → row.actualProfitSol = none
  | _ => True

/-- What a step confirms. -/
def outcome? (s : Books) : Step → Option TradeOutcome
  | .confirm place pnl succeeded _ =>
      (s.inFlight.pending[place]?).map fun p =>
        { signature := p.signature, pnlSol := pnl, succeeded := succeeded }
  | _ => none

/-! ## Steps -/

section

variable {risk : RiskConfig} {before : ℚ} {s : Books}

theorem waiting_submitted (p : PendingConfirmation) (trade : TradeData) :
    (s.step risk (.submitted p trade)).waiting.Perm (p :: s.waiting) := by
  have appended : (s.step risk (.submitted p trade)).waiting =
      s.inFlight.channel ++ [p] ++ s.inFlight.pending := rfl
  rw [appended, List.append_assoc]
  exact List.perm_middle

theorem waiting_receive : (s.step risk .receive).waiting.Perm s.waiting := by
  cases channel : s.inFlight.channel with
  | nil =>
      have same : s.inFlight.step risk .receive = s.inFlight := by
        simp only [InFlight.step, channel]
      have waiting : (s.step risk .receive).waiting = s.waiting :=
        congrArg (fun inFlight => inFlight.channel ++ inFlight.pending) same
      rw [waiting]
  | cons p channel' =>
      have moved : s.inFlight.step risk .receive =
          { s.inFlight with channel := channel', pending := s.inFlight.pending ++ [p] } := by
        simp only [InFlight.step, channel]
      have after : (s.step risk .receive).waiting = channel' ++ (s.inFlight.pending ++ [p]) :=
        congrArg (fun inFlight => inFlight.channel ++ inFlight.pending) moved
      have before : s.waiting = p :: (channel' ++ s.inFlight.pending) := by
        rw [waiting, channel, List.cons_append]
      rw [after, before, ← List.append_assoc]
      exact List.perm_append_singleton p _

/-- Another order of the entries leaves everything else as it is. -/
theorem step_reorder {pending : List PendingConfirmation}
    (permuted : pending.Perm s.inFlight.pending) :
    s.step risk (.reorder pending) = s.withPending pending := by
  simp only [step, Step.tracked, InFlight.step, write, if_pos permuted]
  rfl

variable (risk s) in
theorem reorder_cases (pending : List PendingConfirmation) :
    (pending.Perm s.inFlight.pending ∧
        s.step risk (.reorder pending) = s.withPending pending) ∨
      s.step risk (.reorder pending) = s := by
  by_cases permuted : pending.Perm s.inFlight.pending
  · exact .inl ⟨permuted, step_reorder permuted⟩
  · right
    simp only [step, Step.tracked, InFlight.step, write, if_neg permuted]

theorem waiting_evict : (s.step risk .evict).waiting.Sublist s.waiting := by
  apply (List.Sublist.refl s.inFlight.channel).append
  have kept : (s.step risk .evict).inFlight.pending = InFlight.evicted s.inFlight.pending := rfl
  rw [kept, InFlight.evicted]
  split
  · exact List.drop_sublist _ _
  · exact .refl _

variable (risk s) in
/-- A confirmation is of an entry, which it drops, or of none. -/
theorem confirm_cases (place : Nat) (pnl : ℚ) (succeeded : Bool) (now : Instant) :
    (s.inFlight.pending[place]? = none ∧ s.step risk (.confirm place pnl succeeded now) = s) ∨
      ∃ p left, s.inFlight.pending[place]? = some p ∧
        (p :: (s.inFlight.channel ++ left)).Perm s.waiting ∧
        s.step risk (.confirm place pnl succeeded now) =
          { inFlight :=
              { s.inFlight with
                tracker := s.inFlight.tracker.recordConfirmation pnl succeeded risk now
                pending := left }
            trades := tradeUpdateConfirmed s.trades p.signature pnl succeeded } := by
  cases dropped : swapRemove? s.inFlight.pending place with
  | none =>
      have outside := outside_of_swapRemove? dropped
      left
      refine ⟨outside, ?_⟩
      simp only [step, Step.tracked, InFlight.step, write, dropped, outside]
  | some rest =>
      rcases perm_of_swapRemove? dropped with ⟨p, found, permuted⟩
      right
      refine ⟨p, rest, found, ?_, ?_⟩
      · exact List.perm_middle.symm.trans (permuted.append_left s.inFlight.channel)
      · simp only [step, Step.tracked, InFlight.step, write, dropped, found]

theorem agree_start (today : NaiveDate) (trades : TradesTable) :
    Agree (trades.total TradeRow.profit) (start today trades) where
  totals := (add_zero _).symm
  distinct := .nil
  waits := nofun

theorem get_insertSubmitted (table : TradesTable) (sig mint buyVenue sellVenue : String)
    (investmentSol estimatedProfitSol : ℚ) (other : String) :
    (tradeInsertSubmitted table sig mint buyVenue sellVenue investmentSol
        estimatedProfitSol).get other =
      if other = sig ∧ table.get sig = none then
        some ⟨mint, buyVenue, sellVenue, investmentSol, estimatedProfitSol, none, none⟩
      else table.get other := by
  rw [tradeInsertSubmitted]
  cases held : table.get sig with
  | some row => simp
  | none => simp [AssocMap.get_insert]

/-- A new row adds nothing to the sum of the outcomes. -/
theorem total_insertSubmitted (table : TradesTable) (sig mint buyVenue sellVenue : String)
    (investmentSol estimatedProfitSol : ℚ) :
    (tradeInsertSubmitted table sig mint buyVenue sellVenue investmentSol
        estimatedProfitSol).total TradeRow.profit = table.total TradeRow.profit := by
  rw [tradeInsertSubmitted]
  cases held : table.get sig with
  | some row => rfl
  | none =>
      rw [AssocMap.total_insert _ held]
      exact add_zero _

/-- Submissions agree exactly when they are fresh. -/
theorem agree_submitted_iff (agree : Agree before s) (p : PendingConfirmation)
    (trade : TradeData) :
    Agree before (s.step risk (.submitted p trade)) ↔ s.Fresh (.submitted p trade) := by
  have inFlight : (s.step risk (.submitted p trade)).waiting.Perm (p :: s.waiting) :=
    waiting_submitted p trade
  have signatures := inFlight.map PendingConfirmation.signature
  rw [List.map_cons] at signatures
  have rows (other : String) := get_insertSubmitted s.trades p.signature trade.tokenMint
    trade.buyVenue trade.sellVenue trade.investmentSol trade.estimatedProfitSol other
  constructor
  · intro after
    refine ⟨(List.nodup_cons.mp (signatures.nodup_iff.mp after.distinct)).1, ?_⟩
    intro row held
    rcases after.waits p (inFlight.mem_iff.mpr (List.mem_cons_self ..)) with
      ⟨row', found, waits⟩
    have kept : (s.step risk (.submitted p trade)).trades.get p.signature = some row := by
      refine (rows p.signature).trans ?_
      rw [held, if_neg (fun both => nomatch both.2)]
    rw [kept, Option.some_inj] at found
    rw [found]
    exact waits
  · rintro ⟨fresh, open_⟩
    refine ⟨?_, ?_, ?_⟩
    · exact (total_insertSubmitted ..).trans agree.totals
    · exact signatures.nodup_iff.mpr (List.nodup_cons.mpr ⟨fresh, agree.distinct⟩)
    · intro other waiting
      have found : (s.step risk (.submitted p trade)).trades.get other.signature = _ :=
        rows other.signature
      rw [found]
      split
      · exact ⟨_, rfl, rfl⟩
      · next kept =>
          rcases List.mem_cons.mp (inFlight.mem_iff.mp waiting) with same | earlier
          · subst same
            cases held : s.trades.get other.signature with
            | none => exact absurd ⟨rfl, held⟩ kept
            | some row => exact ⟨row, rfl, open_ row held⟩
          · exact agree.waits other earlier

/-- Fewer trades in flight over the same rows agree as well. -/
theorem Agree.fewer (agree : Agree before s) (next : Books) (trades : next.trades = s.trades)
    (total : next.inFlight.tracker.totalNetProfitSol = s.inFlight.tracker.totalNetProfitSol)
    (fewer : next.waiting.Subperm s.waiting) : Agree before next where
  totals := by
    rw [trades, total]
    exact agree.totals
  distinct := by
    rcases fewer with ⟨kept, permuted, sublist⟩
    have distinct := agree.distinct.sublist (sublist.map PendingConfirmation.signature)
    exact (permuted.map _).nodup_iff.mp distinct
  waits p waiting := by
    rw [trades]
    exact agree.waits p (fewer.subset waiting)

theorem agree_receive (agree : Agree before s) : Agree before (s.step risk .receive) := by
  refine agree.fewer _ rfl ?_ waiting_receive.subperm
  have total : (s.inFlight.step risk .receive).tracker = s.inFlight.tracker := by
    simp only [InFlight.step]
    split
    · rfl
    · rfl
  exact congrArg RiskTracker.totalNetProfitSol total

/-- A confirmation moves its profit into the table and into the total alike. -/
theorem agree_confirm (agree : Agree before s) (place : Nat) (pnl : ℚ) (succeeded : Bool)
    (now : Instant) : Agree before (s.step risk (.confirm place pnl succeeded now)) := by
  rcases s.confirm_cases risk place pnl succeeded now with
    ⟨_, same⟩ | ⟨p, left, _, inFlight, booked⟩
  · rw [same]
    exact agree
  · have signatures := (inFlight.map PendingConfirmation.signature).nodup_iff.mpr agree.distinct
    rw [List.map_cons, List.nodup_cons] at signatures
    rcases agree.waits p (inFlight.mem_iff.mp (List.mem_cons_self ..)) with ⟨row, held, waits⟩
    rw [booked]
    refine ⟨?_, signatures.2, ?_⟩
    · have moved := AssocMap.total_modify TradeRow.profit
        (fun row => { row with actualProfitSol := some pnl, succeeded := some succeeded }) held
      have nothing : row.profit = 0 := by rw [TradeRow.profit, waits, Option.getD_none]
      rw [nothing, add_zero, agree.totals] at moved
      rw [RiskTracker.recordConfirmation_total, ← add_assoc]
      exact moved
    · intro other waiting
      have others := agree.waits other (inFlight.mem_iff.mp (List.mem_cons_of_mem _ waiting))
      have differ : other.signature ≠ p.signature := by
        intro same
        exact signatures.1 (List.mem_map.mpr ⟨other, waiting, same⟩)
      simp only [tradeUpdateConfirmed, AssocMap.get_modify, if_neg differ]
      exact others

theorem agree_reorder (agree : Agree before s) (pending : List PendingConfirmation) :
    Agree before (s.step risk (.reorder pending)) := by
  rcases s.reorder_cases risk pending with ⟨permuted, same⟩ | same
  · rw [same]
    exact agree.fewer _ rfl rfl (permuted.append_left s.inFlight.channel).subperm
  · rw [same]
    exact agree

/-- A step agrees exactly when it is fresh. -/
theorem agree_step_iff (agree : Agree before s) (action : Step) :
    Agree before (s.step risk action) ↔ s.Fresh action := by
  cases action with
  | submitted p trade => exact agree_submitted_iff agree p trade
  | submitFailed => exact iff_of_true ⟨agree.totals, agree.distinct, agree.waits⟩ trivial
  | receive => exact iff_of_true (agree_receive agree) trivial
  | confirm place pnl succeeded now =>
      exact iff_of_true (agree_confirm agree place pnl succeeded now) trivial
  | reorder pending => exact iff_of_true (agree_reorder agree pending) trivial
  | evict => exact iff_of_true (agree.fewer _ rfl rfl waiting_evict.subperm) trivial
  | checkLimits opp today now =>
      apply iff_of_true _ trivial
      refine ⟨?_, agree.distinct, agree.waits⟩
      have kept : (s.step risk (.checkLimits opp today now)).inFlight.tracker.totalNetProfitSol =
          s.inFlight.tracker.totalNetProfitSol :=
        s.inFlight.tracker.checkLimits_total opp today now
      rw [kept]
      exact agree.totals

end

/-! ## A cycle of the task -/

/-- The steps that a cycle takes. -/
def Step.ofCycle : Step → Bool
  | .confirm _ _ _ _ => true
  | .reorder _ => true
  | _ => false

/-- A call that a cycle makes, at some instant. -/
def obey (risk : RiskConfig) (s : Books) : Effect × Instant → Books
  | (.recordConfirmation pnl succeeded, now) =>
      { s with inFlight :=
        { s.inFlight with
          tracker := s.inFlight.tracker.recordConfirmation pnl succeeded risk now } }
  | (.tradeUpdateConfirmed sig pnl succeeded, _) =>
      { s with trades := tradeUpdateConfirmed s.trades sig pnl succeeded }
  | _ => s

section

variable {risk : RiskConfig} {s : Books}

theorem foldl_obey_withPending (calls : List (Effect × Instant))
    (pending : List PendingConfirmation) :
    calls.foldl (obey risk) (s.withPending pending) =
      (calls.foldl (obey risk) s).withPending pending := by
  induction calls generalizing s with
  | nil => rfl
  | cons call calls ih =>
      have same : obey risk (s.withPending pending) call =
          (obey risk s call).withPending pending := by
        rcases call with ⟨effect, now⟩
        cases effect <;> rfl
      rw [List.foldl_cons, same, ih, List.foldl_cons]

/-- Only the two calls that book an outcome change the books. -/
theorem foldl_obey_filter (calls : List (Effect × Instant)) :
    (calls.filter fun call => call.1.books).foldl (obey risk) s = calls.foldl (obey risk) s := by
  induction calls generalizing s with
  | nil => rfl
  | cons call calls ih =>
      rcases call with ⟨effect, now⟩
      cases effect with
      | recordConfirmation | tradeUpdateConfirmed =>
          rw [List.filter_cons_of_pos rfl, List.foldl_cons, ih, List.foldl_cons]
      | confirmationsLate | tradesSucceeded | profitSol =>
          rw [List.filter_cons_of_neg Bool.false_ne_true, ih, List.foldl_cons]
          rfl

/-- The calls for an entry book its outcome, at one instant or another. -/
theorem exists_obey_confirmEntry {rpc : ConfirmationRpc} {latencyMs : PendingConfirmation → Nat}
    {sig : Signature} {p : PendingConfirmation} {status : TransactionStatus}
    {calls : List (Effect × Instant)}
    (made : calls.map Prod.fst = confirmEntry rpc latencyMs sig p status) :
    ∃ pnl now, ∀ s : Books, calls.foldl (obey risk) s =
      { inFlight :=
          { s.inFlight with
            tracker := s.inFlight.tracker.recordConfirmation pnl status.isOk risk now }
        trades := tradeUpdateConfirmed s.trades p.signature pnl status.isOk } := by
  have booked := @confirmEntry_books rpc latencyMs sig p status
  rw [← made, List.filter_map] at booked
  rcases List.map_eq_cons_iff.mp booked with ⟨⟨_, now⟩, _, kept, rfl, last⟩
  rcases List.map_eq_singleton_iff.mp last with ⟨⟨_, _⟩, rfl, rfl⟩
  refine ⟨(extractActualPnl rpc sig).getD (fallbackPnl p status.isOk), now, ?_⟩
  intro s
  rw [← foldl_obey_filter]
  exact congrArg (List.foldl (obey risk) s) kept

/-- The loop over the statuses, from an index on: its calls are confirmations of entries that are
still pending, and the entries at the places it collects are dropped. -/
theorem exists_confirms {rpc : ConfirmationRpc} {latencyMs : PendingConfirmation → Nat}
    {signatures : List Signature} {pending : List PendingConfirmation}
    (statuses : List (Option TransactionStatus)) (i : Nat) {effects : List Effect}
    {indices : List Nat} {calls : List (Effect × Instant)} (front : List PendingConfirmation)
    (held : s.inFlight.pending.Perm (front ++ pending.drop i))
    (looped : statusLoop rpc latencyMs signatures pending i statuses = some (effects, indices))
    (made : calls.map Prod.fst = effects) :
    ∃ steps left, (∀ action ∈ steps, action.ofCycle = true) ∧
      (marked (statuses.map Option.isSome) (pending.drop i) ++ left).Perm s.inFlight.pending ∧
      Runs.final (step risk) s steps = (calls.foldl (obey risk) s).withPending left := by
  induction statuses generalizing s i effects indices calls front with
  | nil =>
      cases looped
      rw [List.map_eq_nil_iff.mp made]
      exact ⟨[], s.inFlight.pending, List.forall_mem_nil _, .refl _, rfl⟩
  | cons status statuses ih =>
      cases status with
      | none =>
          rw [statusLoop] at looped
          rw [List.map_cons, Option.isSome_none]
          rcases Nat.lt_or_ge i pending.length with inside | outside
          · rw [List.drop_eq_getElem_cons inside] at held ⊢
            rw [List.append_cons] at held
            exact ih (i + 1) _ held looped made
          · have later : pending.length ≤ i + 1 := Nat.le_succ_of_le outside
            rw [List.drop_eq_nil_of_le outside] at held ⊢
            rw [← List.drop_eq_nil_of_le later] at held
            have rest := ih (i + 1) front held looped made
            rw [List.drop_eq_nil_of_le later, marked_nil] at rest
            exact rest
      | some status =>
          simp only [statusLoop, Option.bind_eq_bind, Option.bind_eq_some_iff] at looped
          rcases looped with ⟨sig, _, p, found, ⟨more, rest⟩, looped, same⟩
          cases same
          rcases List.map_eq_append_iff.mp made with ⟨own, others, rfl, ownMade, othersMade⟩
          rcases List.getElem?_eq_some_iff.mp found with ⟨inside, same⟩
          rw [List.drop_eq_getElem_cons inside, same] at held ⊢
          -- the entry is still pending, at some place
          have present : p ∈ s.inFlight.pending :=
            held.mem_iff.mpr (List.mem_append_right _ (List.mem_cons_self ..))
          rcases exists_swapRemove? present with ⟨place, left, at_, dropped, permuted⟩
          rcases @exists_obey_confirmEntry risk _ _ _ _ _ _ ownMade with ⟨pnl, now, booked⟩
          have step : s.step risk (.confirm place pnl status.isOk now) =
              (own.foldl (obey risk) s).withPending left := by
            rw [booked]
            simp only [Books.step, Step.tracked, InFlight.step, write, dropped, at_]
            rfl
          have behind : ((own.foldl (obey risk) s).withPending left).inFlight.pending.Perm
              (front ++ pending.drop (i + 1)) :=
            List.Perm.cons_inv (permuted.trans (held.trans List.perm_middle))
          rcases ih (i + 1) front behind looped othersMade with
            ⟨steps, last, ofCycle, gone, same⟩
          refine ⟨.confirm place pnl status.isOk now :: steps, last, ?_, ?_, ?_⟩
          · exact List.forall_mem_cons.mpr ⟨rfl, ofCycle⟩
          · exact (gone.cons p).trans permuted
          · rw [Runs.final_cons, step, same, foldl_obey_withPending, List.foldl_append]
            rfl

/-- A cycle of the task is a run: a confirmation for every entry that it books, and the order
of what it leaves. -/
theorem exists_run_of_cycle {rpc : ConfirmationRpc} {latencyMs : PendingConfirmation → Nat}
    {statusOf : Signature → Option TransactionStatus}
    (answers : rpc.getSignatureStatuses (parsedSignatures s.inFlight.pending) =
      some ((parsedSignatures s.inFlight.pending).map statusOf))
    {effects : List Effect} {remaining : List PendingConfirmation}
    (cycle : confirmationCycle rpc latencyMs s.inFlight.pending = some (effects, remaining))
    {calls : List (Effect × Instant)} (made : calls.map Prod.fst = effects) :
    ∃ steps, (∀ action ∈ steps, action.ofCycle = true) ∧
      Runs.final (step risk) s steps =
        (calls.foldl (obey risk) s).withPending remaining := by
  rcases @confirmationCycle_drops rpc latencyMs _ _ answers with
    ⟨effects', indices, remaining', looped, cycle', gone⟩
  rw [cycle] at cycle'
  cases cycle'
  rcases exists_confirms _ 0 [] (.refl _) looped made with
    ⟨steps, left, ofCycle, gone', same⟩
  have marks : ((parsedSignatures s.inFlight.pending).map statusOf).map Option.isSome =
      statusMarks statusOf s.inFlight.pending := List.map_map
  rw [marks, List.drop_zero] at gone'
  have reordered : remaining.Perm left :=
    (List.perm_append_left_iff _).mp (gone.trans gone'.symm)
  refine ⟨steps ++ [.reorder remaining], ?_, ?_⟩
  · intro action inside
    rcases List.mem_append.mp inside with earlier | last
    · exact ofCycle action earlier
    · rw [List.mem_singleton.mp last]
      rfl
  · rw [Runs.final_append, same, Runs.final_cons, Runs.final_nil]
    exact step_reorder reordered

end

/-- Over any order of submissions, checks, evictions and confirmations the table agrees with
the tracker for as long as no signature is submitted again that is in flight or has an
outcome, and no longer. -/
theorem agree_iff_fresh (risk : RiskConfig) (today : NaiveDate) (trades : TradesTable)
    (run : List Step) :
    Runs.Always (step risk) (Agree (trades.total TradeRow.profit)) (start today trades) run ↔
      Runs.Throughout (step risk) Fresh (start today trades) run :=
  Runs.always_iff_throughout run (agree_start today trades)
    fun _ action agree => agree_step_iff agree action

end Books

end AtomicArbitrage.Bot
