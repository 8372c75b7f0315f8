import AtomicArbitrage.Bot.ProfitEstimate
import AtomicArbitrage.Library.Runs

/-!
# The wrap guard

Before a trade the bot makes sure of its wrapped SOL, and wraps more where it is short.  A
flag keeps it from wrapping twice: a call takes it before it asks for a block hash, and a
task that sleeps for ten seconds after the submission gives it back.  The calls come one
after the other from the event loop; the task can wake between any two answers.  Amounts of SOL
in floating point are read as exact rationals.
-/

namespace AtomicArbitrage.Bot

/-- `sol_to_lamports`. -/
def solToLamports (sol : ℚ) : ℕ :=
  let lamports := sol * 1000000000
  if lamports < 0 then 0
  else if lamports > 2 ^ 64 then 2 ^ 64 - 1
  else asU64 lamports

/-- Where a call of `ensure_wsol_balance` waits for an answer. -/
inductive WrapCall where
  /-- No call runs: the last one has returned. -/
  | idle
  | tokenBalance (investmentLamports : ℕ)
  | nativeBalance (deficit : ℕ)
  | latestBlockhash (wrapAmount : ℕ)
  | sendTransaction (wrapAmount : ℕ)
deriving DecidableEq

/-- `WRAP_IN_FLIGHT`, the tasks that sleep before they reset it, and the call.  Nothing reads
the last two: they record what the flag was when the last call entered, and whether that call
has submitted a wrap. -/
structure WrapGuard where
  inFlight : Bool
  sleeping : ℕ
  call : WrapCall
  enteredSet : Bool
  submitted : Bool
deriving DecidableEq

namespace WrapGuard

/-- The state when the bot starts. -/
def start : WrapGuard where
  inFlight := false
  sleeping := 0
  call := .idle
  enteredSet := false
  submitted := false

/-- What happens next. -/
inductive Event where
  /-- The event loop calls `ensure_wsol_balance`. -/
  | enter (investmentLamports : ℕ)
  /-- `get_token_account_balance` fails, or answers an amount that may not be a number. -/
  | tokenBalance (answer : Option (Option ℚ))
  | nativeBalance (answer : Option ℕ)
  | latestBlockhash (fetched : Bool)
  | sendTransaction (accepted : Bool)
  /-- A task wakes. -/
  | wake
deriving DecidableEq

/-- The call returns. -/
def returned (s : WrapGuard) : WrapGuard := { s with call := .idle }

section

variable (maxSingleInvestmentSol : ℚ)

/-- The WSOL that a trade requires: the investment and a buffer. -/
def required (investmentLamports : ℕ) : ℕ :=
  let buffer := solToLamports (maxSingleInvestmentSol * 2)
  min (investmentLamports + buffer) (2 ^ 64 - 1)

/-- Behind `get_token_account_balance`. -/
def onTokenBalance (s : WrapGuard) (investmentLamports : ℕ) (answer : Option (Option ℚ)) :
    WrapGuard :=
  match answer with
  | none => s.returned
  | some amount =>
      let wsolLamports := solToLamports (amount.getD 0)
      let required := required maxSingleInvestmentSol investmentLamports
      if wsolLamports ≥ required then s.returned
      else { s with call := .nativeBalance (required - wsolLamports) }

/-- Behind `get_balance`: a wrap that is worth it takes the flag, unless it is taken. -/
def onNativeBalance (s : WrapGuard) (deficit : ℕ) (answer : Option ℕ) : WrapGuard :=
  let nativeBalance := answer.getD 0
  let wrapAmount := min deficit (nativeBalance - 100000)
  if wrapAmount < 50000000 then s.returned
  else if s.inFlight then s.returned
  else { s with inFlight := true, call := .latestBlockhash wrapAmount }

/-- Behind `get_latest_blockhash`: the call returns without it as it is. -/
def onLatestBlockhash (s : WrapGuard) (wrapAmount : ℕ) (fetched : Bool) : WrapGuard :=
  if fetched then { s with call := .sendTransaction wrapAmount } else s.returned

/-- Behind `send_transaction`: a failure gives the flag back, a submission leaves that to a
task. -/
def onSendTransaction (s : WrapGuard) (accepted : Bool) : WrapGuard :=
  if accepted then { s.returned with sleeping := s.sleeping + 1, submitted := true }
  else { s.returned with inFlight := false }

/-- A step.  Only the answer that the call waits for reaches it. -/
def step (s : WrapGuard) : Event → WrapGuard
  | .enter investmentLamports =>
      match s.call with
      | .idle =>
          { s with
            call := .tokenBalance investmentLamports
            enteredSet := s.inFlight
            submitted := false }
      | _ => s
  | .tokenBalance answer =>
      match s.call with
      | .tokenBalance investmentLamports =>
          s.onTokenBalance maxSingleInvestmentSol investmentLamports answer
      | _ => s
  | .nativeBalance answer =>
      match s.call with
      | .nativeBalance deficit => s.onNativeBalance deficit answer
      | _ => s
  | .latestBlockhash fetched =>
      match s.call with
      | .latestBlockhash wrapAmount => s.onLatestBlockhash wrapAmount fetched
      | _ => s
  | .sendTransaction accepted =>
      match s.call with
      | .sendTransaction _ => s.onSendTransaction accepted
      | _ => s
  | .wake =>
      if s.sleeping = 0 then s
      else { s with inFlight := false, sleeping := s.sleeping - 1 }

end

/-! ## The flag -/

/-- The call has taken the flag. -/
def Holding (s : WrapGuard) : Prop :=
  match s.call with
  | .latestBlockhash _ => True
  | .sendTransaction _ => True
  | _ => False

/-- A call that entered without the flag set, and has returned without a submission, has
left the flag as it was. -/
def Atomic (s : WrapGuard) : Prop :=
  s.call = .idle → s.enteredSet = false → s.submitted = false → s.inFlight = false

/-- Outside of a call that has taken it, the flag is set only while a task will reset it. -/
def Released (s : WrapGuard) : Prop := s.Holding ∨ (s.inFlight = true → 0 < s.sleeping)

/-- Whatever happens, the flag stays set. -/
def BlockedForGood (maxSingleInvestmentSol : ℚ) (s : WrapGuard) : Prop :=
  ∀ run, (Runs.final (step maxSingleInvestmentSol) s run).inFlight = true

/-- No block hash is missed by a call that has taken the flag. -/
def BlockhashFetched (s : WrapGuard) (event : Event) : Prop :=
  (∃ wrapAmount, s.call = .latestBlockhash wrapAmount) → event ≠ .latestBlockhash false

/-- The flag is set by the call or by a submission, and by one of them. -/
structure Consistent (s : WrapGuard) : Prop where
  holding : s.Holding → s.inFlight = true ∧ s.sleeping = 0
  released : ¬s.Holding → s.sleeping = s.inFlight.toNat
  atomic : ¬s.Holding → s.enteredSet = false → s.submitted = false → s.inFlight = false

theorem consistent_start : Consistent start where
  holding held := absurd held id
  released _ := rfl
  atomic _ _ _ := rfl

section

variable {maxSingleInvestmentSol : ℚ} {s : WrapGuard}

theorem Consistent.returned (consistent : Consistent s) (free : ¬s.Holding) :
    Consistent s.returned where
  holding held := absurd held id
  released _ := consistent.released free
  atomic _ := consistent.atomic free

theorem Consistent.enter (consistent : Consistent s) (free : ¬s.Holding)
    (investmentLamports : ℕ) :
    Consistent { s with
      call := .tokenBalance investmentLamports
      enteredSet := s.inFlight
      submitted := false } where
  holding held := absurd held id
  released _ := consistent.released free
  atomic _ entered _ := entered

theorem Consistent.onTokenBalance (consistent : Consistent s) (free : ¬s.Holding)
    (investmentLamports : ℕ) (answer : Option (Option ℚ)) :
    Consistent (s.onTokenBalance maxSingleInvestmentSol investmentLamports answer) := by
  cases answer with
  | none => exact consistent.returned free
  | some amount =>
      simp only [WrapGuard.onTokenBalance]
      split
      · exact consistent.returned free
      · exact ⟨fun held => absurd held id, fun _ => consistent.released free,
          fun _ => consistent.atomic free⟩

/-- The flag is taken only when it is not set, so that no task sleeps then. -/
theorem Consistent.onNativeBalance (consistent : Consistent s) (free : ¬s.Holding)
    (deficit : ℕ) (answer : Option ℕ) : Consistent (s.onNativeBalance deficit answer) := by
  simp only [WrapGuard.onNativeBalance]
  split
  · exact consistent.returned free
  · split
    · exact consistent.returned free
    · next unset =>
        have none : s.sleeping = 0 := by
          rw [consistent.released free, Bool.eq_false_of_not_eq_true unset]
          rfl
        exact ⟨fun _ => ⟨rfl, none⟩, fun free => absurd trivial free,
          fun free => absurd trivial free⟩

theorem Consistent.onSendTransaction (consistent : Consistent s) (held : s.Holding)
    (accepted : Bool) : Consistent (s.onSendTransaction accepted) := by
  have taken := consistent.holding held
  cases accepted with
  | true =>
      refine ⟨fun held => absurd held id, fun _ => ?_, fun _ _ sent => absurd sent nofun⟩
      simp only [WrapGuard.onSendTransaction, WrapGuard.returned, if_true, taken.1, taken.2]
      rfl
  | false => exact ⟨fun held => absurd held id, fun _ => taken.2, fun _ _ _ => rfl⟩

/-- A task that wakes was the only one, and no call holds the flag. -/
theorem Consistent.wake (consistent : Consistent s) :
    Consistent (step maxSingleInvestmentSol s .wake) := by
  simp only [step]
  split
  · exact consistent
  · next asleep =>
      have free : ¬s.Holding := fun held => asleep (consistent.holding held).2
      refine ⟨fun held => absurd held free, fun _ => ?_, fun _ _ _ => rfl⟩
      have one := consistent.released free
      cases set : s.inFlight with
      | true => rw [one, set]; rfl
      | false => rw [one, set]; rfl

/-- Every step but a missed block hash keeps the flag consistent. -/
theorem consistent_step (consistent : Consistent s) (event : Event)
    (fetched : BlockhashFetched s event) :
    Consistent (step maxSingleInvestmentSol s event) := by
  cases event with
  | wake => exact consistent.wake
  | enter investmentLamports =>
      cases waits : s.call with
      | idle =>
          have free : ¬s.Holding := by simp only [Holding, waits, not_false_eq_true]
          simp only [step, waits]
          exact consistent.enter free investmentLamports
      | _ =>
          simp only [step, waits]
          exact consistent
  | tokenBalance answer =>
      cases waits : s.call with
      | tokenBalance investmentLamports =>
          have free : ¬s.Holding := by simp only [Holding, waits, not_false_eq_true]
          simp only [step, waits]
          exact consistent.onTokenBalance free investmentLamports answer
      | _ =>
          simp only [step, waits]
          exact consistent
  | nativeBalance answer =>
      cases waits : s.call with
      | nativeBalance deficit =>
          have free : ¬s.Holding := by simp only [Holding, waits, not_false_eq_true]
          simp only [step, waits]
          exact consistent.onNativeBalance free deficit answer
      | _ =>
          simp only [step, waits]
          exact consistent
  | latestBlockhash answered =>
      cases waits : s.call with
      | latestBlockhash wrapAmount =>
          cases answered with
          | true =>
              have held : s.Holding := by simp only [Holding, waits]
              simp only [step, waits]
              exact ⟨fun _ => consistent.holding held, fun free => absurd trivial free,
                fun free => absurd trivial free⟩
          | false => exact absurd rfl (fetched ⟨wrapAmount, waits⟩)
      | _ =>
          simp only [step, waits]
          exact consistent
  | sendTransaction accepted =>
      cases waits : s.call with
      | sendTransaction wrapAmount =>
          have held : s.Holding := by simp only [Holding, waits]
          simp only [step, waits]
          exact consistent.onSendTransaction held accepted
      | _ =>
          simp only [step, waits]
          exact consistent

theorem Consistent.toAtomic (consistent : Consistent s) : Atomic s := by
  intro idle
  apply consistent.atomic
  simp only [Holding, idle, not_false_eq_true]

theorem Consistent.toReleased (consistent : Consistent s) : Released s := by
  by_cases held : s.Holding
  · exact .inl held
  · right
    intro set
    rw [consistent.released held, set]
    exact Nat.one_pos

/-- Answers to the call, or a task that wakes, can reset the flag. -/
theorem Consistent.not_blockedForGood (consistent : Consistent s) :
    ¬BlockedForGood maxSingleInvestmentSol s := by
  intro blocked
  have free (waits : ¬s.Holding) : False := by
    have asleep := consistent.released waits
    have set := blocked []
    have woken := blocked [.wake]
    rw [Runs.final_nil] at set
    rw [set] at asleep
    simp only [Runs.final_cons, Runs.final_nil, step, asleep] at woken
    exact absurd woken nofun
  cases waits : s.call with
  | latestBlockhash wrapAmount =>
      have failed := blocked [.latestBlockhash true, .sendTransaction false]
      simp only [Runs.final_cons, Runs.final_nil, step, waits, onLatestBlockhash, if_true]
        at failed
      exact absurd failed nofun
  | sendTransaction wrapAmount =>
      have failed := blocked [.sendTransaction false]
      simp only [Runs.final_cons, Runs.final_nil, step, waits] at failed
      exact absurd failed nofun
  | _ => exact free (by simp only [Holding, waits, not_false_eq_true])

end

/-! ## A flag that leaks -/

/-- The flag is set and nobody will reset it. -/
structure Leaked (s : WrapGuard) : Prop where
  free : ¬s.Holding
  set : s.inFlight = true
  none : s.sleeping = 0

section

variable {maxSingleInvestmentSol : ℚ} {s : WrapGuard}

theorem Leaked.returned (leaked : Leaked s) : Leaked s.returned :=
  ⟨id, leaked.set, leaked.none⟩

/-- No step mends a leak: the swap finds the flag set. -/
theorem Leaked.step (leaked : Leaked s) (event : Event) :
    Leaked (step maxSingleInvestmentSol s event) := by
  cases event with
  | wake =>
      rw [WrapGuard.step, if_pos leaked.none]
      exact leaked
  | enter investmentLamports =>
      cases waits : s.call with
      | idle =>
          simp only [WrapGuard.step, waits]
          exact ⟨id, leaked.set, leaked.none⟩
      | _ =>
          simp only [WrapGuard.step, waits]
          exact leaked
  | tokenBalance answer =>
      cases waits : s.call with
      | tokenBalance investmentLamports =>
          simp only [WrapGuard.step, waits]
          cases answer with
          | none => exact leaked.returned
          | some amount =>
              simp only [onTokenBalance]
              split
              · exact leaked.returned
              · exact ⟨id, leaked.set, leaked.none⟩
      | _ =>
          simp only [WrapGuard.step, waits]
          exact leaked
  | nativeBalance answer =>
      cases waits : s.call with
      | nativeBalance deficit =>
          simp only [WrapGuard.step, waits, onNativeBalance, leaked.set, if_true, ite_self]
          exact leaked.returned
      | _ =>
          simp only [WrapGuard.step, waits]
          exact leaked
  | latestBlockhash fetched =>
      cases waits : s.call with
      | latestBlockhash wrapAmount =>
          exact absurd (by simp only [Holding, waits]) leaked.free
      | _ =>
          simp only [WrapGuard.step, waits]
          exact leaked
  | sendTransaction accepted =>
      cases waits : s.call with
      | sendTransaction wrapAmount =>
          exact absurd (by simp only [Holding, waits]) leaked.free
      | _ =>
          simp only [WrapGuard.step, waits]
          exact leaked

theorem Leaked.blockedForGood (leaked : Leaked s) : BlockedForGood maxSingleInvestmentSol s := by
  intro run
  exact (Runs.final_of_kept run leaked fun _ event held => held.step event).set

theorem Leaked.not_released (leaked : Leaked s) : ¬Released s := by
  intro released
  rcases released with held | resets
  · exact leaked.free held
  · exact absurd (resets leaked.set) (leaked.none ▸ Nat.lt_irrefl 0)

/-- A block hash that is missed leaks the flag. -/
theorem Consistent.leaked_of_missed (consistent : Consistent s) {event : Event}
    (missed : ¬BlockhashFetched s event) :
    Leaked (WrapGuard.step maxSingleInvestmentSol s event) := by
  rcases Classical.not_imp.mp missed with ⟨⟨wrapAmount, waits⟩, answered⟩
  rw [not_not.mp answered]
  have held : s.Holding := by simp only [Holding, waits]
  rcases consistent.holding held with ⟨set, none⟩
  simp only [WrapGuard.step, waits, onLatestBlockhash, Bool.false_eq_true, if_false]
  exact ⟨id, set, none⟩

end

/-! ## Runs -/

/-- What the guard is for: calls are atomic, the flag is released, and wraps are not blocked
for good. -/
def Guards (maxSingleInvestmentSol : ℚ) (s : WrapGuard) : Prop :=
  Atomic s ∧ Released s ∧ ¬BlockedForGood maxSingleInvestmentSol s

/-- The guard does what it is for along exactly the runs in which no call that has taken the
flag misses its block hash. -/
theorem always_guards_iff (maxSingleInvestmentSol : ℚ) (run : List Event) :
    Runs.Always (step maxSingleInvestmentSol) (Guards maxSingleInvestmentSol) start run ↔
      Runs.Throughout (step maxSingleInvestmentSol) BlockhashFetched start run := by
  apply Runs.always_iff_throughout_of run consistent_start
  · intro s consistent
    exact ⟨consistent.toAtomic, consistent.toReleased, consistent.not_blockedForGood⟩
  · intro s event consistent fetched
    exact consistent_step consistent event fetched
  · intro s event consistent missed guards
    exact (consistent.leaked_of_missed missed).not_released guards.2.1

/-- A call that finds no WSOL and ten SOL, and no block hash. -/
def missedRun : List Event :=
  [.enter 1000000000, .tokenBalance (some (some 0)), .nativeBalance (some 10000000000),
    .latestBlockhash false]

theorem not_always_guards :
    ¬∀ (maxSingleInvestmentSol : ℚ) (run : List Event),
      Runs.Always (step maxSingleInvestmentSol) (Guards maxSingleInvestmentSol) start run := by
  intro all
  have last : Runs.final (step 1) start missedRun =
      { start with inFlight := true } := by decide +kernel
  have guards := (all 1 missedRun).final
  rw [last] at guards
  exact absurd (guards.1 rfl rfl rfl) nofun

end WrapGuard

end AtomicArbitrage.Bot
