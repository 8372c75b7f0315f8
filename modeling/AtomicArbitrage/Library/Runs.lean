import Mathlib.Data.List.Induction

/-!
# Runs

A machine is a function from a state and an action to the next state; a run is a list of
actions.  A property of states holds along a run when it holds at its start and after
every step.
-/

namespace Runs

variable {State Action : Type*} (step : State → Action → State)

/-- The state at the end of a run. -/
def final (start : State) (run : List Action) : State :=
  run.foldl step start

/-- A property holds at every state of a run, its start and its end included. -/
def Always (property : State → Prop) : State → List Action → Prop
  | start, [] => property start
  | start, action :: run => property start ∧ Always property (step start action) run

/-- Every step of a run meets a condition on the state before it and its action. -/
def Throughout (condition : State → Action → Prop) : State → List Action → Prop
  | _, [] => True
  | start, action :: run =>
      condition start action ∧ Throughout condition (step start action) run

variable {step} {property : State → Prop} {condition : State → Action → Prop}

@[simp] theorem final_nil (start : State) : final step start [] = start := rfl

@[simp] theorem final_cons (start : State) (action : Action) (run : List Action) :
    final step start (action :: run) = final step (step start action) run := rfl

theorem final_append (start : State) (front back : List Action) :
    final step start (front ++ back) = final step (final step start front) back :=
  List.foldl_append

/-- What every step keeps holds at the end of every run. -/
theorem final_of_kept {start : State} (run : List Action) (holds : property start)
    (kept : ∀ state action, property state → property (step state action)) :
    property (final step start run) := by
  induction run generalizing start with
  | nil => exact holds
  | cons action run ih => exact ih (kept start action holds)

/-- What holds at the end of a run and not at its start has come about in a step, and has held
since. -/
theorem exists_last_step {start : State} {run : List Action} (before : ¬property start)
    (holds : property (final step start run)) :
    ∃ front action back, run = front ++ action :: back ∧ ¬property (final step start front) ∧
      ∀ more, more <+: back → property (final step start (front ++ action :: more)) := by
  induction run using List.reverseRecOn with
  | nil => exact absurd holds before
  | append_singleton run last ih =>
      by_cases already : property (final step start run)
      · rcases ih already with ⟨front, action, back, rfl, missing, since⟩
        refine ⟨front, action, back ++ [last], ?_, missing, ?_⟩
        · rw [List.append_assoc, List.cons_append]
        · intro more early
          rcases List.prefix_concat_iff.mp early with rfl | inside
          · rw [← List.cons_append, ← List.append_assoc]
            exact holds
          · exact since more inside
      · refine ⟨run, last, [], rfl, already, ?_⟩
        intro more early
        rw [List.prefix_nil.mp early]
        exact holds

/-- What holds along a run holds at its end. -/
theorem Always.final {start : State} {run : List Action}
    (always : Always step property start run) : property (final step start run) := by
  induction run generalizing start with
  | nil => exact always
  | cons action run ih => exact ih always.2

/-- Where an invariant survives a step that meets a condition, and a property fails behind a
step that does not, the property holds along exactly the runs whose steps all meet it. -/
theorem always_iff_throughout_of {invariant : State → Prop} {start : State}
    (run : List Action) (holds : invariant start)
    (implies : ∀ state, invariant state → property state)
    (kept : ∀ state action, invariant state → condition state action →
      invariant (step state action))
    (broken : ∀ state action, invariant state → ¬condition state action →
      ¬property (step state action)) :
    Always step property start run ↔ Throughout step condition start run := by
  induction run generalizing start with
  | nil => exact iff_of_true (implies start holds) trivial
  | cons action run ih =>
      by_cases meets : condition start action
      · have next := ih (kept start action holds meets)
        exact ⟨fun always => ⟨meets, next.mp always.2⟩,
          fun throughout => ⟨implies start holds, next.mpr throughout.2⟩⟩
      · apply iff_of_false
        · intro always
          apply broken start action holds meets
          cases run with
          | nil => exact always.2
          | cons _ _ => exact always.2.1
        · exact fun throughout => meets throughout.1

/-- Where a property fails to survive a step exactly when the step does not meet a
condition, the property holds along exactly the runs whose steps all meet it. -/
theorem always_iff_throughout {start : State} (run : List Action) (holds : property start)
    (exact : ∀ state action, property state →
      (property (step state action) ↔ condition state action)) :
    Always step property start run ↔ Throughout step condition start run :=
  always_iff_throughout_of run holds (fun _ => id)
    (fun state action kept => (exact state action kept).mpr)
    (fun state action kept => (exact state action kept).not.mpr)

/-! ## Views -/

section

variable {State' Action' : Type*} (step) (step' : State' → Action' → State')
  (view : State → State') (call? : State → Action → Option Action')

/-- Every step of a machine shows as one step of another machine, or as none. -/
def Shows : Prop :=
  ∀ state action, view (step state action) =
    (call? state action).elim (view state) (step' (view state))

/-- The steps that a run shows. -/
def shown : State → List Action → List Action'
  | _, [] => []
  | state, action :: run => (call? state action).toList ++ shown (step state action) run

variable {step step' view call?}

/-- What a run shows is a run. -/
theorem Shows.final (shows : Shows step step' view call?) (start : State) (run : List Action) :
    view (Runs.final step start run) =
      Runs.final step' (view start) (shown step call? start run) := by
  induction run generalizing start with
  | nil => rfl
  | cons action run ih =>
      rw [final_cons, ih, shows, shown]
      cases call? start action with
      | none => rfl
      | some call => rfl

/-- What is shown of what a run shows. -/
theorem Shows.shown_shown {Action'' : Type*} (shows : Shows step step' view call?)
    (call'? : State' → Action' → Option Action'') (start : State) (run : List Action) :
    shown step' call'? (view start) (shown step call? start run) =
      shown step (fun state action => (call? state action).bind (call'? (view state)))
        start run := by
  induction run generalizing start with
  | nil => rfl
  | cons action run ih =>
      have next := shows start action
      have rest := ih (step start action)
      rw [shown, shown]
      cases called : call? start action with
      | none =>
          rw [called, Option.elim_none] at next
          rw [next] at rest
          exact rest
      | some call =>
          rw [called, Option.elim_some] at next
          rw [next] at rest
          exact congrArg (_ ++ ·) rest

/-- Where the machine that is shown keeps a property in exactly the steps that meet a condition,
the view keeps it along exactly the runs that show no other steps. -/
theorem Shows.always_iff (shows : Shows step step' view call?) {property : State' → Prop}
    {condition : State' → Action' → Prop} {start : State} (run : List Action)
    (holds : property (view start))
    (exact : ∀ state action, property state →
      (property (step' state action) ↔ condition state action)) :
    Always step (fun state => property (view state)) start run ↔
      Throughout step (fun state action => ∀ call ∈ call? state action,
        condition (view state) call) start run := by
  have each (state : State) (action : Action) (kept : property (view state)) :
      property (view (step state action)) ↔
        ∀ call ∈ call? state action, condition (view state) call := by
    rw [shows]
    cases call? state action with
    | none => exact iff_of_true kept nofun
    | some call =>
        rw [Option.elim_some, exact _ _ kept]
        exact ⟨fun meets _ same => Option.some_inj.mp same ▸ meets, fun meets => meets call rfl⟩
  exact always_iff_throughout run holds each

end

end Runs
