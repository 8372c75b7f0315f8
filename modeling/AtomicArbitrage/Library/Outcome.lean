import Mathlib.Data.List.Forall2

/-!
# Fallible computations

Inversion rules for programs written in `Except`.  A successful run of a `do` block
is turned into the facts its steps established, one equation for each step, so that
a proof about a function never unfolds the exception monad.
-/

namespace Outcome

universe u v w

variable {ε : Type u} {α β : Type v}

/-- Stop with `reason` unless the condition holds. -/
def require (condition : Prop) [Decidable condition] (reason : ε) : Except ε Unit :=
  if condition then .ok () else .error reason

/-- Read an optional value, stopping with `reason` when it is absent. -/
def orFail (value : Option α) (reason : ε) : Except ε α :=
  match value with
  | some found => .ok found
  | none => .error reason

@[simp] theorem ok_bind (value : α) (rest : α → Except ε β) :
    ((Except.ok value : Except ε α) >>= rest) = rest value := rfl

@[simp] theorem error_bind (reason : ε) (rest : α → Except ε β) :
    ((Except.error reason : Except ε α) >>= rest) = Except.error reason := rfl

/-- A sequence succeeds exactly when its first step succeeds and the rest succeeds
on the value of that step. -/
@[simp] theorem bind_eq_ok {first : Except ε α} {rest : α → Except ε β} {result : β} :
    (first >>= rest) = Except.ok result ↔
      ∃ value, first = .ok value ∧ rest value = .ok result := by
  cases first with
  | error reason => simp
  | ok value => simp

@[simp] theorem pure_eq_ok {value result : α} :
    (pure value : Except ε α) = Except.ok result ↔ value = result := by
  simp [pure, Except.pure]

@[simp] theorem map_eq_ok {computation : Except ε α} {image : α → β} {result : β} :
    (image <$> computation) = Except.ok result ↔
      ∃ value, computation = .ok value ∧ image value = result := by
  cases computation with
  | error reason => simp [Functor.map, Except.map]
  | ok value => simp [Functor.map, Except.map]

@[simp] theorem require_eq_ok {condition : Prop} [Decidable condition] {reason : ε}
    {value : Unit} : require condition reason = .ok value ↔ condition := by
  unfold require
  split <;> simp_all

theorem require_of_not {condition : Prop} [Decidable condition] {reason : ε}
    (invalid : ¬condition) : require condition reason = .error reason := by
  simp [require, invalid]

@[simp] theorem orFail_eq_ok {value : Option α} {reason : ε} {result : α} :
    orFail value reason = .ok result ↔ value = some result := by
  cases value with
  | none => simp [orFail]
  | some found => simp [orFail]

@[simp] theorem orFail_some (value : α) (reason : ε) :
    orFail (some value) reason = .ok value := rfl

/-- A computation that evaluates to a success has a value. -/
theorem exists_of_isOk {computation : Except ε α} (succeeds : computation.isOk = true) :
    ∃ value, computation = .ok value := by
  cases computation with
  | error reason => cases succeeds
  | ok value => exact ⟨value, rfl⟩

/-- A property of the result of a computation whose result is known. -/
theorem exists_ok_and_iff {computation : Except ε α} {value : α} {property : α → Prop}
    (computed : computation = .ok value) :
    (∃ result, computation = .ok result ∧ property result) ↔ property value := by
  subst computed
  constructor
  · rintro ⟨result, same, holds⟩
    exact Except.ok.inj same ▸ holds
  · exact fun holds => ⟨value, rfl, holds⟩

/-- Computations that succeed with a common result have the same results, whatever their
errors are. -/
theorem eq_ok_iff_of_common {ε' : Type w} {left : Except ε α} {right : Except ε' α}
    (common : ∃ value, left = .ok value ∧ right = .ok value) (result : α) :
    left = .ok result ↔ right = .ok result := by
  rcases common with ⟨value, leftSucceeds, rightSucceeds⟩
  rw [leftSucceeds, rightSucceeds, Except.ok.injEq, Except.ok.injEq]

theorem toOption_eq_some {computation : Except ε α} {value : α} :
    computation.toOption = some value ↔ computation = .ok value := by
  cases computation with
  | error reason => simp [Except.toOption]
  | ok found => simp [Except.toOption]

/-- Replacing the error of a computation keeps its successful results. -/
def withError {ε' : Type w} (reason : ε') (computation : Except ε α) : Except ε' α :=
  match computation with
  | .ok value => .ok value
  | .error _ => .error reason

@[simp] theorem withError_eq_ok {ε' : Type w} {reason : ε'} {computation : Except ε α}
    {result : α} : withError reason computation = .ok result ↔ computation = .ok result := by
  cases computation with
  | error other => simp [withError]
  | ok value => simp [withError]

/-- A list of fallible steps succeeds exactly when each of them does, and then returns
their values in order. -/
theorem mapM_eq_ok {γ : Type w} {step : γ → Except ε β} {inputs : List γ}
    {results : List β} :
    inputs.mapM step = .ok results ↔
      List.Forall₂ (fun input result => step input = .ok result) inputs results := by
  induction inputs generalizing results with
  | nil =>
      cases results with
      | nil => simp [pure, Except.pure]
      | cons result results => simp [pure, Except.pure]
  | cons input inputs ih =>
      cases results with
      | nil => simp
      | cons result results =>
          simp only [List.mapM_cons, bind_pure_comp, bind_eq_ok, map_eq_ok,
            List.cons.injEq, List.forall₂_cons]
          constructor
          · rintro ⟨value, head, values, tail, rfl, rfl⟩
            exact ⟨head, ih.mp tail⟩
          · rintro ⟨head, tail⟩
            exact ⟨result, head, results, ih.mpr tail, rfl, rfl⟩

/-- Steps with a known value each: the whole list is their image. -/
theorem mapM_eq_map {γ : Type w} {step : γ → Except ε β} {value : γ → β}
    {inputs : List γ} (known : ∀ input ∈ inputs, step input = .ok (value input)) :
    inputs.mapM step = .ok (inputs.map value) := by
  rw [mapM_eq_ok]
  induction inputs with
  | nil => exact .nil
  | cons input inputs ih =>
      refine .cons (known input (by simp)) (ih ?_)
      intro other member
      exact known other (by simp [member])

/-- Every value of a successful list of steps is the value of one of them. -/
theorem mapM_mem {γ : Type w} {step : γ → Except ε β} {inputs : List γ}
    {results : List β} (succeeded : inputs.mapM step = .ok results) {result : β}
    (membership : result ∈ results) : ∃ input ∈ inputs, step input = .ok result := by
  have related := mapM_eq_ok.mp succeeded
  clear succeeded
  induction related with
  | nil => simp at membership
  | @cons input value inputs values head _ ih =>
      rcases List.mem_cons.mp membership with rfl | inside
      · exact ⟨input, by simp, head⟩
      · rcases ih inside with ⟨other, present, result⟩
        exact ⟨other, by simp [present], result⟩

/-- Steps that agree on the inputs give the same list. -/
theorem mapM_congr {γ : Type w} {step step' : γ → Except ε β} {inputs : List γ}
    (same : ∀ input ∈ inputs, step input = step' input) :
    inputs.mapM step = inputs.mapM step' := by
  induction inputs with
  | nil => rfl
  | cons input inputs ih =>
      rw [List.mapM_cons, List.mapM_cons, same input List.mem_cons_self,
        ih fun other inside => same other (List.mem_cons_of_mem _ inside)]

/-- Sequences that agree on the result of their first step are equal. -/
theorem bind_congr_ok {first : Except ε α} {rest rest' : α → Except ε β}
    (same : ∀ value, first = .ok value → rest value = rest' value) :
    (first >>= rest) = (first >>= rest') := by
  cases first with
  | error reason => rfl
  | ok value => exact same value rfl

end Outcome
