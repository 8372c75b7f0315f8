import AtomicArbitrage.Library.Outcome

/-!
# Computations that avoid an outcome

A computation avoids a failure when it never ends with it.  The rules follow the shape of a
program: a sequence avoids what its steps avoid, each of them knowing the results of the
steps before it.
-/

namespace Outcome

universe u v w

variable {ε : Type u} {α β : Type v} {reason other : ε}

/-- The computation does not fail for this reason. -/
def Avoids (reason : ε) (computation : Except ε α) : Prop := computation ≠ .error reason

theorem avoids_ok (value : α) : Avoids reason (.ok value) := by
  intro same
  cases same

theorem avoids_pure (value : α) : Avoids reason (pure value : Except ε α) := avoids_ok value

theorem avoids_error (differ : other ≠ reason) :
    Avoids reason (.error other : Except ε α) := by
  intro same
  exact differ (Except.error.inj same)

/-- A known value is not a failure. -/
theorem avoids_of_eq_ok {computation : Except ε α} {value : α}
    (computed : computation = .ok value) : Avoids reason computation := by
  rw [computed]
  exact avoids_ok value

/-- A computation that avoids every failure has a value. -/
theorem exists_ok_of_avoids {computation : Except ε α}
    (avoids : ∀ reason, Avoids reason computation) : ∃ value, computation = .ok value := by
  cases computation with
  | error failed => exact absurd rfl (avoids failed)
  | ok value => exact ⟨value, rfl⟩

theorem avoids_bind_iff {first : Except ε α} {rest : α → Except ε β} :
    Avoids reason (first >>= rest) ↔
      Avoids reason first ∧ ∀ value, first = .ok value → Avoids reason (rest value) := by
  cases first with
  | error failed =>
      constructor
      · intro avoids
        refine ⟨fun same => avoids ?_, fun value impossible => by cases impossible⟩
        exact congrArg Except.error (Except.error.inj same)
      · intro both same
        exact both.1 (congrArg Except.error (Except.error.inj same))
  | ok value =>
      constructor
      · intro avoids
        exact ⟨avoids_ok value, fun other same => Except.ok.inj same ▸ avoids⟩
      · intro both
        exact both.2 value rfl

theorem Avoids.bind {first : Except ε α} {rest : α → Except ε β} (begins : Avoids reason first)
    (goesOn : ∀ value, first = .ok value → Avoids reason (rest value)) :
    Avoids reason (first >>= rest) :=
  avoids_bind_iff.mpr ⟨begins, goesOn⟩

theorem avoids_require {condition : Prop} [Decidable condition] (differ : other ≠ reason) :
    Avoids reason (require condition other) := by
  rw [require]
  split
  · exact avoids_ok ()
  · exact avoids_error differ

theorem avoids_orFail {value : Option α} (differ : other ≠ reason) :
    Avoids reason (orFail value other) := by
  cases value with
  | none => exact avoids_error differ
  | some found => exact avoids_ok found

theorem avoids_withError {ε' : Type w} {reason other : ε'} {computation : Except ε α}
    (differ : other ≠ reason) : Avoids reason (withError other computation) := by
  cases computation with
  | error failed => exact avoids_error differ
  | ok value => exact avoids_ok value

/-- Steps that all avoid a failure avoid it together. -/
theorem avoids_mapM {γ : Type w} {step : γ → Except ε β} {inputs : List γ}
    (each : ∀ input ∈ inputs, Avoids reason (step input)) :
    Avoids reason (inputs.mapM step) := by
  induction inputs with
  | nil => exact avoids_ok []
  | cons input inputs ih =>
      rw [List.mapM_cons]
      apply (each input List.mem_cons_self).bind
      intro value _
      apply (ih fun other inside => each other (List.mem_cons_of_mem _ inside)).bind
      intro values _
      exact avoids_pure _

end Outcome
