import Mathlib.Data.Fintype.EquivFin
import Mathlib.Data.Nat.ModEq

/-!
# Round robin

A counter of bounded width is reduced modulo a number of slots.  While the counter does not
wrap, consecutive values reach every slot; behind the wrap that needs the number of slots to
divide the number of values.
-/

namespace RoundRobin

variable {modulus slots start : ℕ}

/-- The slot of the counter some steps on. -/
def slot (modulus slots start step : ℕ) : ℕ := (start + step) % modulus % slots

theorem slot_lt (pos : 0 < slots) (step : ℕ) : slot modulus slots start step < slots :=
  Nat.mod_lt _ pos

theorem slot_of_lt {step : ℕ} (inside : start + step < modulus) :
    slot modulus slots start step = (start + step) % slots := by
  rw [slot, Nat.mod_eq_of_lt inside]

theorem slot_of_dvd (divides : slots ∣ modulus) (step : ℕ) :
    slot modulus slots start step = (start + step) % slots :=
  Nat.mod_mod_of_dvd _ divides

/-- Behind the wrap the counter starts from zero. -/
theorem slot_of_wrap {step : ℕ} (small : start < modulus) (wraps : modulus ≤ start + step)
    (short : step ≤ modulus) :
    slot modulus slots start step = (start + step - modulus) % slots := by
  have less : start + step - modulus < modulus := by omega
  rw [slot, Nat.mod_eq_sub_mod wraps, Nat.mod_eq_of_lt less]

/-- Some steps on, the counter is back at its slot when the slots divide the steps, or, behind
the wrap, what the steps lack to a full turn. -/
theorem slot_eq_iff {step : ℕ} (small : start < modulus) (short : step ≤ modulus) :
    slot modulus slots start step = slot modulus slots start 0 ↔
      if start + step < modulus then slots ∣ step else slots ∣ modulus - step := by
  rw [slot_of_lt (by omega : start + 0 < modulus), Nat.add_zero]
  split
  · next inside =>
      rw [slot_of_lt inside, eq_comm]
      calc start % slots = (start + step) % slots
          ↔ start ≡ start + step [MOD slots] := Iff.rfl
        _ ↔ slots ∣ start + step - start := Nat.modEq_iff_dvd' (Nat.le_add_right _ _)
        _ ↔ slots ∣ step := by rw [Nat.add_sub_cancel_left]
  · next wraps =>
      have back : start - (start + step - modulus) = modulus - step := by omega
      rw [slot_of_wrap small (Nat.not_lt.mp wraps) short]
      calc (start + step - modulus) % slots = start % slots
          ↔ start + step - modulus ≡ start [MOD slots] := Iff.rfl
        _ ↔ slots ∣ start - (start + step - modulus) := Nat.modEq_iff_dvd' (by omega)
        _ ↔ slots ∣ modulus - step := by rw [back]

/-- Every slot is reached within one turn. -/
def Covers (modulus slots start : ℕ) : Prop :=
  ∀ index < slots, ∃ step < slots, slot modulus slots start step = index

/-- A counter that is not cut by the width reaches every slot. -/
theorem exists_add_mod_eq (start : ℕ) {index : ℕ} (inside : index < slots) :
    ∃ step < slots, (start + step) % slots = index := by
  have pos : 0 < slots := Nat.zero_lt_of_lt inside
  have rest : start % slots < slots := Nat.mod_lt _ pos
  refine ⟨(index + (slots - start % slots)) % slots, Nat.mod_lt _ pos, ?_⟩
  have whole : start % slots + (index + (slots - start % slots)) = index + slots := by omega
  rw [Nat.add_mod_mod, ← Nat.mod_add_mod, whole, Nat.add_mod_right, Nat.mod_eq_of_lt inside]

theorem covers_of_dvd (divides : slots ∣ modulus) : Covers modulus slots start := by
  intro index inside
  rcases exists_add_mod_eq start inside with ⟨step, less, reaches⟩
  exact ⟨step, less, (slot_of_dvd divides step).trans reaches⟩

theorem covers_of_le (room : start + slots ≤ modulus) : Covers modulus slots start := by
  intro index inside
  rcases exists_add_mod_eq start inside with ⟨step, less, reaches⟩
  exact ⟨step, less, (slot_of_lt (by omega)).trans reaches⟩

/-- Within one turn that reaches every slot, no slot is reached twice. -/
theorem Covers.injective (covers : Covers modulus slots start) {first second : ℕ}
    (firstIn : first < slots) (secondIn : second < slots)
    (same : slot modulus slots start first = slot modulus slots start second) :
    first = second := by
  have pos : 0 < slots := Nat.zero_lt_of_lt firstIn
  let reach : Fin slots → Fin slots := fun step => ⟨slot modulus slots start step, slot_lt pos _⟩
  have onto : Function.Surjective reach := by
    intro index
    rcases covers index.val index.isLt with ⟨step, inside, reaches⟩
    exact ⟨⟨step, inside⟩, Fin.ext reaches⟩
  have injective := Finite.injective_iff_surjective.mpr onto
  have equal : (⟨first, firstIn⟩ : Fin slots) = ⟨second, secondIn⟩ :=
    injective (Fin.ext same)
  exact Fin.mk.inj equal

/-- Where the counter wraps within the turn and the slots do not divide its values, the last
slot in front of the wrap, or an earlier one, is reached again behind it. -/
theorem not_covers_of_wrap (small : start < modulus) (wraps : modulus < start + slots)
    (fits : slots ≤ modulus) (apart : ¬slots ∣ modulus) : ¬Covers modulus slots start := by
  intro covers
  have pos : 0 < slots := by omega
  have rest : modulus % slots ≠ 0 := fun zero => apart (Nat.dvd_of_mod_eq_zero zero)
  have less : modulus % slots < slots := Nat.mod_lt _ pos
  have whole := Nat.div_add_mod modulus slots
  -- how far in front of the wrap the slot to be met again lies
  obtain ⟨back, nonzero, near, met, behind⟩ : ∃ back, 0 < back ∧ back ≤ modulus - start ∧
      back ≤ modulus % slots ∧ modulus % slots - back < slots - (modulus - start) := by
    rcases Nat.lt_or_ge (modulus % slots - 1) (slots - (modulus - start)) with last | earlier
    · exact ⟨1, by omega, by omega, by omega, last⟩
    · exact ⟨modulus % slots + 1 - (slots - (modulus - start)), by omega, by omega, by omega,
        by omega⟩
  have front : slot modulus slots start (modulus - start - back) = modulus % slots - back := by
    rw [slot_of_lt (by omega)]
    have place : start + (modulus - start - back) =
        slots * (modulus / slots) + (modulus % slots - back) := by omega
    rw [place, Nat.mul_add_mod, Nat.mod_eq_of_lt (by omega)]
  have again : slot modulus slots start (modulus - start + (modulus % slots - back)) =
      modulus % slots - back := by
    rw [slot_of_wrap small (by omega) (by omega)]
    have place : start + (modulus - start + (modulus % slots - back)) - modulus =
        modulus % slots - back := by omega
    rw [place, Nat.mod_eq_of_lt (by omega)]
  have same := covers.injective (by omega) (by omega) (front.trans again.symm)
  omega

/-- One turn reaches every slot exactly when the slots divide the values of the counter or the
counter does not wrap within it. -/
theorem covers_iff (small : start < modulus) (fits : slots ≤ modulus) :
    Covers modulus slots start ↔ slots ∣ modulus ∨ start + slots ≤ modulus := by
  constructor
  · intro covers
    by_contra neither
    rw [not_or] at neither
    exact not_covers_of_wrap small (Nat.not_le.mp neither.2) fits neither.1 covers
  · intro either
    cases either with
    | inl divides => exact covers_of_dvd divides
    | inr room => exact covers_of_le room

end RoundRobin
