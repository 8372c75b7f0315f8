import Mathlib.Data.Int.Order.Basic
import Mathlib.Data.Nat.Notation

/-!
# Clocks that are set

The clock of a machine runs with time and may be set at any moment.  It shows no more than has
passed, but for as much as it has been set forward.
-/

/-- A clock, with the time since a start and with how far it has been set forward since. -/
structure WallClock where
  reading : ℤ
  elapsed : ℕ
  forward : ℕ

namespace WallClock

/-- A clock when time starts to be counted. -/
def start (reading : ℤ) : WallClock where
  reading := reading
  elapsed := 0
  forward := 0

/-- Some time passes. -/
def pass (clock : WallClock) (time : ℕ) : WallClock :=
  { clock with reading := clock.reading + time, elapsed := clock.elapsed + time }

/-- The clock is set. -/
def set (clock : WallClock) (reading : ℤ) : WallClock :=
  { clock with
    reading := reading
    forward := clock.forward + (reading - clock.reading).toNat }

/-- The time from one moment to a later one, with how far the clock is set forward between
them. -/
def span (earlier later : WallClock) : ℤ :=
  (later.elapsed - earlier.elapsed) + (later.forward - earlier.forward)

/-- At the later moment the clock shows no more than the span on top of what it showed. -/
def Runs (earlier later : WallClock) : Prop :=
  later.reading - earlier.reading ≤ earlier.span later

variable {clock earlier later : WallClock}

theorem runs_self : Runs clock clock := by
  simp [Runs, span]

theorem Runs.pass (runs : Runs earlier later) (time : ℕ) : Runs earlier (later.pass time) := by
  simp only [Runs, span, WallClock.pass] at runs ⊢
  omega

/-- Setting a clock back takes nothing off the span. -/
theorem Runs.set (runs : Runs earlier later) (reading : ℤ) :
    Runs earlier (later.set reading) := by
  simp only [Runs, span, WallClock.set] at runs ⊢
  omega

end WallClock
