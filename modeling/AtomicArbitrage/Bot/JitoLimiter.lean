import AtomicArbitrage.Library.WallClock
import Mathlib.Data.List.Pairwise

/-!
# The rate limit of Jito

The block engine takes one request a second.  The bot compares the time of its clock with that
of the last request, in milliseconds; nothing keeps the clock from being set in between.
-/

namespace AtomicArbitrage.Bot

/-- `now_ms`, by a clock in nanoseconds since the epoch; before the epoch it is zero. -/
def nowMs (clock : WallClock) : ℤ := max clock.reading 0 / 1000000

/-- The clock of the machine, and the time of the last request.  Nothing reads the last field,
which records the clock at every request. -/
structure JitoLimiter where
  clock : WallClock
  lastJitoSubmitMs : ℤ
  requests : List WallClock

namespace JitoLimiter

/-- The limiter of a process that starts. -/
def start (reading : ℤ) : JitoLimiter where
  clock := .start reading
  lastJitoSubmitMs := 0
  requests := []

/-- The limit in `submit_via_jito`; `none` is an error, and what follows otherwise is the
request. -/
def request (s : JitoLimiter) : Option JitoLimiter :=
  let now := nowMs s.clock
  if now - s.lastJitoSubmitMs < 1100 then none
  else some { s with lastJitoSubmitMs := now, requests := s.requests ++ [s.clock] }

/-- A step of the limiter: its clock runs, or is set, or a request is made. -/
inductive Stepped (s next : JitoLimiter) : Prop where
  | still (same : next = s)
  | passed (nanos : ℕ) (same : next = { s with clock := s.clock.pass nanos })
  | set (reading : ℤ) (same : next = { s with clock := s.clock.set reading })
  | requested (made : s.request = some next)

/-- The requests so far keep their distance, and the last one is remembered. -/
structure Spaced (s : JitoLimiter) : Prop where
  apart : s.requests.Pairwise fun earlier later => 1099000000 < earlier.span later
  runs : ∀ request ∈ s.requests, request.Runs s.clock
  before : ∀ request ∈ s.requests, nowMs request ≤ s.lastJitoSubmitMs

variable {s next : JitoLimiter}

theorem spaced_start (reading : ℤ) : Spaced (start reading) where
  apart := .nil
  runs := List.forall_mem_nil _
  before := List.forall_mem_nil _

/-- What shows as 1100 ms has taken more than 1099, as both times are rounded down. -/
theorem lt_span {earlier later : WallClock} (runs : earlier.Runs later)
    (distant : 1100 ≤ nowMs later - nowMs earlier) : 1099000000 < earlier.span later := by
  have below : 1099000000 < later.reading - earlier.reading := by
    simp only [nowMs] at distant
    omega
  exact lt_of_lt_of_le below runs

theorem Spaced.request (spaced : Spaced s) (made : s.request = some next) : Spaced next := by
  rw [JitoLimiter.request] at made
  split at made
  · cases made
  next distant =>
  rw [Option.some_inj] at made
  subst made
  have later (request : WallClock) (inside : request ∈ s.requests) :
      1100 ≤ nowMs s.clock - nowMs request := by
    have before := spaced.before request inside
    omega
  refine ⟨?_, ?_, ?_⟩
  · apply List.pairwise_append.mpr
    refine ⟨spaced.apart, List.pairwise_singleton _ _, ?_⟩
    intro request inside new last
    rw [List.mem_singleton.mp last]
    exact lt_span (spaced.runs request inside) (later request inside)
  · intro request inside
    rcases List.mem_append.mp inside with earlier | new
    · exact spaced.runs request earlier
    · rw [List.mem_singleton.mp new]
      exact WallClock.runs_self
  · intro request inside
    rcases List.mem_append.mp inside with earlier | new
    · have distance := later request earlier
      show nowMs request ≤ nowMs s.clock
      omega
    · rw [List.mem_singleton.mp new]

theorem Spaced.step (spaced : Spaced s) (stepped : Stepped s next) : Spaced next := by
  cases stepped with
  | still same => exact same ▸ spaced
  | passed nanos same =>
      subst same
      exact ⟨spaced.apart, fun request inside => (spaced.runs request inside).pass nanos,
        spaced.before⟩
  | set reading same =>
      subst same
      exact ⟨spaced.apart, fun request inside => (spaced.runs request inside).set reading,
        spaced.before⟩
  | requested made => exact spaced.request made

end JitoLimiter

end AtomicArbitrage.Bot
