import AtomicArbitrage.Library.AssocMap
import Mathlib.Data.List.Infix
import Mathlib.Data.Nat.Notation

/-!
# Cache entries

Pool data is cached with the instant of its last update and is not read any more once its
time to live has passed.
-/

namespace AtomicArbitrage.Bot

/-- `Instant`, in nanoseconds. -/
abbrev Instant := ℕ

/-- `elapsed().as_secs()`. -/
def elapsedSecs (since now : Instant) : ℕ := (now - since) / 1000000000

def cacheTtlSecs : ℕ := 60
def negativeCacheTtlSecs : ℕ := 120

/-- Cached data and the instant of its last update. -/
structure CacheEntry (Data : Type) where
  data : Data
  updatedAt : Instant
  negative : Bool
deriving DecidableEq

namespace CacheEntry

variable {Data : Type}

/-- `is_stale`, at a given instant. -/
def isStale (entry : CacheEntry Data) (now : Instant) : Bool :=
  let ttl := if entry.negative then negativeCacheTtlSecs else cacheTtlSecs
  elapsedSecs entry.updatedAt now > ttl

end CacheEntry

/-- A cache by text keys. -/
abbrev PoolCache (Data : Type) := AssocMap String (CacheEntry Data)

/-- The key of a pair: its two mints in text order. -/
def cacheKey (t0 t1 : String) : String :=
  if t0 < t1 then t0 ++ ":" ++ t1 else t1 ++ ":" ++ t0

/-- `str::contains`. -/
def textContains (text part : String) : Bool := part.toList <:+: text.toList

namespace PoolCache

variable {Data : Type}

/-- The data under a key, while it is fresh. -/
def getFresh (cache : PoolCache (Option Data)) (now : Instant) (key : String) :
    Option Data := do
  let entry ← AssocMap.get cache key
  if entry.isStale now then none else entry.data

theorem getFresh_eq_some {cache : PoolCache (Option Data)} {now : Instant} {key : String}
    {data : Data} :
    PoolCache.getFresh cache now key = some data ↔
      ∃ entry, AssocMap.get cache key = some entry ∧ entry.isStale now = false ∧
        entry.data = some data := by
  simp only [getFresh, Option.bind_eq_bind, Option.bind_eq_some_iff]
  constructor
  · intro found
    rcases found with ⟨entry, held, result⟩
    split at result
    · cases result
    · next fresh => exact ⟨entry, held, Bool.not_eq_true _ ▸ fresh, result⟩
  · intro found
    rcases found with ⟨entry, held, fresh, result⟩
    refine ⟨entry, held, ?_⟩
    rw [fresh]
    exact result

end PoolCache

end AtomicArbitrage.Bot
