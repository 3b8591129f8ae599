/-
  RetryControl.Clock
  ────────────────────────────────
  **INSTANTS AND A CLOCK THAT IS MOVED BY HAND.**

  An instant is a point on a time line that ends at 2⁶³ seconds, so adding a
  duration to an instant can fail.  Differences are saturating: an instant
  that lies ahead is no time ago.
-/
import RetryControl.Duration
import RetryControl.Word

namespace RetryControl

/-- The last instant, in nanoseconds: 2⁶³ seconds less one nanosecond. -/
def lastNanos : Nat := signedReach * nanosPerSecond - 1

/-- A point in time. -/
@[ext] structure Instant where
  /-- Nanoseconds from the start of the time line. -/
  nanos : Nat
  /-- It lies before 2⁶³ seconds. -/
  nanos_le : nanos ≤ lastNanos
  deriving DecidableEq

namespace Instant

/-- The start of the time line. -/
def start : Instant := ⟨0, Nat.zero_le _⟩

instance : Inhabited Instant := ⟨start⟩

instance : LE Instant := ⟨fun a b => a.nanos ≤ b.nanos⟩

instance (a b : Instant) : Decidable (a ≤ b) := inferInstanceAs (Decidable (a.nanos ≤ b.nanos))

theorem le_def {a b : Instant} : a ≤ b ↔ a.nanos ≤ b.nanos := Iff.rfl

instance : Max Instant := ⟨fun a b => if a ≤ b then b else a⟩

@[simp] theorem nanos_max (a b : Instant) : (max a b).nanos = max a.nanos b.nanos := by
  show (if a ≤ b then b else a).nanos = _
  split <;> rename_i h <;> simp only [le_def] at h <;> omega

/-- The instant a duration later, if the time line reaches that far. -/
def add? (t : Instant) (d : Duration) : Option Instant :=
  if h : t.nanos + d.nanos ≤ lastNanos then some ⟨t.nanos + d.nanos, h⟩ else none

/-- The time from an earlier instant to this one; no time if `earlier` lies ahead. -/
def since (t earlier : Instant) : Duration :=
  ⟨t.nanos - earlier.nanos, by
    have h := t.nanos_le
    simp only [lastNanos, longestNanos, signedReach, wordCount, nanosPerSecond] at *
    omega⟩

@[simp] theorem nanos_since (t earlier : Instant) :
    (t.since earlier).nanos = t.nanos - earlier.nanos := rfl

end Instant

/-- A clock that stands still until it is moved. -/
structure ManualClock where
  /-- What the clock shows before it is first moved. -/
  origin : Instant := .start
  /-- How far it has been moved. -/
  elapsed : Duration := .zero
  deriving DecidableEq

namespace ManualClock

/-- The clock moved ahead; the total is held at the longest duration. -/
def advance (c : ManualClock) (d : Duration) : ManualClock :=
  { c with elapsed := c.elapsed.addSat d }

/-- What the clock shows; its origin when the total leads beyond the last instant. -/
def now (c : ManualClock) : Instant := (c.origin.add? c.elapsed).getD c.origin

end ManualClock

end RetryControl
