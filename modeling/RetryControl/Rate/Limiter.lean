/-
  RetryControl.Rate.Limiter
  ────────────────────────────────
  **PACING SENDS.**

  A limiter measures the sends of one scope and, once the scope has been
  throttled, paces them: each send gets a slot at least one interval after
  the slot before it.  A throttle lowers the allowed rate, a success raises
  it when the cooldown has passed.  Until the first throttle nothing waits.
-/
import RetryControl.Clock
import RetryControl.Rate.Config

namespace RetryControl

/-- The length of a measuring window: half a second. -/
def measuringWindow : Duration := Duration.ofMillis 500

/-- The rate control of one scope. -/
structure Limiter (R : Type) where
  /-- The scope has been throttled, so its sends are paced. -/
  enabled : Bool
  /-- The rate that sends are paced at. -/
  allowedRate : R
  /-- The earliest slot of the next paced send. -/
  nextSend : Option Instant
  /-- When the scope was last throttled. -/
  lastThrottle : Option Instant
  /-- The smoothed rate of the sends made. -/
  measuredRate : R
  /-- When the current measuring window started. -/
  windowStart : Option Instant
  /-- The sends in the current window. -/
  windowSends : Count

namespace Limiter

open RateArithmetic

variable {R : Type} [RateArithmetic R]

/-- The limiter of a scope that has never been used. -/
def fresh (t : RateTerms R) : Limiter R :=
  { enabled := false
    allowedRate := t.maxRate
    nextSend := none
    lastThrottle := none
    measuredRate := zero
    windowStart := none
    windowSends := 0 }

/-! ## §1. Measuring. -/

/-- When the window that a send falls into started; a send without a window before it starts one. -/
def windowOf (l : Limiter R) (send : Instant) : Instant := l.windowStart.getD send

/-- How far into its window a send is; no time if the window starts after it. -/
def intoWindow (l : Limiter R) (send : Instant) : Duration := send.since (l.windowOf send)

/-- A send half a second or more into the window closes it. -/
def closesWindow (l : Limiter R) (send : Instant) : Bool := measuringWindow ≤ l.intoWindow send

/-- The sends of the window that a send falls into, the send included. -/
def sendsWith (l : Limiter R) : Count := l.windowSends.addSat 1

/-- The rate of the window that a send closes. -/
def windowRate (l : Limiter R) (send : Instant) : R :=
  div (ofCount l.sendsWith) (seconds (l.intoWindow send))

/-- The measured rate after one more window with its rate. -/
def smoothed (l : Limiter R) (rate : R) : R :=
  add (mul newestWeight rate) (mul olderWeight l.measuredRate)

/-- Counts a send. If the send closes its window, the rate of the window goes into the measured
rate, and the next window starts with this send but does not count it. -/
def measure (l : Limiter R) (send : Instant) : Limiter R :=
  if l.closesWindow send then
    { l with
      measuredRate := l.smoothed (l.windowRate send)
      windowStart := some send
      windowSends := 0 }
  else { l with windowStart := some (l.windowOf send), windowSends := l.sendsWith }

/-! ## §2. Reactions. -/

/-- The rate that a throttle lowers: the measured one if it is positive and below the allowed
one. -/
def throttledFrom (l : Limiter R) : R :=
  if lt zero l.measuredRate then least l.measuredRate l.allowedRate else l.allowedRate

/-- The limiter after a throttle: paced from now on, at a lower rate. -/
def throttle (l : Limiter R) (t : RateTerms R) (now : Instant) : Limiter R :=
  { l with
    enabled := true
    allowedRate := greatest (mul l.throttledFrom t.decreaseFactor) t.minRate
    lastThrottle := some now }

/-- Whether a success raises the rate: the limiter paces and the cooldown has passed. -/
def mayRise (l : Limiter R) (t : RateTerms R) (now : Instant) : Bool :=
  l.enabled && l.lastThrottle.all fun at_ => t.cooldown ≤ now.since at_

/-- The limiter after a success. -/
def succeed (l : Limiter R) (t : RateTerms R) (now : Instant) : Limiter R :=
  if l.mayRise t now then
    { l with allowedRate := least (add l.allowedRate t.increaseStep) t.maxRate }
  else l

/-! ## §3. Slots. -/

/-- The slot that a send made now would get. -/
def slot (l : Limiter R) (now : Instant) : Instant :=
  match l.nextSend with
  | some next => max next now
  | none => now

/-- The limiter after the next slot is taken, and how long to wait for it. While nothing is paced
the send is measured now and does not wait; a slot is measured at its own time. -/
def reserve (l : Limiter R) (now : Instant) : Duration × Limiter R :=
  if l.enabled then
    let slot := l.slot now
    -- where the time line ends the next send gets the same slot again
    let following := (slot.add? (interval l.allowedRate)).getD slot
    (slot.since now, ({ l with nextSend := some following }).measure slot)
  else (.zero, l.measure now)

/-- The rate that sends are paced at, if they are. -/
def pacedRate (l : Limiter R) : Option R := if l.enabled then some l.allowedRate else none

end Limiter

end RetryControl
