/-
  RetryControl.Call.Cancellable
  ────────────────────────────────
  **CALLS THAT CAN BE CANCELLED.**

  Cancellation is looked at before every attempt and ends a wait early, but
  an attempt that has started runs to its end and is still answered by the
  strategy.  No time at all is no wait, so it cannot be ended early, and a wait
  that ends just as the call is cancelled has not been ended early.  How long
  a wait takes is up to its timer; the usual ones count whole milliseconds and
  run for thirty years at most.
-/
import RetryControl.Call.Basic

namespace RetryControl

/-! ## §1. Timers. -/

/-- Timers, by the time after which one ends that is set to a duration. No time at all is over at
once. -/
structure Timer where
  /-- When the timer ends. -/
  ends : Duration → Duration
  ends_zero : ends .zero = .zero

/-- The longest time that a timer of milliseconds runs: thirty years of 365 days. -/
def longestTimer : Duration := Duration.ofMillis (30 * 365 * 24 * 60 * 60 * 1000)

/-- The whole milliseconds that hold a duration. -/
def coveringMillis (d : Duration) : Nat :=
  d.nanos / nanosPerMilli + if d.nanos % nanosPerMilli = 0 then 0 else 1

/-- The time after which a timer of milliseconds ends: a millisecond that has begun is waited for in
full. -/
def timerEnd (d : Duration) : Duration :=
  min (.clamp (coveringMillis d * nanosPerMilli)) longestTimer

/-- Timers of milliseconds. -/
def millisTimer : Timer := ⟨timerEnd, by decide +kernel⟩

/-! ## §2. Cancellation. -/

/-- When a call is cancelled. -/
inductive Cancellation where
  /-- Never. -/
  | never
  /-- Before the call starts. -/
  | before
  /-- While the attempt of this number runs; attempts are counted from one. -/
  | during (attempt : Nat)
  /-- After this much time spent waiting, on a timer of its own. -/
  | waiting (time : Duration)
  /-- When the wait after the attempt of this number is over, before the next attempt starts. -/
  | afterWait (attempt : Nat)
  deriving DecidableEq

namespace Cancellation

/-- Cancelled before the attempt of this number has ended. -/
def happenedIn (number : Nat) : Cancellation → Bool
  | .never => false
  | .before => true
  | .during attempt => 1 ≤ attempt ∧ attempt ≤ number
  | .waiting _ => false
  | .afterWait attempt => 1 ≤ attempt ∧ attempt < number

/-- Cancelled before the attempt of this number would start, unless a wait was cut short. -/
def happenedBefore (number : Nat) : Cancellation → Bool
  | .afterWait attempt => 1 ≤ attempt ∧ attempt < number
  | c => c.happenedIn (number - 1)

/-- How far into the wait of `delay` after attempt `number` the call is cancelled, if it is before
the end of that wait; `waited` is the time waited before. No time at all is not waited for, so it
cannot be cut short. -/
def stopsWait (timer : Timer) (c : Cancellation) (number : Nat) (waited delay : Duration) :
    Option Duration :=
  if delay = .zero then none
  else if c.happenedIn number then some .zero
  else
    match c with
    | .waiting time =>
      let time := (timer.ends time).nanos
      if time < waited.nanos + (timer.ends delay).nanos then some (.clamp (time - waited.nanos))
      else none
    | _ => none

end Cancellation

/-! ## §3. The call. -/

namespace Call

variable {R ε α : Type} [RateArithmetic R] [Classifiable ε]

/-- The attempts of a call from attempt `number` on, after the given time spent waiting. -/
def cancellableFrom (timer : Timer) (cancellation : Cancellation) (script : Script ε α)
    (draws : Nat → Draws) (s : Strategy R) (clock : ManualClock) (token : Token) (number : Nat)
    (waited : Duration) : Finished R ε α :=
  if cancellation.happenedBefore number then
    { outcome := .aborted, actions := [], events := [], strategy := s, clock }
  else
    let attempt := script number
    let clock := clock.advance attempt.takes
    let moment : Moment := ⟨clock.now, draws number⟩
    let attempted := .attempted number attempt.outcome
    match attempt.outcome with
    | .ok value =>
      let (credited, after) := s.succeed moment token
      { outcome := .ok value
        actions := [attempted, .credited credited]
        events := s.events moment (.succeed token)
        strategy := after
        clock }
    | .error error =>
      let request := RetryRequest.ofError token error
      let events := s.events moment (.refresh request)
      let after := (s.refresh moment request).2
      match _h : (s.refresh moment request).1 with
      | .ok grant =>
        match cancellation.stopsWait timer number waited grant.delay with
        | some into =>
          { outcome := .aborted
            actions := attempted :: .refreshed (.ok grant) :: waitActions into
            events
            strategy := after
            clock }
        | none =>
          let wait := timer.ends grant.delay
          (cancellableFrom timer cancellation script draws after clock grant.token (number + 1)
            (waited.addSat wait)).after
            (attempted :: .refreshed (.ok grant) :: waitActions wait) events
      | .error reason =>
        { outcome := .gaveUp reason error
          actions := [attempted, .refreshed (.error reason)]
          events
          strategy := after
          clock }
termination_by s.attemptsLeft token
decreasing_by exact Strategy.attemptsLeft_refresh _h

/-- A call in a scope, from its first token to its end or its cancellation. -/
def cancellableOn (timer : Timer) (s : Strategy R) (clock : ManualClock) (scope : String)
    (cancellation : Cancellation) (script : Script ε α) (draws : Nat → Draws) :
    Finished R ε α :=
  let moment : Moment := ⟨clock.now, draws 0⟩
  let (grant, after) := s.acquire moment scope
  (cancellableFrom timer cancellation script draws after clock grant.token 1 .zero).after
    [.acquired grant] (s.events moment (.acquire scope))

/-- A call that waits on timers of milliseconds. -/
def cancellable (s : Strategy R) (clock : ManualClock) (scope : String)
    (cancellation : Cancellation) (script : Script ε α) (draws : Nat → Draws) :
    Finished R ε α :=
  cancellableOn millisTimer s clock scope cancellation script draws

end Call

end RetryControl
