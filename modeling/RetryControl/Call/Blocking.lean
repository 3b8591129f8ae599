/-
  RetryControl.Call.Blocking
  ────────────────────────────────
  **CALLS THAT BLOCK WHILE THEY WAIT.**

  The loop ends because every granted retry brings the token one attempt
  nearer to the attempt limit of the strategy.
-/
import RetryControl.Call.Basic

namespace RetryControl.Call

variable {R ε α : Type} [RateArithmetic R] [Classifiable ε]

/-- The attempts of a call from attempt `number` on. -/
def blockingFrom (script : Script ε α) (draws : Nat → Draws) (s : Strategy R)
    (clock : ManualClock) (token : Token) (number : Nat) : Finished R ε α :=
  let attempt := script number
  let clock := clock.advance attempt.takes
  let moment : Moment := ⟨clock.now, draws number⟩
  let attempted := .attempted number attempt.outcome
  match attempt.outcome with
  | .ok value =>
    let (credited, after) := s.succeed moment token
    { outcome := .ok value
      actions := [attempted, .credited credited]
      events := s.events moment (.succeed token)
      strategy := after
      clock }
  | .error error =>
    let request := RetryRequest.ofError token error
    let events := s.events moment (.refresh request)
    let after := (s.refresh moment request).2
    match h : (s.refresh moment request).1 with
    | .ok grant =>
      (blockingFrom script draws after clock grant.token (number + 1)).after
        (attempted :: .refreshed (.ok grant) :: waitActions grant.delay) events
    | .error reason =>
      { outcome := .gaveUp reason error
        actions := [attempted, .refreshed (.error reason)]
        events
        strategy := after
        clock }
termination_by s.attemptsLeft token
decreasing_by exact Strategy.attemptsLeft_refresh h

/-- A call in a scope, from its first token to its end. -/
def blocking (s : Strategy R) (clock : ManualClock) (scope : String) (script : Script ε α)
    (draws : Nat → Draws) : Finished R ε α :=
  let moment : Moment := ⟨clock.now, draws 0⟩
  let (grant, after) := s.acquire moment scope
  (blockingFrom script draws after clock grant.token 1).after [.acquired grant]
    (s.events moment (.acquire scope))

end RetryControl.Call
