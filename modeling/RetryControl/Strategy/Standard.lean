/-
  RetryControl.Strategy.Standard
  ────────────────────────────────
  **THE STANDARD STRATEGY.**

  Retries are admitted by the gate and wait as the backoff says for the
  number of the attempt, but at least as long as the failure suggests.
-/
import RetryControl.Backoff
import RetryControl.Gate
import RetryControl.Strategy.Request

namespace RetryControl

/-- What a standard strategy is built from. -/
structure StandardPlan where
  /-- The terms of admission. -/
  gate : GateTerms := {}
  /-- The delays between attempts. -/
  backoff : Backoff := .default

/-- A gate whose retries wait by their attempt number. -/
structure StandardStrategy where
  /-- The gate. -/
  gate : Gate
  /-- The delays between attempts. -/
  backoff : Backoff

/-- The strategy of a plan, with nothing used yet; a backoff that cannot be used is reported before
terms of admission that cannot. -/
def StandardPlan.build (p : StandardPlan) : Except RetryError StandardStrategy := do
  p.backoff.validate
  p.gate.validate
  return { gate := { terms := p.gate }, backoff := p.backoff }

namespace StandardStrategy

/-- The plan that a strategy was built from. -/
def plan (s : StandardStrategy) : StandardPlan := { gate := s.gate.terms, backoff := s.backoff }

/-- The number of the attempt that a request asks for. -/
def nextAttempt (request : RetryRequest) : Count := request.token.attemptsMade.addSat 1

/-- Another attempt after a failure. The wait is worked out before the gate is asked, since the
gate may charge the budget. -/
def refresh (s : StandardStrategy) (request : RetryRequest) (draws : Draws) :
    Except RetryError Grant × StandardStrategy :=
  match s.backoff.wait (nextAttempt request) draws with
  | .error error => (.error error, s)
  | .ok wait =>
    match s.gate.decideRetry request.token request.failure with
    | (.ok token, gate) => (.ok ⟨request.lengthen wait.delay, token⟩, { s with gate })
    | (.error error, gate) => (.error error, { s with gate })

/-- The credit of a success. -/
def succeed (s : StandardStrategy) (token : Token) : Count × StandardStrategy :=
  let (credited, gate) := s.gate.succeed token
  (credited, { s with gate })

/-- Forgets a scope. -/
def evict (s : StandardStrategy) (scope : String) : Bool × StandardStrategy :=
  let (existed, gate) := s.gate.evict scope
  (existed, { s with gate })

/-- The shortest and the longest wait that an admitted request can get. -/
def delayBounds (s : StandardStrategy) (request : RetryRequest) : Duration × Duration :=
  let attempt := nextAttempt request
  let longest := if attempt ≤ 1 then .zero else s.backoff.ceiling attempt
  let shortest := if s.backoff.isJittered then .zero else longest
  (request.lengthen shortest, request.lengthen longest)

end StandardStrategy

end RetryControl
