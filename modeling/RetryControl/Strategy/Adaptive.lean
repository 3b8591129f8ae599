/-
  RetryControl.Strategy.Adaptive
  ────────────────────────────────
  **THE ADAPTIVE STRATEGY.**

  Retries are admitted by the gate, as in the standard strategy, and wait for
  the slot that the limiter of their scope gives them.  Every throttling
  failure lowers the scope's rate, whether its retry is admitted or not.
-/
import RetryControl.Gate
import RetryControl.Rate.Limiter
import RetryControl.Strategy.Request

namespace RetryControl

variable {R : Type} [RateArithmetic R]

/-- What an adaptive strategy is built from. -/
structure AdaptivePlan (R : Type) where
  /-- The terms of admission. -/
  gate : GateTerms := {}
  /-- The terms of rate control. -/
  rates : RateTerms R

/-- A gate whose retries wait for the slots of a limiter. -/
structure AdaptiveStrategy (R : Type) where
  /-- The gate. -/
  gate : Gate
  /-- The terms of rate control. -/
  rates : RateTerms R
  /-- The limiters of the scopes used so far. -/
  limiters : NameMap (Limiter R) := .empty

/-- The strategy of a plan, with nothing used yet; terms of rate control that cannot be used are
reported before terms of admission that cannot. -/
def AdaptivePlan.build (p : AdaptivePlan R) : Except RetryError (AdaptiveStrategy R) := do
  p.rates.validate
  p.gate.validate
  return { gate := { terms := p.gate }, rates := p.rates }

namespace AdaptiveStrategy

/-- The plan that a strategy was built from. -/
def plan (s : AdaptiveStrategy R) : AdaptivePlan R := { gate := s.gate.terms, rates := s.rates }

/-- The limiter of a scope; a scope without one counts as having a fresh limiter. -/
def limiter (s : AdaptiveStrategy R) (scope : String) : Limiter R :=
  s.limiters.getD scope (.fresh s.rates)

/-- The strategy with a scope's limiter replaced. -/
def setLimiter (s : AdaptiveStrategy R) (scope : String) (l : Limiter R) : AdaptiveStrategy R :=
  { s with limiters := s.limiters.insert scope l }

/-- The first attempt of a call, which is measured but never waits. -/
def acquire (s : AdaptiveStrategy R) (scope : String) (now : Instant) :
    Grant × AdaptiveStrategy R :=
  (⟨.zero, .initial scope⟩, s.setLimiter scope ((s.limiter scope).measure now))

/-- The limiter of a request's scope after its failure was looked at. -/
def observed (s : AdaptiveStrategy R) (request : RetryRequest) (now : Instant) : Limiter R :=
  let limiter := s.limiter request.token.scope
  if request.failure.errorType = .throttling then limiter.throttle s.rates now else limiter

/-- Another attempt after a failure. -/
def refresh (s : AdaptiveStrategy R) (request : RetryRequest) (now : Instant) :
    Except RetryError Grant × AdaptiveStrategy R :=
  let scope := request.token.scope
  let limiter := s.observed request now
  -- the limiter keeps the throttle even if the gate refuses
  match s.gate.decideRetry request.token request.failure with
  | (.ok token, gate) =>
    let (wait, limiter) := limiter.reserve now
    (.ok ⟨request.lengthen wait, token⟩, { s with gate }.setLimiter scope limiter)
  | (.error error, gate) => (.error error, { s with gate }.setLimiter scope limiter)

/-- The credit of a success, which may also raise the scope's rate. -/
def succeed (s : AdaptiveStrategy R) (token : Token) (now : Instant) :
    Count × AdaptiveStrategy R :=
  let limiter := (s.limiter token.scope).succeed s.rates now
  let (credited, gate) := s.gate.succeed token
  (credited, { s with gate }.setLimiter token.scope limiter)

/-- Forgets a scope. -/
def evict (s : AdaptiveStrategy R) (scope : String) : Bool × AdaptiveStrategy R :=
  let (existed, gate) := s.gate.evict scope
  (existed || s.limiters.contains scope, { s with gate, limiters := s.limiters.erase scope })

/-- The rate that a scope is paced at, if it is. -/
def rate (s : AdaptiveStrategy R) (scope : String) : Option R :=
  (s.limiters.get? scope).bind Limiter.pacedRate

end AdaptiveStrategy

end RetryControl
