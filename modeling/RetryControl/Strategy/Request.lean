/-
  RetryControl.Strategy.Request
  ────────────────────────────────
  **WHAT IS ASKED OF A STRATEGY.**

  A call asks for its first attempt, for another attempt after a failure, or
  reports its success; besides, a scope can be forgotten.  This module holds
  the questions, the answers, and the surroundings an answer may depend on:
  the time and the supply of random words.
-/
import RetryControl.Backoff.Uniform
import RetryControl.Clock
import RetryControl.RetryError
import RetryControl.Token

namespace RetryControl

/-! ## §1. Asking for another attempt. -/

/-- A failed call that asks for another attempt. -/
structure RetryRequest where
  /-- The call's token. -/
  token : Token
  /-- How its last attempt failed. -/
  failure : Failure
  /-- The shortest wait that the failure itself asks for. -/
  suggestedDelay : Option Duration := none

namespace RetryRequest

/-- The request of a call whose last attempt ended in an error of its own. -/
def ofError {ε : Type} [Classifiable ε] (token : Token) (error : ε) : RetryRequest :=
  { token
    failure := Classifiable.classify error
    suggestedDelay := Classifiable.suggestedDelay error }

/-- The suggested delay; no time if there is none. -/
def leastDelay (r : RetryRequest) : Duration := r.suggestedDelay.getD .zero

/-- A wait made at least as long as the suggested delay. -/
def lengthen (r : RetryRequest) (wait : Duration) : Duration :=
  match r.suggestedDelay with
  | some least => max wait least
  | none => wait

@[simp] theorem nanos_lengthen (r : RetryRequest) (wait : Duration) :
    (r.lengthen wait).nanos = max wait.nanos r.leastDelay.nanos := by
  unfold lengthen leastDelay
  cases r.suggestedDelay <;> simp

end RetryRequest

/-! ## §2. Operations and answers. -/

/-- A granted attempt. -/
structure Grant where
  /-- How long to wait before it. -/
  delay : Duration
  /-- The token to go on with. -/
  token : Token
  deriving DecidableEq

/-- An operation on a strategy. -/
inductive Operation where
  /-- A call starts. -/
  | acquire (scope : String)
  /-- A failed call asks for another attempt. -/
  | refresh (request : RetryRequest)
  /-- A call has succeeded. -/
  | succeed (token : Token)
  /-- A scope is forgotten. -/
  | evict (scope : String)

/-- The scope that an operation is about. -/
def Operation.scope : Operation → String
  | .acquire scope => scope
  | .refresh request => request.token.scope
  | .succeed token => token.scope
  | .evict scope => scope

/-- The answer to an operation. -/
inductive Answer where
  /-- An attempt is granted. -/
  | granted (grant : Grant)
  /-- No further attempt is granted. -/
  | refused (error : RetryError)
  /-- The success was credited with an amount. -/
  | credited (amount : Count)
  /-- The scope is forgotten; there was something to forget or not. -/
  | evicted (existed : Bool)
  deriving DecidableEq

/-- The answer to a request for another attempt. -/
def Answer.ofExcept : Except RetryError Grant → Answer
  | .ok grant => .granted grant
  | .error error => .refused error

theorem Answer.ofExcept_eq_granted_iff {answer : Except RetryError Grant} {grant : Grant} :
    Answer.ofExcept answer = .granted grant ↔ answer = .ok grant := by
  cases answer <;> simp [ofExcept]

theorem Answer.ofExcept_eq_refused_iff {answer : Except RetryError Grant} {error : RetryError} :
    Answer.ofExcept answer = .refused error ↔ answer = .error error := by
  cases answer <;> simp [ofExcept]

/-- The surroundings of an operation. -/
structure Moment where
  /-- What the clock shows. -/
  now : Instant
  /-- The random words at hand. -/
  draws : Draws

end RetryControl
