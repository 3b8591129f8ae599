/-
  RetryControl.RetryError
  ────────────────────────────────
  **WHY A RETRY IS NOT GRANTED.**

  A refused retry says which check refused it; a configuration that cannot be
  used says what is wrong with it.  The wording is in `RetryError.message`
  alone.
-/
import RetryControl.Failure

namespace RetryControl

/-- The reason for which an operation ends without granting a retry. -/
inductive RetryError where
  /-- The failure is not one that is retried. -/
  | nonRetryable (scope : String) (errorType : ErrorType)
  /-- All attempts of the call are used up. -/
  | exhausted (scope : String) (attemptsMade maxAttempts : Count)
  /-- The scope's budget does not cover the retry. -/
  | circuitOpen (scope : String)
  /-- A value handed in cannot be used. -/
  | invalidArgument (text : String)
  deriving Repr, DecidableEq

namespace RetryError

/-- The scope that an error is about. -/
def scope : RetryError → Option String
  | .nonRetryable s _ => some s
  | .exhausted s _ _ => some s
  | .circuitOpen s => some s
  | .invalidArgument _ => none

/-- The text of an error. -/
def message : RetryError → String
  | .nonRetryable s t => "Non-retryable failure in scope '" ++ s ++ "': " ++ t.name
  | .exhausted s made most =>
      "Retries exhausted in scope '" ++ s ++ "' after " ++ toString made.toNat ++ " of "
        ++ toString most.toNat ++ " attempts"
  | .circuitOpen s => "Retry unavailable for scope '" ++ s ++ "': retry budget exhausted"
  | .invalidArgument text => "Invalid argument: " ++ text

end RetryError

end RetryControl
