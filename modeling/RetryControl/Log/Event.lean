/-
  RetryControl.Log.Event
  ────────────────────────────────
  **EVENTS AND THEIR LOG LINES.**

  What can be observed of a strategy at work, as data.  `Event.line` gives
  each event its level, its text and its named values.
-/
import RetryControl.Strategy.Plan

namespace RetryControl

/-! ## §1. Events. -/

/-- Something that happened. -/
inductive Event (R : Type) where
  /-- A cost was asked of a bucket, which covered it or not. -/
  | withdrawal (cost : Count) (covered : Bool)
  /-- A credit was put into a bucket, which then held `capacity`. -/
  | credit (amount capacity : Count)
  /-- A call got its first token. -/
  | acquired (scope : String)
  /-- A failure is not one that is retried. -/
  | notRetryable (scope : String) (errorType : ErrorType)
  /-- A call has used up its attempts. -/
  | exhausted (scope : String) (attemptsMade maxAttempts : Count)
  /-- A budget did not cover a retry. -/
  | circuitOpen (scope : String) (cost : Count)
  /-- A retry was admitted. -/
  | admitted (scope : String) (errorType : ErrorType) (attempt cost : Count)
  /-- A call succeeded. -/
  | succeeded (scope : String) (attemptsMade credited capacity : Count)
  /-- A retry of a standard strategy was scheduled; a wait drawn at random is not told. -/
  | scheduled (scope : String) (attempt : Count) (delay : Option Duration)
  /-- A retry of an adaptive strategy was scheduled. -/
  | paced (scope : String) (attempt : Count) (delay : Duration)
  /-- A throttle lowered a rate. -/
  | throttled (allowedRate measuredRate : R)
  /-- A success raised a rate. -/
  | raised (allowedRate : R)
  /-- A paced send got its slot. -/
  | slotReserved (allowedRate : R) (delay : Duration)
  /-- A standard strategy was built. -/
  | standardBuilt (plan : StandardPlan)
  /-- An adaptive strategy was built. -/
  | adaptiveBuilt (plan : AdaptivePlan R)
  /-- Settings were loaded, perhaps from a file; the texts show its path and the backoff kind. -/
  | settingsLoaded (path : String) (maxAttempts : Count) (backoff : String)

/-! ## §2. Log lines. -/

/-- How important a log line is. -/
inductive Level where
  /-- Every detail. -/
  | trace
  /-- Decisions. -/
  | debug
  /-- Milestones. -/
  | info
  /-- Trouble. -/
  | warn
  deriving Repr, DecidableEq

/-- The name of a level. -/
def Level.name : Level → String
  | .trace => "TRACE"
  | .debug => "DEBUG"
  | .info => "INFO"
  | .warn => "WARN"

/-- A named value of a log line. -/
inductive Datum (R : Type) where
  /-- A number. -/
  | number (n : Nat)
  /-- A truth value. -/
  | flag (b : Bool)
  /-- A text. -/
  | text (s : String)
  /-- A rate. -/
  | rate (r : R)
  /-- A value that is not told. -/
  | untold

/-- One line of a log. -/
structure LogLine (R : Type) where
  /-- How important it is. -/
  level : Level
  /-- Its text. -/
  message : String
  /-- Its named values. -/
  fields : List (String × Datum R)

namespace Datum

variable {R : Type}

/-- A counter as a value. -/
def count (n : Count) : Datum R := .number n.toNat

/-- A wait as a value, in milliseconds. -/
def millis (d : Duration) : Datum R := .number d.wholeMillis

end Datum

/-- The log line of an event. -/
def Event.line {R : Type} : Event R → LogLine R
  | .withdrawal cost covered =>
      ⟨.trace, "token bucket withdraw", [("cost", .count cost), ("acquired", .flag covered)]⟩
  | .credit amount capacity =>
      ⟨.trace, "token bucket credit", [("amount", .count amount), ("capacity", .count capacity)]⟩
  | .acquired scope => ⟨.trace, "initial token acquired", [("scope", .text scope)]⟩
  | .notRetryable scope errorType =>
      ⟨.debug, "failure is not retryable",
        [("scope", .text scope), ("error_type", .text errorType.name)]⟩
  | .exhausted scope made most =>
      ⟨.debug, "retries exhausted",
        [("scope", .text scope), ("attempts_made", .count made), ("max_attempts", .count most)]⟩
  | .circuitOpen scope cost =>
      ⟨.warn, "retry budget exhausted, circuit open",
        [("scope", .text scope), ("cost", .count cost)]⟩
  | .admitted scope errorType attempt cost =>
      ⟨.debug, "retry admitted",
        [("scope", .text scope), ("error_type", .text errorType.name),
          ("attempt", .count attempt), ("cost", .count cost)]⟩
  | .succeeded scope made credited capacity =>
      ⟨.debug, "call succeeded",
        [("scope", .text scope), ("attempts_made", .count made),
          ("credited", .count credited), ("capacity", .count capacity)]⟩
  | .scheduled scope attempt delay =>
      ⟨.debug, "retry scheduled",
        [("scope", .text scope), ("attempt", .count attempt),
          ("delay_ms", (delay.map .millis).getD .untold)]⟩
  | .paced scope attempt delay =>
      ⟨.debug, "adaptive retry scheduled",
        [("scope", .text scope), ("attempt", .count attempt), ("delay_ms", .millis delay)]⟩
  | .throttled allowed measured =>
      ⟨.debug, "throttled, lowering send rate",
        [("allowed_rate", .rate allowed), ("measured_rate", .rate measured)]⟩
  | .raised allowed => ⟨.trace, "raising send rate", [("allowed_rate", .rate allowed)]⟩
  | .slotReserved allowed delay =>
      ⟨.trace, "reserved send slot", [("allowed_rate", .rate allowed), ("delay_ms", .millis delay)]⟩
  | .standardBuilt plan =>
      ⟨.info, "standard retry strategy built",
        [("max_attempts", .count plan.gate.maxAttempts),
          ("retry_predicate", .text plan.gate.rule.summary),
          ("backoff", .text plan.backoff.text),
          ("circuit_breaker_enabled", .flag plan.gate.breakerEnabled)]⟩
  | .adaptiveBuilt plan =>
      ⟨.info, "adaptive retry strategy built",
        [("max_attempts", .count plan.gate.maxAttempts),
          ("retry_predicate", .text plan.gate.rule.summary),
          ("min_rate", .rate plan.rates.minRate),
          ("max_rate", .rate plan.rates.maxRate),
          ("circuit_breaker_enabled", .flag plan.gate.breakerEnabled)]⟩
  | .settingsLoaded path most backoff =>
      ⟨.debug, "retry settings loaded",
        [("path", .text path), ("max_attempts", .count most), ("backoff", .text backoff)]⟩

end RetryControl
