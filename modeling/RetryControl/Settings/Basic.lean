/-
  RetryControl.Settings.Basic
  ────────────────────────────────
  **SETTINGS.**

  Settings describe strategies of both kinds in one document.  They give the
  plans of the two strategies, after a check that refuses what could not be
  built.
-/
import RetryControl.Strategy.Plan

namespace RetryControl

/-! ## §1. Sections. -/

/-- The kind of delays between attempts. -/
inductive BackoffKind where
  /-- Never wait. -/
  | immediate
  /-- A fixed delay with jitter. -/
  | fixed
  /-- A fixed delay. -/
  | fixedWithoutJitter
  /-- Doubling delays with jitter. -/
  | exponential
  /-- Doubling delays. -/
  | exponentialWithoutJitter
  deriving Repr, DecidableEq

/-- The section on delays, in milliseconds. -/
structure BackoffSettings where
  /-- The kind of delays. -/
  kind : BackoffKind := .exponential
  /-- The fixed delay, or the first one of doubling delays. -/
  baseDelayMs : UInt64 := 1000
  /-- The cap of doubling delays. -/
  maxDelayMs : UInt64 := 20000
  deriving DecidableEq

/-- The section on budgets. -/
structure BudgetSettings where
  /-- What a bucket holds at first and at most. -/
  initialCapacity : Count := 500
  /-- What a retry takes. -/
  retryCost : Count := 5
  /-- What a success earns at least. -/
  successCredit : Count := 1
  /-- A success also earns what its call has taken. -/
  repayDebitedOnSuccess : Bool := false
  deriving DecidableEq

/-- The section on rate control, with rates in sends per second. -/
structure AdaptiveSettings where
  /-- The least rate. -/
  minRate : Float := 0.5
  /-- The greatest rate. -/
  maxRate : Float := 100.0
  /-- What a throttle multiplies the rate by. -/
  decreaseFactor : Float := 0.5
  /-- What a success adds to the rate. -/
  increaseStep : Float := 1.0
  /-- How many milliseconds after a throttle the rate may not rise. -/
  cooldownMs : UInt64 := 1000
  deriving BEq

/-- All settings. -/
structure RetrySettings where
  /-- The most attempts of one call, the first one included. -/
  maxAttempts : Count := 3
  /-- Whether retries are charged to a budget. -/
  circuitBreakerEnabled : Bool := true
  /-- The delays of a standard strategy. -/
  backoff : BackoffSettings := {}
  /-- The budgets. -/
  budget : BudgetSettings := {}
  /-- The error types that are retried. -/
  retryOn : List ErrorType := ErrorType.defaultRetryable
  /-- The rate control of an adaptive strategy. -/
  adaptive : AdaptiveSettings := {}
  deriving BEq

/-! ## §2. From settings to plans. -/

/-- The delays that a section describes. -/
def BackoffSettings.backoff (s : BackoffSettings) : Backoff :=
  let base := Duration.ofMillis s.baseDelayMs
  let cap := Duration.ofMillis s.maxDelayMs
  match s.kind with
  | .immediate => .immediate
  | .fixed => .fixed base true
  | .fixedWithoutJitter => .fixed base false
  | .exponential => .exponential base cap true
  | .exponentialWithoutJitter => .exponential base cap false

/-- The terms of the budgets that a section describes. -/
def BudgetSettings.terms (s : BudgetSettings) : BudgetTerms :=
  { initialCapacity := s.initialCapacity
    retryCost := s.retryCost
    successCredit := s.successCredit
    policy := if s.repayDebitedOnSuccess then .repayDebited else .fixed }

/-- The terms of rate control that a section describes. -/
def AdaptiveSettings.terms (s : AdaptiveSettings) : RateTerms Float :=
  { minRate := s.minRate
    maxRate := s.maxRate
    decreaseFactor := s.decreaseFactor
    increaseStep := s.increaseStep
    cooldown := Duration.ofMillis s.cooldownMs }

/-! ## §3. Errors. -/

/-- Why settings cannot be used. -/
inductive SettingsError where
  /-- A source of settings holds a value that does not fit. -/
  | load (reason : String)
  /-- A file cannot be read as a document of its format. -/
  | fileMalformed
  /-- There is no file at a path. -/
  | fileNotFound (path : String)
  /-- A document holds a value that does not fit. -/
  | unfit (reason : String)
  /-- A text is not a document. -/
  | malformed
  /-- A text ends before its document does. -/
  | endOfText
  /-- The settings describe nothing that can be built. -/
  | invalid (reason : String)
  deriving Repr, DecidableEq

namespace SettingsError

/-- A refusal to build, as an error of the settings. -/
def ofRetryError (e : RetryError) : SettingsError := .invalid e.message

/-- The text of an error; texts that are not documents have none of their own. -/
def message? : SettingsError → Option String
  | .load reason => some ("Failed to load configuration: " ++ reason)
  | .fileNotFound path => some ("Configuration file not found at path: " ++ path)
  | .unfit reason => some ("Failed to parse configuration: " ++ reason)
  | .invalid reason => some ("Invalid configuration value: " ++ reason)
  | .fileMalformed | .malformed | .endOfText => none

end SettingsError

/-- A refusal to build becomes an error of the settings. -/
def Except.orInvalid {α : Type} (x : Except RetryError α) : Except SettingsError α :=
  x.mapError SettingsError.ofRetryError

/-! ## §4. Checked plans. -/

namespace RetrySettings

/-- Settings that describe something to build: at least one attempt and one error type, and
sections that can be used. The first fault in this order is reported. -/
def validate (s : RetrySettings) : Except SettingsError Unit :=
  if s.maxAttempts = 0 then .error (.invalid "max_attempts must be >= 1")
  else if s.retryOn.isEmpty then .error (.invalid "retry_on must name at least one error type")
  else do
    Except.orInvalid s.backoff.backoff.validate
    Except.orInvalid s.adaptive.terms.validate

/-- The terms of admission that settings describe. -/
def gateTerms (s : RetrySettings) : GateTerms :=
  { maxAttempts := s.maxAttempts
    rule := .ofErrorTypes s.retryOn
    breakerEnabled := s.circuitBreakerEnabled
    budget := s.budget.terms }

/-- The plan of a standard strategy; the section on rate control is only checked. -/
def standardPlan (s : RetrySettings) : Except SettingsError StandardPlan := do
  s.validate
  return { gate := s.gateTerms, backoff := s.backoff.backoff }

/-- The plan of an adaptive strategy; the section on delays is only checked. -/
def adaptivePlan (s : RetrySettings) : Except SettingsError (AdaptivePlan Float) := do
  s.validate
  return { gate := s.gateTerms, rates := s.adaptive.terms }

end RetrySettings

end RetryControl
