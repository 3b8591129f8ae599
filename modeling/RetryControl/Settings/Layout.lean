/-
  RetryControl.Settings.Layout
  ────────────────────────────────
  **HOW SETTINGS ARE LAID OUT IN DOCUMENTS.**

  One table names every setting, its section and its kind of value, with the
  way to read it from settings and to put it into them.  All readers and the
  writer of settings follow this table, so they agree on names and order.
-/
import RetryControl.Json.Basic
import RetryControl.Settings.Basic

namespace RetryControl

/-! ## §1. Vocabularies. -/

/-- The words for the values of a type, in order. -/
structure Vocabulary (α : Type) where
  /-- The name of the type in messages. -/
  typeName : String
  /-- Each value with its word. -/
  words : List (String × α)

namespace Vocabulary

variable {α : Type}

/-- The value of a word. -/
def find? (v : Vocabulary α) (word : String) : Option α := v.words.lookup word

/-- The word of a value. -/
def wordOf [BEq α] (v : Vocabulary α) (a : α) : String :=
  ((v.words.find? (·.2 == a)).map (·.1)).getD ""

end Vocabulary

/-- The words for the kinds of delays. -/
def BackoffKind.vocabulary : Vocabulary BackoffKind :=
  { typeName := "BackoffKind"
    words :=
      [("immediate", .immediate), ("fixed", .fixed),
        ("fixed_without_jitter", .fixedWithoutJitter), ("exponential", .exponential),
        ("exponential_without_jitter", .exponentialWithoutJitter)] }

/-- The words for the error types. -/
def ErrorType.vocabulary : Vocabulary ErrorType :=
  { typeName := "RetryErrorType"
    words := ErrorType.all.map fun t => (t.name, t) }

/-! ## §2. Slots. -/

/-- A way to read a value from settings and to put one into them. -/
structure Slot (α : Type) where
  /-- The value that the settings hold. -/
  get : RetrySettings → α
  /-- The settings with another value. -/
  put : α → RetrySettings → RetrySettings

/-- A setting, by its kind of value. -/
inductive Setting where
  /-- A counter. -/
  | count (slot : Slot Count)
  /-- A number of milliseconds. -/
  | millis (slot : Slot UInt64)
  /-- A truth value. -/
  | flag (slot : Slot Bool)
  /-- A rate or a factor. -/
  | rate (slot : Slot Float)
  /-- A kind of delays. -/
  | kind (slot : Slot BackoffKind)
  /-- A list of error types. -/
  | errorTypes (slot : Slot (List ErrorType))

/-- A setting with its name. -/
structure Field where
  /-- The name of the setting in its section. -/
  name : String
  /-- The setting. -/
  setting : Setting

/-- A part of a settings document. -/
inductive Part where
  /-- A setting of its own. -/
  | field (field : Field)
  /-- A section of settings; `typeName` is its name in messages. -/
  | block (name typeName : String) (fields : List Field)

/-- The name of a part. -/
def Part.name : Part → String
  | .field f => f.name
  | .block name _ _ => name

/-! ## §3. The table. -/

namespace Layout

/-- The fields of the section on delays. -/
def backoff : List Field :=
  [ ⟨"kind", .kind ⟨(·.backoff.kind), fun a s => { s with backoff.kind := a }⟩⟩,
    ⟨"base_delay_ms",
      .millis ⟨(·.backoff.baseDelayMs), fun a s => { s with backoff.baseDelayMs := a }⟩⟩,
    ⟨"max_delay_ms",
      .millis ⟨(·.backoff.maxDelayMs), fun a s => { s with backoff.maxDelayMs := a }⟩⟩ ]

/-- The fields of the section on budgets. -/
def budget : List Field :=
  [ ⟨"initial_capacity",
      .count ⟨(·.budget.initialCapacity), fun a s => { s with budget.initialCapacity := a }⟩⟩,
    ⟨"retry_cost",
      .count ⟨(·.budget.retryCost), fun a s => { s with budget.retryCost := a }⟩⟩,
    ⟨"success_credit",
      .count ⟨(·.budget.successCredit), fun a s => { s with budget.successCredit := a }⟩⟩,
    ⟨"repay_debited_on_success",
      .flag ⟨(·.budget.repayDebitedOnSuccess),
        fun a s => { s with budget.repayDebitedOnSuccess := a }⟩⟩ ]

/-- The fields of the section on rate control. -/
def adaptive : List Field :=
  [ ⟨"min_rate", .rate ⟨(·.adaptive.minRate), fun a s => { s with adaptive.minRate := a }⟩⟩,
    ⟨"max_rate", .rate ⟨(·.adaptive.maxRate), fun a s => { s with adaptive.maxRate := a }⟩⟩,
    ⟨"decrease_factor",
      .rate ⟨(·.adaptive.decreaseFactor), fun a s => { s with adaptive.decreaseFactor := a }⟩⟩,
    ⟨"increase_step",
      .rate ⟨(·.adaptive.increaseStep), fun a s => { s with adaptive.increaseStep := a }⟩⟩,
    ⟨"cooldown_ms",
      .millis ⟨(·.adaptive.cooldownMs), fun a s => { s with adaptive.cooldownMs := a }⟩⟩ ]

/-- The name of all settings together in messages. -/
def typeName : String := "RetrySettings"

/-- All parts of a settings document, in order. -/
def parts : List Part :=
  [ .field ⟨"max_attempts", .count ⟨(·.maxAttempts), fun a s => { s with maxAttempts := a }⟩⟩,
    .field ⟨"circuit_breaker_enabled",
      .flag ⟨(·.circuitBreakerEnabled), fun a s => { s with circuitBreakerEnabled := a }⟩⟩,
    .block "backoff" "BackoffSettings" backoff,
    .block "budget" "BudgetSettings" budget,
    .field ⟨"retry_on", .errorTypes ⟨(·.retryOn), fun a s => { s with retryOn := a }⟩⟩,
    .block "adaptive" "AdaptiveSettings" adaptive ]

end Layout

/-! ## §4. Writing settings. -/

/-- The value that settings hold at a setting. -/
def Setting.toJson (s : RetrySettings) : Setting → Json
  | .count slot => .integer (slot.get s).toNat
  | .millis slot => .integer (slot.get s).toNat
  | .flag slot => .bool (slot.get s)
  | .rate slot => .float (slot.get s)
  | .kind slot => .string (BackoffKind.vocabulary.wordOf (slot.get s))
  | .errorTypes slot =>
      .array ((slot.get s).map fun t => .string (ErrorType.vocabulary.wordOf t))

/-- A setting under its name. -/
def Field.toJson (s : RetrySettings) (f : Field) : String × Json := (f.name, f.setting.toJson s)

/-- A part under its name. -/
def Part.toJson (s : RetrySettings) : Part → String × Json
  | .field f => f.toJson s
  | .block name _ fields => (name, .ofMembers (fields.map (·.toJson s)))

/-- The document of settings. -/
def RetrySettings.toJson (s : RetrySettings) : Json :=
  .ofMembers (Layout.parts.map (·.toJson s))

end RetryControl
