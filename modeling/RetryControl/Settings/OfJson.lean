/-
  RetryControl.Settings.OfJson
  ────────────────────────────────
  **SETTINGS FROM A JSON TREE.**

  Missing settings have their defaults and unknown names are passed over.  A
  section may also be a list of its values in order.  Members are read in the
  order of their names, and the first value that does not fit is reported.
-/
import RetryControl.Binary64.Text
import RetryControl.Settings.Layout
import RetryControl.Text.Quoted
import RetryControl.Word

namespace RetryControl

/-! ## §1. Values that do not fit. -/

/-- What a value is, in messages. -/
def Json.described : Json → String
  | .null => "null"
  | .bool b => "boolean `" ++ (if b then "true" else "false") ++ "`"
  | .integer n => "integer `" ++ toString n ++ "`"
  | .float x => "floating point `" ++ Binary64.text .document x ++ "`"
  | .string s => "string " ++ Text.quoted s
  | .array _ => "sequence"
  | .object _ => "map"

/-- A value is of another type than the one wanted. -/
def wrongType (found wanted : String) : String :=
  "invalid type: " ++ found ++ ", expected " ++ wanted

/-- A value is of the type wanted but cannot be used. -/
def wrongValue (found wanted : String) : String :=
  "invalid value: " ++ found ++ ", expected " ++ wanted

/-- A word is not in the vocabulary. -/
def Vocabulary.unknown {α : Type} (v : Vocabulary α) (word : String) : String :=
  "unknown variant `" ++ word ++ "`, expected one of "
    ++ ", ".intercalate (v.words.map fun w => "`" ++ w.1 ++ "`")

/-- The value of a word, if the vocabulary has it. -/
def Vocabulary.read {α : Type} (v : Vocabulary α) (word : String) : Except String α :=
  match v.find? word with
  | some a => .ok a
  | none => .error (v.unknown word)

namespace Json

/-! ## §2. Single values. -/

/-- An integer from zero to `greatest`. -/
def toNatUpTo (greatest : Nat) (wanted : String) (j : Json) : Except String Nat :=
  match j with
  | .integer n =>
    if 0 ≤ n ∧ n ≤ greatest then .ok n.toNat else .error (wrongValue j.described wanted)
  | _ => .error (wrongType j.described wanted)

/-- A counter. -/
def toCount (j : Json) : Except String Count := (j.toNatUpTo Count.maxNat "u32").map .clamp

/-- A number of milliseconds. -/
def toMillis (j : Json) : Except String UInt64 :=
  (j.toNatUpTo greatestWord "u64").map UInt64.ofNat

/-- A truth value. -/
def toFlag : Json → Except String Bool
  | .bool b => .ok b
  | j => .error (wrongType j.described "a boolean")

/-- A rate or a factor; an integer stands for the nearest number. -/
def toRate : Json → Except String Float
  | .integer n => .ok (Float.ofInt n)
  | .float x => .ok x
  | j => .error (wrongType j.described "f64")

/-- A word of a vocabulary: a string, or an object of one member that is named by the word and
empty. -/
def toWord {α : Type} (v : Vocabulary α) : Json → Except String α
  | .string word => v.read word
  | .object [(word, value)] => do
    let a ← v.read word
    match value with
    | .null => .ok a
    | other => .error (wrongType other.described "unit")
  | .object members =>
    .error (wrongValue (Json.object members).described "map with a single key")
  | j => .error (wrongType j.described "string or map")

/-- A list of words of a vocabulary. -/
def toWords {α : Type} (v : Vocabulary α) : Json → Except String (List α)
  | .array items => items.mapM (toWord v)
  | j => .error (wrongType j.described "a sequence")

end Json

/-! ## §3. Settings. -/

/-- Settings with the value of one setting taken from a JSON value. -/
def Setting.ofJson (j : Json) (s : RetrySettings) : Setting → Except String RetrySettings
  | .count slot => j.toCount.map fun a => slot.put a s
  | .millis slot => j.toMillis.map fun a => slot.put a s
  | .flag slot => j.toFlag.map fun a => slot.put a s
  | .rate slot => j.toRate.map fun a => slot.put a s
  | .kind slot => (j.toWord BackoffKind.vocabulary).map fun a => slot.put a s
  | .errorTypes slot => (j.toWords ErrorType.vocabulary).map fun a => slot.put a s

namespace Json

/-- A section whose entries have the given names and readers: an object, or a list of the entries'
values in order. -/
def readSection (typeName : String)
    (entries : List (String × (Json → RetrySettings → Except String RetrySettings)))
    (j : Json) (s : RetrySettings) : Except String RetrySettings :=
  match j with
  | .object members =>
    members.foldlM (fun s (name, value) =>
      match entries.lookup name with
      | some read => read value s
      | none => .ok s) s
  | .array items => do
    -- the values that fit are looked at before the length is
    let s ← (entries.zip items).foldlM (fun s (entry, item) => entry.2 item s) s
    if items.length ≤ entries.length then .ok s
    else
      .error ("invalid length " ++ toString items.length ++ ", expected fewer elements in array")
  | _ => .error (wrongType j.described ("struct " ++ typeName))

/-- The readers of fields. -/
def fieldReaders (fields : List Field) :
    List (String × (Json → RetrySettings → Except String RetrySettings)) :=
  fields.map fun f => (f.name, fun j s => f.setting.ofJson j s)

/-- The reader of a part. -/
def partReader : Part → String × (Json → RetrySettings → Except String RetrySettings)
  | .field f => (f.name, fun j s => f.setting.ofJson j s)
  | .block name typeName fields => (name, readSection typeName (fieldReaders fields))

end Json

/-- The settings of a document that gives none: every setting has the default of its field. -/
def RetrySettings.unset : RetrySettings where
  maxAttempts := 3
  circuitBreakerEnabled := true
  backoff := { kind := .exponential, baseDelayMs := 1000, maxDelayMs := 20000 }
  budget :=
    { initialCapacity := 500, retryCost := 5, successCredit := 1, repayDebitedOnSuccess := false }
  retryOn := ErrorType.defaultRetryable
  adaptive :=
    { minRate := 0.5, maxRate := 100.0, decreaseFactor := 0.5, increaseStep := 1.0,
      cooldownMs := 1000 }

/-- The settings of a JSON tree. -/
def RetrySettings.ofJson (j : Json) : Except SettingsError RetrySettings :=
  (Json.readSection Layout.typeName (Layout.parts.map Json.partReader) j unset).mapError .unfit

/-- The error type of a JSON tree. -/
def ErrorType.ofJson (j : Json) : Except SettingsError ErrorType :=
  (j.toWord ErrorType.vocabulary).mapError .unfit

end RetryControl
