/-
  RetryControl.Settings.OfText
  ────────────────────────────────
  **SETTINGS FROM JSON TEXT.**

  The text is read once from front to back, and the first fault on the way is
  reported: a value that does not fit as soon as it is met, even if the text
  turns out malformed later.  A setting may not be given twice.
-/
import RetryControl.Json.Read
import RetryControl.Settings.OfJson

namespace RetryControl

namespace SettingsText

open Json (Fault skipBlank scanWord scanString scanNumber)

/-! ## §1. Single values. -/

/-- A value at the front of a text. Of a list or an object only the opening bracket is read, and
an empty one stands for it. -/
def scanShallow (s : List Char) : Except Fault (Json × List Char) :=
  match skipBlank s with
  | [] => .error .endOfText
  | 'n' :: s => (scanWord ['u', 'l', 'l'] s).map fun s => (.null, s)
  | 't' :: s => (scanWord ['r', 'u', 'e'] s).map fun s => (.bool true, s)
  | 'f' :: s => (scanWord ['a', 'l', 's', 'e'] s).map fun s => (.bool false, s)
  | '"' :: s => (scanString s).map fun r => (.string r.1, r.2)
  | '-' :: s => scanNumber true s
  | '[' :: s => .ok (.array [], s)
  | '{' :: s => .ok (.object [], s)
  | c :: s => if c.isDigit then scanNumber false (c :: s) else .error .malformed

/-- A value at the front of a text, converted. -/
def scanAs {α : Type} (convert : Json → Except String α) (s : List Char) :
    Except Fault (α × List Char) := do
  let (value, rest) ← scanShallow s
  let a ← (convert value).mapError .unfit
  return (a, rest)

/-- A value that is certainly of another type than the one wanted. -/
def scanUnfit {α : Type} (wanted : String) : List Char → Except Fault (α × List Char) :=
  scanAs fun j => .error (wrongType j.described wanted)

/-- What follows a colon. -/
def scanColon (s : List Char) : Except Fault (List Char) :=
  match skipBlank s with
  | ':' :: s => .ok s
  | s => .error (.atFront s)

/-- The name of a member, which is a string. -/
def scanMemberName (s : List Char) : Except Fault (String × List Char) :=
  match skipBlank s with
  | '"' :: s => scanString s
  | s => .error (.atFront s)

/-- A word of a vocabulary: a string, or an object of one empty member named by the word. -/
def scanWordOf {α : Type} (v : Vocabulary α) (s : List Char) : Except Fault (α × List Char) :=
  match skipBlank s with
  | '"' :: _ => scanAs (Json.toWord v) s
  | '{' :: s => do
    let (word, s) ← scanMemberName s
    let a ← (v.read word).mapError .unfit
    let s ← scanColon s
    let (_, s) ← scanAs (fun
      | .null => .ok ()
      | j => .error (wrongType j.described "unit")) s
    match skipBlank s with
    | '}' :: s => .ok (a, s)
    | s => .error (.atFront s)
  | s => .error (.atFront s)

/-! ## §2. Lists. -/

/-- Where the next item of a list starts, or what follows the list. -/
def nextItem (isFirst : Bool) (s : List Char) : Except Fault (List Char × Bool) :=
  match skipBlank s with
  | ']' :: s => .ok (s, false)
  | ',' :: s =>
    if isFirst then .ok (',' :: s, true)
    else
      match skipBlank s with
      | [] => .error .endOfText
      | ']' :: _ => .error .malformed
      | s => .ok (s, true)
  | [] => .error .endOfText
  | s => if isFirst then .ok (s, true) else .error .malformed

/-- The words of a list after its opening bracket; `fuel` bounds their number. -/
def scanWords {α : Type} (v : Vocabulary α) :
    Nat → Bool → List Char → Except Fault (List α × List Char)
  | 0, _, _ => .error .malformed
  | fuel + 1, isFirst, s => do
    match ← nextItem isFirst s with
    | (s, false) => .ok ([], s)
    | (s, true) =>
      let (a, s) ← scanWordOf v s
      let (rest, s) ← scanWords v fuel false s
      .ok (a :: rest, s)

/-- The reader of one setting or section: it changes the settings and gives what follows. -/
abbrev Reader := List Char → RetrySettings → Except Fault (RetrySettings × List Char)

/-- The settings after a list of values for readers in order, after its opening bracket. More values
than readers are malformed. -/
def scanInOrder : List Reader → Bool → Reader
  | [], _, s, settings =>
    match skipBlank s with
    | ']' :: s => .ok (settings, s)
    | s => .error (.atFront s)
  | read :: readers, isFirst, s, settings => do
    match ← nextItem isFirst s with
    | (s, false) => .ok (settings, s)
    | (s, true) =>
      let (settings, s) ← read s settings
      scanInOrder readers false s settings

/-! ## §3. Objects. -/

/-- Where the name of the next member of an object starts, after its quote, or what follows the
object. -/
def nextMember (isFirst : Bool) (s : List Char) : Except Fault (List Char × Bool) :=
  match skipBlank s with
  | '}' :: s => .ok (s, false)
  | '"' :: s => if isFirst then .ok (s, true) else .error .malformed
  | ',' :: s =>
    if isFirst then .error .malformed
    else
      match skipBlank s with
      | '"' :: s => .ok (s, true)
      | s => .error (.atFront s)
  | s => .error (.atFront s)

/-- The settings after the members of an object, after its opening brace; `fuel` bounds their
number, and `seen` are the names met so far. -/
def scanByName (readers : List (String × Reader)) : Nat → Bool → List String → Reader
  | 0, _, _, _, _ => .error .malformed
  | fuel + 1, isFirst, seen, s, settings => do
    match ← nextMember isFirst s with
    | (s, false) => .ok (settings, s)
    | (s, true) =>
      let (name, s) ← scanString s
      match readers.lookup name with
      | some read =>
        if seen.contains name then .error (.unfit ("duplicate field `" ++ name ++ "`"))
        else
          let s ← scanColon s
          let (settings, s) ← read s settings
          scanByName readers fuel false (name :: seen) s settings
      | none =>
        let s ← scanColon s
        let s ← Json.skipValue (2 * s.length + 2) s
        scanByName readers fuel false seen s settings

/-! ## §4. Settings. -/

/-- The reader of a section whose entries have the given names and readers. -/
def scanSection (typeName : String) (readers : List (String × Reader)) : Reader :=
  fun s settings =>
    match skipBlank s with
    | '{' :: s => scanByName readers (s.length + 1) true [] s settings
    | '[' :: s => scanInOrder (readers.map (·.2)) true s settings
    | s => scanUnfit ("struct " ++ typeName) s

/-- The reader of a setting. -/
def scanSetting (setting : Setting) : Reader := fun s settings =>
  let put {α : Type} (slot : Slot α) (r : α × List Char) := (slot.put r.1 settings, r.2)
  match setting with
  | .count slot => (scanAs Json.toCount s).map (put slot)
  | .millis slot => (scanAs Json.toMillis s).map (put slot)
  | .flag slot => (scanAs Json.toFlag s).map (put slot)
  | .rate slot => (scanAs Json.toRate s).map (put slot)
  | .kind slot => (scanWordOf BackoffKind.vocabulary s).map (put slot)
  | .errorTypes slot =>
    match skipBlank s with
    | '[' :: s => (scanWords ErrorType.vocabulary (s.length + 1) true s).map (put slot)
    | s => scanUnfit "a sequence" s

/-- The reader of a part under its name. -/
def scanPart : Part → String × Reader
  | .field f => (f.name, scanSetting f.setting)
  | .block name typeName fields =>
    (name, scanSection typeName (fields.map fun f => (f.name, scanSetting f.setting)))

/-- The settings of a whole text, or the first fault in it. -/
def read (text : String) : Except Fault RetrySettings := do
  let (settings, rest) ←
    scanSection Layout.typeName (Layout.parts.map scanPart) text.toList RetrySettings.unset
  match skipBlank rest with
  | [] => .ok settings
  | _ :: _ => .error .malformed

end SettingsText

/-- A fault of a text as an error of the settings. -/
def SettingsError.ofFault : Json.Fault → SettingsError
  | .endOfText => .endOfText
  | .malformed => .malformed
  | .unfit message => .unfit message

/-- The settings of a JSON text. -/
def RetrySettings.ofText (text : String) : Except SettingsError RetrySettings :=
  (SettingsText.read text).mapError .ofFault

end RetryControl
