/-
  RetryControl.Settings.OfNode
  ────────────────────────────────
  **SETTINGS FROM A LAYERED TREE.**

  Sources such as variables know only few kinds of values, so single values
  are converted freely: texts and truth values count as numbers, numbers as
  truth values, and numbers are rounded.  A value that cannot be converted is
  reported with the path that leads to it and the source it came from.
-/
import RetryControl.Binary64.Read
import RetryControl.Binary64.Text
import RetryControl.Settings.KeyPath
import RetryControl.Settings.OfJson
import RetryControl.Word

namespace RetryControl

/-! ## §1. Faults. -/

/-- Why a tree holds no settings. -/
inductive NodeFault where
  /-- A value cannot be converted; the path leads to it. -/
  | unfit (found wanted : String) (path : List Step) (origin : Option String)
  /-- A value has the wrong shape. -/
  | misshapen (message : String)
  deriving DecidableEq

namespace NodeFault

/-- The fault of a part of a tree, one step further from the root. -/
def below (step : Step) : NodeFault → NodeFault
  | .unfit found wanted path origin => .unfit found wanted (step :: path) origin
  | .misshapen message => .misshapen message

/-- The text of a fault. -/
def message : NodeFault → String
  | .unfit found wanted path origin =>
    wrongType found wanted
      ++ (if path.isEmpty then "" else " for key `" ++ Step.pathText path ++ "`")
      ++ (origin.map (" in " ++ ·)).getD ""
  | .misshapen message => message

end NodeFault

namespace Node

/-! ## §2. Single values. -/

/-- What a value is that cannot be converted. -/
def convertedFrom : Node → String
  | .scalar _ .nil => "unit value"
  | .scalar _ (.bool b) => "boolean `" ++ (if b then "true" else "false") ++ "`"
  | .scalar _ (.integer n) => "64-bit integer `" ++ toString n ++ "`"
  | .scalar _ (.float x) => "floating point `" ++ Binary64.text .plain x ++ "`"
  | .scalar _ (.string s) => "string " ++ Text.quoted s
  | .list _ _ => "sequence"
  | .table _ _ => "map"

/-- A value cannot be converted. -/
def unfit (node : Node) (wanted : String) : NodeFault :=
  .unfit node.convertedFrom wanted [] node.origin

/-- The truth value that a word stands for, in any case. -/
def switch? (text : String) : Option Bool :=
  let word := Text.lowercase text
  if word = "true" ∨ word = "on" ∨ word = "yes" then some true
  else if word = "false" ∨ word = "off" ∨ word = "no" then some false
  else none

/-- The number of 64 bits without sign that a text spells. -/
def natural? (text : String) : Option Nat :=
  let s := match text.toList with
    | '+' :: s => s
    | s => s
  (Text.natural? s).filter (· < wordCount)

/-- A number of 64 bits without sign; halves are rounded up. -/
def toNatural (node : Node) : Except NodeFault Nat :=
  let wanted := "an integer"
  match node with
  | .scalar _ (.bool b) => .ok (if b then 1 else 0)
  | .scalar _ (.integer n) =>
    if 0 ≤ n then .ok n.toNat else .error (node.unfit "an unsigned 64 bit or less integer")
  | .scalar _ (.float x) => .ok (Binary64.toNatClamped x greatestWord)
  | .scalar _ (.string s) =>
    match switch? s with
    | some b => .ok (if b then 1 else 0)
    | none =>
      match natural? s with
      | some n => .ok n
      | none => .error (node.unfit wanted)
  | node => .error (node.unfit wanted)

/-- A counter. -/
def toCount (node : Node) : Except NodeFault Count := do
  let n ← node.toNatural
  if n ≤ Count.maxNat then .ok (.clamp n)
  else
    -- the value is converted by now, so its source is not known any more
    .error
      (.unfit ("64-bit unsigned integer `" ++ toString n ++ "`") "an unsigned 32 bit integer" []
        none)

/-- A number of milliseconds. -/
def toMillis (node : Node) : Except NodeFault UInt64 := node.toNatural.map UInt64.ofNat

/-- A truth value. -/
def toFlag (node : Node) : Except NodeFault Bool :=
  let wanted := "a boolean"
  match node with
  | .scalar _ (.bool b) => .ok b
  | .scalar _ (.integer n) => .ok (n ≠ 0)
  | .scalar _ (.float x) => .ok (x != 0.0)
  | .scalar origin (.string s) =>
    let word := Text.lowercase s
    if word = "1" then .ok true
    else if word = "0" then .ok false
    else
      match switch? s with
      | some b => .ok b
      | none => .error ((Node.scalar origin (.string word)).unfit wanted)
  | node => .error (node.unfit wanted)

/-- A rate or a factor. -/
def toRate (node : Node) : Except NodeFault Float :=
  let wanted := "a floating point"
  match node with
  | .scalar _ (.bool b) => .ok (if b then 1.0 else 0.0)
  | .scalar _ (.integer n) => .ok (Float.ofInt n)
  | .scalar _ (.float x) => .ok x
  | .scalar _ (.string s) =>
    match switch? s with
    | some b => .ok (if b then 1.0 else 0.0)
    | none =>
      match Binary64.read? s with
      | some x => .ok x
      | none => .error (node.unfit wanted)
  | node => .error (node.unfit wanted)

/-! ## §3. Words and sections. -/

/-- The value of a word in any case, if the vocabulary has it. -/
def wordValue {α : Type} (v : Vocabulary α) (word : String) : Except NodeFault α :=
  match v.find? (Text.lowercase word) with
  | some a => .ok a
  | none =>
    .error (.misshapen ("enum " ++ v.typeName ++ " does not have variant constructor " ++ word))

/-- A word of a vocabulary: a text, or a table with one member that is named by the word. -/
def toWord {α : Type} (v : Vocabulary α) : Node → Except NodeFault α
  | .scalar _ (.string word) => wordValue v word
  | .table _ [(word, _)] => wordValue v word
  | _ =>
    .error
      (.misshapen
        ("value of enum " ++ v.typeName
          ++ " should be represented by either string or table with exactly one key"))

/-- What a value is that has the wrong shape. -/
def described : Node → String
  | .scalar _ (.integer n) => "integer `" ++ toString n ++ "`"
  | .scalar _ (.float x) => "floating point `" ++ Binary64.text .pointed x ++ "`"
  | node => node.convertedFrom

/-- A value has the wrong shape. -/
def misshapen (node : Node) (wanted : String) : NodeFault :=
  .misshapen (wrongType node.described wanted)

/-- A list of words of a vocabulary. -/
def toWords {α : Type} (v : Vocabulary α) : Node → Except NodeFault (List α)
  | .list _ items => items.mapM (toWord v)
  | node => .error (node.misshapen "a sequence")

/-- A reader of a part of settings. -/
abbrev Reader := Node → RetrySettings → Except NodeFault RetrySettings

/-- The settings after a reader was given a value, if there is one; a fault is that of the step that
led to the value. -/
def readAt (step : Step) (read : Reader) (node? : Option Node) (s : RetrySettings) :
    Except NodeFault RetrySettings :=
  match node? with
  | some node => (read node s).mapError (·.below step)
  | none => .ok s

/-- A section whose entries have the given names and readers: a table, or a list of the entries'
values in order. Members and items beyond the entries are passed over. -/
def readSection (typeName : String) (entries : List (String × Reader)) : Reader := fun node s =>
  match node with
  | .table _ members =>
    entries.foldlM (fun s (name, read) => readAt (.name name) read (members.lookup name) s) s
  | .list _ items =>
    (entries.zipIdx).foldlM (fun s ((_, read), i) => readAt (.index i) read items[i]? s) s
  | node => .error (node.misshapen ("struct " ++ typeName))

end Node

/-! ## §4. Settings. -/

/-- Settings with the value of one setting taken from a node. -/
def Setting.ofNode (setting : Setting) : Node.Reader := fun node s =>
  match setting with
  | .count slot => node.toCount.map fun a => slot.put a s
  | .millis slot => node.toMillis.map fun a => slot.put a s
  | .flag slot => node.toFlag.map fun a => slot.put a s
  | .rate slot => node.toRate.map fun a => slot.put a s
  | .kind slot => (node.toWord BackoffKind.vocabulary).map fun a => slot.put a s
  | .errorTypes slot => (node.toWords ErrorType.vocabulary).map fun a => slot.put a s

/-- The reader of a part under its name. -/
def Part.nodeReader : Part → String × Node.Reader
  | .field f => (f.name, f.setting.ofNode)
  | .block name typeName fields =>
    (name, Node.readSection typeName (fields.map fun f => (f.name, f.setting.ofNode)))

/-- The settings of a tree. -/
def RetrySettings.ofNode (node : Node) : Except NodeFault RetrySettings :=
  Node.readSection Layout.typeName (Layout.parts.map (·.nodeReader)) node unset

end RetryControl
