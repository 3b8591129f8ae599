/-
  RetryControl.Json.Basic
  ────────────────────────────────
  **JSON DOCUMENTS.**

  A document tree with two kinds of numbers: integers that fit 64 bits, and
  binary64 numbers.  The members of an object are listed by name, each name
  once.
-/
import RetryControl.Word

namespace RetryControl

/-- A JSON value. -/
inductive Json where
  /-- The empty value. -/
  | null
  /-- A truth value. -/
  | bool (b : Bool)
  /-- A number without point and power. -/
  | integer (n : Int)
  /-- Any other number. -/
  | float (x : Float)
  /-- A text. -/
  | string (s : String)
  /-- A list of values. -/
  | array (items : List Json)
  /-- Named values. -/
  | object (members : List (String × Json))

namespace Json

instance : Inhabited Json := ⟨.null⟩

/-- Members with one more, in order of names; it takes the place of a member of its name. -/
def insertMember (name : String) (value : Json) : List (String × Json) → List (String × Json)
  | [] => [(name, value)]
  | (other, old) :: rest =>
    if name < other then (name, value) :: (other, old) :: rest
    else if name = other then (name, value) :: rest
    else (other, old) :: insertMember name value rest

/-- The object of a list of members; of members of one name the last one counts. -/
def ofMembers (members : List (String × Json)) : Json :=
  .object (members.foldl (fun found m => insertMember m.1 m.2 found) [])

/-- The value of a member of an object. -/
def member? (j : Json) (name : String) : Option Json :=
  match j with
  | .object members => members.lookup name
  | _ => none

/-- The least integer that a number without point and power can be. -/
def leastInteger : Int := -signedReach

/-- The greatest integer that a number without point and power can be. -/
def greatestInteger : Int := greatestWord

end Json

end RetryControl
