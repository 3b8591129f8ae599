/-
  RetryControl.Settings.Environment
  ────────────────────────────────
  **SETTINGS FROM VARIABLES.**

  A variable whose name starts with the word for retries gives a setting; two
  underscores in its name lead into a section.  Its text is read as the first
  of these that fits: a truth value, an integer, a number, a text.
-/
import RetryControl.Binary64.Read
import RetryControl.Settings.Node
import RetryControl.Word

namespace RetryControl.Environment

/-- The source that values of variables remember. -/
def origin : Option String := some "the environment"

/-- What the names of variables with settings start with, in lower case. -/
def namePrefix : List Char := "retries_".toList

/-- Text with a point for every two underscores. -/
def pointed : List Char → List Char
  | '_' :: '_' :: s => '.' :: pointed s
  | c :: s => c :: pointed s
  | [] => []

/-- The key of the setting that a variable gives, if it gives one. -/
def key? (name : String) : Option String :=
  let s := (Text.lowercase name).toList
  if namePrefix.isPrefixOf s then some (String.ofList (pointed (s.drop namePrefix.length)))
  else none

/-- The key of the setting whose text may be a list. -/
def listKey : String := "retry_on"

/-- The integer that a text spells, if it has 64 bits. -/
def integer? (text : String) : Option Int :=
  (Text.integer? text.toList).filter fitsSigned

/-- The truth value that a text spells, in any case. -/
def bool? (text : String) : Option Bool :=
  let word := Text.lowercase text
  if word = "true" then some true else if word = "false" then some false else none

/-- The items of a text that is a list, with commas between them. -/
def items (text : String) : List String := (text.toList.splitOn ',').map String.ofList

/-- The value that a variable gives to the setting of a key. -/
def node (key text : String) : Node :=
  match bool? text with
  | some b => .scalar origin (.bool b)
  | none =>
    match integer? text with
    | some n => .scalar origin (.integer n)
    | none =>
      match Binary64.read? text with
      | some x => .scalar origin (.float x)
      | none =>
        if key = listKey then
          .list origin ((items text).map fun item => .scalar origin (.string item))
        else .scalar origin (.string text)

/-- The settings that variables give, by their keys. -/
def source (environment : List (String × String)) : List (String × Node) :=
  environment.filterMap fun (name, text) => (key? name).map fun key => (key, node key text)

end RetryControl.Environment
