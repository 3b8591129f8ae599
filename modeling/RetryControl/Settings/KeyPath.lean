/-
  RetryControl.Settings.KeyPath
  ────────────────────────────────
  **KEYS THAT LEAD INTO A TREE.**

  A key such as `a.b[2]` leads from the root of a tree to a value in it.
  Laying a value at its end makes way for it: what is missing comes to be, and
  what is in the way is replaced.
-/
import RetryControl.Settings.Node
import RetryControl.Word

namespace RetryControl

/-! ## §1. Paths. -/

/-- One step into a tree. -/
inductive Step where
  /-- To a member of a table. -/
  | name (name : String)
  /-- To an item of a list; negative numbers count from its end. -/
  | index (number : Int)
  deriving Repr, DecidableEq

/-- A path in written form: names with points between them, numbers in brackets. -/
def Step.pathText : List Step → String
  | [] => ""
  | step :: rest =>
    let here := match step with
      | .name word => word
      | .index number => "[" ++ toString number ++ "]"
    let point := match rest with
      | .name _ :: _ => "."
      | _ => ""
    here ++ point ++ pathText rest

namespace KeyPath

/-- A character of a name in a path. -/
def isNameChar (c : Char) : Bool := c.isAlphanum ∨ c = ' ' ∨ c = '_' ∨ c = '-'

/-- A name in a path and what follows it. -/
def scanName (s : List Char) : Option (String × List Char) :=
  match s.takeWhile isNameChar with
  | [] => none
  | cs => some (String.ofList cs, s.dropWhile isNameChar)

/-- A text without the spaces and tabs at its front. -/
def skipBlank (s : List Char) : List Char := s.dropWhile fun c => c = ' ' ∨ c = '\t'

/-- A number in brackets after the opening one, and what follows them. It has 64 bits. -/
def scanIndex (s : List Char) : Option (Int × List Char) := do
  let s := skipBlank s
  let (negative, s) := match s with
    | '-' :: s => (true, s)
    | s => (false, s)
  let n ← Text.natural? (s.takeWhile Char.isDigit)
  let number : Int := if negative then -n else n
  match skipBlank (s.dropWhile Char.isDigit) with
  | ']' :: s => if fitsSigned number then some (number, s) else none
  | _ => none

/-- The steps of a path after its first name, to the end of the text; `fuel` bounds their number. -/
def scanSteps : Nat → List Char → Option (List Step)
  | _, [] => some []
  | 0, _ :: _ => none
  | fuel + 1, '.' :: s => do
    let (name, s) ← scanName s
    let steps ← scanSteps fuel s
    some (.name name :: steps)
  | fuel + 1, '[' :: s => do
    let (number, s) ← scanIndex s
    let steps ← scanSteps fuel s
    some (.index number :: steps)
  | _ + 1, _ :: _ => none

/-- The steps of a path; none if the text is no path. -/
def read? (text : String) : Option (List Step) := do
  let (name, s) ← scanName text.toList
  let steps ← scanSteps s.length s
  some (.name name :: steps)

/-- The steps of a key, which is a plain name if it is no path. -/
def ofKey (key : String) : List Step := (read? key).getD [.name key]

end KeyPath

/-! ## §2. Laying values at the end of a path. -/

/-- The items of a list made long enough to have the one of a number, and its position: too few at
the end or, for numbers from the end, at the front are made up by empty values. -/
def reachItem (items : List Node) (number : Int) : List Node × Nat :=
  if 0 ≤ number then
    let position := number.toNat
    (items ++ List.replicate (position + 1 - items.length) Node.nil, position)
  else
    -- numbers from the end make the list longer at its front
    let fromEnd := number.natAbs
    (List.replicate (fromEnd - items.length) Node.nil ++ items, items.length - fromEnd)

/-- The target with a value laid over it at the end of a path. -/
def Node.putAt (incoming : Node) : List Step → Node → Node
  | [], _ => incoming
  | [.name name], target => put name incoming target
  | .name name :: rest, target =>
    let key := Text.lowercase name
    let (origin, members) := target.asTable
    .table origin (setEntry key (putAt incoming rest ((members.lookup key).getD nil)) members)
  | .index number :: rest, target =>
    let (origin, items) := target.asList
    let (items, position) := reachItem items number
    .list origin (items.set position (putAt incoming rest (items.getD position nil)))

/-- The target with the values of a source laid over it; their keys may be paths. -/
def Node.putSource (target : Node) (source : List (String × Node)) : Node :=
  source.foldl (fun target (key, node) => putAt node (KeyPath.ofKey key) target) target

end RetryControl
