/-
  RetryControl.Toml.Read
  ────────────────────────────────
  **READING TOML DOCUMENTS.**

  A text is read into its statements, and the statements are put together to
  one table.  Lists and tables inside a value nest at most 79 deep.  In the
  end tables that are marked as moments give way to the moments they spell.
-/
import RetryControl.Toml.Scan
import RetryControl.Toml.Tree

namespace RetryControl.Toml

/-! ## §1. Values. -/

/-- How deep lists and tables inside a value may nest. -/
def deepestNesting : Nat := 79

mutual

/-- A value; `fuel` bounds the pieces read, `depth` is the nesting still allowed. -/
def scanValue : Nat → Nat → Scan Value
  | 0, _, _ => none
  | _ + 1, _, [] => none
  | fuel + 1, depth, c :: s =>
    if c = Quotes.basic.mark then
      (scanString .basic (c :: s)).map fun (text, s) => (.string text, s)
    else if c = Quotes.literal.mark then
      (scanString .literal (c :: s)).map fun (text, s) => (.string text, s)
    else if c = '[' then
      match depth with
      | 0 => none
      | depth + 1 => (scanItems fuel depth s).map fun (items, s) => (.array items, s)
    else if c = '\x7b' then
      match depth with
      | 0 => none
      | depth + 1 => do
        let (pairs, s) ← match skipBlank s with
          | '\x7d' :: s => some ([], s)
          | s => scanPairs fuel depth s
        let members ← ofPairs pairs
        some (.table members, s)
    else if c.isDigit ∨ c = '+' ∨ c = '-' then
      -- a year or an hour starts like a number
      match scanMoment (c :: s) with
      | some (moment, s) => some (.moment moment, s)
      | none => scanNumber (c :: s)
    else
      match c :: s with
      | 't' :: 'r' :: 'u' :: 'e' :: s => some (.bool true, s)
      | 'f' :: 'a' :: 'l' :: 's' :: 'e' :: s => some (.bool false, s)
      | 'i' :: 'n' :: 'f' :: _ => scanNumber (c :: s)
      | 'n' :: 'a' :: 'n' :: _ => scanNumber (c :: s)
      | _ => none

/-- The items of a list up to its closing bracket; a comma may follow the last one. -/
def scanItems : Nat → Nat → Scan (List Value)
  | 0, _, _ => none
  | fuel + 1, depth, s =>
    match skipFiller (s.length + 1) s with
    | ']' :: s => some ([], s)
    | s => do
      let (item, s) ← scanValue fuel depth s
      match skipFiller (s.length + 1) s with
      | ',' :: s =>
        let (items, s) ← scanItems fuel depth s
        some (item :: items, s)
      | ']' :: s => some ([item], s)
      | _ => none

/-- The keys and values of a table in braces up to its closing brace, at least one. -/
def scanPairs : Nat → Nat → Scan (List (Key × Value))
  | 0, _, _ => none
  | fuel + 1, depth, s => do
    let (key, s) ← scanKey s
    let s ← takeChar? '=' s
    let (value, s) ← scanValue fuel depth (skipBlank s)
    match skipBlank s with
    | ',' :: s =>
      let (pairs, s) ← scanPairs fuel depth s
      some ((key, value) :: pairs, s)
    | '\x7d' :: s => some ([(key, value)], s)
    | _ => none

end

/-! ## §2. Statements. -/

/-- A key between brackets. -/
def scanHeader (closing : List Char) : Scan Key := fun s => do
  let (key, s) ← scanKey s
  if s.take closing.length = closing then some (key, s.drop closing.length) else none

/-- The statement of a line. -/
def scanStatement : Scan Statement
  | '[' :: '[' :: s => (scanHeader [']', ']'] s).map fun (key, s) => (.row key, s)
  | '[' :: s => (scanHeader [']'] s).map fun (key, s) => (.table key, s)
  | s => do
    let (key, s) ← scanKey s
    let s ← takeChar? '=' s
    let s := skipBlank s
    let (value, s) ← scanValue (2 * s.length + 2) deepestNesting s
    some (.assign key value, s)

/-- All statements of a text; `fuel` bounds the lines. -/
def scanStatements : Nat → List Char → Option (List Statement)
  | 0, _ => none
  | fuel + 1, s =>
    match endLine? s with
    | some [] => some []
    | some s => scanStatements fuel s
    | none => do
      let (statement, s) ← scanStatement (skipBlank s)
      let s ← endLine? s
      let rest ← scanStatements fuel s
      some (statement :: rest)

/-! ## §3. Marked tables. -/

/-- The name of a first member that marks a table as a moment. -/
def momentMark : String := "$__toml_private_datetime"

/-- The value that stands for a table if the table is marked. -/
def marked? : List (String × Value) → Option Value
  | (name, value) :: _ => if name = momentMark then some value else none
  | [] => none

/-- The moment that a value spells, which only strings do. -/
def Value.moment? : Value → Option Moment
  | .string s => Moment.ofText? s
  | _ => none

mutual

/-- A value in which moments have replaced the tables marked as such; none if one of these spells no
moment. What else is in a marked table does not count. -/
def Value.settle : Value → Option Value
  | .array items => (settleItems items).map .array
  | .table members =>
    match marked? members with
    | some value => value.moment?.map .moment
    | none => (settleMembers members).map .table
  | value => some value

/-- The items of a list, settled. -/
def settleItems : List Value → Option (List Value)
  | [] => some []
  | item :: items => do
    let item ← item.settle
    let items ← settleItems items
    some (item :: items)

/-- The members of a table, settled. -/
def settleMembers : List (String × Value) → Option (List (String × Value))
  | [] => some []
  | (name, value) :: members => do
    let value ← value.settle
    let members ← settleMembers members
    some ((name, value) :: members)

end

/-! ## §4. Documents. -/

/-- The text without the byte order mark at its front. -/
def skipByteOrderMark : List Char → List Char
  | '\ufeff' :: s => s
  | s => s

/-- The members of the table that a text describes; none if it is malformed. -/
def read (text : String) : Option (List (String × Value)) := do
  let s := skipByteOrderMark text.toList
  let statements ← scanStatements (s.length + 1) s
  let members ← ofStatements statements
  match ← (Value.table members).settle with
  | .table members => some members
  -- the document itself is marked as a moment
  | _ => none

end RetryControl.Toml
