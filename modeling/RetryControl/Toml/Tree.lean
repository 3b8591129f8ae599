/-
  RetryControl.Toml.Tree
  ────────────────────────────────
  **PUTTING TABLES TOGETHER.**

  A document names its tables piece by piece: by headers, by headers of
  tables inside them, and by dotted keys.  How a table came to be decides
  what may still be added to it, so that no table is described twice and no
  value is replaced.
-/
import RetryControl.NameMap
import RetryControl.Toml.Basic

namespace RetryControl.Toml

/-! ## §1. Unfinished tables. -/

/-- How a table came to be. -/
inductive Origin where
  /-- By a header of its own. -/
  | declared
  /-- By the header of a table inside it. -/
  | implied
  /-- By a dotted key. -/
  | dotted
  deriving Repr, DecidableEq

/-- A value or an unfinished table. -/
inductive Tree where
  /-- A value that is finished. -/
  | leaf (value : Value)
  /-- A table. -/
  | table (origin : Origin) (members : List (String × Tree))
  /-- A list of tables, each with a header of its own; only the last is unfinished. -/
  | rows (finished : List Value) (last : List (String × Tree))

/-- The members of an unfinished table. -/
abbrev Members := List (String × Tree)

mutual

/-- A tree as a value. -/
def Tree.finish : Tree → Value
  | .leaf value => value
  | .table _ members => .table (finishMembers members)
  | .rows finished last => .array (finished ++ [.table (finishMembers last)])

/-- The members of a finished table. -/
def finishMembers : Members → List (String × Value)
  | [] => []
  | (name, tree) :: rest => (name, tree.finish) :: finishMembers rest

end

/-! ## §2. Finding the table that a path leads to. -/

/-- A change of the members of a table, which its origin may forbid. -/
abbrev Change := Origin → Members → Option Members

/-- The change of the table that a path leads to. Tables on the way that are missing come to be as
`missing` says, and only tables that `mayEnter` allows are entered; of a list of tables the last
one is entered. -/
def changeAt (missing : Origin) (mayEnter : Origin → Bool) (change : Change) :
    List String → Change
  | [], origin, members => change origin members
  | name :: path, _, members =>
    let next := changeAt missing mayEnter change path
    let tree? : Option Tree :=
      match members.lookup name with
      | none => (next missing []).map (.table missing)
      | some (.table origin inner) =>
        if mayEnter origin then (next origin inner).map (.table origin) else none
      -- whatever may be entered: a row is open until the next one starts
      | some (.rows finished last) => (next .declared last).map (.rows finished)
      | some (.leaf _) => none
    tree?.map fun tree => setEntry name tree members

/-- The change of the table that the parents of a header lead to. -/
def changeUnder (path : List String) (change : Change) : Change :=
  changeAt .implied (fun _ => true) change path

/-! ## §3. Statements. -/

/-- Adds a value under a key. A dotted key may not reach into tables that have headers, and it may
not add to tables that other headers imply. -/
def assign (key : Key) (value : Value) : Change :=
  changeAt .dotted (· ≠ .declared)
    (fun origin members =>
      if key.parents.isEmpty ∨ origin = .dotted then
        if (members.lookup key.name).isSome then none
        else some (members ++ [(key.name, .leaf value)])
      else none)
    key.parents

/-- Declares the table of a header, which may so far only be implied. The table becomes the last
member, wherever it was before. -/
def declare (key : Key) : Change :=
  changeUnder key.parents fun _ members =>
    let others := members.filter (·.1 != key.name)
    match members.lookup key.name with
    | none => some (others ++ [(key.name, .table .declared [])])
    -- tables inside it came first; their entries stay
    | some (.table .implied inner) => some (others ++ [(key.name, .table .declared inner)])
    | some _ => none

/-- Adds a table to the list of tables of a header. -/
def addRow (key : Key) : Change :=
  changeUnder key.parents fun _ members =>
    match members.lookup key.name with
    | none => some (setEntry key.name (.rows [] []) members)
    | some (.rows finished last) =>
      some (setEntry key.name (.rows (finished ++ [.table (finishMembers last)]) []) members)
    | some _ => none

/-- A statement of a document. -/
inductive Statement where
  /-- A value under a key, in the table of the last header. -/
  | assign (key : Key) (value : Value)
  /-- The header of a table. -/
  | table (key : Key)
  /-- The header of a table in a list. -/
  | row (key : Key)

/-- The document so far, and the path of its last header. -/
structure Draft where
  /-- All members of the document. -/
  members : Members := []
  /-- The path of the last header. -/
  header : List String := []

/-- The document after one more statement, if the statement is allowed. -/
def Draft.add (d : Draft) : Statement → Option Draft
  | .assign key value =>
    (changeUnder d.header (Toml.assign key value) .declared d.members).map
      fun members => { d with members }
  | .table key =>
    (declare key .declared d.members).map fun members => ⟨members, key.parents ++ [key.name]⟩
  | .row key =>
    (addRow key .declared d.members).map fun members => ⟨members, key.parents ++ [key.name]⟩

/-- The members of the table that statements describe. -/
def ofStatements (statements : List Statement) : Option (List (String × Value)) :=
  (statements.foldlM Draft.add {}).map fun d => finishMembers d.members

/-- The members of the table that keys with values describe. -/
def ofPairs (pairs : List (Key × Value)) : Option (List (String × Value)) :=
  (pairs.foldlM (fun members (key, value) => assign key value .declared members) []).map
    finishMembers

end RetryControl.Toml
