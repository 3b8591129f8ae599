/-
  RetryControl.Settings.Node
  ────────────────────────────────
  **VALUES OF LAYERED SETTINGS.**

  Settings from several sources are laid over each other in one tree.  Every
  value remembers the source it came from; a table that was put together from
  several sources has none.
-/
import RetryControl.Json.Basic
import RetryControl.NameMap
import RetryControl.Text.Lowercase
import RetryControl.Toml.Basic
import RetryControl.Word

namespace RetryControl

/-! ## §1. Nodes. -/

/-- A single value. -/
inductive Scalar where
  /-- The empty value. -/
  | nil
  /-- A truth value. -/
  | bool (b : Bool)
  /-- An integer of 64 bits. -/
  | integer (n : Int)
  /-- Any other number. -/
  | float (x : Float)
  /-- A text. -/
  | string (s : String)

/-- A value with the source it came from, if it came from one. -/
inductive Node where
  /-- A single value. -/
  | scalar (origin : Option String) (value : Scalar)
  /-- A list of values. -/
  | list (origin : Option String) (items : List Node)
  /-- Named values. -/
  | table (origin : Option String) (members : List (String × Node))

namespace Node

/-- The table without members. -/
def empty : Node := .table none []

/-- The empty value. -/
def nil : Node := .scalar none .nil

instance : Inhabited Node := ⟨nil⟩

/-- The source of a value. -/
def origin : Node → Option String
  | .scalar origin _ => origin
  | .list origin _ => origin
  | .table origin _ => origin

/-- A node as a table: what is no table counts as the one without members. -/
def asTable : Node → Option String × List (String × Node)
  | .table origin members => (origin, members)
  | _ => (none, [])

/-- A node as a list: what is no list counts as the one without items. -/
def asList : Node → Option String × List Node
  | .list origin items => (origin, items)
  | _ => (none, [])

/-! ## §2. Laying values over a table. -/

mutual

/-- The target with a value laid over it under a name, in lower case. Tables are laid over member
by member, any other value takes the place of the old one; a target that is no table becomes one. -/
def put (name : String) (incoming target : Node) : Node :=
  let key := Text.lowercase name
  let (origin, members) := target.asTable
  match incoming with
  | .table _ inner => .table origin (setEntry key (putAll inner ((members.lookup key).getD empty)) members)
  | .scalar o value => .table origin (setEntry key (.scalar o value) members)
  | .list o items => .table origin (setEntry key (.list o items) members)

/-- The target with named values laid over it, one after another. -/
def putAll (incoming : List (String × Node)) (target : Node) : Node :=
  match incoming with
  | [] => target
  | (name, node) :: rest => putAll rest (put name node target)

end

/-! ## §3. Nodes of documents. -/

mutual

/-- A JSON value; an integer beyond 64 bits with sign becomes the nearest number. -/
def ofJson (origin : Option String) : Json → Node
  | .null => .scalar origin .nil
  | .bool b => .scalar origin (.bool b)
  | .integer n =>
    .scalar origin (if n < signedReach then .integer n else .float (Float.ofInt n))
  | .float x => .scalar origin (.float x)
  | .string s => .scalar origin (.string s)
  | .array items => .list origin (ofJsonItems origin items)
  | .object members => .table origin (ofJsonMembers origin members)

/-- The items of a JSON array. -/
def ofJsonItems (origin : Option String) : List Json → List Node
  | [] => []
  | item :: items => ofJson origin item :: ofJsonItems origin items

/-- The members of a JSON object. -/
def ofJsonMembers (origin : Option String) : List (String × Json) → List (String × Node)
  | [] => []
  | (name, value) :: members => (name, ofJson origin value) :: ofJsonMembers origin members

end

mutual

/-- A TOML value; dates and times become texts. -/
def ofToml (origin : Option String) : Toml.Value → Node
  | .string s => .scalar origin (.string s)
  | .integer n => .scalar origin (.integer n)
  | .float x => .scalar origin (.float x)
  | .bool b => .scalar origin (.bool b)
  | .moment m => .scalar origin (.string m.text)
  | .array items => .list origin (ofTomlItems origin items)
  | .table members => .table origin (ofTomlMembers origin members)

/-- The items of a TOML array. -/
def ofTomlItems (origin : Option String) : List Toml.Value → List Node
  | [] => []
  | item :: items => ofToml origin item :: ofTomlItems origin items

/-- The members of a TOML table. -/
def ofTomlMembers (origin : Option String) : List (String × Toml.Value) → List (String × Node)
  | [] => []
  | (name, value) :: members => (name, ofToml origin value) :: ofTomlMembers origin members

end

end Node

end RetryControl
