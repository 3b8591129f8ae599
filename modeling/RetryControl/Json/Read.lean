/-
  RetryControl.Json.Read
  ────────────────────────────────
  **READING JSON DOCUMENTS.**

  A whole text is read into a tree.  Lists and objects nest at most 127 deep;
  of members of one name the last one counts.
-/
import RetryControl.Json.Scan

namespace RetryControl.Json

/-- One more than the number of lists and objects that may stand inside each other. -/
def nestingLimit : Nat := 128

mutual

/-- A value at the front of a text; `fuel` bounds the pieces read, `depth` the nesting. -/
def scanValue : Nat → Nat → List Char → Except Fault (Json × List Char)
  | 0, _, _ => .error .malformed
  | fuel + 1, depth, s =>
    match skipBlank s with
    | [] => .error .endOfText
    | 'n' :: s => (scanWord ['u', 'l', 'l'] s).map fun s => (.null, s)
    | 't' :: s => (scanWord ['r', 'u', 'e'] s).map fun s => (.bool true, s)
    | 'f' :: s => (scanWord ['a', 'l', 's', 'e'] s).map fun s => (.bool false, s)
    | '"' :: s => (scanString s).map fun r => (.string r.1, r.2)
    | '-' :: s => scanNumber true s
    | '[' :: s =>
      if depth ≤ 1 then .error .malformed
      else
        match skipBlank s with
        | ']' :: s => .ok (.array [], s)
        | s => (scanItems fuel (depth - 1) s).map fun r => (.array r.1, r.2)
    | '{' :: s =>
      if depth ≤ 1 then .error .malformed
      else
        match skipBlank s with
        | '}' :: s => .ok (.object [], s)
        | s => (scanMembers fuel (depth - 1) s).map fun r => (ofMembers r.1, r.2)
    | c :: s => if c.isDigit then scanNumber false (c :: s) else .error .malformed

/-- The items of a list up to its closing bracket, at least one. -/
def scanItems : Nat → Nat → List Char → Except Fault (List Json × List Char)
  | 0, _, _ => .error .malformed
  | fuel + 1, depth, s => do
    let (item, s) ← scanValue fuel depth s
    match skipBlank s with
    | ',' :: s =>
      let (items, s) ← scanItems fuel depth s
      .ok (item :: items, s)
    | ']' :: s => .ok ([item], s)
    | s => .error (.atFront s)

/-- The members of an object up to its closing brace, at least one. -/
def scanMembers : Nat → Nat → List Char → Except Fault (List (String × Json) × List Char)
  | 0, _, _ => .error .malformed
  | fuel + 1, depth, s => do
    let (name, s) ← match skipBlank s with
      | '"' :: s => scanString s
      | s => .error (.atFront s)
    let s ← match skipBlank s with
      | ':' :: s => .ok s
      | s => .error (.atFront s)
    let (value, s) ← scanValue fuel depth s
    match skipBlank s with
    | ',' :: s =>
      let (members, s) ← scanMembers fuel depth s
      .ok ((name, value) :: members, s)
    | '}' :: s => .ok ([(name, value)], s)
    | s => .error (.atFront s)

end

/-- The tree of a whole text. -/
def read (text : String) : Except Fault Json := do
  let s := text.toList
  let (value, rest) ← scanValue (2 * s.length + 2) nestingLimit s
  match skipBlank rest with
  | [] => .ok value
  | _ :: _ => .error .malformed

mutual

/-- What follows a value at the front of a text. -/
def skipValue : Nat → List Char → Except Fault (List Char)
  | 0, _ => .error .malformed
  | fuel + 1, s =>
    match skipBlank s with
    | [] => .error .endOfText
    | 'n' :: s => scanWord ['u', 'l', 'l'] s
    | 't' :: s => scanWord ['r', 'u', 'e'] s
    | 'f' :: s => scanWord ['a', 'l', 's', 'e'] s
    | '"' :: s => skipString s
    | '-' :: s => skipNumber s
    | '[' :: s =>
      match skipBlank s with
      | ']' :: s => .ok s
      | s => skipItems fuel s
    | '{' :: s =>
      match skipBlank s with
      | '}' :: s => .ok s
      | s => skipMembers fuel s
    | c :: s => if c.isDigit then skipNumber (c :: s) else .error .malformed

/-- What follows the items of a list and its closing bracket. -/
def skipItems : Nat → List Char → Except Fault (List Char)
  | 0, _ => .error .malformed
  | fuel + 1, s => do
    let s ← skipValue fuel s
    match skipBlank s with
    | ',' :: s => skipItems fuel s
    | ']' :: s => .ok s
    | s => .error (.atFront s)

/-- What follows the members of an object and its closing brace. -/
def skipMembers : Nat → List Char → Except Fault (List Char)
  | 0, _ => .error .malformed
  | fuel + 1, s => do
    let s ← match skipBlank s with
      | '"' :: s => skipString s
      | s => .error (.atFront s)
    let s ← match skipBlank s with
      | ':' :: s => .ok s
      | s => .error (.atFront s)
    let s ← skipValue fuel s
    match skipBlank s with
    | ',' :: s => skipMembers fuel s
    | '}' :: s => .ok s
    | s => .error (.atFront s)

end

end RetryControl.Json
