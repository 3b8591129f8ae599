/-
  RetryControl.Toml.Scan
  ────────────────────────────────
  **THE PIECES OF TOML TEXT.**

  Blanks, line ends, keys, strings, numbers, dates and times are read from
  the front of a text; a scan gives what it read and what follows, or nothing
  if the text is malformed.
-/
import RetryControl.Binary64.Read
import RetryControl.Toml.Basic
import RetryControl.Word

namespace RetryControl.Toml

/-- A reader of a piece at the front of a text. -/
abbrev Scan (α : Type) := List Char → Option (α × List Char)

/-! ## §1. Blanks and line ends. -/

/-- A space or a tab. -/
def isBlank (c : Char) : Bool := c = ' ' ∨ c = '\t'

/-- A text without the blanks at its front. -/
def skipBlank (s : List Char) : List Char := s.dropWhile isBlank

/-- What follows a line end at the front of a text. -/
def takeLineEnd? : List Char → Option (List Char)
  | '\n' :: s => some s
  | '\r' :: '\n' :: s => some s
  | _ => none

/-- A character that may stand in comments and strings: any but control characters, tabs apart. -/
def isTextChar (c : Char) : Bool := c = '\t' ∨ (0x20 ≤ c.toNat ∧ c ≠ '\x7f')

/-- A text without the comment at its front. -/
def skipComment : List Char → List Char
  | '#' :: s => s.dropWhile isTextChar
  | s => s

/-- What follows the end of a line, before which blanks and a comment may stand. -/
def endLine? (s : List Char) : Option (List Char) :=
  match skipComment (skipBlank s) with
  | [] => some []
  | s => takeLineEnd? s

/-- A text without the blanks and line ends at its front. -/
def skipEmptyLines : List Char → List Char
  | '\r' :: '\n' :: s => skipEmptyLines s
  | c :: s => if isBlank c ∨ c = '\n' then skipEmptyLines s else c :: s
  | [] => []

/-- A text without the blanks, line ends and comments at its front; `fuel` bounds their number. -/
def skipFiller : Nat → List Char → List Char
  | 0, s => s
  | fuel + 1, s =>
    match skipComment (skipBlank s) with
    | [] => []
    | c :: rest =>
      match takeLineEnd? (c :: rest) with
      | some s => skipFiller fuel s
      | none => c :: rest

/-! ## §2. Strings. -/

/-- A way to write strings. -/
structure Quotes where
  /-- The mark before and after a string. -/
  mark : Char
  /-- A backslash starts an escape. -/
  escapes : Bool

/-- Strings between double quotes, with escapes. -/
def Quotes.basic : Quotes := ⟨'"', true⟩

/-- Strings between single quotes, without escapes. -/
def Quotes.literal : Quotes := ⟨'\x27', false⟩

/-- A character that stands for itself inside a string. -/
def Quotes.admits (q : Quotes) (c : Char) : Bool :=
  isTextChar c ∧ c ≠ q.mark ∧ ¬(q.escapes ∧ c = '\\')

/-- A character by the given count of hexadecimal digits. -/
def scanNumbered (count : Nat) : Scan Char := fun s =>
  if (s.take count).length < count then none
  else
    (Text.number? 16 (s.take count)).bind fun n =>
      if n.isValidChar then some (Char.ofNat n, s.drop count) else none

/-- The character of an escape, after its backslash. -/
def scanEscape : Scan Char
  | 'b' :: s => some ('\x08', s)
  | 't' :: s => some ('\t', s)
  | 'n' :: s => some ('\n', s)
  | 'f' :: s => some ('\x0c', s)
  | 'r' :: s => some ('\r', s)
  | '"' :: s => some ('"', s)
  | '\\' :: s => some ('\\', s)
  | 'u' :: s => scanNumbered 4 s
  | 'U' :: s => scanNumbered 8 s
  | _ => none

/-- The characters of a string on one line, after its opening mark; `fuel` bounds their number. -/
def scanLine (q : Quotes) : Nat → Scan (List Char)
  | 0, _ => none
  | _ + 1, [] => none
  | fuel + 1, c :: s =>
    if c = q.mark then some ([], s)
    else if q.escapes ∧ c = '\\' then do
      let (c, s) ← scanEscape s
      let (cs, s) ← scanLine q fuel s
      some (c :: cs, s)
    else if q.admits c then do
      let (cs, s) ← scanLine q fuel s
      some (c :: cs, s)
    else none

/-- The characters of a string over several lines, after its three opening marks; `fuel` bounds
their number. One or two marks may stand anywhere in it, also before the three closing ones. A
backslash at the end of a line hides the line end and all blanks and line ends after it. -/
def scanLines (q : Quotes) : Nat → Scan (List Char)
  | 0, _ => none
  | _ + 1, [] => none
  | fuel + 1, c :: s =>
    let more (before : List Char) (s : List Char) : Option (List Char × List Char) :=
      (scanLines q fuel s).map fun (cs, s) => (before ++ cs, s)
    if c = q.mark then
      let marks := (c :: s).takeWhile (· = q.mark)
      let rest := (c :: s).dropWhile (· = q.mark)
      -- the last three of a run of marks close the string, those before belong to it
      if marks.length < 3 then more marks rest
      else if marks.length ≤ 5 then some (marks.drop 3, rest)
      else none
    else if q.escapes ∧ c = '\\' then
      match takeLineEnd? (skipBlank s) with
      | some s => more [] (skipEmptyLines s)
      | none => (scanEscape s).bind fun (c, s) => more [c] s
    else
      match takeLineEnd? (c :: s) with
      | some s => more ['\n'] s
      | none => if q.admits c then more [c] s else none

/-- A string on one line. -/
def scanShort (q : Quotes) : Scan String
  | [] => none
  | c :: s =>
    if c = q.mark then
      (scanLine q (s.length + 1) s).map fun (cs, s) => (String.ofList cs, s)
    else none

/-- A string on one line or on several lines; a line end after three opening marks does not count. -/
def scanString (q : Quotes) : Scan String := fun s =>
  if (s.take 3) = [q.mark, q.mark, q.mark] then
    let body := (takeLineEnd? (s.drop 3)).getD (s.drop 3)
    (scanLines q (body.length + 1) body).map fun (cs, s) => (String.ofList cs, s)
  else scanShort q s

/-! ## §3. Keys. -/

/-- A character of a key without quotes. -/
def isBareChar (c : Char) : Bool := c.isAlphanum ∨ c = '_' ∨ c = '-'

/-- One name of a key. -/
def scanName : Scan String
  | [] => none
  | c :: s =>
    if c = Quotes.basic.mark then scanShort .basic (c :: s)
    else if c = Quotes.literal.mark then scanShort .literal (c :: s)
    else
      match (c :: s).takeWhile isBareChar with
      | [] => none
      | cs => some (String.ofList cs, (c :: s).dropWhile isBareChar)

/-- The most names that a key may have. -/
def longestKey : Nat := 79

/-- A key of at most `fuel` names with points between them, and the blanks around the names. -/
def scanNames : Nat → Scan Key
  | 0, _ => none
  | fuel + 1, s => do
    let (name, s) ← scanName (skipBlank s)
    match skipBlank s with
    | '.' :: s =>
      let (key, s) ← scanNames fuel s
      some ({ key with parents := name :: key.parents }, s)
    | s => some (⟨[], name⟩, s)

/-- A key and the blanks around it. -/
def scanKey : Scan Key := scanNames longestKey

/-! ## §4. Numbers. -/

/-- Digits, with single underscores between them as one likes. -/
def scanDigits (base : Nat) : Scan (List Char)
  | [] => none
  | c :: s =>
    if (Text.digitValue? base c).isNone then none
    else
      match s with
      | [] => some ([c], [])
      | d :: rest =>
        if d = '_' then (scanDigits base rest).map fun (cs, s) => (c :: cs, s)
        else if (Text.digitValue? base d).isSome then
          (scanDigits base (d :: rest)).map fun (cs, s) => (c :: cs, s)
        else some ([c], d :: rest)

/-- An integer, if it has 64 bits. -/
def integer? (n : Int) : Option Value :=
  if fitsSigned n then some (.integer n) else none

/-- A natural number in a base other than ten, after its mark. -/
def scanBased (base : Nat) : Scan Value := fun s => do
  let (digits, s) ← scanDigits base s
  let n ← Text.number? base digits
  let value ← integer? n
  some (value, s)

/-- An optional power of ten. -/
def scanPower : Scan (Option Int)
  | [] => some (none, [])
  | c :: s =>
    if c = 'e' ∨ c = 'E' then do
      let (negative, s) := Binary64.takeSign s
      let (digits, s) ← scanDigits 10 s
      let power : Int := Binary64.natOfDigits digits
      some (some (if negative then -power else power), s)
    else some (none, c :: s)

/-- An optional fraction. -/
def scanFraction : Scan (List Char)
  | '.' :: s => scanDigits 10 s
  | s => some ([], s)

/-- A number in base ten, after its sign. Whole parts have no zeros in front, and no number without
a minus is too great. -/
def scanDecimal (negative : Bool) : Scan Value := fun s => do
  let (whole, s) ← match s with
    | '0' :: s => some (['0'], s)
    | s => scanDigits 10 s
  let (fraction, s) ← scanFraction s
  let (power?, s) ← scanPower s
  if fraction.isEmpty ∧ power?.isNone then
    let n : Int := Binary64.natOfDigits whole
    let value ← integer? (if negative then -n else n)
    some (value, s)
  else
    let digits := Binary64.natOfDigits (whole ++ fraction)
    let x := Binary64.ofDecimal digits (power?.getD 0 - fraction.length)
    -- too great a number is refused, too small a one is minus infinity
    if negative then some (.float (-x), s)
    else if x.isInf then none
    else some (.float x, s)

/-- An infinity, no number, or a number in base ten, after its sign. -/
def scanUnsigned (negative : Bool) : Scan Value
  | 'i' :: 'n' :: 'f' :: s => some (.float (if negative then -1.0 / 0.0 else 1.0 / 0.0), s)
  | 'n' :: 'a' :: 'n' :: s => some (.float (0.0 / 0.0), s)
  | s => scanDecimal negative s

/-- A number. -/
def scanNumber : Scan Value
  | '0' :: 'x' :: s => scanBased 16 s
  | '0' :: 'o' :: s => scanBased 8 s
  | '0' :: 'b' :: s => scanBased 2 s
  | s => let (negative, s) := Binary64.takeSign s; scanUnsigned negative s

/-! ## §5. Dates and times. -/

/-- A number of exactly `count` digits, from `least` to `most`. -/
def scanFixed (count least most : Nat) : Scan Nat := fun s =>
  if (s.take count).length < count then none
  else
    ((Text.number? 10 (s.take count)).filter fun n => least ≤ n ∧ n ≤ most).map
      fun n => (n, s.drop count)

/-- What follows a character that must stand at the front of a text. -/
def takeChar? (c : Char) : List Char → Option (List Char)
  | [] => none
  | d :: s => if c = d then some s else none

/-- The number of days of a month. -/
def daysOf (year month : Nat) : Nat :=
  if month = 2 then
    if year % 4 = 0 ∧ (year % 100 ≠ 0 ∨ year % 400 = 0) then 29 else 28
  else if month = 4 ∨ month = 6 ∨ month = 9 ∨ month = 11 then 30
  else 31

/-- A day. -/
def scanDate : Scan Date := fun s => do
  let (year, s) ← scanFixed 4 0 9999 s
  let s ← takeChar? '-' s
  let (month, s) ← scanFixed 2 1 12 s
  let s ← takeChar? '-' s
  let (day, s) ← scanFixed 2 1 (daysOf year month) s
  some (⟨year, month, day⟩, s)

/-- The nanoseconds of an optional fraction of a second; digits beyond the ninth do not count. -/
def scanNanos (s : List Char) : Nat × List Char :=
  match s with
  | '.' :: rest =>
    match Binary64.spanDigits rest with
    | ([], _) => (0, s)
    | (digits, rest) =>
      let counted := digits.take 9
      (Binary64.natOfDigits counted * tenTo (9 - counted.length), rest)
  | _ => (0, s)

/-- A time of a day. -/
def scanTime : Scan TimeOfDay := fun s => do
  let (hour, s) ← scanFixed 2 0 23 s
  let s ← takeChar? ':' s
  let (minute, s) ← scanFixed 2 0 59 s
  let s ← takeChar? ':' s
  let (second, s) ← scanFixed 2 0 60 s
  let (nanos, s) := scanNanos s
  some (⟨hour, minute, second, nanos⟩, s)

/-- An offset, of less than a day. -/
def scanOffset : Scan Offset
  | [] => none
  | c :: s =>
    if c = 'Z' ∨ c = 'z' then some (.universal, s)
    else if c = '+' ∨ c = '-' then do
      let (hours, s) ← scanFixed 2 0 23 s
      let s ← takeChar? ':' s
      let (more, s) ← scanFixed 2 0 59 s
      let minutes : Int := hours * 60 + more
      some (.ahead (if c = '-' then -minutes else minutes), s)
    else none

/-- The time after a date and the mark between them. -/
def scanTimeAfterDate : Scan TimeOfDay
  | [] => none
  | c :: s => if c = 'T' ∨ c = 't' ∨ c = ' ' then scanTime s else none

/-- A date, a time, or both. -/
def scanMoment : Scan Moment := fun s =>
  match scanDate s with
  | some (date, s) =>
    match scanTimeAfterDate s with
    | some (time, s) =>
      match scanOffset s with
      | some (offset, s) => some (.both date time (some offset), s)
      | none => some (.both date time none, s)
    | none => some (.date date, s)
  | none => (scanTime s).map fun (time, s) => (.time time, s)

/-- The moment that a whole text spells. -/
def Moment.ofText? (text : String) : Option Moment :=
  match scanMoment text.toList with
  | some (moment, []) => some moment
  | _ => none

end RetryControl.Toml
