/-
  RetryControl.Json.Scan
  ────────────────────────────────
  **THE PIECES OF JSON TEXT.**

  Blanks, words, strings and numbers are read from the front of a text; a
  scan gives what it read and what follows.  A text that ends too early is
  told from one that is malformed.  Pieces that nobody asks for are skipped:
  their shape is checked but not their meaning.
-/
import RetryControl.Binary64.Read
import RetryControl.Json.Basic
import RetryControl.Text.Digits
import RetryControl.Word

namespace RetryControl.Json

/-! ## §1. Faults. -/

/-- Why a text cannot be read. -/
inductive Fault where
  /-- The text ends too early. -/
  | endOfText
  /-- The text is not JSON. -/
  | malformed
  /-- The text is JSON so far, but a value is not the one wanted. -/
  | unfit (message : String)
  deriving Repr, DecidableEq

/-- The fault where something else was expected, or nothing is left. -/
def Fault.atFront : List Char → Fault
  | [] => .endOfText
  | _ :: _ => .malformed

/-! ## §2. Blanks and words. -/

/-- The four blank characters. -/
def isBlank (c : Char) : Bool := c = ' ' ∨ c = '\n' ∨ c = '\t' ∨ c = '\r'

/-- A text without the blanks at its front. -/
def skipBlank (s : List Char) : List Char := s.dropWhile isBlank

/-- A text after a word that must stand at its front. -/
def scanWord : List Char → List Char → Except Fault (List Char)
  | [], s => .ok s
  | _ :: _, [] => .error .endOfText
  | w :: word, c :: s => if c = w then scanWord word s else .error .malformed

/-! ## §3. Strings. -/

/-- Four hexadecimal digits; a text of fewer than four bytes ends too early. -/
def scanHex (s : List Char) : Except Fault (Nat × List Char) :=
  if (s.take 4).foldl (fun n c => n + c.utf8Size) 0 < 4 then .error .endOfText
  else
    match Text.number? 16 (s.take 4) with
    | some n => .ok (n, s.drop 4)
    | none => .error .malformed

/-- The character of an escape of one letter. -/
def letterEscape? : Char → Option Char
  | '"' => some '"'
  | '\\' => some '\\'
  | '/' => some '/'
  | 'b' => some '\x08'
  | 'f' => some '\x0c'
  | 'n' => some '\n'
  | 'r' => some '\r'
  | 't' => some '\t'
  | _ => none

/-- The character of a numbered escape, after its `u`; the two halves of a pair stand for one
character, and a half alone for none. -/
def scanNumberedEscape (s : List Char) : Except Fault (Char × List Char) := do
  let (high, rest) ← scanHex s
  if 0xDC00 ≤ high ∧ high ≤ 0xDFFF then .error .malformed
  else if high < 0xD800 ∨ 0xDBFF < high then .ok (Char.ofNat high, rest)
  else
    let rest ← scanWord ['\\', 'u'] rest
    let (low, rest) ← scanHex rest
    if 0xDC00 ≤ low ∧ low ≤ 0xDFFF then
      .ok (Char.ofNat ((high - 0xD800) * 0x400 + (low - 0xDC00) + 0x10000), rest)
    else .error .malformed

/-- The characters of a string up to its closing quote; `fuel` bounds their number. -/
def scanStringBody : Nat → List Char → Except Fault (List Char × List Char)
  | 0, _ => .error .endOfText
  | _ + 1, [] => .error .endOfText
  | fuel + 1, c :: s =>
    if c = '"' then .ok ([], s)
    else if c = '\\' then
      match s with
      | [] => .error .endOfText
      | 'u' :: s => do
        let (c, s) ← scanNumberedEscape s
        let (cs, s) ← scanStringBody fuel s
        .ok (c :: cs, s)
      | e :: s =>
        match letterEscape? e with
        | some c => do
          let (cs, s) ← scanStringBody fuel s
          .ok (c :: cs, s)
        | none => .error .malformed
    else if c.toNat < 0x20 then .error .malformed
    else do
      let (cs, s) ← scanStringBody fuel s
      .ok (c :: cs, s)

/-- A string, after its opening quote. -/
def scanString (s : List Char) : Except Fault (String × List Char) := do
  let (cs, rest) ← scanStringBody (s.length + 1) s
  .ok (String.ofList cs, rest)

/-- What follows a string, after its opening quote; halves of pairs may stand alone. -/
def skipStringBody : Nat → List Char → Except Fault (List Char)
  | 0, _ => .error .endOfText
  | _ + 1, [] => .error .endOfText
  | fuel + 1, c :: s =>
    if c = '"' then .ok s
    else if c = '\\' then
      match s with
      | [] => .error .endOfText
      | 'u' :: s => do
        let (_, s) ← scanHex s
        skipStringBody fuel s
      | e :: s => if (letterEscape? e).isSome then skipStringBody fuel s else .error .malformed
    else if c.toNat < 0x20 then .error .malformed
    else skipStringBody fuel s

/-- What follows a string, after its opening quote. -/
def skipString (s : List Char) : Except Fault (List Char) := skipStringBody (s.length + 1) s

/-! ## §4. Numbers. -/

/-- A number in the making: the leading digits as far as they fit 64 bits, and a power of ten. -/
structure Significand where
  /-- The digits taken in. -/
  value : Nat
  /-- The power of ten to multiply them by. -/
  power : Int
  /-- Every digit so far was taken in. -/
  exact : Bool

/-- Takes in digits while they fit 64 bits; `perDigit` is what each of them does to the power of
ten, and `perExcess` what each later digit does. -/
def Significand.take (perDigit perExcess : Int) (x : Significand) : List Char → Significand
  | [] => x
  | c :: digits =>
    let value := 10 * x.value + (c.toNat - '0'.toNat)
    if value < wordCount then
      Significand.take perDigit perExcess { x with value, power := x.power + perDigit } digits
    else { x with power := x.power + perExcess * (digits.length + 1), exact := false }

/-- A significand times a power of ten, each step rounded; none beyond the greatest number. Powers
below the least one are reached in steps. -/
def scaled? : Nat → Float → Int → Option Float
  | 0, f, _ => some f
  | fuel + 1, f, power =>
    if 0 ≤ power then
      if f == 0.0 then some f
      else if power ≤ 308 then
        let x := f * Binary64.ofDecimal 1 power
        if x.isInf then none else some x
      else none
    else if -308 ≤ power then some (f / Binary64.ofDecimal 1 (-power))
    else scaled? fuel (f / Binary64.ofDecimal 1 308) (power + 308)

/-- The binary64 number of a significand; out of range is malformed. -/
def Significand.toFloat (x : Significand) (negative : Bool) : Except Fault Float :=
  match scaled? 4 x.value.toFloat x.power with
  | some f => .ok (if negative then -f else f)
  | none => .error .malformed

/-- A power of ten, after its letter. -/
def scanPower (s : List Char) : Except Fault (Int × List Char) :=
  let (negative, s) := Binary64.takeSign s
  match Binary64.spanDigits s with
  | ([], rest) => .error (.atFront rest)
  | (digits, rest) =>
    let power : Int := Binary64.natOfDigits digits
    .ok (if negative then -power else power, rest)

/-- A power of ten at the front of a text, if there is one. -/
def scanOptionalPower (s : List Char) : Except Fault (Int × List Char) :=
  match s with
  | c :: rest => if c = 'e' ∨ c = 'E' then scanPower rest else .ok (0, s)
  | [] => .ok (0, s)

/-- A number, after its minus if it has one. -/
def scanNumber (negative : Bool) (s : List Char) : Except Fault (Json × List Char) :=
  match Binary64.spanDigits s with
  | ([], rest) => .error (.atFront rest)
  | ('0' :: _ :: _, _) => .error .malformed
  | (whole, rest) => afterWhole (Significand.take 0 1 ⟨0, 0, true⟩ whole) rest
where
  /-- A number after the digits before its point, if it has one. -/
  afterWhole (x : Significand) (rest : List Char) : Except Fault (Json × List Char) :=
    match rest with
    | '.' :: rest =>
      match Binary64.spanDigits rest with
      | ([], rest) => .error (.atFront rest)
      | (fraction, rest) => finish (x.take (-1) 0 fraction) rest
    | c :: _ => if c = 'e' ∨ c = 'E' then finish x rest else integer x rest
    | [] => integer x rest
  /-- A number with a point or a power of ten, after its digits. -/
  finish (x : Significand) (rest : List Char) : Except Fault (Json × List Char) := do
    let (power, rest) ← scanOptionalPower rest
    let f ← { x with power := x.power + power }.toFloat negative
    .ok (.float f, rest)
  /-- A number without point and power: an integer if it fits, otherwise a binary64 number. -/
  integer (x : Significand) (rest : List Char) : Except Fault (Json × List Char) :=
    let n : Int := x.value
    -- minus zero is no integer
    if x.exact ∧ !negative then .ok (.integer n, rest)
    else if x.exact ∧ 0 < n ∧ -n ≥ leastInteger then .ok (.integer (-n), rest)
    else do
      let f ← x.toFloat negative
      .ok (.float f, rest)

/-- What follows a number, after its minus if it has one. Its size does not matter. -/
def skipNumber (s : List Char) : Except Fault (List Char) :=
  match Binary64.spanDigits s with
  | ([], _) => .error .malformed
  | ('0' :: _ :: _, _) => .error .malformed
  | (_, rest) =>
    let power (rest : List Char) : Except Fault (List Char) :=
      match rest with
      | c :: rest' =>
        if c = 'e' ∨ c = 'E' then
          match Binary64.spanDigits (Binary64.takeSign rest').2 with
          | ([], _) => .error .malformed
          | (_, rest) => .ok rest
        else .ok rest
      | [] => .ok rest
    match rest with
    | '.' :: rest =>
      match Binary64.spanDigits rest with
      | ([], _) => .error .malformed
      | (_, rest) => power rest
    | rest => power rest

end RetryControl.Json
