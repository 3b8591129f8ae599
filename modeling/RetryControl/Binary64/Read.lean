/-
  RetryControl.Binary64.Read
  ────────────────────────────────
  **READING DECIMAL TEXT.**

  A decimal is read as the nearest binary64 number.  Powers of ten that no
  number reaches give infinity or zero at once.
-/

namespace RetryControl.Binary64

/-- The number `digits · 10 ^ exponent`, correctly rounded. -/
def ofDecimal (digits : Nat) (exponent : Int) : Float :=
  let count : Int := (Nat.toDigits 10 digits).length
  -- far out of range the power of ten is never worked out
  if digits = 0 ∨ count + exponent ≤ -324 then 0.0
  else if 310 ≤ count + exponent then 1.0 / 0.0
  else if 0 ≤ exponent then Float.ofScientific digits false exponent.toNat
  else Float.ofScientific digits true (-exponent).toNat

/-- The natural number that a list of decimal digits spells. -/
def natOfDigits (digits : List Char) : Nat :=
  digits.foldl (fun n c => 10 * n + (c.toNat - '0'.toNat)) 0

/-- The digits at the start of a text and what follows them. -/
def spanDigits (s : List Char) : List Char × List Char := s.span Char.isDigit

/-- A sign at the start of a text: whether it is a minus, and what follows it. -/
def takeSign : List Char → Bool × List Char
  | '-' :: rest => (true, rest)
  | '+' :: rest => (false, rest)
  | s => (false, s)

/-- An optional power of ten that ends the text. -/
def readPower? : List Char → Option Int
  | [] => some 0
  | c :: rest =>
    if c = 'e' ∨ c = 'E' then
      let (negative, digits) := takeSign rest
      if digits.isEmpty ∨ !digits.all Char.isDigit then none
      else
        let power : Int := natOfDigits digits
        some (if negative then -power else power)
    else none

/-- An unsigned decimal: digits, perhaps a point with digits on at least one side of it, perhaps
a power of ten. -/
def readUnsigned? (s : List Char) : Option Float :=
  let (whole, rest) := spanDigits s
  let (fraction, rest) := match rest with
    | '.' :: rest => spanDigits rest
    | rest => ([], rest)
  if whole.isEmpty ∧ fraction.isEmpty then none
  else
    (readPower? rest).map fun power =>
      ofDecimal (natOfDigits (whole ++ fraction)) (power - fraction.length)

/-- The number that a text spells: a decimal, an infinity or `nan` in any case, perhaps signed. -/
def read? (text : String) : Option Float :=
  let (negative, s) := takeSign text.toList
  let word := s.map Char.toLower
  let magnitude :=
    if word = ['i', 'n', 'f'] ∨ word = ['i', 'n', 'f', 'i', 'n', 'i', 't', 'y'] then
      some (1.0 / 0.0)
    else if word = ['n', 'a', 'n'] then some (0.0 / 0.0)
    else readUnsigned? s
  magnitude.map fun x => if negative then -x else x

end RetryControl.Binary64
