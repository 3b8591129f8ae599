/-
  RetryControl.Binary64.Text
  ────────────────────────────────
  **WRITTEN FORMS OF BINARY64 NUMBERS.**

  All forms use the shortest digits; a `NumberStyle` says where positional
  notation ends, how a power of ten is written, and which of two equally near
  decimals is taken.
-/
import RetryControl.Binary64.Shortest

namespace RetryControl.Binary64

/-- The choices of one written form. -/
structure NumberStyle where
  /-- The least place of the point for which the form is positional; none for no bound. -/
  leastPlace : Option Int
  /-- The greatest place of the point for which the form is positional; none for no bound. -/
  greatestPlace : Option Int
  /-- A whole number is written with `.0`. -/
  keepsPoint : Bool
  /-- A power of ten that is not negative is written with its sign. -/
  signsPower : Bool
  /-- Which of two equally near decimals is taken. -/
  tie : Tie
  deriving Repr, DecidableEq

namespace NumberStyle

/-- Messages: always positional, whole numbers without a point; the upper of two equally near
decimals. -/
def plain : NumberStyle :=
  { leastPlace := none, greatestPlace := none, keepsPoint := false, signsPower := false
    tie := .away }

/-- Values shown as numbers with a point: as in messages, but whole numbers with `.0`. -/
def pointed : NumberStyle := { plain with keepsPoint := true }

/-- Documents: positional from `0.00001` up to sixteen places, whole numbers with `.0`, otherwise
with a signed power of ten; the even one of two equally near decimals. -/
def document : NumberStyle :=
  { leastPlace := some (-4), greatestPlace := some 16, keepsPoint := true, signsPower := true
    tie := .toEven }

/-- Whether a number whose point stands at `place` is positional. -/
def isPositional (s : NumberStyle) (place : Int) : Bool :=
  s.leastPlace.all (· ≤ place) && s.greatestPlace.all (place ≤ ·)

end NumberStyle

/-- A decimal in positional notation. -/
def positional (digits : List Char) (place : Int) (keepsPoint : Bool) : List Char :=
  if place ≤ 0 then '0' :: '.' :: (List.replicate (-place).toNat '0' ++ digits)
  else
    let whole := place.toNat
    if digits.length ≤ whole then
      digits ++ List.replicate (whole - digits.length) '0'
        ++ (if keepsPoint then ['.', '0'] else [])
    else digits.take whole ++ '.' :: digits.drop whole

/-- A decimal with one digit before the point and a power of ten. -/
def scientific (digits : List Char) (place : Int) (signsPower : Bool) : List Char :=
  let fraction := match digits with
    | [] => []
    | [d] => [d]
    | d :: rest => d :: '.' :: rest
  let power := place - 1
  fraction ++ 'e' :: (if signsPower && 0 ≤ power then ['+'] else []) ++ (toString power).toList

/-- The written form of a number. -/
def text (style : NumberStyle) (x : Float) : String :=
  match parts x with
  | .nan => "NaN"
  | .infinite negative => if negative then "-inf" else "inf"
  | .finite negative mantissa exponent =>
      let sign := if negative then ['-'] else []
      let d := shortest style.tie mantissa exponent
      let digits := Nat.toDigits 10 d.digits
      let place := if d.digits = 0 then 1 else (digits.length : Int) + d.exponent
      let body :=
        if style.isPositional place then positional digits place style.keepsPoint
        else scientific digits place style.signsPower
      String.ofList (sign ++ body)

end RetryControl.Binary64
