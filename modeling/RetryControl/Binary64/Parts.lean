/-
  RetryControl.Binary64.Parts
  ────────────────────────────────
  **THE EXACT VALUE OF A BINARY64 NUMBER.**

  A finite number is a sign, a natural mantissa and a power of two.  From
  these parts a number is rounded in exact `Nat` arithmetic: to the nearest
  natural number, halves away from zero, or to the nearest unit of a decimal
  fraction, halves to the even neighbour.
-/
import RetryControl.Word

namespace RetryControl.Binary64

/-! ## §1. Parts. -/

/-- What a binary64 word stands for. -/
inductive Parts where
  /-- No number. -/
  | nan
  /-- Beyond every number, on the side that the sign names. -/
  | infinite (negative : Bool)
  /-- The number `± mantissa · 2 ^ exponent`. -/
  | finite (negative : Bool) (mantissa : Nat) (exponent : Int)
  deriving Repr, DecidableEq

/-- The smallest power of two in the parts of a number. -/
def leastExponent : Int := -1074

/-- The parts of a binary64 word: one sign bit, eleven exponent bits, fifty-two mantissa bits. -/
def partsOfBits (bits : Nat) : Parts :=
  let negative := decide (bits / twoTo 63 % 2 = 1)
  let biased : Nat := bits / twoTo 52 % twoTo 11
  let fraction := bits % twoTo 52
  if biased = 2047 then
    if fraction = 0 then .infinite negative else .nan
  else if biased = 0 then .finite negative fraction leastExponent
  else .finite negative (twoTo 52 + fraction) (leastExponent + ((biased : Int) - 1))

/-- The parts of a number. -/
def parts (x : Float) : Parts := partsOfBits x.toBits.toNat

/-! ## §2. Rounding exact quotients. -/

/-- The quotient rounded to the nearest natural number, halves up. -/
def divHalfUp (num den : Nat) : Nat := (2 * num + den) / (2 * den)

/-- The quotient rounded to the nearest natural number, halves to the even neighbour. -/
def divHalfEven (num den : Nat) : Nat :=
  let q := num / den
  let r := num % den
  if 2 * r < den then q
  else if den < 2 * r then q + 1
  else q + q % 2

/-- A quotient equal to `mantissa · 2 ^ exponent · scale`, as numerator and denominator. -/
def quotient (mantissa : Nat) (exponent : Int) (scale : Nat) : Nat × Nat :=
  if 0 ≤ exponent then (mantissa * scale * twoTo exponent.toNat, 1)
  else (mantissa * scale, twoTo (-exponent).toNat)

/-- The nearest natural number, halves away from zero, held in the range from `0` to `most`;
zero for what is no number. -/
def toNatClamped (x : Float) (most : Nat) : Nat :=
  match parts x with
  | .nan => 0
  | .infinite negative => if negative then 0 else most
  | .finite negative mantissa exponent =>
      if negative then 0
      else
        let (num, den) := quotient mantissa exponent 1
        min (divHalfUp num den) most

/-- The number of units nearest to a number of wholes of `scale` units each, halves to the even
neighbour; none for negative numbers, infinities and what is no number. -/
def toUnits? (x : Float) (scale : Nat) : Option Nat :=
  match parts x with
  | .finite false mantissa exponent =>
      let (num, den) := quotient mantissa exponent scale
      some (divHalfEven num den)
  | .finite true 0 _ => some 0
  | _ => none

end RetryControl.Binary64
