/-
  RetryControl.Binary64.Shortest
  ────────────────────────────────
  **THE FEWEST DIGITS THAT READ BACK.**

  A positive number is written with the fewest decimal digits that no other
  binary64 number is nearer to.  The reals that round to the number form an
  interval, whose ends belong to it when the mantissa is even.  On the grid of
  `p`-digit decimals, for `p` from one to seventeen, the two neighbours of the
  number are tried; the first grid with one inside the interval wins, and of
  two the nearer.  A `Tie` says which of two at equal distance is taken.
-/
import RetryControl.Binary64.Parts
import RetryControl.Word

namespace RetryControl.Binary64

/-- A decimal number `digits · 10 ^ exponent`. -/
structure Decimal where
  /-- The digits, read as one natural number. -/
  digits : Nat
  /-- The power of ten. -/
  exponent : Int
  deriving Repr, DecidableEq

/-- Which of two decimals at equal distance from a number is taken. -/
inductive Tie where
  /-- The one whose last digit is even. -/
  | toEven
  /-- The one farther from zero. -/
  | away
  deriving Repr, DecidableEq

/-- Whether the lower of two neighbours at equal distance is taken. -/
def Tie.takesLower : Tie → Nat → Bool
  | .toEven, lower => lower % 2 = 0
  | .away, _ => false

namespace Shortest

/-! ## §1. The interval of a number. -/

/-- A number and the ends of its interval, as numerators over one denominator. -/
structure Interval where
  /-- The lower end. -/
  low : Nat
  /-- The number. -/
  mid : Nat
  /-- The upper end. -/
  high : Nat
  /-- The common denominator. -/
  den : Nat
  /-- The ends belong to the interval. -/
  closed : Bool
  deriving Repr, DecidableEq

/-- The interval of `mantissa · 2 ^ exponent`. Below a power of two the numbers lie closer. -/
def interval (mantissa : Nat) (exponent : Int) : Interval :=
  let closer := mantissa = twoTo 52 ∧ leastExponent < exponent
  let below := if closer then 1 else 2
  let up := twoTo (exponent - 2).toNat
  { low := (4 * mantissa - below) * up
    mid := 4 * mantissa * up
    high := (4 * mantissa + 2) * up
    den := twoTo (2 - exponent).toNat
    closed := mantissa % 2 = 0 }

/-- Whether `num / den` lies in the interval. -/
def Interval.holds (i : Interval) (num den : Nat) : Bool :=
  if i.closed then i.low * den ≤ num * i.den && num * i.den ≤ i.high * den
  else i.low * den < num * i.den && num * i.den < i.high * den

/-! ## §2. Neighbours on a decimal grid. -/

/-- The power of ten of the first digit of the interval's number. -/
def firstPower (i : Interval) : Int :=
  if i.den ≤ i.mid then ((Nat.toDigits 10 (i.mid / i.den)).length : Int) - 1
  else -((Nat.toDigits 10 (i.den / i.mid)).length : Int)

/-- The winner among the number's two neighbours on the grid of multiples of `10 ^ power`. -/
def neighbour? (tie : Tie) (i : Interval) (power : Int) : Option Decimal :=
  let up := tenTo power.toNat
  let down := tenTo (-power).toNat
  let floor := i.mid * down / (i.den * up)
  let lower := i.holds (floor * up) down
  let upper := i.holds ((floor + 1) * up) down
  let number := 2 * i.mid * down
  let middle := (2 * floor + 1) * (i.den * up)
  let lowerWins := number < middle || (number = middle && tie.takesLower floor)
  if lower && (!upper || lowerWins) then some ⟨floor, power⟩
  else if upper then some ⟨floor + 1, power⟩
  else none

/-- The first winner on grids of ever more digits, for at most `fuel` grids. -/
def search (tie : Tie) (i : Interval) : Nat → Int → Option Decimal
  | 0, _ => none
  | fuel + 1, power =>
    match neighbour? tie i power with
    | some d => some d
    | none => search tie i fuel (power - 1)

end Shortest

/-- A decimal without trailing zeros, for at most `fuel` of them. -/
def Decimal.trim (d : Decimal) : Nat → Decimal
  | 0 => d
  | fuel + 1 =>
    if d.digits ≠ 0 ∧ d.digits % 10 = 0 then
      Decimal.trim ⟨d.digits / 10, d.exponent + 1⟩ fuel
    else d

/-- The shortest decimal that reads back as `mantissa · 2 ^ exponent`. -/
def shortest (tie : Tie) (mantissa : Nat) (exponent : Int) : Decimal :=
  if mantissa = 0 then ⟨0, 0⟩
  else
    let i := Shortest.interval mantissa exponent
    ((Shortest.search tie i 17 (Shortest.firstPower i)).getD ⟨0, 0⟩).trim 17

end RetryControl.Binary64
