/-
  RetryControl.Rate.Arithmetic
  ────────────────────────────────
  **THE ARITHMETIC OF SEND RATES.**

  Rate control needs a handful of operations on rates: sums, products and
  quotients, an order, and conversions between rates and durations.  They are
  gathered in `RateArithmetic`, so that the controller is written once for
  every arithmetic that offers them.  The arithmetic it runs with is binary64.
-/
import RetryControl.Binary64.Parts
import RetryControl.Binary64.Text
import RetryControl.Duration

namespace RetryControl

/-- The operations on rates, in sends per second, that rate control uses. -/
class RateArithmetic (R : Type) where
  /-- No sends. -/
  zero : R
  /-- One send per second. -/
  one : R
  /-- The weight of the newest window in a smoothed rate. -/
  newestWeight : R
  /-- Sum. -/
  add : R → R → R
  /-- Difference. -/
  sub : R → R → R
  /-- Product. -/
  mul : R → R → R
  /-- Quotient. -/
  div : R → R → R
  /-- Strictly smaller. -/
  lt : R → R → Bool
  /-- Smaller or equal. -/
  le : R → R → Bool
  /-- A number, and not beyond all numbers. -/
  isFinite : R → Bool
  /-- A count as a number. -/
  ofCount : Count → R
  /-- The length of a duration in seconds. -/
  seconds : Duration → R
  /-- The duration nearest to a number of seconds, if there is one. -/
  duration? : R → Option Duration
  /-- The written form of a rate in messages. -/
  text : R → String

namespace RateArithmetic

variable {R : Type} [RateArithmetic R]

/-- The smaller of two rates. -/
def least (a b : R) : R := if le a b then a else b

/-- The greater of two rates. -/
def greatest (a b : R) : R := if le a b then b else a

/-- The weight of all older windows in a smoothed rate. -/
def olderWeight : R := sub one newestWeight

/-- The time between two sends at a rate; the longest duration if there is no nearest one. -/
def interval (rate : R) : Duration := (duration? (div one rate)).getD .longest

end RateArithmetic

/-- The seconds of a duration as a binary64 number: whole seconds plus the rest, each converted
on its own. -/
def Duration.toFloat (d : Duration) : Float :=
  d.wholeSeconds.toFloat + d.subsecondNanos.toFloat / 1e9

/-- The duration nearest to a binary64 number of seconds. -/
def Duration.ofFloat? (x : Float) : Option Duration :=
  (Binary64.toUnits? x nanosPerSecond).bind Duration.ofNanos?

instance : RateArithmetic Float where
  zero := 0.0
  one := 1.0
  newestWeight := 0.8
  add a b := a + b
  sub a b := a - b
  mul a b := a * b
  div a b := a / b
  lt a b := a < b
  le a b := a ≤ b
  isFinite x := x.isFinite
  ofCount n := n.toNat.toFloat
  seconds := Duration.toFloat
  duration? := Duration.ofFloat?
  text := Binary64.text .plain

end RetryControl
