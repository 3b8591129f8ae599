/-
  RetryControl.Rate.Config
  ────────────────────────────────
  **TERMS OF RATE CONTROL.**

  The bounds of the send rate, how far a throttled send lowers it, how far a
  success raises it, and how long a throttle keeps it from rising.
-/
import RetryControl.Rate.Arithmetic
import RetryControl.RetryError

namespace RetryControl

/-- What rate control is set up with; rates are in sends per second. -/
structure RateTerms (R : Type) where
  /-- The least rate. -/
  minRate : R
  /-- The greatest rate. -/
  maxRate : R
  /-- What a throttle multiplies the rate by. -/
  decreaseFactor : R
  /-- What a success adds to the rate. -/
  increaseStep : R
  /-- How long after a throttle the rate may not rise. -/
  cooldown : Duration

namespace RateTerms

/-- From one send in two seconds to a hundred per second, halved by a throttle. -/
def default : RateTerms Float :=
  { minRate := 0.5
    maxRate := 100.0
    decreaseFactor := 0.5
    increaseStep := 1.0
    cooldown := Duration.ofMillis 1000 }

section Validation

open RateArithmetic

variable {R : Type} [RateArithmetic R]

/-- Terms that can be used: `0 < minRate ≤ maxRate`, a factor between zero and one, and a step
that is not negative, all of them finite. The first fault in this order is reported. -/
def validate (t : RateTerms R) : Except RetryError Unit :=
  if !(isFinite t.minRate && lt zero t.minRate) then
    .error (.invalidArgument ("min_rate must be a positive number, got " ++ text t.minRate))
  else if !(isFinite t.maxRate && le t.minRate t.maxRate) then
    .error (.invalidArgument
      ("max_rate " ++ text t.maxRate ++ " must be finite and >= min_rate " ++ text t.minRate))
  else if !(lt zero t.decreaseFactor && lt t.decreaseFactor one) then
    .error (.invalidArgument ("decrease_factor must be in (0, 1), got " ++ text t.decreaseFactor))
  else if !(isFinite t.increaseStep && le zero t.increaseStep) then
    .error (.invalidArgument
      ("increase_step must be a non-negative number, got " ++ text t.increaseStep))
  else .ok ()

end Validation

end RateTerms

end RetryControl
