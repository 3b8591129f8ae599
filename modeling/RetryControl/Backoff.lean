/-
  RetryControl.Backoff
  ────────────────────────────────
  **DELAYS THAT DEPEND ON THE ATTEMPT NUMBER.**

  The first attempt starts at once.  Later attempts wait: not at all, a fixed
  delay, or a delay that doubles with each attempt up to a cap.  With jitter
  the wait is drawn uniformly from zero to that delay, its ceiling.
-/
import RetryControl.Backoff.Uniform
import RetryControl.RetryError
import RetryControl.Word

namespace RetryControl

/-- How long to wait before an attempt, by its number. -/
inductive Backoff where
  /-- Never wait. -/
  | immediate
  /-- Wait the same delay before every retry. -/
  | fixed (delay : Duration) (jitter : Bool)
  /-- Wait `base` before the second attempt, then twice as long each time, up to `cap`. -/
  | exponential (base cap : Duration) (jitter : Bool)
  deriving DecidableEq

namespace Backoff

/-- Jittered exponential backoff from one second to twenty. -/
def default : Backoff := .exponential (Duration.ofMillis 1000) (Duration.ofMillis 20000) true

/-- The wait is drawn at random. -/
def isJittered : Backoff → Bool
  | .immediate => false
  | .fixed _ jitter => jitter
  | .exponential _ _ jitter => jitter

/-- A cap below the base delay cannot be used. -/
def validate : Backoff → Except RetryError Unit
  | .exponential base cap _ =>
      if cap < base then
        .error (.invalidArgument
          ("max delay " ++ cap.text ++ " is smaller than base delay " ++ base.text))
      else .ok ()
  | _ => .ok ()

/-! ## §1. The ceiling of a wait. -/

/-- The doubled base delay for attempt `n`, from the second attempt on; the cap also where the
factor leaves 32 bits or the product leaves the range of durations. -/
def exponentialCeiling (base cap : Duration) (attempt : Count) : Duration :=
  let doublings := attempt.toNat - 2
  -- the factor is a number of 32 bits
  if doublings < 32 then
    match base.mul? (twoTo doublings) with
    | some delay => min delay cap
    | none => cap
  else cap

/-- The longest wait before attempt `n`, from the second attempt on. -/
def ceiling (b : Backoff) (attempt : Count) : Duration :=
  match b with
  | .immediate => .zero
  | .fixed delay _ => delay
  | .exponential base cap _ => exponentialCeiling base cap attempt

/-! ## §2. The wait itself. -/

/-- A wait and the count of random words used for it. -/
structure Wait where
  /-- How long to wait. -/
  delay : Duration
  /-- How many random words were used. -/
  used : Nat
  deriving DecidableEq

/-- A wait drawn uniformly from zero to the ceiling, or to the largest 64-bit count of
nanoseconds if the ceiling is beyond it. -/
def jittered (ceiling : Duration) (draws : Draws) : Wait :=
  let picked := pickUpTo (min ceiling.nanos (wordCount - 1)) draws
  ⟨Duration.clamp picked.value, picked.used⟩

/-- The wait before attempt `n`. -/
def wait (b : Backoff) (attempt : Count) (draws : Draws) : Except RetryError Wait :=
  if attempt < 1 then
    .error (.invalidArgument ("attempt must be >= 1, got " ++ toString attempt.toNat))
  else if attempt = 1 then .ok ⟨.zero, 0⟩
  else if b.isJittered then .ok (jittered (b.ceiling attempt) draws)
  else .ok ⟨b.ceiling attempt, 0⟩

/-! ## §3. Written form. -/

/-- The written form of a backoff in messages and log lines. -/
def text : Backoff → String
  | .immediate => "immediate"
  | .fixed delay jitter => "fixed(" ++ delay.text ++ (if jitter then ", jitter)" else ")")
  | .exponential base cap jitter =>
      "exponential(base=" ++ base.text ++ ", max=" ++ cap.text
        ++ (if jitter then ", jitter)" else ")")

end Backoff

end RetryControl
