/-
  RetryControl.Duration
  ────────────────────────────────
  **LENGTHS OF TIME.**

  A duration is a whole number of nanoseconds below 2⁶⁴ seconds; the bound is
  part of the type.  Sums are saturating, products are checked.  `text` is
  the written form used in messages: the largest unit that is not zero, then
  the fraction without trailing zeros.
-/
import RetryControl.Count
import RetryControl.Text.Digits
import RetryControl.Word

namespace RetryControl

/-- The nanoseconds of a second. -/
def nanosPerSecond : Nat := 1000000000

/-- The nanoseconds of a millisecond. -/
def nanosPerMilli : Nat := 1000000

/-- The nanoseconds of a microsecond. -/
def nanosPerMicro : Nat := 1000

/-- The longest duration, in nanoseconds: 2⁶⁴ seconds less one nanosecond. -/
def longestNanos : Nat := wordCount * nanosPerSecond - 1

/-- A length of time in whole nanoseconds. -/
@[ext] structure Duration where
  /-- The length in nanoseconds. -/
  nanos : Nat
  /-- It stays below 2⁶⁴ seconds. -/
  nanos_le : nanos ≤ longestNanos
  deriving DecidableEq

namespace Duration

/-! ## §1. Construction and order. -/

/-- No time at all. -/
def zero : Duration := ⟨0, Nat.zero_le _⟩

/-- The longest duration. -/
def longest : Duration := ⟨longestNanos, Nat.le_refl _⟩

instance : Inhabited Duration := ⟨zero⟩

/-- The duration nearest to a number of nanoseconds. -/
def clamp (n : Nat) : Duration := ⟨min n longestNanos, Nat.min_le_right _ _⟩

@[simp] theorem nanos_zero : zero.nanos = 0 := rfl

@[simp] theorem nanos_longest : longest.nanos = longestNanos := rfl

@[simp] theorem nanos_clamp (n : Nat) : (clamp n).nanos = min n longestNanos := rfl

@[simp] theorem clamp_nanos (d : Duration) : clamp d.nanos = d :=
  Duration.ext (Nat.min_eq_left d.nanos_le)

/-- The duration of a number of nanoseconds, if it is not too long. -/
def ofNanos? (n : Nat) : Option Duration :=
  if h : n ≤ longestNanos then some ⟨n, h⟩ else none

/-- A number of milliseconds as a duration. -/
def ofMillis (ms : UInt64) : Duration :=
  ⟨ms.toNat * nanosPerMilli, by
    have h := UInt64.toNat_lt ms
    simp only [longestNanos, wordCount, nanosPerSecond, nanosPerMilli]
    omega⟩

instance : LE Duration := ⟨fun a b => a.nanos ≤ b.nanos⟩

instance : LT Duration := ⟨fun a b => a.nanos < b.nanos⟩

instance (a b : Duration) : Decidable (a ≤ b) := inferInstanceAs (Decidable (a.nanos ≤ b.nanos))

instance (a b : Duration) : Decidable (a < b) := inferInstanceAs (Decidable (a.nanos < b.nanos))

theorem le_def {a b : Duration} : a ≤ b ↔ a.nanos ≤ b.nanos := Iff.rfl

theorem lt_def {a b : Duration} : a < b ↔ a.nanos < b.nanos := Iff.rfl

instance : Max Duration := ⟨fun a b => if a ≤ b then b else a⟩

instance : Min Duration := ⟨fun a b => if a ≤ b then a else b⟩

@[simp] theorem nanos_max (a b : Duration) : (max a b).nanos = max a.nanos b.nanos := by
  show (if a ≤ b then b else a).nanos = _
  split <;> rename_i h <;> simp only [le_def] at h <;> omega

@[simp] theorem nanos_min (a b : Duration) : (min a b).nanos = min a.nanos b.nanos := by
  show (if a ≤ b then a else b).nanos = _
  split <;> rename_i h <;> simp only [le_def] at h <;> omega

/-! ## §2. Arithmetic. -/

/-- The sum of two durations, held at the longest one. -/
def addSat (a b : Duration) : Duration := clamp (a.nanos + b.nanos)

@[simp] theorem nanos_addSat (a b : Duration) :
    (a.addSat b).nanos = min (a.nanos + b.nanos) longestNanos := rfl

/-- A multiple of a duration, if it is not too long. -/
def mul? (d : Duration) (k : Nat) : Option Duration := ofNanos? (d.nanos * k)

/-- The whole seconds of a duration. -/
def wholeSeconds (d : Duration) : Nat := d.nanos / nanosPerSecond

/-- The nanoseconds of a duration beyond its whole seconds. -/
def subsecondNanos (d : Duration) : Nat := d.nanos % nanosPerSecond

/-- The whole milliseconds of a duration, held at the largest 64-bit number. -/
def wholeMillis (d : Duration) : Nat := min (d.nanos / nanosPerMilli) greatestWord

/-! ## §3. Written form. -/

/-- A number of units and a fraction of `places` decimal places, without trailing zeros. -/
def decimalText (whole fraction places : Nat) : String :=
  if fraction = 0 then toString whole
  else toString whole ++ "." ++ Text.fraction places fraction

/-- The written form: the largest unit that is not zero, the fraction without trailing zeros. -/
def text (d : Duration) : String :=
  let n := d.nanos
  if nanosPerSecond ≤ n then decimalText (n / nanosPerSecond) (n % nanosPerSecond) 9 ++ "s"
  else if nanosPerMilli ≤ n then decimalText (n / nanosPerMilli) (n % nanosPerMilli) 6 ++ "ms"
  else if nanosPerMicro ≤ n then decimalText (n / nanosPerMicro) (n % nanosPerMicro) 3 ++ "µs"
  else decimalText n 0 0 ++ "ns"

end Duration

end RetryControl
