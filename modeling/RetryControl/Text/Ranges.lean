/-
  RetryControl.Text.Ranges
  ────────────────────────────────
  **SETS OF CHARACTERS AS RANGES.**

  A set of characters is given by the first and the last number of each of
  its ranges.
-/

namespace RetryControl.Text

/-- Ranges of character numbers, each by its first and its last number. -/
abbrev Ranges := List (Nat × Nat)

/-- A character belongs to one of the ranges. -/
def Ranges.holds (ranges : Ranges) (c : Char) : Bool :=
  ranges.any fun r => r.1 ≤ c.toNat && c.toNat ≤ r.2

end RetryControl.Text
