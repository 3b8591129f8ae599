/-
  RetryControl.Word
  ────────────────────────────────
  **NUMBERS OF SIXTY-FOUR BITS.**

  The bounds of words with and without a sign, and powers of two and ten.
-/

namespace RetryControl

/-- The number of different words: 2⁶⁴. -/
def wordCount : Nat := 18446744073709551616

/-- The greatest number without a sign. -/
def greatestWord : Nat := wordCount - 1

/-- How far numbers with a sign reach: from minus this number to just below it, 2⁶³. -/
def signedReach : Nat := 9223372036854775808

/-- A number fits a word with a sign. -/
def fitsSigned (n : Int) : Bool := -(signedReach : Int) ≤ n ∧ n < signedReach

/-- A power of two. -/
def twoTo (n : Nat) : Nat := Nat.pow 2 n

/-- A power of ten. -/
def tenTo (n : Nat) : Nat := Nat.pow 10 n

end RetryControl
