/-
  RetryControl.Text.Digits
  ────────────────────────────────
  **DIGITS IN SEVERAL BASES.**

  Digits beyond nine are letters in either case.
-/

namespace RetryControl.Text

/-- The value of a digit, if it is one in the base. -/
def digitValue? (base : Nat) (c : Char) : Option Nat :=
  let value? :=
    if '0' ≤ c ∧ c ≤ '9' then some (c.toNat - '0'.toNat)
    else if 'a' ≤ c ∧ c ≤ 'z' then some (c.toNat - 'a'.toNat + 10)
    else if 'A' ≤ c ∧ c ≤ 'Z' then some (c.toNat - 'A'.toNat + 10)
    else none
  value?.filter (· < base)

/-- The number that digits spell; none if one of them is no digit in the base. -/
def number? (base : Nat) (digits : List Char) : Option Nat :=
  digits.foldlM (fun n c => (digitValue? base c).map fun d => base * n + d) 0

/-- The natural number that a text of decimal digits spells, at least one of them. -/
def natural? (s : List Char) : Option Nat := if s.isEmpty then none else number? 10 s

/-- The integer that a text spells: decimal digits, perhaps signed. -/
def integer? : List Char → Option Int
  | '-' :: s => (natural? s).map fun n => -(n : Int)
  | '+' :: s => (natural? s).map fun n => (n : Int)
  | s => (natural? s).map fun n => (n : Int)

/-- A number in decimal digits, with zeros in front up to a width. -/
def padded (width n : Nat) : String :=
  let digits := Nat.toDigits 10 n
  String.ofList (List.replicate (width - digits.length) '0' ++ digits)

/-- The digits of a fraction that is a number of `places` digits, less its trailing zeros. -/
def fraction (places n : Nat) : String :=
  String.ofList (((padded places n).toList.reverse.dropWhile (· = '0')).reverse)

theorem lt_of_digitValue? {base n : Nat} {c : Char} (h : digitValue? base c = some n) :
    n < base := by
  simp only [digitValue?, Option.filter_eq_some_iff, decide_eq_true_eq] at h
  exact h.2

end RetryControl.Text
