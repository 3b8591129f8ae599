/-
  RetryControl.Text.Quoted
  ────────────────────────────────
  **QUOTED TEXT IN MESSAGES.**

  A text in quotes shows every character of it: quotes, backslashes and
  common control characters by a letter, other characters that do not show by
  themselves by their number.
-/
import RetryControl.Text.Unshown

namespace RetryControl.Text

/-- A character inside quotes. -/
def quoteChar (c : Char) : List Char :=
  if c = '"' then ['\\', '"']
  else if c = '\\' then ['\\', '\\']
  else if c = '\n' then ['\\', 'n']
  else if c = '\r' then ['\\', 'r']
  else if c = '\t' then ['\\', 't']
  else if c = '\x00' then ['\\', '0']
  else if isShown c then [c]
  else ['\\', 'u', '\x7b'] ++ Nat.toDigits 16 c.toNat ++ ['\x7d']

/-- A text in quotes. -/
def quoted (s : String) : String :=
  String.ofList ('"' :: s.toList.flatMap quoteChar ++ ['"'])

end RetryControl.Text
