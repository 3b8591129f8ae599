/-
  RetryControl.Toml.Basic
  ────────────────────────────────
  **TOML DOCUMENTS.**

  A document is a table of values.  Dates and times are kept as data and have
  one written form each.
-/
import RetryControl.Text.Digits

namespace RetryControl.Toml

/-! ## §1. Dates and times. -/

/-- A day of the calendar. -/
structure Date where
  /-- The year. -/
  year : Nat
  /-- The month, from one on. -/
  month : Nat
  /-- The day of the month, from one on. -/
  day : Nat
  deriving Repr, DecidableEq

/-- A time of a day. -/
structure TimeOfDay where
  /-- The hour. -/
  hour : Nat
  /-- The minute. -/
  minute : Nat
  /-- The second; sixty is a leap second. -/
  second : Nat
  /-- The nanoseconds after it. -/
  nanos : Nat
  deriving Repr, DecidableEq

/-- How far a clock is from universal time. -/
inductive Offset where
  /-- It shows universal time. -/
  | universal
  /-- It is so many minutes ahead. -/
  | ahead (minutes : Int)
  deriving Repr, DecidableEq

/-- A date, a time, or both, then perhaps with an offset. -/
inductive Moment where
  /-- A day. -/
  | date (date : Date)
  /-- A time of any day. -/
  | time (time : TimeOfDay)
  /-- A time of a day. -/
  | both (date : Date) (time : TimeOfDay) (offset : Option Offset)
  deriving Repr, DecidableEq

/-- The written form of a day. -/
def Date.text (d : Date) : String :=
  Text.padded 4 d.year ++ "-" ++ Text.padded 2 d.month ++ "-" ++ Text.padded 2 d.day

/-- The written form of a time of a day. -/
def TimeOfDay.text (t : TimeOfDay) : String :=
  Text.padded 2 t.hour ++ ":" ++ Text.padded 2 t.minute ++ ":" ++ Text.padded 2 t.second
    ++ if t.nanos = 0 then "" else "." ++ Text.fraction 9 t.nanos

/-- The written form of an offset. -/
def Offset.text : Offset → String
  | .universal => "Z"
  | .ahead minutes =>
    (if minutes < 0 then "-" else "+") ++ Text.padded 2 (minutes.natAbs / 60) ++ ":"
      ++ Text.padded 2 (minutes.natAbs % 60)

/-- The written form of a moment. -/
def Moment.text : Moment → String
  | .date d => d.text
  | .time t => t.text
  | .both d t offset => d.text ++ "T" ++ t.text ++ (offset.map Offset.text).getD ""

/-! ## §2. Values. -/

/-- A value of a document. -/
inductive Value where
  /-- A text. -/
  | string (s : String)
  /-- An integer of 64 bits. -/
  | integer (n : Int)
  /-- A number with a point or a power. -/
  | float (x : Float)
  /-- A truth value. -/
  | bool (b : Bool)
  /-- A date or a time. -/
  | moment (m : Moment)
  /-- A list of values. -/
  | array (items : List Value)
  /-- Named values. -/
  | table (members : List (String × Value))

instance : Inhabited Value := ⟨.table []⟩

/-- The name of a value: the tables that lead to it and its own name in the last of them. -/
structure Key where
  /-- The names of the tables, the outermost first. -/
  parents : List String
  /-- The name in the last of them. -/
  name : String
  deriving Repr, DecidableEq

end RetryControl.Toml
