/-
  RetryControl.Call.Basic
  ────────────────────────────────
  **CALLS THAT ARE RETRIED.**

  A call runs an operation again and again until it succeeds or no further
  attempt is granted.  What the operation does is given by a script, one
  attempt for each number from one on.  A finished call tells its outcome and
  every action that was taken, in order.
-/
import RetryControl.Log.Record

namespace RetryControl

/-! ## §1. Scripts. -/

/-- One attempt of an operation: how far the clock moves meanwhile, and how it ends. -/
structure Attempt (ε α : Type) where
  /-- How far the clock moves during the attempt. -/
  takes : Duration := .zero
  /-- A value, or an error of the caller's own. -/
  outcome : Except ε α

/-- The attempts of an operation by their numbers, which start at one. -/
abbrev Script (ε α : Type) := Nat → Attempt ε α

/-! ## §2. Finished calls. -/

/-- An action of a call on its strategy, its operation or the time. -/
inductive Action (ε α : Type) where
  /-- The strategy gave the first token. -/
  | acquired (grant : Grant)
  /-- The operation was run. -/
  | attempted (number : Nat) (outcome : Except ε α)
  /-- The strategy was asked for another attempt. -/
  | refreshed (answer : Except RetryError Grant)
  /-- The call waited. -/
  | waited (delay : Duration)
  /-- The strategy was told of the success. -/
  | credited (amount : Count)

/-- The time that an action waits, in nanoseconds. -/
def Action.waitedNanos {ε α : Type} : Action ε α → Nat
  | .waited delay => delay.nanos
  | _ => 0

/-- How a call ends. -/
inductive Outcome (ε α : Type) where
  /-- An attempt succeeded. -/
  | ok (value : α)
  /-- No further attempt was granted after the last error. -/
  | gaveUp (reason : RetryError) (lastError : ε)
  /-- The call was cancelled. -/
  | aborted

/-- The text of a call that ends without a value. -/
def Outcome.message {ε α : Type} : Outcome ε α → Option String
  | .ok _ => none
  | .gaveUp reason _ => some reason.message
  | .aborted => some "Retry aborted by cancellation"

/-- A call that has ended. -/
structure Finished (R ε α : Type) where
  /-- How it ended. -/
  outcome : Outcome ε α
  /-- What was done, in order. -/
  actions : List (Action ε α)
  /-- What happened at the strategy, in order. -/
  events : List (Event R)
  /-- The strategy after the call. -/
  strategy : Strategy R
  /-- The clock after the call. -/
  clock : ManualClock

namespace Finished

variable {R ε α : Type}

/-- The same end after some earlier actions and events. -/
def after (f : Finished R ε α) (actions : List (Action ε α)) (events : List (Event R)) :
    Finished R ε α :=
  { f with actions := actions ++ f.actions, events := events ++ f.events }

/-- How often the operation was run. -/
def attempts (f : Finished R ε α) : Nat :=
  f.actions.countP fun
    | .attempted _ _ => true
    | _ => false

/-- The time waited in total, in nanoseconds. -/
def waitedNanos (f : Finished R ε α) : Nat :=
  f.actions.foldr (fun action rest => action.waitedNanos + rest) 0

end Finished

/-- The action of a wait, which is none for no time at all. -/
def waitActions {ε α : Type} (delay : Duration) : List (Action ε α) :=
  if delay = .zero then [] else [.waited delay]

end RetryControl
