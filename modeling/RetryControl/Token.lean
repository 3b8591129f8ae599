/-
  RetryControl.Token
  ────────────────────────────────
  **TOKENS OF A CALL.**

  A token is what a call in progress holds: its scope, the number of attempts
  it has been granted, and the budget that its retries have taken.
-/
import RetryControl.Count

namespace RetryControl

/-- The standing of one call. -/
structure Token where
  /-- The scope that the call belongs to. -/
  scope : String
  /-- Attempts granted so far, the first one included. -/
  attemptsMade : Count := 1
  /-- Budget taken so far by the retries of the call. -/
  budgetDebited : Count := 0
  deriving Repr, DecidableEq

namespace Token

/-- The token of a call that starts. -/
def initial (scope : String) : Token := { scope }

/-- The token after one more attempt that took `cost` from the budget. -/
def nextAttempt (t : Token) (cost : Count) : Token :=
  { t with
    attemptsMade := t.attemptsMade.addSat 1
    budgetDebited := t.budgetDebited.addSat cost }

/-- Attempts beyond the first one. -/
def retriesAttempted (t : Token) : Count := t.attemptsMade.subSat 1

@[simp] theorem scope_nextAttempt (t : Token) (cost : Count) :
    (t.nextAttempt cost).scope = t.scope := rfl

@[simp] theorem toNat_attemptsMade_nextAttempt (t : Token) (cost : Count) :
    (t.nextAttempt cost).attemptsMade.toNat = min (t.attemptsMade.toNat + 1) Count.maxNat :=
  Count.toNat_addSat _ _

@[simp] theorem toNat_budgetDebited_nextAttempt (t : Token) (cost : Count) :
    (t.nextAttempt cost).budgetDebited.toNat
      = min (t.budgetDebited.toNat + cost.toNat) Count.maxNat :=
  Count.toNat_addSat _ _

end Token

end RetryControl
