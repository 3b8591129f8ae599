/-
  RetryControl.Gate
  ────────────────────────────────
  **ADMITTING RETRIES.**

  The gate is what all strategies share: it decides whether a failed call may
  make another attempt, and charges the scope's budget for it.  The checks
  come in a fixed order (rule, attempt limit, budget), and only a retry that
  passes all of them is charged.
-/
import RetryControl.Budget
import RetryControl.NameMap
import RetryControl.RetryError
import RetryControl.RetryRule
import RetryControl.Token

namespace RetryControl

/-! ## §1. Terms. -/

/-- What a gate is set up with. -/
structure GateTerms where
  /-- The most attempts of one call, the first one included. -/
  maxAttempts : Count := 3
  /-- Which failures are retried. -/
  rule : RetryRule := .default
  /-- Whether retries are charged to a budget at all. -/
  breakerEnabled : Bool := true
  /-- The terms of the budgets. -/
  budget : BudgetTerms := {}

namespace GateTerms

/-- A call has at least its first attempt. -/
def validate (t : GateTerms) : Except RetryError Unit :=
  if t.maxAttempts = 0 then .error (.invalidArgument "max_attempts must be >= 1") else .ok ()

/-- What a retry after a failure costs: client errors are free, and so is every retry while the
breaker is off. -/
def costOf (t : GateTerms) (errorType : ErrorType) : Count :=
  if !t.breakerEnabled || errorType == .clientError then 0 else t.budget.retryCost

end GateTerms

/-! ## §2. The gate. -/

/-- The terms of admission and the budgets of the scopes used so far. -/
structure Gate where
  /-- What the gate is set up with. -/
  terms : GateTerms
  /-- The buckets of the scopes that have been charged or credited. -/
  buckets : NameMap Bucket := .empty

namespace Gate

/-- The bucket of a scope; a scope without one counts as having a full bucket. -/
def bucket (g : Gate) (scope : String) : Bucket :=
  g.buckets.getD scope (.full g.terms.budget.initialCapacity)

/-- What a scope has left for retries. -/
def capacity (g : Gate) (scope : String) : Count := (g.bucket scope).available

/-- The gate with a scope's bucket replaced. -/
def setBucket (g : Gate) (scope : String) (b : Bucket) : Gate :=
  { g with buckets := g.buckets.insert scope b }

/-- The token of the next attempt after a failure, or the check that refuses it. -/
def decideRetry (g : Gate) (token : Token) (failure : Failure) : Except RetryError Token × Gate :=
  -- the rule is asked first: a failure that it refuses never reports exhaustion
  if !g.terms.rule.retries failure then
    (.error (.nonRetryable token.scope failure.errorType), g)
  else if g.terms.maxAttempts ≤ token.attemptsMade then
    (.error (.exhausted token.scope token.attemptsMade g.terms.maxAttempts), g)
  else
    let cost := g.terms.costOf failure.errorType
    -- a retry that costs nothing needs no bucket
    if cost = 0 then (.ok (token.nextAttempt cost), g)
    else
      let bucket := g.bucket token.scope
      match bucket.withdraw? cost with
      | some left => (.ok (token.nextAttempt cost), g.setBucket token.scope left)
      -- the scope has a bucket from now on, although nothing was taken from it
      | none => (.error (.circuitOpen token.scope), g.setBucket token.scope bucket)

/-- The credit that a success earns its scope. -/
def succeed (g : Gate) (token : Token) : Count × Gate :=
  if g.terms.breakerEnabled then
    let credited := g.terms.budget.creditFor token.budgetDebited
    (credited, g.setBucket token.scope ((g.bucket token.scope).credit credited))
  else (0, g)

/-- Forgets a scope; the answer says whether there was anything to forget. -/
def evict (g : Gate) (scope : String) : Bool × Gate :=
  (g.buckets.contains scope, { g with buckets := g.buckets.erase scope })

theorem succeed_of_breaker (g : Gate) (hbreaker : g.terms.breakerEnabled = true) (token : Token) :
    g.succeed token
      = (g.terms.budget.creditFor token.budgetDebited,
        g.setBucket token.scope ((g.bucket token.scope).credit
          (g.terms.budget.creditFor token.budgetDebited))) := if_pos hbreaker

theorem succeed_of_no_breaker (g : Gate) (hnone : ¬g.terms.breakerEnabled = true) (token : Token) :
    g.succeed token = (0, g) := if_neg hnone

/-! ## §3. What the operations leave alone. -/

@[simp] theorem terms_setBucket (g : Gate) (scope : String) (b : Bucket) :
    (g.setBucket scope b).terms = g.terms := rfl

@[simp] theorem bucket_setBucket (g : Gate) (scope other : String) (b : Bucket) :
    (g.setBucket scope b).bucket other = if other = scope then b else g.bucket other := by
  by_cases h : other = scope <;> simp [bucket, setBucket, NameMap.getD, h]

@[simp] theorem terms_decideRetry (g : Gate) (token : Token) (failure : Failure) :
    (g.decideRetry token failure).2.terms = g.terms := by
  unfold decideRetry
  dsimp only
  repeat' split
  all_goals rfl

@[simp] theorem terms_succeed (g : Gate) (token : Token) :
    (g.succeed token).2.terms = g.terms := by
  unfold succeed
  split <;> rfl

@[simp] theorem terms_evict (g : Gate) (scope : String) : (g.evict scope).2.terms = g.terms := rfl

/-- An admitted retry makes the attempt after the token's last one, and that one was below the
limit. -/
theorem decideRetry_ok {g : Gate} {token next : Token} {failure : Failure}
    (h : (g.decideRetry token failure).1 = .ok next) :
    token.attemptsMade.toNat < g.terms.maxAttempts.toNat
      ∧ next = token.nextAttempt (g.terms.costOf failure.errorType) := by
  unfold decideRetry at h
  dsimp only at h
  split at h
  · cases h
  · split at h
    · cases h
    · rename_i hlimit
      have hlt : token.attemptsMade.toNat < g.terms.maxAttempts.toNat := by
        simpa [UInt32.le_iff_toNat_le] using hlimit
      split at h
      · cases h
        exact ⟨hlt, rfl⟩
      · split at h
        · cases h
          exact ⟨hlt, rfl⟩
        · cases h

end Gate

end RetryControl
