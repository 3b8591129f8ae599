/-
  RetryControl.Budget
  ────────────────────────────────
  **RETRY BUDGETS.**

  A bucket holds the budget that a scope has left for retries.  A retry takes
  its cost if the bucket covers it and nothing otherwise; a success puts a
  credit back, up to the bucket's limit.
-/
import RetryControl.Count

namespace RetryControl

/-! ## §1. Buckets. -/

/-- The budget of one scope. -/
structure Bucket where
  /-- The most that the bucket holds. -/
  limit : Count
  /-- What it holds now. -/
  available : Count
  deriving Repr, DecidableEq

namespace Bucket

/-- A full bucket. -/
def full (limit : Count) : Bucket := ⟨limit, limit⟩

/-- The bucket after a cost is taken, if it covers the cost. -/
def withdraw? (b : Bucket) (cost : Count) : Option Bucket :=
  (b.available.sub? cost).map fun left => { b with available := left }

/-- The bucket after a credit, which never lifts it above its limit. -/
def credit (b : Bucket) (amount : Count) : Bucket :=
  { b with available := min (b.available.addSat amount) b.limit }

@[simp] theorem limit_full (limit : Count) : (full limit).limit = limit := rfl

@[simp] theorem available_full (limit : Count) : (full limit).available = limit := rfl

@[simp] theorem limit_credit (b : Bucket) (amount : Count) :
    (b.credit amount).limit = b.limit := rfl

/-- A cost can be taken exactly when it is covered, and then it leaves the difference. -/
theorem withdraw?_eq_some_iff {b b' : Bucket} {cost : Count} :
    b.withdraw? cost = some b' ↔
      cost.toNat ≤ b.available.toNat ∧ b'.limit = b.limit
        ∧ b'.available.toNat = b.available.toNat - cost.toNat := by
  simp only [withdraw?, Option.map_eq_some_iff, Count.sub?_eq_some_iff]
  constructor
  · rintro ⟨left, ⟨hle, hleft⟩, rfl⟩
    exact ⟨hle, rfl, hleft⟩
  · rintro ⟨hle, hlimit, hleft⟩
    refine ⟨b'.available, ⟨hle, hleft⟩, ?_⟩
    cases b'
    simp_all

end Bucket

/-! ## §2. What retries cost and successes earn. -/

/-- How the credit of a success is set. -/
inductive CreditPolicy where
  /-- Every success earns the same credit. -/
  | fixed
  /-- A success earns what its call has taken, but at least the fixed credit. -/
  | repayDebited
  deriving Repr, DecidableEq

/-- The terms of every bucket of a strategy. -/
structure BudgetTerms where
  /-- What a bucket holds at first and at most. -/
  initialCapacity : Count := 500
  /-- What a retry takes. -/
  retryCost : Count := 5
  /-- What a success earns at least. -/
  successCredit : Count := 1
  /-- How the credit of a success is set. -/
  policy : CreditPolicy := .fixed
  deriving Repr, DecidableEq

/-- The credit of a success whose call has taken `debited`. -/
def BudgetTerms.creditFor (b : BudgetTerms) (debited : Count) : Count :=
  match b.policy with
  | .fixed => b.successCredit
  | .repayDebited => max b.successCredit debited

end RetryControl
