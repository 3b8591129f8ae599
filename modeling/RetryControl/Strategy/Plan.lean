/-
  RetryControl.Strategy.Plan
  ────────────────────────────────
  **PLANS AND THEIR ADJUSTMENT.**

  A plan holds all that a strategy is built from.  It is adjusted one choice
  at a time and then built; a strategy gives back the plan it was built from,
  so a copy with nothing used yet can be built from it.
-/
import RetryControl.Strategy.Basic

namespace RetryControl

/-- What a strategy of either kind is built from. -/
inductive Plan (R : Type) where
  /-- A standard strategy. -/
  | standard (plan : StandardPlan)
  /-- An adaptive strategy. -/
  | adaptive (plan : AdaptivePlan R)

/-- One choice that a plan can be given. -/
inductive Adjustment (R : Type) where
  /-- The most attempts of one call. -/
  | maxAttempts (n : Count)
  /-- Whether retries are charged to a budget. -/
  | breaker (enabled : Bool)
  /-- All terms of the budgets. -/
  | budget (terms : BudgetTerms)
  /-- What a bucket holds at first and at most. -/
  | initialCapacity (n : Count)
  /-- What a retry takes. -/
  | retryCost (n : Count)
  /-- What a success earns at least. -/
  | successCredit (n : Count)
  /-- How the credit of a success is set. -/
  | creditPolicy (policy : CreditPolicy)
  /-- Which failures are retried. -/
  | rule (rule : RetryRule)
  /-- One more condition on which failures are retried. -/
  | retryOn (matcher : Matcher)
  /-- The delays of a standard strategy. -/
  | backoff (backoff : Backoff)
  /-- The rate control of an adaptive strategy. -/
  | rates (terms : RateTerms R)

/-- Terms of admission with one choice made; choices about delays leave them alone. -/
def GateTerms.adjust {R : Type} (t : GateTerms) : Adjustment R → GateTerms
  | .maxAttempts n => { t with maxAttempts := n }
  | .breaker enabled => { t with breakerEnabled := enabled }
  | .budget terms => { t with budget := terms }
  | .initialCapacity n => { t with budget := { t.budget with initialCapacity := n } }
  | .retryCost n => { t with budget := { t.budget with retryCost := n } }
  | .successCredit n => { t with budget := { t.budget with successCredit := n } }
  | .creditPolicy policy => { t with budget := { t.budget with policy := policy } }
  | .rule rule => { t with rule := rule }
  | .retryOn matcher => { t with rule := t.rule.also matcher }
  | .backoff _ => t
  | .rates _ => t

namespace Plan

variable {R : Type}

/-- A plan with one choice made. A choice about delays of the other kind changes nothing. -/
def adjust (p : Plan R) (a : Adjustment R) : Plan R :=
  match p, a with
  | .standard p, .backoff b => .standard { p with backoff := b }
  | .standard p, a => .standard { p with gate := p.gate.adjust a }
  | .adaptive p, .rates t => .adaptive { p with rates := t }
  | .adaptive p, a => .adaptive { p with gate := p.gate.adjust a }

/-- A plan with choices made one after another. -/
def adjustAll (p : Plan R) (choices : List (Adjustment R)) : Plan R := choices.foldl adjust p

/-- The strategy of a plan, with nothing used yet. -/
def build [RateArithmetic R] : Plan R → Except RetryError (Strategy R)
  | .standard p => p.build.map .standard
  | .adaptive p => p.build.map .adaptive

end Plan

/-- The plan that a strategy was built from. -/
def Strategy.plan {R : Type} : Strategy R → Plan R
  | .standard s => .standard s.plan
  | .adaptive s => .adaptive s.plan

end RetryControl
