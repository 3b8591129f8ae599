/-
  RetryControl.Proofs.Traffic.Conservation
  ────────────────────────────────
  **BUDGETS THAT ARE REPAID ARE NOT LOST.**

  Where a success repays what its call has taken, the budget of a scope is
  either there or owed by a call that has not succeeded:

      initial capacity ≤ capacity + outstanding

  in every state that calls side by side can come to.  Credits stop at the
  initial capacity and tokens stop counting at the largest counter; neither
  loses any of the budget.  If successes earn nothing beyond what they repay
  and the scope is never forgotten, the two sides are equal.

    • `outstanding` — what the calls of a scope owe,
    • `Tallied` — a token tells what the retries of its call were charged,
    • `Bounded.covers_serves`, `Bounded.balances_serves` — the account of a move,
    • `repaid_budget_conserved` — the account of every run.
-/
import RetryControl.Proofs.Traffic.Basic

namespace RetryControl

/-! ## §1. What calls owe. -/

/-- What the retries after so many failures are charged in total, as a plain number. -/
def GateTerms.charges (t : GateTerms) : List Failure → Nat
  | [] => 0
  | failure :: rest => t.charge failure.errorType + t.charges rest

/-- What a call owes to a scope: what its token has taken there, until the call succeeds. -/
def CallRecord.owes (scope : String) (c : CallRecord) : Nat :=
  if c.token.scope = scope ∧ c.standing ≠ .succeeded then c.token.budgetDebited.toNat else 0

/-- What all calls together owe to a scope. -/
def outstanding (scope : String) : List CallRecord → Nat
  | [] => 0
  | c :: rest => c.owes scope + outstanding scope rest

theorem GateTerms.charges_concat (t : GateTerms) (failures : List Failure) (failure : Failure) :
    t.charges (failures ++ [failure]) = t.charges failures + t.charge failure.errorType := by
  induction failures with
  | nil =>
      show t.charge failure.errorType + 0 = 0 + t.charge failure.errorType
      omega
  | cons first rest ih =>
      show t.charge first.errorType + t.charges (rest ++ [failure])
        = t.charge first.errorType + t.charges rest + t.charge failure.errorType
      rw [ih]
      omega

/-- While the breaker is off, nothing is charged. -/
theorem GateTerms.charges_of_breaker_off {t : GateTerms} (hbreaker : t.breakerEnabled ≠ true)
    (failures : List Failure) : t.charges failures = 0 := by
  induction failures with
  | nil => rfl
  | cons first rest ih =>
      have hcharge : t.charge first.errorType = 0 := by
        unfold charge
        rw [if_neg (fun h => hbreaker h.1)]
      show t.charge first.errorType + t.charges rest = 0
      rw [hcharge, ih]

namespace CallRecord

variable {scope : String} {c : CallRecord}

theorem owes_self (hscope : c.token.scope = scope) (hopen : c.standing ≠ .succeeded) :
    c.owes scope = c.token.budgetDebited.toNat := by
  unfold owes
  rw [if_pos ⟨hscope, hopen⟩]

theorem owes_other (hscope : c.token.scope ≠ scope) : c.owes scope = 0 := by
  unfold owes
  rw [if_neg (fun h => hscope h.1)]

theorem owes_succeeded (hdone : c.standing = .succeeded) : c.owes scope = 0 := by
  unfold owes
  rw [if_neg (fun h => h.2 hdone)]

end CallRecord

section

variable {scope : String} {calls : List CallRecord}

theorem outstanding_concat (c : CallRecord) :
    outstanding scope (calls ++ [c]) = outstanding scope calls + c.owes scope := by
  induction calls with
  | nil =>
      show c.owes scope + 0 = 0 + c.owes scope
      omega
  | cons first rest ih =>
      show first.owes scope + outstanding scope (rest ++ [c])
        = first.owes scope + outstanding scope rest + c.owes scope
      rw [ih]
      omega

/-- Replacing one call changes what is owed by what the two calls owe. -/
theorem outstanding_set {call : Nat} {c : CallRecord} (hcall : calls[call]? = some c)
    (c' : CallRecord) :
    outstanding scope (calls.set call c') + c.owes scope
      = outstanding scope calls + c'.owes scope := by
  induction calls generalizing call with
  | nil => cases hcall
  | cons first rest ih =>
      cases call with
      | zero =>
          cases hcall
          show c'.owes scope + outstanding scope rest + c.owes scope
            = c.owes scope + outstanding scope rest + c'.owes scope
          omega
      | succ call =>
          have hrest : outstanding scope (rest.set call c') + c.owes scope
              = outstanding scope rest + c'.owes scope := ih hcall
          show first.owes scope + outstanding scope (rest.set call c') + c.owes scope
            = first.owes scope + outstanding scope rest + c'.owes scope
          omega

theorem owes_le_outstanding {c : CallRecord} (hc : c ∈ calls) :
    c.owes scope ≤ outstanding scope calls := by
  induction calls with
  | nil => cases hc
  | cons first rest ih =>
      show c.owes scope ≤ first.owes scope + outstanding scope rest
      rcases List.mem_cons.mp hc with hsame | htail
      · rw [hsame]
        omega
      · have hrest := ih htail
        omega

/-- What a call underway has taken is outstanding. -/
theorem debited_le_outstanding {call : Nat} {c : CallRecord} (hcall : calls[call]? = some c)
    (hunderway : c.standing = .underway) (hscope : c.token.scope = scope) :
    c.token.budgetDebited.toNat ≤ outstanding scope calls := by
  rw [← CallRecord.owes_self hscope (by rw [hunderway]; decide)]
  exact owes_le_outstanding (List.mem_of_getElem? hcall)

/-- The next attempt of a call adds its cost to what the call owes, up to the largest counter. -/
theorem outstanding_nextAttempt {call : Nat} {c : CallRecord} (hcall : calls[call]? = some c)
    (hunderway : c.standing = .underway) (hscope : c.token.scope = scope) (cost : Count)
    (retried : List Failure) :
    outstanding scope (calls.set call { c with token := c.token.nextAttempt cost, retried })
        + c.owes scope
      = outstanding scope calls + min (c.owes scope + cost.toNat) Count.maxNat := by
  have hopen : c.standing ≠ .succeeded := by
    rw [hunderway]
    decide
  have hnext : CallRecord.owes scope { c with token := c.token.nextAttempt cost, retried }
      = min (c.owes scope + cost.toNat) Count.maxNat := by
    rw [CallRecord.owes_self hscope hopen, ← Token.toNat_budgetDebited_nextAttempt]
    exact CallRecord.owes_self hscope hopen
  rw [outstanding_set hcall, hnext]

/-- A call that succeeds owes nothing any more. -/
theorem outstanding_succeeded {call : Nat} {c : CallRecord} (hcall : calls[call]? = some c) :
    outstanding scope (calls.set call { c with standing := .succeeded }) + c.owes scope
      = outstanding scope calls := by
  have hdone : CallRecord.owes scope { c with standing := .succeeded } = 0 :=
    CallRecord.owes_succeeded rfl
  rw [outstanding_set hcall, hdone]
  omega

theorem outstanding_set_of_owes {call : Nat} {c c' : CallRecord} (hcall : calls[call]? = some c)
    (howes : c'.owes scope = c.owes scope) :
    outstanding scope (calls.set call c') = outstanding scope calls := by
  have hset : outstanding scope (calls.set call c') + c.owes scope
      = outstanding scope calls + c'.owes scope := outstanding_set hcall c'
  omega

/-- Nothing is owed elsewhere for the next attempt of a call. -/
theorem outstanding_nextAttempt_other {call : Nat} {c : CallRecord}
    (hcall : calls[call]? = some c) (hscope : c.token.scope ≠ scope) (cost : Count)
    (retried : List Failure) :
    outstanding scope (calls.set call { c with token := c.token.nextAttempt cost, retried })
      = outstanding scope calls := by
  apply outstanding_set_of_owes hcall
  rw [CallRecord.owes_other hscope]
  exact CallRecord.owes_other hscope

/-- A refused call goes on owing what its last token has taken. -/
theorem outstanding_refused {call : Nat} {c : CallRecord} (hcall : calls[call]? = some c)
    (hunderway : c.standing = .underway) :
    outstanding scope (calls.set call { c with standing := .refused })
      = outstanding scope calls := by
  apply outstanding_set_of_owes hcall
  unfold CallRecord.owes
  rw [hunderway]
  simp

theorem outstanding_eq_zero (hpaid : ∀ c ∈ calls, c.owes scope = 0) :
    outstanding scope calls = 0 := by
  induction calls with
  | nil => rfl
  | cons first rest ih =>
      show first.owes scope + outstanding scope rest = 0
      rw [hpaid first List.mem_cons_self, ih fun c h => hpaid c (List.mem_cons_of_mem first h)]

end

/-! ## §2. Tokens tell what was charged. -/

/-- Every token has counted the charges of its call, up to the largest counter. -/
def Tallied (t : GateTerms) (calls : List CallRecord) : Prop :=
  ∀ c ∈ calls, c.token.budgetDebited.toNat = min (t.charges c.retried) Count.maxNat

section

variable {g after : Gate} {calls later : List CallRecord} {move : Move} {scope : String}

/-- One more charge, one more count. -/
theorem Tallied.serves (htally : Tallied g.terms calls) (hserves : g.Serves calls move later after) :
    Tallied g.terms later := by
  apply hserves.forall_calls (P := fun c =>
    c.token.budgetDebited.toNat = min (g.terms.charges c.retried) Count.maxNat)
  case hfresh =>
    intro first
    exact (Nat.zero_min _).symm
  case hgranted =>
    intro call c failure hcall hunderway hcovered hbefore
    show (c.token.nextAttempt (g.terms.costOf failure.errorType)).budgetDebited.toNat
      = min (g.terms.charges (c.retried ++ [failure])) Count.maxNat
    rw [Token.toNat_budgetDebited_nextAttempt, GateTerms.toNat_costOf, hbefore,
      GateTerms.charges_concat]
    omega
  case hstanding =>
    intro c standing hbefore
    exact hbefore
  case hcalls => exact htally

/-- A call that was charged nothing owes nothing. -/
theorem Tallied.owes_eq_zero {t : GateTerms} (htally : Tallied t calls) {c : CallRecord}
    (hc : c ∈ calls) (hcharges : t.charges c.retried = 0) : c.owes scope = 0 := by
  have htaken := htally c hc
  rw [hcharges] at htaken
  unfold CallRecord.owes
  split
  · rw [htaken]
    exact Nat.zero_min _
  · rfl

/-! ## §3. Nothing is lost. -/

theorem BudgetTerms.toNat_creditFor_repay {b : BudgetTerms} (hpolicy : b.policy = .repayDebited)
    (debited : Count) : (b.creditFor debited).toNat = max b.successCredit.toNat debited.toNat := by
  unfold creditFor
  rw [hpolicy]
  exact Count.toNat_max _ _

namespace Gate

/-- What a scope has and what it is owed make up its initial capacity at least. -/
def Covers (g : Gate) (scope : String) (calls : List CallRecord) : Prop :=
  g.terms.budget.initialCapacity.toNat ≤ (g.capacity scope).toNat + outstanding scope calls

/-- A success in any scope adds a credit that pays what its call owes there, and nothing beyond if
the fixed credit is zero. -/
theorem Bounded.repay (hg : g.Bounded) (hpolicy : g.terms.budget.policy = .repayDebited)
    {c : CallRecord} (hunderway : c.standing = .underway)
    (huncharged : g.terms.breakerEnabled ≠ true → c.owes scope = 0)
    (hcapacity : (after.capacity scope).toNat
      = if scope = c.token.scope ∧ g.terms.breakerEnabled = true then
          min g.terms.budget.initialCapacity.toNat ((g.capacity scope).toNat
            + (g.terms.budget.creditFor c.token.budgetDebited).toNat)
        else (g.capacity scope).toNat) :
    ∃ credit, (after.capacity scope).toNat
        = min g.terms.budget.initialCapacity.toNat ((g.capacity scope).toNat + credit)
      ∧ c.owes scope ≤ credit
      ∧ (g.terms.budget.successCredit.toNat = 0 → credit = c.owes scope) := by
  have hle := hg.capacity_le scope
  rw [hcapacity]
  by_cases hscope : scope = c.token.scope
  · by_cases hbreaker : g.terms.breakerEnabled = true
    · have howes : c.owes scope = c.token.budgetDebited.toNat :=
        CallRecord.owes_self hscope.symm (by rw [hunderway]; decide)
      rw [if_pos ⟨hscope, hbreaker⟩, BudgetTerms.toNat_creditFor_repay hpolicy]
      exact ⟨_, rfl, by omega, by omega⟩
    · rw [if_neg (fun h => hbreaker h.2), huncharged hbreaker]
      exact ⟨0, by omega, by omega, fun _ => rfl⟩
  · have howes : c.owes scope = 0 := CallRecord.owes_other fun h => hscope h.symm
    rw [if_neg (fun h => hscope h.1), howes]
    exact ⟨0, by omega, by omega, fun _ => rfl⟩

/-- **No move loses any of the budget.** -/
theorem Bounded.covers_serves (hg : g.Bounded) (hpolicy : g.terms.budget.policy = .repayDebited)
    (hterms : after.terms = g.terms) (htally : Tallied g.terms calls)
    (hcovers : g.Covers scope calls) (hserves : g.Serves calls move later after) :
    after.Covers scope later := by
  unfold Covers at hcovers ⊢
  rw [hterms]
  cases hserves with
  | idle => exact hcovers
  | started first =>
      rw [outstanding_concat]
      omega
  | @granted call c failure _ hcall hunderway hpass hcovered hcapacity =>
      rw [hcapacity scope]
      by_cases hscope : scope = c.token.scope
      · -- at the largest counter the call owes more than any bucket holds
        have hlargest := Count.toNat_le_maxNat g.terms.budget.initialCapacity
        have howes : c.owes scope ≤ outstanding scope calls :=
          owes_le_outstanding (List.mem_of_getElem? hcall)
        have hset := outstanding_nextAttempt hcall hunderway hscope.symm
          (g.terms.costOf failure.errorType) (c.retried ++ [failure])
        rw [GateTerms.toNat_costOf] at hset
        rw [← hscope] at hcovered
        rw [if_pos hscope]
        omega
      · rw [if_neg hscope, outstanding_nextAttempt_other hcall fun h => hscope h.symm]
        exact hcovers
  | @refused call c failure _ hcall hunderway hcapacity =>
      rw [hcapacity scope, outstanding_refused hcall hunderway]
      exact hcovers
  | @finished call c _ hcall hunderway hcapacity =>
      have hset : outstanding scope (calls.set call { c with standing := .succeeded })
          + c.owes scope = outstanding scope calls := outstanding_succeeded hcall
      -- either the bucket is full again, or the credit has paid what was owed
      obtain ⟨credit, hafter, hpaid, _⟩ := hg.repay hpolicy hunderway
        (fun hbreaker => htally.owes_eq_zero (List.mem_of_getElem? hcall)
          (GateTerms.charges_of_breaker_off hbreaker _)) (hcapacity scope)
      rw [hafter]
      omega
  | @evicted first _ hcapacity =>
      rw [hcapacity scope]
      split
      · omega
      · exact hcovers

/-! ## §4. Nothing is gained. -/

/-- What a scope has and what it is owed make up its initial capacity exactly, and its tokens have
counted every charge. -/
structure Balances (g : Gate) (scope : String) (calls : List CallRecord) : Prop where
  /-- Nothing is lost and nothing is gained. -/
  account : (g.capacity scope).toNat + outstanding scope calls
    = g.terms.budget.initialCapacity.toNat
  /-- No token of the scope has come to the largest counter too early. -/
  counted : ∀ c ∈ calls, c.token.scope = scope →
    c.token.budgetDebited.toNat = g.terms.charges c.retried

theorem Balances.owes_eq_zero (hbalances : g.Balances scope calls) {c : CallRecord} (hc : c ∈ calls)
    (hcharges : g.terms.charges c.retried = 0) : c.owes scope = 0 := by
  unfold CallRecord.owes
  split
  · rename_i howes
    rw [hbalances.counted c hc howes.1, hcharges]
  · rfl

/-- A token of the scope has room for one more charge: what it has counted is owed, and the charge
is still there, so both fit into the initial capacity. -/
theorem Balances.counted_serves (hbalances : g.Balances scope calls)
    (hserves : g.Serves calls move later after) :
    ∀ c ∈ later, c.token.scope = scope →
      c.token.budgetDebited.toNat = g.terms.charges c.retried := by
  have haccount := hbalances.account
  have hlargest := Count.toNat_le_maxNat g.terms.budget.initialCapacity
  apply hserves.forall_calls (P := fun c => c.token.scope = scope →
    c.token.budgetDebited.toNat = g.terms.charges c.retried)
  case hfresh =>
    intro first hscope
    rfl
  case hgranted =>
    intro call c failure hcall hunderway hcovered hbefore hscope
    have hcounted : c.token.budgetDebited.toNat = g.terms.charges c.retried := hbefore hscope
    have howes : c.token.budgetDebited.toNat ≤ outstanding scope calls :=
      debited_le_outstanding hcall hunderway hscope
    have hheld : g.terms.charge failure.errorType ≤ (g.capacity scope).toNat := by
      rw [← hscope]
      exact hcovered
    show (c.token.nextAttempt (g.terms.costOf failure.errorType)).budgetDebited.toNat
      = g.terms.charges (c.retried ++ [failure])
    rw [Token.toNat_budgetDebited_nextAttempt, GateTerms.toNat_costOf, GateTerms.charges_concat]
    omega
  case hstanding =>
    intro c standing hbefore
    exact hbefore
  case hcalls => exact hbalances.counted

theorem Bounded.account_serves (hg : g.Bounded) (hpolicy : g.terms.budget.policy = .repayDebited)
    (hcredit : g.terms.budget.successCredit.toNat = 0) (hmove : move ≠ .evict scope)
    (hbalances : g.Balances scope calls) (hserves : g.Serves calls move later after) :
    (after.capacity scope).toNat + outstanding scope later
      = g.terms.budget.initialCapacity.toNat := by
  have haccount := hbalances.account
  have hlargest := Count.toNat_le_maxNat g.terms.budget.initialCapacity
  cases hserves with
  | idle => exact haccount
  | started first =>
      have hnew : CallRecord.owes scope { token := .initial first } = 0 := ite_self _
      rw [outstanding_concat, hnew]
      exact haccount
  | @granted call c failure _ hcall hunderway hpass hcovered hcapacity =>
      rw [hcapacity scope]
      by_cases hscope : scope = c.token.scope
      · -- what is owed and the charge fit into the initial capacity, so nothing is cut off
        have howes : c.owes scope ≤ outstanding scope calls :=
          owes_le_outstanding (List.mem_of_getElem? hcall)
        have hset := outstanding_nextAttempt hcall hunderway hscope.symm
          (g.terms.costOf failure.errorType) (c.retried ++ [failure])
        rw [GateTerms.toNat_costOf] at hset
        rw [← hscope] at hcovered
        rw [if_pos hscope]
        omega
      · rw [if_neg hscope, outstanding_nextAttempt_other hcall fun h => hscope h.symm]
        exact haccount
  | @refused call c failure _ hcall hunderway hcapacity =>
      rw [hcapacity scope, outstanding_refused hcall hunderway]
      exact haccount
  | @finished call c _ hcall hunderway hcapacity =>
      have hset : outstanding scope (calls.set call { c with standing := .succeeded })
          + c.owes scope = outstanding scope calls := outstanding_succeeded hcall
      obtain ⟨credit, hafter, _, hexact⟩ := hg.repay hpolicy hunderway
        (fun hbreaker => hbalances.owes_eq_zero (List.mem_of_getElem? hcall)
          (GateTerms.charges_of_breaker_off hbreaker _)) (hcapacity scope)
      have hpaid := hexact hcredit
      -- the credit is what the call owed, and what is owed has room below the initial capacity
      rw [hafter]
      omega
  | @evicted first _ hcapacity =>
      have hother : scope ≠ first := fun h => hmove (by rw [h])
      rw [hcapacity scope, if_neg hother]
      exact haccount

/-- **No move gains any budget**, as long as a success earns nothing beyond what it repays. -/
theorem Bounded.balances_serves (hg : g.Bounded) (hpolicy : g.terms.budget.policy = .repayDebited)
    (hcredit : g.terms.budget.successCredit.toNat = 0) (hterms : after.terms = g.terms)
    (hmove : move ≠ .evict scope) (hbalances : g.Balances scope calls)
    (hserves : g.Serves calls move later after) : after.Balances scope later := by
  constructor
  · rw [hterms]
    exact hg.account_serves hpolicy hcredit hmove hbalances hserves
  · rw [hterms]
    exact hbalances.counted_serves hserves

end Gate

end

/-! ## §5. Runs of built strategies. -/

namespace Traffic

variable {R : Type} [RateArithmetic R]

/-- The account of a scope in which nothing was ever lost or gained. -/
structure Balanced (t : Traffic R) (terms : GateTerms) (scope : String) : Prop where
  /-- What is there and what is owed make up the initial capacity. -/
  account : (t.strategy.capacity scope).toNat + outstanding scope t.calls
    = terms.budget.initialCapacity.toNat
  /-- Tokens have counted every charge. -/
  counted : ∀ c ∈ t.calls, c.token.scope = scope →
    c.token.budgetDebited.toNat = terms.charges c.retried
  /-- Whichever call succeeds next, its credit finds room. -/
  uncapped : ∀ o call c, t.calls[call]? = some c → c.standing = .underway →
    c.token.scope = scope → ∃ amount,
      (t.move o (.finish call)).1.map Answer.decision = some (.credited amount)
        ∧ ((t.move o (.finish call)).2.strategy.capacity scope).toNat
          = (t.strategy.capacity scope).toNat + amount.toNat

theorem balanced_of_balances {t : Traffic R} (hbounded : t.strategy.gate.Bounded)
    (hpolicy : t.strategy.gate.terms.budget.policy = .repayDebited)
    (hcredit : t.strategy.gate.terms.budget.successCredit.toNat = 0) {scope : String}
    (hbalances : t.strategy.gate.Balances scope t.calls) :
    t.Balanced t.strategy.gate.terms scope := by
  constructor
  case account => exact hbalances.account
  case counted => exact hbalances.counted
  case uncapped =>
    intro o call c hcall hunderway hscope
    obtain ⟨hanswer, hgate, _⟩ := move_of_operation (t := t) (o := o)
      (Move.operation?_finish hcall hunderway o.suggestedDelay)
    refine ⟨(t.strategy.gate.succeed c.token).1, hanswer, ?_⟩
    show ((t.move o (.finish call)).2.strategy.gate.capacity scope).toNat
      = (t.strategy.gate.capacity scope).toNat + (t.strategy.gate.succeed c.token).1.toNat
    have haccount := hbalances.account
    have howes : c.token.budgetDebited.toNat ≤ outstanding scope t.calls :=
      debited_le_outstanding hcall hunderway hscope
    rw [hgate]
    show ((t.strategy.gate.succeed c.token).2.capacity scope).toNat = _
    rw [hbounded.capacity_succeed, if_pos hscope.symm]
    show (if t.strategy.gate.terms.breakerEnabled = true then
      min _ (_ + (t.strategy.gate.succeed c.token).1.toNat) else _) = _
    rw [Gate.credit_succeed]
    by_cases hbreaker : t.strategy.gate.terms.breakerEnabled = true
    · rw [if_pos hbreaker, if_pos hbreaker, BudgetTerms.toNat_creditFor_repay hpolicy]
      omega
    · rw [if_neg hbreaker, if_neg hbreaker]
      rfl

/-- No run loses any of the budget. -/
theorem covers_run {t : Traffic R} {terms : GateTerms} (hbounded : t.strategy.gate.Bounded)
    (hterms : t.strategy.gate.terms = terms) (hpolicy : terms.budget.policy = .repayDebited)
    {scope : String} (htally : Tallied terms t.calls)
    (hcovers : t.strategy.gate.Covers scope t.calls) (moves : List (Occasion × Move)) :
    (t.run moves).2.strategy.gate.Bounded ∧ (t.run moves).2.strategy.gate.terms = terms
      ∧ Tallied terms (t.run moves).2.calls
      ∧ (t.run moves).2.strategy.gate.Covers scope (t.run moves).2.calls := by
  apply run_induction (fun _ => True) (fun calls g => Tallied terms calls ∧ g.Covers scope calls)
  case hstep =>
    intro calls calls' g g' move hg hsame hsame' _ hserves hkept
    subst hsame
    exact ⟨hkept.1.serves hserves, hg.covers_serves hpolicy hsame' hkept.1 hkept.2 hserves⟩
  case hbounded => exact hbounded
  case hterms => exact hterms
  case hstart => exact ⟨htally, hcovers⟩
  case hallowed => exact fun _ _ => trivial

/-- No run gains any budget, as long as a success earns nothing beyond what it repays. -/
theorem balances_run {t : Traffic R} {terms : GateTerms} (hbounded : t.strategy.gate.Bounded)
    (hterms : t.strategy.gate.terms = terms) (hpolicy : terms.budget.policy = .repayDebited)
    (hcredit : terms.budget.successCredit.toNat = 0) {scope : String}
    (hbalances : t.strategy.gate.Balances scope t.calls) {moves : List (Occasion × Move)}
    (hkept : ∀ entry ∈ moves, entry.2 ≠ .evict scope) :
    (t.run moves).2.Balanced terms scope := by
  obtain ⟨hlast, hsame, hlastBalances⟩ :=
    run_induction (· ≠ .evict scope) (fun calls g => g.Balances scope calls)
      (fun {calls calls' g g' move} hg hsame hsame' hmove hserves hbefore => by
        subst hsame
        exact hg.balances_serves hpolicy hcredit hsame' hmove hbefore hserves)
      hbounded hterms hbalances hkept
  subst hsame
  exact balanced_of_balances hlast hpolicy hcredit hlastBalances

end Traffic

variable {R : Type} [RateArithmetic R]

/-- **BUDGETS THAT ARE REPAID ARE NOT LOST.**  In every state that calls on a built strategy come
to, what a scope has and what it is owed make up its initial capacity; once every call that was
granted a retry there has succeeded, the budget is full.  With no credit beyond repayment, and as
long as the scope is not forgotten, the account is exact. -/
theorem repaid_budget_conserved {p : Plan R} {s : Strategy R} (hbuilt : p.build = .ok s)
    (hpolicy : p.gate.budget.policy = .repayDebited) (scope : String)
    (moves : List (Occasion × Move)) :
    let last := (Traffic.run { strategy := s } moves).2
    p.gate.budget.initialCapacity.toNat
        ≤ (last.strategy.capacity scope).toNat + outstanding scope last.calls
      ∧ ((∀ c ∈ last.calls, c.token.scope = scope → c.retried ≠ [] → c.standing = .succeeded) →
        last.strategy.capacity scope = p.gate.budget.initialCapacity)
      ∧ (p.gate.budget.successCredit = 0 → (∀ entry ∈ moves, entry.2 ≠ .evict scope) →
        last.Balanced p.gate scope) := by
  intro last
  have hbounded : s.gate.Bounded := Plan.bounded_of_build hbuilt
  have hterms : s.gate.terms = p.gate := Plan.terms_of_build hbuilt
  have hfull : s.gate.capacity scope = p.gate.budget.initialCapacity :=
    Plan.capacity_of_build hbuilt scope
  have hstart : Tallied p.gate [] := by
    intro c hc
    cases hc
  have hcoversStart : s.gate.Covers scope [] := by
    show s.gate.terms.budget.initialCapacity.toNat ≤ (s.gate.capacity scope).toNat + 0
    rw [hterms, hfull]
    omega
  obtain ⟨hlast, hsame, htally, hcovers⟩ :=
    Traffic.covers_run (t := { strategy := s }) hbounded hterms hpolicy hstart hcoversStart moves
  have haccount : p.gate.budget.initialCapacity.toNat
      ≤ (last.strategy.capacity scope).toNat + outstanding scope last.calls := by
    unfold Gate.Covers at hcovers
    rw [hsame] at hcovers
    exact hcovers
  refine ⟨haccount, ?_, ?_⟩
  · intro hpaid
    have hnothing : outstanding scope last.calls = 0 := by
      apply outstanding_eq_zero
      intro c hc
      by_cases hscope : c.token.scope = scope
      · by_cases hretried : c.retried = []
        · exact htally.owes_eq_zero hc (by rw [hretried]; rfl)
        · exact CallRecord.owes_succeeded (hpaid c hc hscope hretried)
      · exact CallRecord.owes_other hscope
    have hle : (last.strategy.capacity scope).toNat ≤ p.gate.budget.initialCapacity.toNat := by
      rw [← hsame]
      exact hlast.capacity_le scope
    apply UInt32.toNat_inj.mp
    omega
  · intro hcredit hkept
    have hbalances : s.gate.Balances scope [] := by
      constructor
      · rw [hterms, hfull]
        rfl
      · intro c hc
        cases hc
    exact Traffic.balances_run (t := { strategy := s }) hbounded hterms hpolicy (by rw [hcredit]; rfl)
      hbalances hkept

/-- A plan whose initial capacity of ten covers two retries, at four each, which successes repay. -/
def repaidPlan : Plan Float :=
  .standard
    { gate :=
      { budget :=
        { initialCapacity := 10, retryCost := 4, successCredit := 0, policy := .repayDebited } } }

/-- The strategy of the plan in which successes repay. -/
def repaidStrategy : Strategy Float :=
  .standard { gate := { terms := repaidPlan.gate }, backoff := .default }

/-- Of two calls with a retry each, one succeeds and one is refused another retry and goes on owing
its four units. -/
theorem repaid_budget_conserved_pair :
    let now : Occasion := { moment := .start }
    let fault : Failure := .ofType .transient
    let moves : List (Occasion × Move) :=
      [(now, .start "s"), (now, .start "s"), (now, .retry 0 fault), (now, .retry 1 fault),
        (now, .retry 1 fault), (now, .finish 0)]
    let last := (Traffic.run { strategy := repaidStrategy } moves).2
    repaidPlan.build = .ok repaidStrategy ∧ repaidPlan.gate.budget.policy = .repayDebited
      ∧ last.Balanced repaidPlan.gate "s" ∧ outstanding "s" last.calls = 4 := by
  intro now fault moves last
  have hkept : ∀ entry ∈ moves, entry.2 ≠ .evict "s" := by
    simp [moves]
  obtain ⟨_, _, hbalanced⟩ :=
    repaid_budget_conserved (p := repaidPlan) (s := repaidStrategy) rfl rfl "s" moves
  exact ⟨rfl, rfl, hbalanced rfl hkept, by decide⟩

end RetryControl
