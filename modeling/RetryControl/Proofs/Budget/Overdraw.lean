/-
  RetryControl.Proofs.Budget.Overdraw
  ────────────────────────────────
  **NO OVERDRAW AND NO UNDER-GRANT.**

  Calls that run side by side ask one strategy in some order.  Whatever the
  order is and whichever tokens they hold, a scope that is not forgotten
  meanwhile never gives out more than it was given:

      cost · charged grants + capacity ≤ initial capacity + credits

  and without successes it gives out all it has: of the requests that only
  the budget can refuse, the first ⌊initial capacity / cost⌋ are granted and
  all later ones find the circuit open.

    • `creditsAt`, `chargedGrants`, `contested` — what a history says of a scope,
    • `Bounded.overdraw_run` — the account of a run from any bounded gate,
    • `Bounded.firstServed_run` — who is served in a run without successes,
    • `no_overdraw_no_undergrant` — both, for built strategies of both kinds.
-/
import RetryControl.Proofs.Budget.Capacity

namespace RetryControl

/-! ## §1. What a history says of a scope. -/

/-- A retry was granted in the scope after a failure that is charged for. -/
def chargedGrant (scope : String) : Operation × Decision → Bool
  | (.refresh request, .granted _) =>
      request.token.scope == scope && request.failure.errorType != .clientError
  | _ => false

/-- The number of charged retries granted in a scope. -/
def chargedGrants (scope : String) (history : List (Operation × Decision)) : Nat :=
  history.countP (chargedGrant scope)

/-- The amount that a success was credited with, if it was in the scope. -/
def creditAt (scope : String) : Operation × Decision → Nat
  | (.succeed token, .credited amount) => if token.scope = scope then amount.toNat else 0
  | _ => 0

/-- The amounts that the successes of a scope were credited with, in total. -/
def creditsAt (scope : String) : List (Operation × Decision) → Nat
  | [] => 0
  | entry :: rest => creditAt scope entry + creditsAt scope rest

namespace GateTerms

/-- A request in the scope that only the budget can refuse: it passes the rule and the attempt
limit, and the failure is one that is charged for. -/
def contests (t : GateTerms) (scope : String) : Operation → Bool
  | .refresh request =>
      request.token.scope == scope && t.passes request.token request.failure
        && request.failure.errorType != .clientError
  | _ => false

/-- The decisions on the requests that only the budget can refuse, in the order of arrival. -/
def contested (t : GateTerms) (scope : String) (history : List (Operation × Decision)) :
    List Decision :=
  (history.filter fun entry => t.contests scope entry.1).map Prod.snd

theorem charge_of_ne {t : GateTerms} {errorType : ErrorType} (hbreaker : t.breakerEnabled = true)
    (htype : errorType ≠ .clientError) : t.charge errorType = t.budget.retryCost.toNat := by
  unfold charge
  rw [if_pos ⟨hbreaker, htype⟩]

theorem charge_clientError (t : GateTerms) : t.charge .clientError = 0 := by
  unfold charge
  rw [if_neg (fun h => h.2 rfl)]

/-- A granted retry counts as charged exactly where it takes its charge. -/
theorem cost_of_chargedGrant {t : GateTerms} (hbreaker : t.breakerEnabled = true) (scope : String)
    (request : RetryRequest) (token : Token) :
    (if chargedGrant scope (.refresh request, .granted token) then t.budget.retryCost.toNat else 0)
      = if scope = request.token.scope then t.charge request.failure.errorType else 0 := by
  show (if (request.token.scope == scope && request.failure.errorType != .clientError) = true
    then _ else _) = _
  by_cases hscope : scope = request.token.scope
  · rw [if_pos hscope, hscope, beq_self_eq_true, Bool.true_and]
    by_cases htype : request.failure.errorType = .clientError
    · rw [htype, charge_clientError]
      rfl
    · rw [if_pos (bne_iff_ne.mpr htype), charge_of_ne hbreaker htype]
  · rw [if_neg hscope, beq_false_of_ne (fun h => hscope h.symm)]
    rfl

theorem contests_refresh {t : GateTerms} {scope : String} {request : RetryRequest} :
    t.contests scope (.refresh request) = true ↔
      request.token.scope = scope ∧ t.passes request.token request.failure = true
        ∧ request.failure.errorType ≠ .clientError := by
  unfold contests
  rw [Bool.and_eq_true, Bool.and_eq_true, beq_iff_eq, bne_iff_ne, and_assoc]

/-- A request that passes the checks without being contested is for a free retry. -/
theorem errorType_of_not_contests {t : GateTerms} {scope : String} {request : RetryRequest}
    (h : t.contests scope (.refresh request) = false) (hscope : request.token.scope = scope)
    (hpass : t.passes request.token request.failure = true) :
    request.failure.errorType = .clientError := by
  apply Decidable.byContradiction
  intro htype
  rw [contests_refresh.mpr ⟨hscope, hpass, htype⟩] at h
  cases h

end GateTerms

/-! ## §2. The account of a run. -/

namespace Gate

variable {g : Gate} {scope : String}

/-- One operation: what it gives out and what is left are covered by what was there and what is
credited. -/
theorem Bounded.overdraw_step (hg : g.Bounded) (hbreaker : g.terms.breakerEnabled = true)
    {op : Operation} (hop : op ≠ .evict scope) :
    (if chargedGrant scope (op, (g.step op).1) then g.terms.budget.retryCost.toNat else 0)
        + ((g.step op).2.capacity scope).toNat
      ≤ (g.capacity scope).toNat + creditAt scope (op, (g.step op).1) := by
  have hafter := hg.capacity_step op scope
  cases op with
  | acquire first =>
      show 0 + (g.capacity scope).toNat ≤ (g.capacity scope).toNat + 0
      omega
  | evict other =>
      have hother : scope ≠ other := fun h => hop (by rw [h])
      rw [hafter]
      show 0 + (if scope = other then _ else _) ≤ (g.capacity scope).toNat + 0
      rw [if_neg hother]
      omega
  | succeed token =>
      rw [hafter]
      show 0 + (if scope = token.scope then
          (if g.terms.breakerEnabled = true then
            min _ ((g.capacity scope).toNat + (g.succeed token).1.toNat) else _)
        else _) ≤ (g.capacity scope).toNat
          + (if token.scope = scope then (g.succeed token).1.toNat else 0)
      rw [if_pos hbreaker]
      by_cases hscope : scope = token.scope
      · rw [if_pos hscope, if_pos hscope.symm]
        omega
      · rw [if_neg hscope, if_neg (fun h => hscope h.symm)]
        omega
  | refresh request =>
      rcases g.granted_or_refused request with ⟨token, hgranted⟩ | ⟨error, hrefused⟩
      · have hcovered := charge_le_capacity hgranted
        rw [hafter, hgranted, GateTerms.cost_of_chargedGrant hbreaker]
        show (if scope = request.token.scope then _ else 0)
            + (if scope = request.token.scope then
                (g.capacity scope).toNat - g.terms.charge request.failure.errorType
              else (g.capacity scope).toNat) ≤ (g.capacity scope).toNat + 0
        split
        · rename_i hscope
          rw [← hscope] at hcovered
          omega
        · omega
      · rw [hafter, hrefused]
        show 0 + (if scope = request.token.scope then (g.capacity scope).toNat
          else (g.capacity scope).toNat) ≤ (g.capacity scope).toNat + 0
        rw [ite_self]
        omega

theorem chargedGrants_cons (scope : String) (entry : Operation × Decision)
    (rest : List (Operation × Decision)) (cost : Nat) :
    cost * chargedGrants scope (entry :: rest)
      = (if chargedGrant scope entry then cost else 0) + cost * chargedGrants scope rest := by
  unfold chargedGrants
  rw [List.countP_cons]
  split
  · rw [Nat.mul_succ]
    omega
  · rw [Nat.add_zero]
    omega

/-- **The account of a run**: what a scope gives out and what it has left in the end are covered by
what it had at first and what it is credited with. -/
theorem Bounded.overdraw_run (hg : g.Bounded) (hbreaker : g.terms.breakerEnabled = true)
    {ops : List Operation} (hkept : ∀ op ∈ ops, op ≠ .evict scope) :
    g.terms.budget.retryCost.toNat * chargedGrants scope (g.history ops)
        + ((g.run ops).capacity scope).toNat
      ≤ (g.capacity scope).toNat + creditsAt scope (g.history ops) := by
  induction ops generalizing g with
  | nil =>
      show g.terms.budget.retryCost.toNat * 0 + (g.capacity scope).toNat
        ≤ (g.capacity scope).toNat + 0
      omega
  | cons op rest ih =>
      -- the account of the first operation, and the account of the rest from the gate it leaves
      have hfirst := hg.overdraw_step hbreaker (hkept op List.mem_cons_self)
      have hrest := ih (hg.step op) (by rw [terms_step]; exact hbreaker)
        (fun other h => hkept other (List.mem_cons_of_mem op h))
      rw [terms_step] at hrest
      show g.terms.budget.retryCost.toNat
            * chargedGrants scope ((op, (g.step op).1) :: (g.step op).2.history rest)
          + (((g.step op).2.run rest).capacity scope).toNat
        ≤ (g.capacity scope).toNat
          + (creditAt scope (op, (g.step op).1) + creditsAt scope ((g.step op).2.history rest))
      rw [chargedGrants_cons]
      omega

/-! ## §3. Who is served while nothing is credited. -/

/-- A request that only the budget can refuse is granted if the budget covers the cost, and finds
the circuit open if not. -/
theorem step_of_contests (hbreaker : g.terms.breakerEnabled = true) {op : Operation}
    (hop : g.terms.contests scope op = true) :
    (g.terms.budget.retryCost.toNat ≤ (g.capacity scope).toNat
        ∧ (∃ token, (g.step op).1 = .granted token)
        ∧ chargedGrant scope (op, (g.step op).1) = true
        ∧ ((g.step op).2.capacity scope).toNat
          = (g.capacity scope).toNat - g.terms.budget.retryCost.toNat)
      ∨ ((g.capacity scope).toNat < g.terms.budget.retryCost.toNat
        ∧ (g.step op).1 = .refused (.circuitOpen scope)
        ∧ chargedGrant scope (op, (g.step op).1) = false
        ∧ (g.step op).2.capacity scope = g.capacity scope) := by
  cases op with
  | acquire first => cases hop
  | succeed token => cases hop
  | evict other => cases hop
  | refresh request =>
      obtain ⟨hscope, hpass, htype⟩ := GateTerms.contests_refresh.mp hop
      have hcharge := GateTerms.charge_of_ne hbreaker htype
      obtain ⟨hrule, hmade⟩ := GateTerms.passes_iff.mp hpass
      obtain ⟨answer, after, hdecides, hstep⟩ := g.exists_decides request
      rw [hstep]
      subst hscope
      have hcounted : (request.token.scope == request.token.scope
          && request.failure.errorType != .clientError) = true := by
        rw [beq_self_eq_true, Bool.true_and]
        exact bne_iff_ne.mpr htype
      cases hdecides with
      | nonRetryable hrefused =>
          rw [hrule] at hrefused
          cases hrefused
      | exhausted _ hlimit => omega
      -- with a cost of zero every contested retry is free
      | free _ hfree =>
          refine .inl ⟨by omega, ⟨_, rfl⟩, hcounted, ?_⟩
          show (g.capacity request.token.scope).toNat = _
          omega
      | charged left _ hpos hcovered hlimit hleft =>
          refine .inl ⟨by omega, ⟨_, rfl⟩, hcounted, ?_⟩
          rw [capacity_setBucket, if_pos rfl, hleft, hcharge]
      | circuitOpen _ hshort =>
          refine .inr ⟨by omega, rfl, rfl, ?_⟩
          rw [capacity_setBucket, if_pos rfl]
          rfl

/-- Any other operation, as long as it neither credits nor forgets the scope, takes nothing. -/
theorem Bounded.step_of_not_contests (hg : g.Bounded) {op : Operation}
    (hop : g.terms.contests scope op = false) (hkept : op ≠ .evict scope)
    (hfailed : ∀ token, op = .succeed token → token.scope ≠ scope) :
    chargedGrant scope (op, (g.step op).1) = false
      ∧ ((g.step op).2.capacity scope).toNat = (g.capacity scope).toNat := by
  rw [hg.capacity_step op scope]
  cases op with
  | acquire first => exact ⟨rfl, ite_self _⟩
  | evict other => exact ⟨rfl, if_neg fun h => hkept (by rw [h]; rfl)⟩
  | succeed token => exact ⟨rfl, if_neg fun h => hfailed token rfl h.symm⟩
  | refresh request =>
      rcases g.granted_or_refused request with ⟨token, hgranted⟩ | ⟨error, hrefused⟩
      · rw [hgranted]
        by_cases hscope : scope = request.token.scope
        · have htype := GateTerms.errorType_of_not_contests hop hscope.symm
            (passes_of_granted hgranted)
          constructor
          · show (_ && request.failure.errorType != .clientError) = false
            rw [htype]
            exact Bool.and_false _
          · show (if _ then _ - g.terms.charge request.failure.errorType else _) = _
            rw [htype, GateTerms.charge_clientError]
            exact ite_self _
        · refine ⟨?_, if_neg hscope⟩
          show (request.token.scope == scope && _) = false
          rw [beq_false_of_ne (fun h => hscope h.symm)]
          rfl
      · rw [hrefused]
        exact ⟨rfl, ite_self _⟩

end Gate

/-- First come, first served: with `held` units and a cost for each, the first ⌊held / cost⌋ of the
decisions are grants, all later ones find the circuit open, and `left` units remain. -/
structure FirstServed (scope : String) (cost held : Nat) (asked : List Decision)
    (granted left : Nat) : Prop where
  /-- As many as the units allow are granted, in the order of arrival. -/
  first : ∀ decision ∈ asked.take (held / cost), ∃ token, decision = .granted token
  /-- The rest find the circuit open. -/
  later : ∀ decision ∈ asked.drop (held / cost), decision = .refused (.circuitOpen scope)
  /-- So many are granted. -/
  granted_eq : granted = min asked.length (held / cost)
  /-- Every grant has taken the cost. -/
  left_eq : left = held - cost * granted

namespace FirstServed

variable {scope : String} {cost held granted left : Nat} {asked : List Decision}

theorem nil (scope : String) (cost held : Nat) : FirstServed scope cost held [] 0 held := by
  constructor
  · intro decision h
    rw [List.take_nil] at h
    cases h
  · intro decision h
    rw [List.drop_nil] at h
    cases h
  · exact (Nat.zero_min _).symm
  · rw [Nat.mul_zero, Nat.sub_zero]

/-- A covered request is granted; the others are served from what it leaves. -/
theorem cons_granted (hcost : 0 < cost) (hcovered : cost ≤ held) {decision : Decision}
    (hdecision : ∃ token, decision = .granted token)
    (h : FirstServed scope cost (held - cost) asked granted left) :
    FirstServed scope cost held (decision :: asked) (granted + 1) left := by
  -- one grant more than what the cost leaves allows
  have hfit : held / cost = (held - cost) / cost + 1 := Nat.div_eq_sub_div hcost hcovered
  obtain ⟨hfirst, hlater, hgranted, hleft⟩ := h
  constructor
  · rw [hfit, List.take_succ_cons]
    intro other hother
    rcases List.mem_cons.mp hother with hsame | htail
    · rw [hsame]
      exact hdecision
    · exact hfirst other htail
  · rw [hfit, List.drop_succ_cons]
    exact hlater
  · rw [hfit, List.length_cons]
    omega
  · rw [hleft, Nat.mul_succ]
    omega

/-- Once a request is not covered, none is. -/
theorem cons_refused (hshort : held < cost)
    (h : FirstServed scope cost held asked granted left) :
    FirstServed scope cost held (.refused (.circuitOpen scope) :: asked) granted left := by
  have hfit : held / cost = 0 := Nat.div_eq_of_lt hshort
  obtain ⟨_, hlater, hgranted, hleft⟩ := h
  rw [hfit] at hlater hgranted
  constructor
  · rw [hfit]
    intro other hother
    cases hother
  · rw [hfit]
    intro other hother
    rcases List.mem_cons.mp hother with hsame | htail
    · exact hsame
    · exact hlater other htail
  · rw [hfit, hgranted, Nat.min_zero, Nat.min_zero]
  · exact hleft

end FirstServed

namespace Gate

variable {g : Gate} {scope : String}

/-- **Who is served while nothing is credited**: of the requests that only the budget can refuse,
exactly as many as the capacity covers, the first ones to arrive. -/
theorem Bounded.firstServed_run (hg : g.Bounded) (hbreaker : g.terms.breakerEnabled = true)
    (hcost : 0 < g.terms.budget.retryCost.toNat) {ops : List Operation}
    (hkept : ∀ op ∈ ops, op ≠ .evict scope)
    (hfailed : ∀ op ∈ ops, ∀ token, op = .succeed token → token.scope ≠ scope) :
    FirstServed scope g.terms.budget.retryCost.toNat (g.capacity scope).toNat
      (g.terms.contested scope (g.history ops)) (chargedGrants scope (g.history ops))
      ((g.run ops).capacity scope).toNat := by
  induction ops generalizing g with
  | nil => exact .nil scope _ _
  | cons op rest ih =>
      have hsame : (g.step op).2.terms = g.terms := g.terms_step op
      have hnext := ih (hg.step op) (by rw [hsame]; exact hbreaker) (by rw [hsame]; exact hcost)
        (fun other h => hkept other (List.mem_cons_of_mem op h))
        (fun other h => hfailed other (List.mem_cons_of_mem op h))
      rw [hsame] at hnext
      show FirstServed scope _ _
        (((((op, (g.step op).1) :: (g.step op).2.history rest).filter
          fun entry => g.terms.contests scope entry.1).map Prod.snd))
        (((op, (g.step op).1) :: (g.step op).2.history rest).countP (chargedGrant scope)) _
      -- an uncontested operation adds nothing to the list and takes nothing from the scope
      cases hop : g.terms.contests scope op with
      | false =>
          obtain ⟨hcount, hcapacity⟩ := hg.step_of_not_contests hop
            (hkept op List.mem_cons_self) (hfailed op List.mem_cons_self)
          rw [hcapacity] at hnext
          rw [List.filter_cons_of_neg (by simp [hop]), List.countP_cons_of_neg (by simp [hcount])]
          exact hnext
      | true =>
          rw [List.filter_cons_of_pos (by simp [hop]), List.map_cons]
          rcases step_of_contests hbreaker hop with
            ⟨hcovered, hgranted, hcount, hcapacity⟩ | ⟨hshort, hrefused, hcount, hcapacity⟩
          · rw [hcapacity] at hnext
            rw [List.countP_cons_of_pos hcount]
            exact hnext.cons_granted hcost hcovered hgranted
          · rw [hcapacity] at hnext
            rw [List.countP_cons_of_neg (by simp [hcount]), hrefused]
            exact hnext.cons_refused hshort

end Gate

/-! ## §4. Calls side by side on one strategy. -/

variable {R : Type} [RateArithmetic R]

/-- **NO OVERDRAW AND NO UNDER-GRANT.**  The operations are those of any number of calls, in
whatever order they reach a fresh strategy; the scope is not forgotten meanwhile.  A run of them
never gives out more than there was at first and was credited since; and without successes in the
scope exactly the first ⌊initial capacity / cost⌋ contested requests are granted. -/
theorem no_overdraw_no_undergrant {p : Plan R} {s : Strategy R} (hbuilt : p.build = .ok s)
    (hbreaker : p.gate.breakerEnabled = true) (hcost : 0 < p.gate.budget.retryCost.toNat)
    (scope : String) (ops : List (Moment × Operation))
    (hkept : ∀ entry ∈ ops, entry.2 ≠ .evict scope) :
    p.gate.budget.retryCost.toNat * chargedGrants scope (s.history ops)
          + ((s.run ops).2.capacity scope).toNat
        ≤ p.gate.budget.initialCapacity.toNat + creditsAt scope (s.history ops)
      ∧ ((∀ entry ∈ ops, ∀ token, entry.2 = .succeed token → token.scope ≠ scope) →
        FirstServed scope p.gate.budget.retryCost.toNat p.gate.budget.initialCapacity.toNat
          (p.gate.contested scope (s.history ops)) (chargedGrants scope (s.history ops))
          ((s.run ops).2.capacity scope).toNat) := by
  have hbounded : s.gate.Bounded := Plan.bounded_of_build hbuilt
  have hterms : s.gate.terms = p.gate := Plan.terms_of_build hbuilt
  have hfull : s.gate.capacity scope = p.gate.budget.initialCapacity :=
    Plan.capacity_of_build hbuilt scope
  have hkept' : ∀ op ∈ ops.map Prod.snd, op ≠ .evict scope := by
    intro op hop
    obtain ⟨entry, hentry, hsame⟩ := List.mem_map.mp hop
    rw [← hsame]
    exact hkept entry hentry
  have hlast : (s.run ops).2.capacity scope = (s.gate.run (ops.map Prod.snd)).capacity scope := by
    rw [← Strategy.gate_run]
    rfl
  rw [hlast, Strategy.history_eq, ← hfull, ← hterms]
  rw [← hterms] at hbreaker hcost
  constructor
  · exact hbounded.overdraw_run hbreaker hkept'
  · intro hfailed
    refine hbounded.firstServed_run hbreaker hcost hkept' fun op hop token hsucceed => ?_
    obtain ⟨entry, hentry, hsame⟩ := List.mem_map.mp hop
    exact hfailed entry hentry token (hsame.trans hsucceed)

/-- Three calls side by side ask for a budget that covers two of them. -/
theorem no_overdraw_no_undergrant_scarce :
    let ops : List (Moment × Operation) :=
      [(.start, .acquire "s"), (.start, .acquire "s"), (.start, firstRetry "s"),
        (.start, .acquire "s"), (.start, firstRetry "s"), (.start, firstRetry "s")]
    scarcePlan.build = .ok scarceStrategy ∧ (∀ entry ∈ ops, entry.2 ≠ .evict "s")
      ∧ scarcePlan.gate.budget.retryCost.toNat * chargedGrants "s" (scarceStrategy.history ops)
          + ((scarceStrategy.run ops).2.capacity "s").toNat
        ≤ scarcePlan.gate.budget.initialCapacity.toNat + creditsAt "s" (scarceStrategy.history ops)
      ∧ FirstServed "s" 4 10 (scarcePlan.gate.contested "s" (scarceStrategy.history ops)) 2 2 := by
  intro ops
  have hkept : ∀ entry ∈ ops, entry.2 ≠ .evict "s" := by
    simp [ops, firstRetry]
  have hfailed : ∀ entry ∈ ops, ∀ token, entry.2 = .succeed token → token.scope ≠ "s" := by
    simp [ops, firstRetry]
  obtain ⟨haccount, hserved⟩ :=
    no_overdraw_no_undergrant (p := scarcePlan) (s := scarceStrategy) rfl rfl (by decide) "s" ops
      hkept
  exact ⟨rfl, hkept, haccount, hserved hfailed⟩

end RetryControl
