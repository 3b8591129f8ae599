/-
  RetryControl.Proofs.Admission.Decision
  ────────────────────────────────
  **STRATEGIES ANSWER WHAT THEIR GATE DECIDES.**

  Strategies of both kinds ask the same gate.  Leaving out how long a grant
  waits and what an eviction found, an answer is a decision of the gate alone:

    • `Gate.Decides` lists the five ways in which a request can go, each with
      the gate that it leaves behind,
    • `Gate.step` is the gate as a machine of its own,
    • `Gate.nonRetryable_iff`, `exhausted_iff`, `granted_iff`,
      `circuitOpen_iff` — when a request gets which answer,
    • `Strategy.decision_step`, `Strategy.gate_step` — a strategy of either
      kind takes the step of its gate, at whatever moment it is asked.

  What holds of every run of the gate therefore holds of every strategy.
-/
import RetryControl.Strategy.Plan

namespace RetryControl

/-! ## §1. Passing the checks, and what a retry is charged. -/

namespace GateTerms

/-- A failed call passes the rule and the attempt limit, so that only the budget can refuse it. -/
def passes (t : GateTerms) (token : Token) (failure : Failure) : Bool :=
  t.rule.retries failure && decide (token.attemptsMade.toNat < t.maxAttempts.toNat)

/-- What a retry after a failure takes from the budget, as a plain number: the retry cost while
the breaker is on, unless the request itself was at fault. -/
def charge (t : GateTerms) (errorType : ErrorType) : Nat :=
  if t.breakerEnabled = true ∧ errorType ≠ .clientError then t.budget.retryCost.toNat else 0

theorem passes_iff {t : GateTerms} {token : Token} {failure : Failure} :
    t.passes token failure = true ↔
      t.rule.retries failure = true ∧ token.attemptsMade.toNat < t.maxAttempts.toNat := by
  unfold passes
  rw [Bool.and_eq_true, decide_eq_true_iff]

@[simp] theorem toNat_costOf (t : GateTerms) (errorType : ErrorType) :
    (t.costOf errorType).toNat = t.charge errorType := by
  unfold costOf charge
  cases t.breakerEnabled <;> cases errorType <;> rfl

end GateTerms

/-! ## §2. The ways in which a request can go. -/

namespace Gate

/-- How a gate can decide on a failed call, and the gate after the decision. -/
inductive Decides (g : Gate) (token : Token) (failure : Failure) :
    Except RetryError Token → Gate → Prop where
  /-- The rule refuses the failure. -/
  | nonRetryable (hrule : g.terms.rule.retries failure = false) :
      Decides g token failure (.error (.nonRetryable token.scope failure.errorType)) g
  /-- The call has made all its attempts. -/
  | exhausted (hrule : g.terms.rule.retries failure = true)
      (hlimit : g.terms.maxAttempts.toNat ≤ token.attemptsMade.toNat) :
      Decides g token failure
        (.error (.exhausted token.scope token.attemptsMade g.terms.maxAttempts)) g
  /-- A retry that is not charged needs no bucket. -/
  | free (hpass : g.terms.passes token failure = true)
      (hcharge : g.terms.charge failure.errorType = 0) :
      Decides g token failure (.ok (token.nextAttempt (g.terms.costOf failure.errorType))) g
  /-- The bucket covers the charge and loses exactly that. -/
  | charged (left : Bucket) (hpass : g.terms.passes token failure = true)
      (hcharge : 0 < g.terms.charge failure.errorType)
      (hcovered : g.terms.charge failure.errorType ≤ (g.capacity token.scope).toNat)
      (hlimit : left.limit = (g.bucket token.scope).limit)
      (hleft : left.available.toNat
        = (g.capacity token.scope).toNat - g.terms.charge failure.errorType) :
      Decides g token failure (.ok (token.nextAttempt (g.terms.costOf failure.errorType)))
        (g.setBucket token.scope left)
  /-- The bucket does not cover the charge; the scope keeps a bucket with what it had. -/
  | circuitOpen (hpass : g.terms.passes token failure = true)
      (hshort : (g.capacity token.scope).toNat < g.terms.charge failure.errorType) :
      Decides g token failure (.error (.circuitOpen token.scope))
        (g.setBucket token.scope (g.bucket token.scope))

/-- **Every request goes one of the five ways.** -/
theorem decides_decideRetry (g : Gate) (token : Token) (failure : Failure) :
    g.Decides token failure (g.decideRetry token failure).1 (g.decideRetry token failure).2 := by
  unfold decideRetry
  cases hrule : g.terms.rule.retries failure with
  | false => exact .nonRetryable hrule
  | true =>
      by_cases hmade : g.terms.maxAttempts ≤ token.attemptsMade
      · rw [if_neg (by simp), if_pos hmade]
        exact .exhausted hrule (UInt32.le_iff_toNat_le.mp hmade)
      · rw [if_neg (by simp), if_neg hmade]
        have hpass : g.terms.passes token failure = true := by
          rw [GateTerms.passes_iff]
          rw [UInt32.le_iff_toNat_le] at hmade
          exact ⟨hrule, by omega⟩
        by_cases hzero : g.terms.costOf failure.errorType = 0
        · rw [if_pos hzero]
          refine .free hpass ?_
          rw [← GateTerms.toNat_costOf, hzero]
          rfl
        · rw [if_neg hzero]
          have hcharge : 0 < g.terms.charge failure.errorType := by
            rw [← GateTerms.toNat_costOf]
            exact Nat.pos_of_ne_zero fun h => hzero (UInt32.toNat_inj.mp h)
          dsimp only
          cases hleft : (g.bucket token.scope).withdraw? (g.terms.costOf failure.errorType) with
          | some left =>
              obtain ⟨hcovered, hlimit, havailable⟩ := Bucket.withdraw?_eq_some_iff.mp hleft
              rw [GateTerms.toNat_costOf] at hcovered havailable
              exact .charged left hpass hcharge hcovered hlimit havailable
          | none =>
              refine .circuitOpen hpass (Nat.lt_of_not_le fun hcovered => ?_)
              -- a covered cost can always be taken
              rw [← GateTerms.toNat_costOf] at hcovered
              have htaken : (g.bucket token.scope).withdraw? (g.terms.costOf failure.errorType)
                  = some ⟨(g.bucket token.scope).limit,
                    (g.bucket token.scope).available.subSat
                      (g.terms.costOf failure.errorType)⟩ :=
                Bucket.withdraw?_eq_some_iff.mpr ⟨hcovered, rfl, Count.toNat_subSat _ _⟩
              rw [hleft] at htaken
              cases htaken

end Gate

/-! ## §3. The gate as a machine. -/

/-- What an answer decides: how long a grant waits and what an eviction found are left out. -/
inductive Decision where
  /-- An attempt is granted, with this token. -/
  | granted (token : Token)
  /-- No further attempt is granted. -/
  | refused (error : RetryError)
  /-- The success was credited with an amount. -/
  | credited (amount : Count)
  /-- The scope is forgotten. -/
  | evicted
  deriving DecidableEq

/-- The decision on a request for another attempt. -/
def Decision.ofExcept : Except RetryError Token → Decision
  | .ok token => .granted token
  | .error error => .refused error

theorem Decision.ofExcept_eq_granted_iff {decision : Except RetryError Token} {token : Token} :
    Decision.ofExcept decision = .granted token ↔ decision = .ok token := by
  cases decision <;> simp [ofExcept]

/-- The decision in an answer. -/
def Answer.decision : Answer → Decision
  | .granted grant => .granted grant.token
  | .refused error => .refused error
  | .credited amount => .credited amount
  | .evicted _ => .evicted

namespace Gate

/-- One operation on the gate alone. -/
def step (g : Gate) : Operation → Decision × Gate
  | .acquire scope => (.granted (.initial scope), g)
  | .refresh request =>
    let (decision, after) := g.decideRetry request.token request.failure
    (.ofExcept decision, after)
  | .succeed token => (.credited (g.succeed token).1, (g.succeed token).2)
  | .evict scope => (.evicted, (g.evict scope).2)

/-- A request in one of its five ways, as a step of the gate. -/
theorem exists_decides (g : Gate) (request : RetryRequest) :
    ∃ answer after, g.Decides request.token request.failure answer after
      ∧ g.step (.refresh request) = (.ofExcept answer, after) :=
  ⟨_, _, g.decides_decideRetry request.token request.failure, rfl⟩

/-- A request is granted or refused. -/
theorem granted_or_refused (g : Gate) (request : RetryRequest) :
    (∃ token, (g.step (.refresh request)).1 = .granted token)
      ∨ ∃ error, (g.step (.refresh request)).1 = .refused error := by
  obtain ⟨answer, after, _, hstep⟩ := g.exists_decides request
  rw [hstep]
  cases answer with
  | ok token => exact .inl ⟨token, rfl⟩
  | error error => exact .inr ⟨error, rfl⟩

/-- A granted request passed the rule and the attempt limit. -/
theorem passes_of_granted {g : Gate} {request : RetryRequest} {token : Token}
    (h : (g.step (.refresh request)).1 = .granted token) :
    g.terms.passes request.token request.failure = true := by
  obtain ⟨answer, after, hdecides, hstep⟩ := g.exists_decides request
  rw [hstep] at h
  cases hdecides with
  | nonRetryable hrule => cases h
  | exhausted hrule hlimit => cases h
  | free hpass hcharge => exact hpass
  | charged left hpass hcharge hcovered hlimit hleft => exact hpass
  | circuitOpen hpass hshort => cases h

/-- The token of a granted retry is the one that was handed in, one attempt and one cost later. -/
theorem token_of_granted {g : Gate} {request : RetryRequest} {token : Token}
    (h : (g.step (.refresh request)).1 = .granted token) :
    token = request.token.nextAttempt (g.terms.costOf request.failure.errorType) := by
  obtain ⟨answer, after, hdecides, hstep⟩ := g.exists_decides request
  rw [hstep] at h
  cases hdecides with
  | nonRetryable hrule => cases h
  | exhausted hrule hlimit => cases h
  | free hpass hcharge =>
      cases h
      rfl
  | charged left hpass hcharge hcovered hlimit hleft =>
      cases h
      rfl
  | circuitOpen hpass hshort => cases h

@[simp] theorem terms_step (g : Gate) (op : Operation) : (g.step op).2.terms = g.terms := by
  cases op with
  | acquire scope => rfl
  | refresh request => exact terms_decideRetry g request.token request.failure
  | succeed token => exact terms_succeed g token
  | evict scope => rfl

/-- The gate after a list of operations. -/
def run (g : Gate) : List Operation → Gate
  | [] => g
  | op :: rest => (g.step op).2.run rest

/-- The operations of a list with what the gate decides on each. -/
def history (g : Gate) : List Operation → List (Operation × Decision)
  | [] => []
  | op :: rest => (op, (g.step op).1) :: (g.step op).2.history rest

@[simp] theorem terms_run (g : Gate) (ops : List Operation) : (g.run ops).terms = g.terms := by
  induction ops generalizing g with
  | nil => rfl
  | cons op rest ih =>
      show ((g.step op).2.run rest).terms = g.terms
      rw [ih, terms_step]

/-! ## §4. Requests by their answers. -/

section Requests

variable {g : Gate} {request : RetryRequest}

/-- The rule alone decides on what is given up at once. -/
theorem nonRetryable_iff :
    (g.step (.refresh request)).1
        = .refused (.nonRetryable request.token.scope request.failure.errorType)
      ↔ g.terms.rule.retries request.failure = false := by
  obtain ⟨answer, after, hdecides, hstep⟩ := g.exists_decides request
  rw [hstep]
  cases hdecides with
  | nonRetryable hrule => exact iff_of_true rfl hrule
  | exhausted hrule hlimit =>
      rw [hrule]
      exact iff_of_false nofun nofun
  | free hpass hcharge | charged left hpass hcharge hcovered hlimit hleft
  | circuitOpen hpass hshort =>
      rw [(GateTerms.passes_iff.mp hpass).1]
      exact iff_of_false nofun nofun

/-- A listed failure has used its call up exactly at the limit. -/
theorem exhausted_iff :
    (g.step (.refresh request)).1
        = .refused
          (.exhausted request.token.scope request.token.attemptsMade g.terms.maxAttempts)
      ↔ g.terms.rule.retries request.failure = true
        ∧ g.terms.maxAttempts.toNat ≤ request.token.attemptsMade.toNat := by
  obtain ⟨answer, after, hdecides, hstep⟩ := g.exists_decides request
  rw [hstep]
  cases hdecides with
  | nonRetryable hrule =>
      rw [hrule]
      exact iff_of_false nofun nofun
  | exhausted hrule hlimit => exact iff_of_true rfl ⟨hrule, hlimit⟩
  | free hpass hcharge | charged left hpass hcharge hcovered hlimit hleft
  | circuitOpen hpass hshort =>
      have hbelow := (GateTerms.passes_iff.mp hpass).2
      exact iff_of_false nofun fun h => Nat.not_le_of_lt hbelow h.2

/-- What passes the rule and the limit is granted exactly if its charge is covered. -/
theorem granted_iff :
    (∃ token, (g.step (.refresh request)).1 = .granted token)
      ↔ g.terms.rule.retries request.failure = true
        ∧ request.token.attemptsMade.toNat < g.terms.maxAttempts.toNat
        ∧ g.terms.charge request.failure.errorType ≤ (g.capacity request.token.scope).toNat := by
  obtain ⟨answer, after, hdecides, hstep⟩ := g.exists_decides request
  rw [hstep]
  cases hdecides with
  | nonRetryable hrule =>
      rw [hrule]
      exact iff_of_false nofun nofun
  | exhausted hrule hlimit =>
      exact iff_of_false nofun fun h => Nat.not_lt_of_le hlimit h.2.1
  | free hpass hcharge =>
      obtain ⟨hrule, hbelow⟩ := GateTerms.passes_iff.mp hpass
      exact iff_of_true ⟨_, rfl⟩ ⟨hrule, hbelow, by omega⟩
  | charged left hpass hcharge hcovered hlimit hleft =>
      obtain ⟨hrule, hbelow⟩ := GateTerms.passes_iff.mp hpass
      exact iff_of_true ⟨_, rfl⟩ ⟨hrule, hbelow, hcovered⟩
  | circuitOpen hpass hshort =>
      exact iff_of_false nofun fun h => Nat.not_le_of_lt hshort h.2.2

/-- What passes the rule and the limit finds the circuit open exactly if its charge is not
covered. -/
theorem circuitOpen_iff {scope : String} :
    (g.step (.refresh request)).1 = .refused (.circuitOpen scope)
      ↔ request.token.scope = scope ∧ g.terms.passes request.token request.failure = true
        ∧ (g.capacity scope).toNat < g.terms.charge request.failure.errorType := by
  obtain ⟨answer, after, hdecides, hstep⟩ := g.exists_decides request
  rw [hstep]
  cases hdecides with
  | nonRetryable hrule =>
      exact iff_of_false nofun fun h => by
        rw [(GateTerms.passes_iff.mp h.2.1).1] at hrule
        cases hrule
  | exhausted hrule hlimit =>
      exact iff_of_false nofun fun h =>
        Nat.not_lt_of_le hlimit (GateTerms.passes_iff.mp h.2.1).2
  | free hpass hcharge =>
      exact iff_of_false nofun fun h => by omega
  | charged left hpass hcharge hcovered hlimit hleft =>
      refine iff_of_false nofun ?_
      rintro ⟨rfl, _, hshort⟩
      omega
  | circuitOpen hpass hshort =>
      constructor
      · intro h
        cases h
        exact ⟨rfl, hpass, hshort⟩
      · rintro ⟨rfl, _, _⟩
        rfl

end Requests

end Gate

/-! ## §5. Strategies take the steps of their gate. -/

/-- What a request meets with besides itself: its moment, and the wait that the failure suggests. -/
structure Occasion where
  /-- The moment of the request. -/
  moment : Moment
  /-- The shortest wait that the failure asks for. -/
  suggestedDelay : Option Duration := none

/-- Every attempt that is asked for has a number. -/
theorem StandardStrategy.one_le_nextAttempt (request : RetryRequest) :
    1 ≤ (nextAttempt request).toNat := by
  show 1 ≤ (request.token.attemptsMade.addSat 1).toNat
  rw [Count.toNat_addSat]
  show 1 ≤ min (request.token.attemptsMade.toNat + 1) Count.maxNat
  unfold Count.maxNat
  omega

/-- The wait of a standard strategy is always defined. -/
theorem StandardStrategy.exists_wait (s : StandardStrategy) (request : RetryRequest)
    (draws : Draws) : ∃ wait, s.backoff.wait (nextAttempt request) draws = .ok wait := by
  have hpos : ¬nextAttempt request < 1 := by
    rw [UInt32.lt_iff_toNat_lt]
    exact Nat.not_lt_of_le (one_le_nextAttempt request)
  unfold Backoff.wait
  rw [if_neg hpos]
  split
  · exact ⟨_, rfl⟩
  · split
    · exact ⟨_, rfl⟩
    · exact ⟨_, rfl⟩

/-- The answer to a request: what the gate decides, and the wait that the backoff says. -/
theorem StandardStrategy.answer_refresh (s : StandardStrategy) (request : RetryRequest)
    {draws : Draws} {wait : Backoff.Wait}
    (hwait : s.backoff.wait (nextAttempt request) draws = .ok wait) :
    (s.refresh request draws).1
      = (s.gate.decideRetry request.token request.failure).1.map fun token =>
          ⟨request.lengthen wait.delay, token⟩ := by
  unfold refresh
  rw [hwait]
  dsimp only
  rcases s.gate.decideRetry request.token request.failure with ⟨decision, after⟩
  cases decision <;> rfl

/-- A grant that a decision is turned into has the delay that it is turned into it with. -/
theorem RetryRequest.delay_of_map {request : RetryRequest} {wait : Duration}
    {decision : Except RetryError Token} {grant : Grant}
    (hgranted : (decision.map fun token => (⟨request.lengthen wait, token⟩ : Grant)) = .ok grant) :
    grant.delay = request.lengthen wait := by
  cases decision with
  | ok token => exact congrArg Grant.delay (Except.ok.inj hgranted).symm
  | error error => cases hgranted

namespace Strategy

variable {R : Type} [RateArithmetic R]

/-- A request is decided by the gate, whatever the wait, the time and the random words are. -/
theorem refresh_eq (s : Strategy R) (m : Moment) (request : RetryRequest) :
    (Answer.ofExcept (s.refresh m request).1).decision = (s.gate.step (.refresh request)).1
      ∧ (s.refresh m request).2.gate = (s.gate.step (.refresh request)).2 := by
  cases s with
  | standard s =>
      obtain ⟨wait, hwait⟩ := s.exists_wait request m.draws
      unfold refresh StandardStrategy.refresh Gate.step gate
      simp only [hwait]
      split <;> rename_i hdecision <;> rw [hdecision] <;> exact ⟨rfl, rfl⟩
  | adaptive s =>
      unfold refresh AdaptiveStrategy.refresh Gate.step gate
      dsimp only
      split <;> rename_i hdecision <;> rw [hdecision] <;> exact ⟨rfl, rfl⟩

/-- **The decision in every answer is the gate's.** -/
theorem decision_step (s : Strategy R) (m : Moment) (op : Operation) :
    (s.step m op).1.decision = (s.gate.step op).1 := by
  cases op with
  | acquire scope => cases s <;> rfl
  | refresh request => exact (refresh_eq s m request).1
  | succeed token => cases s <;> rfl
  | evict scope => cases s <;> rfl

/-- **Every operation moves the gate as the gate itself would move.** -/
theorem gate_step (s : Strategy R) (m : Moment) (op : Operation) :
    (s.step m op).2.gate = (s.gate.step op).2 := by
  cases op with
  | acquire scope => cases s <;> rfl
  | refresh request => exact (refresh_eq s m request).2
  | succeed token => cases s <;> rfl
  | evict scope => cases s <;> rfl

/-- A call starts at once, with a token of its scope. -/
theorem answer_acquire (s : Strategy R) (m : Moment) (scope : String) :
    (s.step m (.acquire scope)).1 = .granted ⟨.zero, .initial scope⟩ := by
  cases s <;> rfl

/-- A success is credited as the gate credits it. -/
theorem answer_succeed (s : Strategy R) (m : Moment) (token : Token) :
    (s.step m (.succeed token)).1 = .credited (s.gate.succeed token).1 := by
  cases s <;> rfl

/-- The operations of a run with what was decided on each. -/
def history (s : Strategy R) (ops : List (Moment × Operation)) : List (Operation × Decision) :=
  (ops.map Prod.snd).zip ((s.run ops).1.map Answer.decision)

theorem gate_run (s : Strategy R) (ops : List (Moment × Operation)) :
    (s.run ops).2.gate = s.gate.run (ops.map Prod.snd) := by
  induction ops generalizing s with
  | nil => rfl
  | cons entry rest ih =>
      show ((s.step entry.1 entry.2).2.run rest).2.gate = _
      rw [ih, gate_step]
      rfl

theorem history_eq (s : Strategy R) (ops : List (Moment × Operation)) :
    s.history ops = s.gate.history (ops.map Prod.snd) := by
  induction ops generalizing s with
  | nil => rfl
  | cons entry rest ih =>
      show (entry.2, (s.step entry.1 entry.2).1.decision)
        :: (s.step entry.1 entry.2).2.history rest = _
      rw [ih, decision_step, gate_step]
      rfl

theorem terms_step (s : Strategy R) (m : Moment) (op : Operation) :
    (s.step m op).2.gate.terms = s.gate.terms := by
  rw [gate_step, Gate.terms_step]

theorem terms_run (s : Strategy R) (ops : List (Moment × Operation)) :
    (s.run ops).2.gate.terms = s.gate.terms := by
  rw [gate_run, Gate.terms_run]

/-- The gate has decided on every grant. -/
theorem decision_of_granted {s : Strategy R} {m : Moment} {op : Operation} {grant : Grant}
    (hgranted : (s.step m op).1 = .granted grant) :
    (s.gate.step op).1 = .granted grant.token := by
  rw [← decision_step s m, hgranted]
  rfl

/-- An answer refuses what the gate refuses, for the same reason. -/
theorem refused_iff {s : Strategy R} {m : Moment} {op : Operation} {error : RetryError} :
    (s.step m op).1 = .refused error ↔ (s.gate.step op).1 = .refused error := by
  rw [← decision_step s m]
  cases (s.step m op).1 with
  | granted grant => exact ⟨Answer.noConfusion, Decision.noConfusion⟩
  | credited amount => exact ⟨Answer.noConfusion, Decision.noConfusion⟩
  | evicted existed => exact ⟨Answer.noConfusion, Decision.noConfusion⟩
  | refused other =>
      show Answer.refused other = _ ↔ Decision.refused other = _
      rw [Answer.refused.injEq, Decision.refused.injEq]

/-- An answer grants what the gate grants. -/
theorem granted_iff {s : Strategy R} {m : Moment} {op : Operation} :
    (∃ grant, (s.step m op).1 = .granted grant)
      ↔ ∃ token, (s.gate.step op).1 = .granted token := by
  rw [← decision_step s m]
  cases (s.step m op).1 with
  | granted grant => exact iff_of_true ⟨_, rfl⟩ ⟨_, rfl⟩
  | refused error | credited amount | evicted existed => exact iff_of_false nofun nofun

end Strategy

/-! ## §6. Strategies with nothing used yet. -/

/-- The terms of admission in a plan. -/
def Plan.gate {R : Type} : Plan R → GateTerms
  | .standard plan => plan.gate
  | .adaptive plan => plan.gate

variable {R : Type} [RateArithmetic R]

theorem StandardPlan.build_eq_ok_iff {p : StandardPlan} {s : StandardStrategy} :
    p.build = .ok s ↔
      p.backoff.validate = .ok () ∧ p.gate.validate = .ok ()
        ∧ s = { gate := { terms := p.gate }, backoff := p.backoff } := by
  unfold build
  cases p.backoff.validate <;> cases p.gate.validate <;>
    simp [bind, Except.bind, pure, Except.pure, eq_comm]

theorem AdaptivePlan.build_eq_ok_iff {p : AdaptivePlan R} {s : AdaptiveStrategy R} :
    p.build = .ok s ↔
      p.rates.validate = .ok () ∧ p.gate.validate = .ok ()
        ∧ s = { gate := { terms := p.gate }, rates := p.rates } := by
  unfold build
  cases p.rates.validate <;> cases p.gate.validate <;>
    simp [bind, Except.bind, pure, Except.pure, eq_comm]

/-- A strategy is of the kind of the plan that it was built from. -/
theorem Plan.kind_of_build {p : Plan R} {s : Strategy R} (hbuilt : p.build = .ok s) :
    (∃ plan built, p = .standard plan ∧ s = .standard built ∧ plan.build = .ok built)
      ∨ ∃ plan built, p = .adaptive plan ∧ s = .adaptive built ∧ plan.build = .ok built := by
  cases p with
  | standard plan =>
      cases hplan : plan.build with
      | error error => simp [build, hplan, Except.map] at hbuilt
      | ok built =>
          simp only [build, hplan, Except.map, Except.ok.injEq] at hbuilt
          exact .inl ⟨plan, built, rfl, hbuilt.symm, hplan⟩
  | adaptive plan =>
      cases hplan : plan.build with
      | error error => simp [build, hplan, Except.map] at hbuilt
      | ok built =>
          simp only [build, hplan, Except.map, Except.ok.injEq] at hbuilt
          exact .inr ⟨plan, built, rfl, hbuilt.symm, hplan⟩

/-- A strategy is built with the gate of its plan, in which no scope has a bucket. -/
theorem Plan.gate_of_build {p : Plan R} {s : Strategy R} (h : p.build = .ok s) :
    s.gate = { terms := p.gate } := by
  rcases p.kind_of_build h with ⟨plan, built, rfl, rfl, hplan⟩ | ⟨plan, built, rfl, rfl, hplan⟩
  · rw [(StandardPlan.build_eq_ok_iff.mp hplan).2.2]
    rfl
  · rw [(AdaptivePlan.build_eq_ok_iff.mp hplan).2.2]
    rfl

/-- Terms of admission that are valid let a call make its first attempt. -/
theorem GateTerms.maxAttempts_pos_of_valid {t : GateTerms} (hvalid : t.validate = .ok ()) :
    0 < t.maxAttempts.toNat := by
  unfold validate at hvalid
  split at hvalid
  · cases hvalid
  · rename_i hpositive
    exact Nat.pos_of_ne_zero fun h => hpositive (UInt32.toNat_inj.mp h)

/-- So does a strategy that could be built. -/
theorem Plan.maxAttempts_pos {p : Plan R} {s : Strategy R} (hbuilt : p.build = .ok s) :
    0 < s.gate.terms.maxAttempts.toNat := by
  rw [p.gate_of_build hbuilt]
  apply GateTerms.maxAttempts_pos_of_valid
  rcases p.kind_of_build hbuilt with
    ⟨plan, built, rfl, rfl, hplan⟩ | ⟨plan, built, rfl, rfl, hplan⟩
  · exact (StandardPlan.build_eq_ok_iff.mp hplan).2.1
  · exact (AdaptivePlan.build_eq_ok_iff.mp hplan).2.1

end RetryControl
