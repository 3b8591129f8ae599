/-
  RetryControl.Proofs.Admission.Numbering
  ────────────────────────────────
  **ATTEMPT NUMBERS OF A CALL.**

  Three places advance the number of an attempt: a standard strategy, before
  it works out the wait; the gate, when it tells of the retry; and the token.
  All of them name the same attempt, in every state and up to the largest
  attempt limit:

    • `Numbered` — what the token of a call says after so many retries,
    • `CallToken` — the tokens of one call, whatever else the strategy is
      asked meanwhile and with whatever tokens,
    • `CallToken.numbered` — every token of a call is numbered right,
    • `numbersRetries` — what holds of a request with any token at all,
    • `attempt_numbering` — both, for built strategies of both kinds.
-/
import RetryControl.Log.Record
import RetryControl.Proofs.Admission.Decision

namespace RetryControl

/-! ## §1. What a token says. -/

namespace GateTerms

/-- A retry after the failure is charged for. -/
def charged (t : GateTerms) (failure : Failure) : Bool :=
  t.breakerEnabled && failure.errorType != .clientError

/-- How many of the retries after these failures are charged for. -/
def chargedCount (t : GateTerms) (failures : List Failure) : Nat := failures.countP t.charged

theorem charge_eq (t : GateTerms) (failure : Failure) :
    t.charge failure.errorType = if t.charged failure then t.budget.retryCost.toNat else 0 := by
  unfold charge charged
  cases t.breakerEnabled <;> cases failure.errorType <;> rfl

theorem chargedCount_concat (t : GateTerms) (failures : List Failure) (failure : Failure) :
    t.budget.retryCost.toNat * t.chargedCount (failures ++ [failure])
      = t.budget.retryCost.toNat * t.chargedCount failures + t.charge failure.errorType := by
  unfold chargedCount
  rw [List.countP_append, List.countP_singleton, Nat.mul_add, charge_eq]
  split
  · rw [Nat.mul_one]
  · rfl

end GateTerms

/-- What the token of a call in the scope says after it was granted a retry for each of the
failures. -/
structure Numbered (t : GateTerms) (scope : String) (failures : List Failure) (token : Token) :
    Prop where
  /-- It is a token of the scope. -/
  scope_eq : token.scope = scope
  /-- One attempt more than there were retries. -/
  attemptsMade_eq : token.attemptsMade.toNat = failures.length + 1
  /-- As many retries as were granted. -/
  retriesAttempted_eq : token.retriesAttempted.toNat = failures.length
  /-- The cost of the retries that were charged for, up to the largest counter. -/
  budgetDebited_eq : token.budgetDebited.toNat
    = min Count.maxNat (t.budget.retryCost.toNat * t.chargedCount failures)
  /-- The attempts are within the limit. -/
  within : failures.length + 1 ≤ t.maxAttempts.toNat

namespace Numbered

variable {t : GateTerms} {scope : String} {failures : List Failure} {token : Token}

theorem initial (hlimit : 0 < t.maxAttempts.toNat) : Numbered t scope [] (.initial scope) := by
  constructor
  case scope_eq => rfl
  case attemptsMade_eq => rfl
  case retriesAttempted_eq => rfl
  case budgetDebited_eq => exact (Nat.min_zero _).symm
  case within => exact hlimit

/-- **One more retry, one attempt more**: no counter comes to its end below the attempt limit. -/
theorem nextAttempt (h : Numbered t scope failures token) {failure : Failure}
    (hbelow : token.attemptsMade.toNat < t.maxAttempts.toNat) :
    Numbered t scope (failures ++ [failure])
      (token.nextAttempt (t.costOf failure.errorType)) := by
  have hlimit := Count.toNat_le_maxNat t.maxAttempts
  have hmade := h.attemptsMade_eq
  have hnext : (token.nextAttempt (t.costOf failure.errorType)).attemptsMade.toNat
      = failures.length + 2 := by
    rw [Token.toNat_attemptsMade_nextAttempt]
    omega
  have hlength : (failures ++ [failure]).length = failures.length + 1 := List.length_append
  constructor
  case scope_eq => exact h.scope_eq
  case attemptsMade_eq => rw [hnext, hlength]
  case retriesAttempted_eq =>
    show (Count.subSat _ 1).toNat = _
    rw [Count.toNat_subSat, hnext, hlength]
    rfl
  case budgetDebited_eq =>
    rw [Token.toNat_budgetDebited_nextAttempt, GateTerms.toNat_costOf, h.budgetDebited_eq,
      GateTerms.chargedCount_concat]
    omega
  case within =>
    rw [hlength]
    omega

end Numbered

/-! ## §2. The tokens of one call. -/

variable {R : Type} [RateArithmetic R]

/-- The token that a call in the scope holds after it was granted a retry for each of the failures,
and the strategy by then. The call may start after any operations, and any operations may come in
between, with whatever tokens. -/
inductive CallToken (first : Strategy R) (scope : String) :
    Strategy R → List Failure → Token → Prop where
  /-- The call starts. -/
  | acquired (ops : List (Moment × Operation)) (m : Moment) {grant : Grant}
      (hgranted : ((first.run ops).2.step m (.acquire scope)).1 = .granted grant) :
      CallToken first scope ((first.run ops).2.step m (.acquire scope)).2 [] grant.token
  /-- The strategy is asked something else. -/
  | between {s : Strategy R} {failures : List Failure} {token : Token} (m : Moment)
      (op : Operation) (hcall : CallToken first scope s failures token) :
      CallToken first scope (s.step m op).2 failures token
  /-- The call is granted another attempt after a failure. -/
  | retried {s : Strategy R} {failures : List Failure} (m : Moment) {request : RetryRequest}
      {grant : Grant} (hcall : CallToken first scope s failures request.token)
      (hgranted : (s.step m (.refresh request)).1 = .granted grant) :
      CallToken first scope (s.step m (.refresh request)).2 (failures ++ [request.failure])
        grant.token

namespace CallToken

variable {first s : Strategy R} {scope : String} {failures : List Failure} {token : Token}

theorem terms_eq (hcall : CallToken first scope s failures token) :
    s.gate.terms = first.gate.terms := by
  induction hcall with
  | acquired ops m hgranted => rw [Strategy.terms_step, Strategy.terms_run]
  | between m op hcall ih => rw [Strategy.terms_step, ih]
  | retried m hcall hgranted ih => rw [Strategy.terms_step, ih]

/-- **Every token of a call is numbered right**, from the first one on. -/
theorem numbered (hlimit : 0 < first.gate.terms.maxAttempts.toNat)
    (hcall : CallToken first scope s failures token) :
    Numbered first.gate.terms scope failures token := by
  induction hcall with
  | acquired ops m hgranted =>
      have hdecision := Strategy.decision_of_granted hgranted
      have htoken : Token.initial scope = _ := Decision.granted.inj hdecision
      rw [← htoken]
      exact .initial hlimit
  | between m op hcall ih => exact ih
  | retried m hcall hgranted ih =>
      have hdecision := Strategy.decision_of_granted hgranted
      have hpass := Gate.passes_of_granted hdecision
      rw [Gate.token_of_granted hdecision]
      rw [hcall.terms_eq] at hpass ⊢
      exact ih.nextAttempt (GateTerms.passes_iff.mp hpass).2

end CallToken

/-! ## §3. Requests with any token. -/

namespace Gate

variable {g : Gate} {request : RetryRequest}

/-- At the attempt limit only the rule has a say: a failure that it lets through finds the attempts
used up. -/
theorem step_of_maxAttempts_le (hmade : g.terms.maxAttempts ≤ request.token.attemptsMade) :
    (g.step (.refresh request)).1
      = .refused (if g.terms.rule.retries request.failure then
            .exhausted request.token.scope request.token.attemptsMade g.terms.maxAttempts
          else .nonRetryable request.token.scope request.failure.errorType) := by
  rw [UInt32.le_iff_toNat_le] at hmade
  obtain ⟨answer, after, hdecides, hstep⟩ := g.exists_decides request
  rw [hstep]
  cases hdecides with
  | nonRetryable hrule =>
      rw [hrule]
      rfl
  | exhausted hrule hlimit =>
      rw [hrule]
      rfl
  -- the other three passed the attempt limit
  | free hpass hcharge =>
      have hbelow := (GateTerms.passes_iff.mp hpass).2
      omega
  | charged left hpass hcharge hcovered hlimit hleft =>
      have hbelow := (GateTerms.passes_iff.mp hpass).2
      omega
  | circuitOpen hpass hshort =>
      have hbelow := (GateTerms.passes_iff.mp hpass).2
      omega

/-- The number of a granted attempt does not leave the counters. -/
theorem attemptsMade_of_granted {token : Token}
    (hgranted : (g.step (.refresh request)).1 = .granted token) :
    request.token.attemptsMade.toNat + 1 ≤ Count.maxNat
      ∧ token.attemptsMade = request.token.attemptsMade + 1 := by
  have hbelow := (GateTerms.passes_iff.mp (passes_of_granted hgranted)).2
  have hlimit := Count.toNat_le_maxNat g.terms.maxAttempts
  refine ⟨by omega, UInt32.toNat_inj.mp ?_⟩
  rw [token_of_granted hgranted, Token.toNat_attemptsMade_nextAttempt, UInt32.toNat_add]
  show min (request.token.attemptsMade.toNat + 1) Count.maxNat
    = (request.token.attemptsMade.toNat + 1) % 4294967296
  unfold Count.maxNat at hlimit ⊢
  omega

omit [RateArithmetic R] in
/-- The gate tells of every retry that it grants. -/
theorem admitted_mem_decisionEvents {token : Token}
    (hgranted : (g.step (.refresh request)).1 = .granted token) :
    (.admitted request.token.scope request.failure.errorType token.attemptsMade
        (g.terms.costOf request.failure.errorType) : Event R)
      ∈ g.decisionEvents request.token request.failure := by
  have hok : (g.decideRetry request.token request.failure).1 = .ok token :=
    Decision.ofExcept_eq_granted_iff.mp hgranted
  unfold decisionEvents
  rw [hok]
  exact List.mem_append_right _ List.mem_cons_self

end Gate

namespace Strategy

/-- The log of a request holds what its gate tells. -/
theorem decisionEvents_subset (s : Strategy R) (m : Moment) (request : RetryRequest) {e : Event R}
    (he : e ∈ s.gate.decisionEvents request.token request.failure) :
    e ∈ s.events m (.refresh request) := by
  cases s with
  | standard s =>
      obtain ⟨wait, hwait⟩ := s.exists_wait request m.draws
      show e ∈ s.refreshEvents request m.draws
      unfold StandardStrategy.refreshEvents
      rw [hwait]
      exact List.mem_append_left _ he
  | adaptive s =>
      show e ∈ s.refreshEvents request m.now
      exact List.mem_append_left _ (List.mem_append_right _ he)

/-- How a strategy numbers the retries that it is asked for, whichever token it is asked with. -/
structure NumbersRetries (s : Strategy R) : Prop where
  /-- A call that has made all its attempts is not granted another one, and it is told so, with
  both numbers, exactly if the rule accepts the failure. -/
  exhausted : ∀ m request, s.maxAttempts ≤ request.token.attemptsMade →
    (∀ grant, (s.step m (.refresh request)).1 ≠ .granted grant)
      ∧ ((s.step m (.refresh request)).1
            = .refused (.exhausted request.token.scope request.token.attemptsMade s.maxAttempts)
          ↔ s.gate.terms.rule.retries request.failure = true)
  /-- The number after the token's is a counter still, and it is the number that the log tells and
  the token that is given out says. -/
  granted : ∀ m request grant, (s.step m (.refresh request)).1 = .granted grant →
    request.token.attemptsMade.toNat + 1 ≤ Count.maxNat
      ∧ grant.token.attemptsMade = request.token.attemptsMade + 1
      ∧ (.admitted request.token.scope request.failure.errorType (request.token.attemptsMade + 1)
          (s.gate.terms.costOf request.failure.errorType) : Event R)
        ∈ s.events m (.refresh request)
  /-- A standard strategy works out the wait for that very number. -/
  waited : ∀ standard, s = .standard standard → ∀ m request grant,
    (s.step m (.refresh request)).1 = .granted grant →
      StandardStrategy.nextAttempt request = grant.token.attemptsMade
        ∧ ∃ wait, standard.backoff.wait grant.token.attemptsMade m.draws = .ok wait
          ∧ grant.delay = request.lengthen wait.delay

/-- The number that a standard strategy goes by is the one of the token that it gives out. -/
theorem nextAttempt_of_granted {s : Strategy R} {m : Moment} {request : RetryRequest}
    {grant : Grant} (hgranted : (s.step m (.refresh request)).1 = .granted grant) :
    StandardStrategy.nextAttempt request = grant.token.attemptsMade := by
  rw [Gate.token_of_granted (decision_of_granted hgranted)]
  rfl

/-- A standard strategy grants what its backoff says for the next number. -/
theorem delay_of_granted {s : StandardStrategy} {m : Moment} {request : RetryRequest}
    {grant : Grant}
    (hgranted : ((Strategy.standard s : Strategy R).step m (.refresh request)).1
      = .granted grant) :
    ∃ wait, s.backoff.wait (StandardStrategy.nextAttempt request) m.draws = .ok wait
      ∧ grant.delay = request.lengthen wait.delay := by
  obtain ⟨wait, hwait⟩ := s.exists_wait request m.draws
  refine ⟨wait, hwait, ?_⟩
  have hok : (s.refresh request m.draws).1 = .ok grant := Answer.ofExcept_eq_granted_iff.mp hgranted
  rw [s.answer_refresh request hwait] at hok
  exact RetryRequest.delay_of_map hok

/-- **Every strategy numbers retries so**, in whatever state. -/
theorem numbersRetries (s : Strategy R) : s.NumbersRetries := by
  constructor
  case exhausted =>
    intro m request hmade
    have hdecision := Gate.step_of_maxAttempts_le (g := s.gate) hmade
    constructor
    · intro grant hgranted
      rw [decision_of_granted hgranted] at hdecision
      cases hdecision
    · rw [refused_iff, hdecision, Decision.refused.injEq]
      cases hrule : s.gate.terms.rule.retries request.failure with
      | true => exact ⟨fun _ => rfl, fun _ => rfl⟩
      | false => exact ⟨RetryError.noConfusion, Bool.noConfusion⟩
  case granted =>
    intro m request grant hgranted
    have hdecision := decision_of_granted hgranted
    obtain ⟨hrange, hmade⟩ := Gate.attemptsMade_of_granted hdecision
    refine ⟨hrange, hmade, s.decisionEvents_subset m request ?_⟩
    rw [← hmade]
    exact Gate.admitted_mem_decisionEvents hdecision
  case waited =>
    intro standard hstandard m request grant hgranted
    subst hstandard
    have hnumber := nextAttempt_of_granted hgranted
    obtain ⟨wait, hwait, hdelay⟩ := delay_of_granted hgranted
    rw [hnumber] at hwait
    exact ⟨hnumber, wait, hwait, hdelay⟩

end Strategy

/-! ## §4. Calls on built strategies. -/

/-- **ATTEMPTS ARE NUMBERED RIGHT.**  Every token of a call on a built strategy says how many
attempts were granted and what they took, within the attempt limit; and in every state a request
with any token is numbered the same by the wait, the gate and the token. -/
theorem attempt_numbering {p : Plan R} {first : Strategy R} (hbuilt : p.build = .ok first) :
    (∀ scope s failures token, CallToken first scope s failures token →
        Numbered p.gate scope failures token)
      ∧ ∀ ops, (first.run ops).2.NumbersRetries := by
  constructor
  · intro scope s failures token hcall
    have hnumbered := hcall.numbered (p.maxAttempts_pos hbuilt)
    rw [p.gate_of_build hbuilt] at hnumbered
    exact hnumbered
  · intro ops
    exact (first.run ops).2.numbersRetries

/-- A plan that retries passing faults and client errors, at seven units for a fault. -/
def mixedPlan : Plan Float :=
  .standard
    { gate :=
      { rule := .ofErrorTypes [.transient, .clientError]
        budget := { retryCost := 7 } }
      backoff := .immediate }

/-- The strategy of the mixed plan. -/
def mixedStrategy : Strategy Float :=
  .standard { gate := { terms := mixedPlan.gate }, backoff := .immediate }

/-- A call is granted a retry that is charged for and a free one, while the scope is forgotten in
between; then it has made all its attempts. -/
theorem attempt_numbering_mixed :
    let now : Moment := ⟨.start, fun _ => 0⟩
    let s : Strategy Float :=
      (mixedStrategy.run
        [(now, .acquire "s"),
          (now, .refresh { token := .initial "s", failure := .ofType .transient }),
          (now, .evict "s"),
          (now, .refresh { token := ⟨"s", 2, 7⟩, failure := .ofType .clientError })]).2
    mixedPlan.build = .ok mixedStrategy
      ∧ CallToken mixedStrategy "s" s [.ofType .transient, .ofType .clientError] ⟨"s", 3, 7⟩
      ∧ Numbered mixedPlan.gate "s" [.ofType .transient, .ofType .clientError] ⟨"s", 3, 7⟩
      ∧ (s.step now (.refresh { token := ⟨"s", 3, 7⟩, failure := .ofType .transient })).1
        = .refused (.exhausted "s" 3 3) := by
  intro now s
  have hbuilt : mixedPlan.build = .ok mixedStrategy := rfl
  let charged : RetryRequest := { token := .initial "s", failure := .ofType .transient }
  let free : RetryRequest := { token := ⟨"s", 2, 7⟩, failure := .ofType .clientError }
  let second : Strategy Float :=
    (mixedStrategy.run [(now, .acquire "s"), (now, .refresh charged)]).2
  have hfirst : CallToken mixedStrategy "s" (mixedStrategy.run [(now, .acquire "s")]).2 []
      charged.token := .acquired [] now rfl
  have hsecond : CallToken mixedStrategy "s" second [.ofType .transient] free.token :=
    hfirst.retried now (by decide : _ = Answer.granted ⟨.zero, ⟨"s", 2, 7⟩⟩)
  have hcall : CallToken mixedStrategy "s" s [.ofType .transient, .ofType .clientError]
      ⟨"s", 3, 7⟩ :=
    (hsecond.between now (.evict "s")).retried now
      (by decide : _ = Answer.granted ⟨.zero, ⟨"s", 3, 7⟩⟩)
  obtain ⟨hnumbered, hrequests⟩ := attempt_numbering hbuilt
  refine ⟨hbuilt, hcall, hnumbered _ _ _ _ hcall, ?_⟩
  have hrefused : s.NumbersRetries := hrequests _
  exact (hrefused.exhausted now { token := ⟨"s", 3, 7⟩, failure := .ofType .transient }
    (by decide)).2.mpr (by decide)

end RetryControl
