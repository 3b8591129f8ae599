/-
  RetryControl.Proofs.Scope.Entries
  ────────────────────────────────
  **WHAT IS KEPT FOR A SCOPE.**

  For each scope a strategy keeps a bucket and, if it is adaptive, a limiter;
  both entries come into being on demand.  An operation reads the entries of
  its own scope through their fresh stand-ins, replaces or drops them, and
  never looks at another scope:

    • `Strategy.ReadsSame` — two strategies that read the same in a scope,
    • `Strategy.HoldsSame` — and that hold the same there, if anything,
    • `ReadsSame.step` — the same operation in that scope then gets the same
      answer on both sides and changes both entries in the same way,
    • `holdsSame_step_elsewhere` — in other scopes nothing changes.
-/
import RetryControl.Proofs.Rate.Throttles
import RetryControl.Proofs.Strategy.Unjittered

namespace RetryControl

/-! ## §1. Changes of an entry. -/

/-- What an operation does to an entry. -/
inductive EntryChange (α : Type) where
  /-- It stays as it is. -/
  | keep
  /-- It is there from now on, with this value. -/
  | put (a : α)
  /-- It is gone. -/
  | drop

/-- The entry after a change. -/
def EntryChange.apply {α : Type} : EntryChange α → Option α → Option α
  | .keep, entry => entry
  | .put a, _ => some a
  | .drop, _ => none

/-- What reads the same before a change reads the same after it. -/
theorem EntryChange.getD_apply {α : Type} {entry entry' : Option α} {fresh : α}
    (hread : entry'.getD fresh = entry.getD fresh) (change : EntryChange α) :
    (change.apply entry').getD fresh = (change.apply entry).getD fresh := by
  cases change with
  | keep => exact hread
  | put a => rfl
  | drop => rfl

/-! ## §2. Buckets. -/

namespace Gate

/-- The entry of a scope. -/
def heldBucket? (g : Gate) (scope : String) : Option Bucket := g.buckets.get? scope

theorem bucket_eq_getD (g : Gate) (scope : String) :
    g.bucket scope = (g.heldBucket? scope).getD (.full g.terms.budget.initialCapacity) := rfl

@[simp] theorem heldBucket?_setBucket (g : Gate) (scope other : String) (b : Bucket) :
    (g.setBucket scope b).heldBucket? other = if other = scope then some b else g.heldBucket? other :=
  NameMap.get?_insert g.buckets scope other b

@[simp] theorem heldBucket?_evict (g : Gate) (scope other : String) :
    (g.evict scope).2.heldBucket? other = if other = scope then none else g.heldBucket? other :=
  NameMap.get?_erase g.buckets scope other

/-- No operation changes the entry of another scope. -/
theorem heldBucket?_step_elsewhere (g : Gate) {op : Operation} {scope : String}
    (hother : scope ≠ op.scope) : (g.step op).2.heldBucket? scope = g.heldBucket? scope := by
  cases op with
  | acquire first => rfl
  | evict gone =>
      exact (g.heldBucket?_evict gone scope).trans (if_neg hother)
  | succeed token =>
      show (g.succeed token).2.heldBucket? scope = _
      unfold succeed
      split
      · exact (g.heldBucket?_setBucket token.scope scope _).trans (if_neg hother)
      · rfl
  | refresh request =>
      obtain ⟨answer, after, hdecides, hstep⟩ := g.exists_decides request
      rw [hstep]
      cases hdecides with
      | nonRetryable hrule => rfl
      | exhausted hrule hlimit => rfl
      | free hpass hcharge => rfl
      | charged left hpass hcharge hcovered hlimit hleft =>
          exact (g.heldBucket?_setBucket request.token.scope scope _).trans (if_neg hother)
      | circuitOpen hpass hshort =>
          exact (g.heldBucket?_setBucket request.token.scope scope _).trans (if_neg hother)

/-- Two gates that read the same in a scope: with the same terms, and the same bucket there. -/
structure ReadsSame (scope : String) (g g' : Gate) : Prop where
  terms_eq : g'.terms = g.terms
  bucket_eq : g'.bucket scope = g.bucket scope

/-- One way of deciding the same on both sides. -/
structure StepsAlike (op : Operation) (g g' : Gate) (change : EntryChange Bucket) : Prop where
  decision_eq : (g'.step op).1 = (g.step op).1
  entry_eq : (g.step op).2.heldBucket? op.scope = change.apply (g.heldBucket? op.scope)
  entry_eq' : (g'.step op).2.heldBucket? op.scope = change.apply (g'.heldBucket? op.scope)

variable {g g' : Gate}

theorem ReadsSame.succeed {token : Token} (h : g.ReadsSame token.scope g') :
    ∃ change, g.StepsAlike (.succeed token) g' change := by
  obtain ⟨hterms, hbucket⟩ := h
  -- the breaker decides whether the bucket is touched at all
  by_cases hbreaker : g.terms.breakerEnabled = true
  · have hsucceed := g.succeed_of_breaker hbreaker token
    have hsucceed' := g'.succeed_of_breaker (by rw [hterms]; exact hbreaker) token
    rw [hterms, hbucket] at hsucceed'
    refine ⟨.put ((g.bucket token.scope).credit
        (g.terms.budget.creditFor token.budgetDebited)), ?_, ?_, ?_⟩
    · show Decision.credited (g'.succeed token).1 = .credited (g.succeed token).1
      rw [hsucceed, hsucceed']
    · show (g.succeed token).2.heldBucket? token.scope = _
      rw [hsucceed]
      exact (g.heldBucket?_setBucket _ _ _).trans (if_pos rfl)
    · show (g'.succeed token).2.heldBucket? token.scope = _
      rw [hsucceed']
      exact (g'.heldBucket?_setBucket _ _ _).trans (if_pos rfl)
  · have hsucceed := g.succeed_of_no_breaker hbreaker token
    have hsucceed' := g'.succeed_of_no_breaker (by rw [hterms]; exact hbreaker) token
    refine ⟨.keep, ?_, ?_, ?_⟩
    · show Decision.credited (g'.succeed token).1 = .credited (g.succeed token).1
      rw [hsucceed, hsucceed']
    · show (g.succeed token).2.heldBucket? token.scope = _
      rw [hsucceed]
      rfl
    · show (g'.succeed token).2.heldBucket? token.scope = _
      rw [hsucceed']
      rfl

theorem ReadsSame.decideRetry {token : Token} (h : g.ReadsSame token.scope g')
    (failure : Failure) :
    ∃ change : EntryChange Bucket,
      (g'.decideRetry token failure).1 = (g.decideRetry token failure).1
        ∧ (g.decideRetry token failure).2.heldBucket? token.scope
          = change.apply (g.heldBucket? token.scope)
        ∧ (g'.decideRetry token failure).2.heldBucket? token.scope
          = change.apply (g'.heldBucket? token.scope) := by
  obtain ⟨hterms, hbucket⟩ := h
  unfold Gate.decideRetry
  rw [hterms, hbucket]
  dsimp only
  -- up to the budget nothing is touched
  split
  · exact ⟨.keep, rfl, rfl, rfl⟩
  · split
    · exact ⟨.keep, rfl, rfl, rfl⟩
    · split
      · exact ⟨.keep, rfl, rfl, rfl⟩
      · cases (g.bucket token.scope).withdraw? (g.terms.costOf failure.errorType) with
        | some left =>
            exact ⟨.put left, rfl, (g.heldBucket?_setBucket _ _ _).trans (if_pos rfl),
              (g'.heldBucket?_setBucket _ _ _).trans (if_pos rfl)⟩
        | none =>
            exact ⟨.put (g.bucket token.scope), rfl,
              (g.heldBucket?_setBucket _ _ _).trans (if_pos rfl),
              (g'.heldBucket?_setBucket _ _ _).trans (if_pos rfl)⟩

/-- **An operation takes gates that read the same in its scope alike.** -/
theorem ReadsSame.step {op : Operation} (h : g.ReadsSame op.scope g') :
    ∃ change, g.StepsAlike op g' change := by
  cases op with
  | acquire scope => exact ⟨.keep, rfl, rfl, rfl⟩
  | succeed token => exact ReadsSame.succeed h
  | refresh request =>
      have hreads : g.ReadsSame request.token.scope g' := h
      obtain ⟨change, hdecision, hentry, hentry'⟩ := hreads.decideRetry request.failure
      exact ⟨change, congrArg Decision.ofExcept hdecision, hentry, hentry'⟩
  | evict scope =>
      exact ⟨.drop, rfl, (g.heldBucket?_evict scope scope).trans (if_pos rfl),
        (g'.heldBucket?_evict scope scope).trans (if_pos rfl)⟩

end Gate

/-! ## §3. Limiters. -/

variable {R : Type}

/-- The entry of a scope's limiter; a standard strategy has none. -/
def Strategy.heldLimiter? : Strategy R → String → Option (Limiter R)
  | .standard _, _ => none
  | .adaptive s, scope => s.limiters.get? scope

variable [RateArithmetic R]

namespace AdaptiveStrategy

/-- What an operation does to the limiter of its scope: an eviction drops it, and everything else
leaves a limiter there. -/
def limiterChange (s : AdaptiveStrategy R) (m : Moment) : Operation → EntryChange (Limiter R)
  | .evict _ => .drop
  | op => .put (s.limiterAfter m op)

theorem heldLimiter?_step (s : AdaptiveStrategy R) (m : Moment) (op : Operation)
    (scope : String) :
    ((Strategy.adaptive s).step m op).2.heldLimiter? scope
      = if scope = op.scope then (s.limiterChange m op).apply (s.limiters.get? scope)
        else s.limiters.get? scope := by
  cases op with
  | acquire first => exact s.limiters.get?_insert first scope _
  | succeed token => exact s.limiters.get?_insert token.scope scope _
  | evict gone => exact s.limiters.get?_erase gone scope
  | refresh request =>
      show (s.refresh request m.now).2.limiters.get? scope
        = if scope = request.token.scope then some (s.limiterAfter m (.refresh request)) else _
      rw [limiterAfter_refresh]
      rcases hdecision : s.gate.decideRetry request.token request.failure with ⟨decision, after⟩
      cases decision with
      | ok token =>
          rw [refresh_of_ok hdecision]
          exact s.limiters.get?_insert request.token.scope scope _
      | error error =>
          rw [refresh_of_error hdecision]
          exact s.limiters.get?_insert request.token.scope scope _

variable {s s' : AdaptiveStrategy R}

theorem observed_congr (hrates : s'.rates = s.rates) {request : RetryRequest}
    (hlimiter : s'.limiter request.token.scope = s.limiter request.token.scope) (now : Instant) :
    s'.observed request now = s.observed request now := by
  unfold observed
  rw [hrates, hlimiter]

theorem limiterChange_congr (hrates : s'.rates = s.rates) {op : Operation}
    (hlimiter : s'.limiter op.scope = s.limiter op.scope)
    (hdecision : (s'.gate.step op).1 = (s.gate.step op).1) {m m' : Moment}
    (hnow : m'.now = m.now) : s'.limiterChange m' op = s.limiterChange m op := by
  cases op with
  | evict scope => rfl
  | acquire scope =>
      show EntryChange.put ((s'.limiter scope).measure m'.now) = _
      rw [show s'.limiter scope = s.limiter scope from hlimiter, hnow]
      rfl
  | succeed token =>
      show EntryChange.put ((s'.limiter token.scope).succeed s'.rates m'.now) = _
      rw [show s'.limiter token.scope = s.limiter token.scope from hlimiter, hrates, hnow]
      rfl
  | refresh request =>
      show EntryChange.put (s'.limiterAfter m' (.refresh request))
        = .put (s.limiterAfter m (.refresh request))
      replace hdecision : Decision.ofExcept (s'.gate.decideRetry request.token request.failure).1
        = .ofExcept (s.gate.decideRetry request.token request.failure).1 := hdecision
      rw [limiterAfter_refresh, limiterAfter_refresh, hnow, observed_congr hrates hlimiter]
      -- only whether the request was granted matters
      generalize (s'.gate.decideRetry request.token request.failure).1 = decision' at hdecision
      generalize (s.gate.decideRetry request.token request.failure).1 = decision at hdecision
      cases decision <;> cases decision' <;> first | rfl | cases hdecision

end AdaptiveStrategy

/-! ## §4. Strategies that read or hold the same in a scope. -/

/-- The limiter that stands in for a missing one, in an adaptive plan. -/
def Plan.freshLimiter? : Plan R → Option (Limiter R)
  | .standard _ => none
  | .adaptive plan => some (.fresh plan.rates)

namespace Strategy

/-- Two strategies with one plan that hold the same for a scope, or both hold nothing. -/
structure HoldsSame (scope : String) (s s' : Strategy R) : Prop where
  plan_eq : s'.plan = s.plan
  bucket_eq : s'.gate.heldBucket? scope = s.gate.heldBucket? scope
  limiter_eq : s'.heldLimiter? scope = s.heldLimiter? scope

/-- Two strategies with one plan that read the same in a scope. -/
structure ReadsSame (scope : String) (s s' : Strategy R) : Prop where
  plan_eq : s'.plan = s.plan
  bucket_eq : s'.gate.bucket scope = s.gate.bucket scope
  limiter_eq : s'.limiter? scope = s.limiter? scope

variable {scope : String} {s s' s'' : Strategy R}

omit [RateArithmetic R] in
theorem HoldsSame.refl (scope : String) (s : Strategy R) : s.HoldsSame scope s := ⟨rfl, rfl, rfl⟩

omit [RateArithmetic R] in
theorem HoldsSame.symm (h : s.HoldsSame scope s') : s'.HoldsSame scope s :=
  ⟨h.plan_eq.symm, h.bucket_eq.symm, h.limiter_eq.symm⟩

omit [RateArithmetic R] in
theorem HoldsSame.trans (h : s.HoldsSame scope s') (h' : s'.HoldsSame scope s'') :
    s.HoldsSame scope s'' :=
  ⟨h'.plan_eq.trans h.plan_eq, h'.bucket_eq.trans h.bucket_eq, h'.limiter_eq.trans h.limiter_eq⟩

theorem ReadsSame.symm (h : s.ReadsSame scope s') : s'.ReadsSame scope s :=
  ⟨h.plan_eq.symm, h.bucket_eq.symm, h.limiter_eq.symm⟩

theorem ReadsSame.trans (h : s.ReadsSame scope s') (h' : s'.ReadsSame scope s'') :
    s.ReadsSame scope s'' :=
  ⟨h'.plan_eq.trans h.plan_eq, h'.bucket_eq.trans h.bucket_eq, h'.limiter_eq.trans h.limiter_eq⟩

omit [RateArithmetic R] in
/-- Strategies with one plan are of one kind. -/
theorem kinds_of_plan_eq (hplan : s'.plan = s.plan) :
    (∃ own own', s = .standard own ∧ s' = .standard own' ∧ own'.gate.terms = own.gate.terms
        ∧ own'.backoff = own.backoff)
      ∨ ∃ own own', s = .adaptive own ∧ s' = .adaptive own' ∧ own'.gate.terms = own.gate.terms
        ∧ own'.rates = own.rates := by
  cases s with
  | standard own =>
      cases s' with
      | adaptive own' => cases hplan
      | standard own' =>
          have hsame := Plan.standard.inj hplan
          exact .inl ⟨own, own', rfl, rfl, congrArg StandardPlan.gate hsame,
            congrArg StandardPlan.backoff hsame⟩
  | adaptive own =>
      cases s' with
      | standard own' => cases hplan
      | adaptive own' =>
          have hsame := Plan.adaptive.inj hplan
          exact .inr ⟨own, own', rfl, rfl, congrArg AdaptivePlan.gate hsame,
            congrArg AdaptivePlan.rates hsame⟩

omit [RateArithmetic R] in
theorem terms_of_plan_eq (hplan : s'.plan = s.plan) : s'.gate.terms = s.gate.terms := by
  rcases kinds_of_plan_eq hplan with ⟨own, own', rfl, rfl, hterms, _⟩ |
    ⟨own, own', rfl, rfl, hterms, _⟩
  · exact hterms
  · exact hterms

/-- What is read of a scope hangs on what is held for it, and on the stand-ins of the plan. -/
theorem limiter?_eq_map (s : Strategy R) (scope : String) :
    s.limiter? scope = s.plan.freshLimiter?.map fun fresh => (s.heldLimiter? scope).getD fresh := by
  cases s <;> rfl

theorem HoldsSame.reads (h : s.HoldsSame scope s') : s.ReadsSame scope s' := by
  refine ⟨h.plan_eq, ?_, ?_⟩
  · rw [Gate.bucket_eq_getD, Gate.bucket_eq_getD, terms_of_plan_eq h.plan_eq, h.bucket_eq]
  · rw [limiter?_eq_map, limiter?_eq_map, h.plan_eq, h.limiter_eq]

theorem ReadsSame.gate (h : s.ReadsSame scope s') : s.gate.ReadsSame scope s'.gate :=
  ⟨terms_of_plan_eq h.plan_eq, h.bucket_eq⟩

/-- What can be read of a scope from outside. -/
theorem ReadsSame.readings (h : s.ReadsSame scope s') :
    s'.capacity scope = s.capacity scope ∧ s'.rate scope = s.rate scope := by
  refine ⟨congrArg Bucket.available h.bucket_eq, ?_⟩
  rcases kinds_of_plan_eq h.plan_eq with ⟨own, own', rfl, rfl, _⟩ | ⟨own, own', rfl, rfl, _⟩
  · rfl
  · show own'.rate scope = own.rate scope
    rw [AdaptiveStrategy.rate_eq, AdaptiveStrategy.rate_eq]
    exact congrArg Limiter.pacedRate (Option.some.inj h.limiter_eq)

end Strategy

/-! ## §5. The same operation on both sides. -/

/-- An answer, without what an eviction found. -/
def Answer.apartFromFinding : Answer → Answer
  | .evicted _ => .evicted true
  | answer => answer

namespace Strategy

/-- The same operation at moments of the same time gets the same answer on both sides, but for what
an eviction finds, and changes both entries of its scope in the same way. -/
structure StepsAlike (op : Operation) (s : Strategy R) (m : Moment) (s' : Strategy R) (m' : Moment)
    (bucketChange : EntryChange Bucket) (limiterChange : EntryChange (Limiter R)) : Prop where
  answer_eq : (s'.step m' op).1.apartFromFinding = (s.step m op).1.apartFromFinding
  bucket_eq : (s.step m op).2.gate.heldBucket? op.scope = bucketChange.apply (s.gate.heldBucket? op.scope)
  bucket_eq' :
    (s'.step m' op).2.gate.heldBucket? op.scope = bucketChange.apply (s'.gate.heldBucket? op.scope)
  limiter_eq :
    (s.step m op).2.heldLimiter? op.scope = limiterChange.apply (s.heldLimiter? op.scope)
  limiter_eq' :
    (s'.step m' op).2.heldLimiter? op.scope = limiterChange.apply (s'.heldLimiter? op.scope)

variable {scope : String} {s s' : Strategy R} {op : Operation} {m m' : Moment}

/-- A standard strategy stays one. -/
theorem standard_step (own : StandardStrategy) (m : Moment) (op : Operation) :
    ∃ after, ((Strategy.standard own : Strategy R).step m op).2 = .standard after := by
  cases op <;> exact ⟨_, rfl⟩

theorem answer_evict (s : Strategy R) (m : Moment) (scope : String) :
    (s.step m (.evict scope)).1
      = .evicted ((s.gate.heldBucket? scope).isSome || (s.heldLimiter? scope).isSome) := by
  cases s with
  | standard own => exact congrArg Answer.evicted (Bool.or_false _).symm
  | adaptive own => rfl

/-- A granted request waits for the same time on both sides. -/
theorem ReadsSame.answer_refresh {request : RetryRequest}
    (h : s.ReadsSame request.token.scope s') (hsteady : s.plan.isJittered = false)
    (hnow : m'.now = m.now) : (s'.refresh m' request).1 = (s.refresh m request).1 := by
  obtain ⟨_, hdecision, _⟩ := h.gate.decideRetry request.failure
  rcases kinds_of_plan_eq h.plan_eq with ⟨own, own', rfl, rfl, _, hbackoff⟩ |
    ⟨own, own', rfl, rfl, _, hrates⟩
  · obtain ⟨wait, hwait⟩ := own.exists_wait request m.draws
    have hwait' : own'.backoff.wait (StandardStrategy.nextAttempt request) m'.draws
        = .ok wait := by
      rw [hbackoff, own.backoff.wait_unjittered hsteady _ m'.draws m.draws]
      exact hwait
    show (own'.refresh request m'.draws).1 = (own.refresh request m.draws).1
    rw [own.answer_refresh request hwait, own'.answer_refresh request hwait']
    exact congrArg _ hdecision
  · have hlimiter : own'.limiter request.token.scope = own.limiter request.token.scope :=
      Option.some.inj h.limiter_eq
    show (own'.refresh request m'.now).1 = (own.refresh request m.now).1
    rw [own.answer_refresh, own'.answer_refresh, hnow,
      AdaptiveStrategy.observed_congr hrates hlimiter]
    exact congrArg _ hdecision

theorem ReadsSame.answer_eq (h : s.ReadsSame op.scope s') (hsteady : s.plan.isJittered = false)
    (hnow : m'.now = m.now) :
    (s'.step m' op).1.apartFromFinding = (s.step m op).1.apartFromFinding := by
  cases op with
  | acquire first => rw [answer_acquire, answer_acquire]
  | evict gone => rfl
  | refresh request =>
      show (Answer.ofExcept (s'.refresh m' request).1).apartFromFinding = _
      rw [ReadsSame.answer_refresh h hsteady hnow]
      rfl
  | succeed token =>
      have hreads : s.gate.ReadsSame token.scope s'.gate := h.gate
      obtain ⟨_, hdecision, _⟩ := hreads.succeed
      rw [answer_succeed, answer_succeed]
      exact congrArg _ (congrArg Answer.credited (Decision.credited.inj hdecision))

/-- **An operation takes strategies that read the same in its scope alike.** -/
theorem ReadsSame.stepsAlike (h : s.ReadsSame op.scope s') (hsteady : s.plan.isJittered = false)
    (hnow : m'.now = m.now) :
    ∃ bucketChange limiterChange, s.StepsAlike op m s' m' bucketChange limiterChange := by
  have hanswer := h.answer_eq hsteady hnow
  obtain ⟨bucketChange, hdecision, hentry, hentry'⟩ := h.gate.step
  rw [← gate_step s m] at hentry
  rw [← gate_step s' m'] at hentry'
  rcases kinds_of_plan_eq h.plan_eq with ⟨own, own', rfl, rfl, _⟩ | ⟨own, own', rfl, rfl, _, hrates⟩
  · refine ⟨bucketChange, .keep, hanswer, hentry, hentry', ?_, ?_⟩
    · obtain ⟨after, hafter⟩ := standard_step (R := R) own m op
      rw [hafter]
      rfl
    · obtain ⟨after, hafter⟩ := standard_step (R := R) own' m' op
      rw [hafter]
      rfl
  · have hlimiter : own'.limiter op.scope = own.limiter op.scope := Option.some.inj h.limiter_eq
    refine ⟨bucketChange, own.limiterChange m op, hanswer, hentry, hentry', ?_, ?_⟩
    · exact (own.heldLimiter?_step m op op.scope).trans (if_pos rfl)
    · rw [← AdaptiveStrategy.limiterChange_congr hrates hlimiter hdecision hnow]
      exact (own'.heldLimiter?_step m' op op.scope).trans (if_pos rfl)

/-- So they still read the same in it. -/
theorem ReadsSame.step (h : s.ReadsSame op.scope s') (hsteady : s.plan.isJittered = false)
    (hnow : m'.now = m.now) : (s.step m op).2.ReadsSame op.scope (s'.step m' op).2 := by
  obtain ⟨bucketChange, limiterChange, halike⟩ := h.stepsAlike hsteady hnow
  obtain ⟨hplan, hbucket, hlimiter⟩ := h
  refine ⟨?_, ?_, ?_⟩
  · rw [plan_step, plan_step, hplan]
  · rw [Gate.bucket_eq_getD, Gate.bucket_eq_getD, terms_of_plan_eq hplan] at hbucket
    rw [Gate.bucket_eq_getD, Gate.bucket_eq_getD, terms_step, terms_step,
      terms_of_plan_eq hplan, halike.bucket_eq, halike.bucket_eq']
    exact bucketChange.getD_apply hbucket
  · rw [limiter?_eq_map, limiter?_eq_map, hplan] at hlimiter
    rw [limiter?_eq_map, limiter?_eq_map, plan_step, plan_step, hplan, halike.limiter_eq,
      halike.limiter_eq']
    -- a standard strategy has nothing to compare
    cases hfresh : s.plan.freshLimiter? with
    | none => rfl
    | some fresh =>
        rw [hfresh] at hlimiter
        exact congrArg some (limiterChange.getD_apply (Option.some.inj hlimiter))

/-- **Strategies that hold the same for the scope of an operation** give the same answer to it, and
then hold the same again. -/
theorem HoldsSame.step (h : s.HoldsSame op.scope s') (hsteady : s.plan.isJittered = false)
    (hnow : m'.now = m.now) :
    (s'.step m' op).1 = (s.step m op).1
      ∧ (s.step m op).2.HoldsSame op.scope (s'.step m' op).2 := by
  obtain ⟨bucketChange, limiterChange, halike⟩ := h.reads.stepsAlike hsteady hnow
  constructor
  · have hanswer := halike.answer_eq
    -- only an eviction tells entries from their stand-ins
    cases op with
    | acquire first => rw [answer_acquire, answer_acquire]
    | succeed token =>
        rw [answer_succeed, answer_succeed] at hanswer ⊢
        exact hanswer
    | evict gone =>
        rw [answer_evict, answer_evict]
        rw [show s'.gate.heldBucket? gone = _ from h.bucket_eq,
          show s'.heldLimiter? gone = _ from h.limiter_eq]
        rfl
    | refresh request => exact congrArg Answer.ofExcept (h.reads.answer_refresh hsteady hnow)
  · refine ⟨?_, ?_, ?_⟩
    · rw [plan_step, plan_step, h.plan_eq]
    · rw [halike.bucket_eq, halike.bucket_eq', h.bucket_eq]
    · rw [halike.limiter_eq, halike.limiter_eq', h.limiter_eq]

/-- **An operation leaves alone what is held for other scopes.** -/
theorem holdsSame_step_elsewhere (s : Strategy R) (m : Moment) {op : Operation} {scope : String}
    (hother : scope ≠ op.scope) : s.HoldsSame scope (s.step m op).2 := by
  refine ⟨s.plan_step m op, ?_, ?_⟩
  · rw [gate_step]
    exact s.gate.heldBucket?_step_elsewhere hother
  · cases s with
    | standard own =>
        obtain ⟨after, hafter⟩ := standard_step (R := R) own m op
        rw [hafter]
        rfl
    | adaptive own => exact (own.heldLimiter?_step m op scope).trans (if_neg hother)

end Strategy

end RetryControl
