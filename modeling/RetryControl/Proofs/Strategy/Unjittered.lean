/-
  RetryControl.Proofs.Strategy.Unjittered
  ────────────────────────────────
  **STRATEGIES THAT DRAW NOTHING.**

  A strategy keeps the plan that it was built from, and unless that plan has
  its waits drawn at random, the random words at hand make no difference: an
  operation answers, changes and tells the same whatever they are.

    • `Strategy.plan_step`, `plan_run`, `plan_useAll` — the plan is kept,
    • `Plan.plan_of_build` — so a copy can be built from it at any time,
    • `Strategy.step_unjittered`, `Strategy.events_unjittered` — two moments
      with the same time are as good as one.
-/
import RetryControl.Log.Record
import RetryControl.Proofs.Budget.Capacity

namespace RetryControl

variable {R : Type} [RateArithmetic R]

/-! ## §1. The plan is kept. -/

namespace Strategy

/-- **Every operation keeps the plan.** -/
@[simp] theorem plan_step (s : Strategy R) (m : Moment) (op : Operation) :
    (s.step m op).2.plan = s.plan := by
  -- the terms of admission are the gate's, and nothing rewrites the rest
  have hterms := s.terms_step m op
  cases s with
  | standard s =>
      have hrest : ∃ after : StandardStrategy, ((Strategy.standard s : Strategy R).step m op).2
          = .standard after ∧ after.backoff = s.backoff := by
        cases op with
        | acquire scope => exact ⟨s, rfl, rfl⟩
        | succeed token => exact ⟨_, rfl, rfl⟩
        | evict scope => exact ⟨_, rfl, rfl⟩
        | refresh request =>
            refine ⟨(s.refresh request m.draws).2, rfl, ?_⟩
            unfold StandardStrategy.refresh
            split
            · rfl
            · split <;> rfl
      obtain ⟨after, hafter, hbackoff⟩ := hrest
      rw [hafter] at hterms ⊢
      show Plan.standard { gate := after.gate.terms, backoff := after.backoff } = _
      rw [show after.gate.terms = s.gate.terms from hterms, hbackoff]
      rfl
  | adaptive s =>
      have hrest : ∃ after : AdaptiveStrategy R, ((Strategy.adaptive s).step m op).2
          = .adaptive after ∧ after.rates = s.rates := by
        cases op with
        | acquire scope => exact ⟨_, rfl, rfl⟩
        | succeed token => exact ⟨_, rfl, rfl⟩
        | evict scope => exact ⟨_, rfl, rfl⟩
        | refresh request =>
            refine ⟨(s.refresh request m.now).2, rfl, ?_⟩
            unfold AdaptiveStrategy.refresh
            dsimp only
            split <;> rfl
      obtain ⟨after, hafter, hrates⟩ := hrest
      rw [hafter] at hterms ⊢
      show Plan.adaptive { gate := after.gate.terms, rates := after.rates } = _
      rw [show after.gate.terms = s.gate.terms from hterms, hrates]
      rfl

@[simp] theorem plan_run (s : Strategy R) (ops : List (Moment × Operation)) :
    (s.run ops).2.plan = s.plan := by
  induction ops generalizing s with
  | nil => rfl
  | cons entry rest ih => exact (ih (s.step entry.1 entry.2).2).trans (s.plan_step _ _)

@[simp] theorem plan_useAll (s : Strategy R) (uses : List Use) :
    (s.useAll uses).2.plan = s.plan := by
  induction uses generalizing s with
  | nil => rfl
  | cons u rest ih =>
      cases u with
      | read scope => exact ih s
      | operate m op => exact (ih (s.step m op).2).trans (s.plan_step m op)

end Strategy

/-- A strategy gives back the plan that it was built from. -/
theorem Plan.plan_of_build {p : Plan R} {s : Strategy R} (hbuilt : p.build = .ok s) :
    s.plan = p := by
  rcases p.kind_of_build hbuilt with
    ⟨plan, built, rfl, rfl, hplan⟩ | ⟨plan, built, rfl, rfl, hplan⟩
  · rw [(StandardPlan.build_eq_ok_iff.mp hplan).2.2]
    rfl
  · rw [(AdaptivePlan.build_eq_ok_iff.mp hplan).2.2]
    rfl

/-! ## §2. Plans without jitter. -/

omit [RateArithmetic R] in
/-- The plan has waits drawn at random. -/
def Plan.isJittered : Plan R → Bool
  | .standard plan => plan.backoff.isJittered
  | .adaptive _ => false

theorem Backoff.wait_unjittered {b : Backoff} (hsteady : b.isJittered = false) (attempt : Count)
    (draws draws' : Draws) : b.wait attempt draws = b.wait attempt draws' := by
  unfold wait
  rw [hsteady]
  rfl

theorem StandardStrategy.refresh_unjittered {s : StandardStrategy}
    (hsteady : s.backoff.isJittered = false) (request : RetryRequest) (draws draws' : Draws) :
    s.refresh request draws = s.refresh request draws' := by
  unfold refresh
  rw [s.backoff.wait_unjittered hsteady (nextAttempt request) draws draws']

namespace Strategy

variable {s : Strategy R}

theorem refresh_unjittered (hsteady : s.plan.isJittered = false) {m m' : Moment}
    (hnow : m.now = m'.now) (request : RetryRequest) :
    s.refresh m request = s.refresh m' request := by
  cases s with
  | standard s =>
      show ((s.refresh request m.draws).1, Strategy.standard (s.refresh request m.draws).2)
        = ((s.refresh request m'.draws).1, Strategy.standard (s.refresh request m'.draws).2)
      rw [s.refresh_unjittered hsteady request m.draws m'.draws]
  | adaptive s =>
      show ((s.refresh request m.now).1, Strategy.adaptive (s.refresh request m.now).2)
        = ((s.refresh request m'.now).1, Strategy.adaptive (s.refresh request m'.now).2)
      rw [hnow]

theorem acquire_unjittered (s : Strategy R) {m m' : Moment} (hnow : m.now = m'.now)
    (scope : String) : s.acquire m scope = s.acquire m' scope := by
  cases s with
  | standard s => rfl
  | adaptive s =>
      show ((s.acquire scope m.now).1, Strategy.adaptive (s.acquire scope m.now).2)
        = ((s.acquire scope m'.now).1, Strategy.adaptive (s.acquire scope m'.now).2)
      rw [hnow]

theorem succeed_unjittered (s : Strategy R) {m m' : Moment} (hnow : m.now = m'.now)
    (token : Token) : s.succeed m token = s.succeed m' token := by
  cases s with
  | standard s => rfl
  | adaptive s =>
      show ((s.succeed token m.now).1, Strategy.adaptive (s.succeed token m.now).2)
        = ((s.succeed token m'.now).1, Strategy.adaptive (s.succeed token m'.now).2)
      rw [hnow]

/-- **Without jitter the random words make no difference** to an answer and to what it leaves. -/
theorem step_unjittered (hsteady : s.plan.isJittered = false) {m m' : Moment}
    (hnow : m.now = m'.now) (op : Operation) : s.step m op = s.step m' op := by
  cases op with
  | acquire scope =>
      show (Answer.granted (s.acquire m scope).1, (s.acquire m scope).2)
        = (Answer.granted (s.acquire m' scope).1, (s.acquire m' scope).2)
      rw [acquire_unjittered s hnow]
  | refresh request =>
      show (Answer.ofExcept (s.refresh m request).1, (s.refresh m request).2)
        = (Answer.ofExcept (s.refresh m' request).1, (s.refresh m' request).2)
      rw [refresh_unjittered hsteady hnow]
  | succeed token =>
      show (Answer.credited (s.succeed m token).1, (s.succeed m token).2)
        = (Answer.credited (s.succeed m' token).1, (s.succeed m' token).2)
      rw [succeed_unjittered s hnow]
  | evict scope => rfl

/-- Nor to the events. -/
theorem events_unjittered (hsteady : s.plan.isJittered = false) {m m' : Moment}
    (hnow : m.now = m'.now) (op : Operation) : s.events m op = s.events m' op := by
  cases s with
  | standard s =>
      cases op with
      | acquire scope => rfl
      | succeed token => rfl
      | evict scope => rfl
      | refresh request =>
          have hwait := s.backoff.wait_unjittered hsteady (StandardStrategy.nextAttempt request)
            m.draws m'.draws
          show s.refreshEvents request m.draws = s.refreshEvents request m'.draws
          unfold StandardStrategy.refreshEvents StandardStrategy.refresh
          rw [hwait]
  | adaptive s =>
      cases op with
      | acquire scope => rfl
      | evict scope => rfl
      | refresh request =>
          show s.refreshEvents request m.now = s.refreshEvents request m'.now
          rw [hnow]
      | succeed token =>
          show s.succeedEvents token m.now = s.succeedEvents token m'.now
          rw [hnow]

end Strategy

end RetryControl
