/-
  RetryControl.Proofs.Rate.Refusals
  ────────────────────────────────
  **WHAT A REFUSED RETRY TOUCHES.**

  A request first tells the limiter of its scope about a throttle, then asks
  the gate, and only a granted one takes a slot.  So a refusal is not without
  a trace: it slows the scope down if its failure was a throttle.  But it takes
  nothing, neither budget nor a slot nor a place in the measurement, for
  whatever reason the gate refuses.

    • `AdaptiveStrategy.Untouched` — budgets, slots and measurements of all
      scopes are as before,
    • `Reacts` — the pace that the failure of a request leaves,
    • `Refused` — nothing taken, and the pace that the failure leaves,
    • `Granted` — one send measured, and one slot taken at the rate that the
      failure leaves,
    • `refresh_touches` — every request is one or the other,
    • `reacts_at_floor` — a throttle that changes nothing,
    • `untouched_run` — refusals take nothing, however many there are.
-/
import RetryControl.Proofs.Rate.Windows
import RetryControl.Proofs.Scope.Entries

namespace RetryControl

open RateArithmetic

variable {R : Type} [RateArithmetic R]

/-! ## §1. The pace that a failure leaves. -/

/-- The pace of a limiter after the failure of a request. -/
structure Reacts (request : RetryRequest) (now : Instant) (t : RateTerms R)
    (before after : Limiter R) : Prop where
  /-- Other failures than a throttle leave the pace as it was. -/
  pace_kept : request.failure.errorType ≠ .throttling → before.SamePace after
  /-- A throttle sets the pace that one throttle at this time sets. -/
  pace_throttled : request.failure.errorType = .throttling →
    (before.throttle t now).SamePace after
  /-- This is to pace from now on, at the rate that the scope has been measured or allowed to send,
  the lower one, times the factor, but no lower than the least rate. -/
  pace_lowered : request.failure.errorType = .throttling →
    after.enabled = true ∧ after.lastThrottle = some now
      ∧ after.allowedRate
        = greatest
            (mul (if lt zero before.measuredRate then least before.measuredRate before.allowedRate
              else before.allowedRate) t.decreaseFactor)
            t.minRate
  /-- So throttles alone change the pace, and each of them does, unless it finds the very pace that it
  sets: a scope that was throttled at this same time, and whose rate does not fall any more. -/
  pace_changed : ¬before.SamePace after ↔ request.failure.errorType = .throttling
    ∧ ¬(before.enabled = true ∧ before.lastThrottle = some now
      ∧ before.allowedRate = after.allowedRate)

/-- **Looking at a failure is all that happens to the pace.** -/
theorem AdaptiveStrategy.reacts_of_samePace {s : AdaptiveStrategy R} {request : RetryRequest}
    {now : Instant} {after : Limiter R} (hsame : (s.observed request now).SamePace after) :
    Reacts request now s.rates (s.limiter request.token.scope) after := by
  by_cases hthrottling : request.failure.errorType = .throttling
  · rw [show s.observed request now = (s.limiter request.token.scope).throttle s.rates now from
      if_pos hthrottling] at hsame
    obtain ⟨henabled, hrate, hlast⟩ := hsame
    refine ⟨absurd hthrottling, fun _ => ⟨henabled, hrate, hlast⟩,
      fun _ => ⟨henabled, hlast, hrate⟩, ?_⟩
    -- a throttle sets every part of the pace, so it changes one or finds them all set
    rw [and_iff_right hthrottling, not_iff_not]
    constructor
    · rintro ⟨hkept, hsteady, hagain⟩
      exact ⟨hkept.symm.trans henabled, hagain.symm.trans hlast, hsteady.symm⟩
    · rintro ⟨hpaces, hagain, hsteady⟩
      exact ⟨henabled.trans hpaces.symm, hsteady.symm, hlast.trans hagain.symm⟩
  · rw [show s.observed request now = s.limiter request.token.scope from
      if_neg hthrottling] at hsame
    exact ⟨fun _ => hsame, fun h => absurd h hthrottling, fun h => absurd h hthrottling,
      iff_of_false (not_not_intro hsame) fun h => hthrottling h.1⟩

/-! ## §2. Refused requests. -/

namespace AdaptiveStrategy

variable {s after : AdaptiveStrategy R} {request : RetryRequest} {now : Instant}

/-- Nothing was taken in any scope: no budget, no slot and no place in the measurement. -/
structure Untouched (s after : AdaptiveStrategy R) : Prop where
  capacity_eq : ∀ scope, after.gate.capacity scope = s.gate.capacity scope
  nextSend_eq : ∀ scope, (after.limiter scope).nextSend = (s.limiter scope).nextSend
  measure_eq : ∀ scope, (s.limiter scope).SameMeasure (after.limiter scope)

theorem Untouched.refl (s : AdaptiveStrategy R) : s.Untouched s :=
  ⟨fun _ => rfl, fun _ => rfl, fun _ => .refl _⟩

theorem Untouched.trans {last : AdaptiveStrategy R} (h : s.Untouched after)
    (h' : after.Untouched last) : s.Untouched last :=
  ⟨fun scope => (h'.capacity_eq scope).trans (h.capacity_eq scope),
    fun scope => (h'.nextSend_eq scope).trans (h.nextSend_eq scope),
    fun scope => (h.measure_eq scope).trans (h'.measure_eq scope)⟩

/-- What a granted request leaves behind. -/
structure Granted (request : RetryRequest) (now : Instant) (s after : AdaptiveStrategy R)
    (grant : Grant) : Prop
    extends Reacts request now s.rates (s.limiter request.token.scope)
      (after.limiter request.token.scope) where
  /-- One send is measured, at its slot if the scope is paced, and else now. -/
  one_send : ∃ send, WindowStep (s.limiter request.token.scope) (some send)
      (after.limiter request.token.scope)
    ∧ ((after.limiter request.token.scope).enabled = true →
        send.nanos = max (s.limiter request.token.scope).earliest now.nanos)
    ∧ ((after.limiter request.token.scope).enabled = false → send = now)
  /-- One slot is taken: the earliest one that has not passed, with the interval of the rate that
  the failure has left. -/
  slot_taken : (after.limiter request.token.scope).enabled = true → ∃ taken : TakenSlot,
    taken.asked = now
      ∧ taken.interval = interval (after.limiter request.token.scope).allowedRate
      ∧ taken.nanos = max (s.limiter request.token.scope).earliest now.nanos
      ∧ (after.limiter request.token.scope).earliest = taken.following
      ∧ grant.delay = request.lengthen taken.delay
  /-- No slot is taken without pacing. -/
  no_slot : (after.limiter request.token.scope).enabled = false →
    (after.limiter request.token.scope).nextSend = (s.limiter request.token.scope).nextSend
      ∧ grant.delay = request.lengthen .zero
  elsewhere : ∀ scope, scope ≠ request.token.scope →
    (Strategy.adaptive s).HoldsSame scope (.adaptive after)

/-- Looking at a failure measures nothing. -/
theorem sameMeasure_observed (s : AdaptiveStrategy R) (request : RetryRequest) (now : Instant) :
    (s.limiter request.token.scope).SameMeasure (s.observed request now) := by
  unfold observed
  dsimp only
  split <;> exact ⟨rfl, rfl, rfl⟩

/-- No request reaches beyond its scope. -/
theorem holdsSame_refresh (s : AdaptiveStrategy R) (request : RetryRequest) (now : Instant)
    {scope : String} (hother : scope ≠ request.token.scope) :
    (Strategy.adaptive s).HoldsSame scope (.adaptive (s.refresh request now).2) := by
  have hscope : scope ≠ (Operation.refresh request).scope := hother
  exact (Strategy.adaptive s).holdsSame_step_elsewhere ⟨now, fun _ => 0⟩ hscope

/-- A gate that refuses a request keeps the capacity of every scope. -/
theorem capacity_of_refused {error : RetryError}
    (hrefused : (s.refresh request now).1 = .error error) (scope : String) :
    (s.refresh request now).2.gate.capacity scope = s.gate.capacity scope := by
  have hanswer : ((Strategy.adaptive s).step ⟨now, fun _ => 0⟩ (.refresh request)).1
      = .refused error := congrArg Answer.ofExcept hrefused
  have hgate := (Strategy.adaptive s).gate_step ⟨now, fun _ => 0⟩ (.refresh request)
  have hdecision : (s.gate.step (.refresh request)).1 = .refused error :=
    Strategy.refused_iff.mp hanswer
  have hcapacity := s.gate.capacity_refresh request scope
  rw [hdecision] at hcapacity
  apply UInt32.toNat_inj.mp
  rw [show (s.refresh request now).2.gate = (s.gate.step (.refresh request)).2 from hgate, hcapacity]
  split <;> rfl

/-! ## §3. The limiter of the request's scope. -/

/-- A refused request leaves the limiter that has seen the failure, and a granted one leaves this
limiter with a slot taken. -/
theorem limiter_answered (s : AdaptiveStrategy R) (request : RetryRequest) (now : Instant) :
    (s.refresh request now).2.limiter request.token.scope
      = match (s.refresh request now).1 with
        | .ok _ => ((s.observed request now).reserve now).2
        | .error _ => s.observed request now := by
  obtain ⟨_, hlimiter⟩ := s.limiter_refresh ⟨now, fun _ => 0⟩ request
  rw [hlimiter, if_pos rfl, limiterAfter_refresh, answer_refresh]
  cases (s.gate.decideRetry request.token request.failure).1 with
  | ok token => rfl
  | error error => rfl

/-- Whatever is answered, the pace is the one that the failure has left. -/
theorem samePace_refresh (s : AdaptiveStrategy R) (request : RetryRequest) (now : Instant) :
    (s.observed request now).SamePace ((s.refresh request now).2.limiter request.token.scope) := by
  rw [limiter_answered]
  split
  · exact Limiter.samePace_reserve _ now
  · exact ⟨rfl, rfl, rfl⟩

theorem limiter_elsewhere {scope : String} (hother : scope ≠ request.token.scope) :
    (s.refresh request now).2.limiter scope = s.limiter scope := by
  obtain ⟨_, hlimiter⟩ := s.limiter_refresh ⟨now, fun _ => 0⟩ request
  rw [hlimiter, if_neg hother]

/-- **A refused request takes nothing**, in its own scope or in another. -/
theorem untouched_of_refused {error : RetryError}
    (hrefused : (s.refresh request now).1 = .error error) :
    s.Untouched (s.refresh request now).2 := by
  have hafter := s.limiter_answered request now
  rw [hrefused] at hafter
  refine ⟨capacity_of_refused hrefused, fun scope => ?_, fun scope => ?_⟩
  · by_cases hscope : scope = request.token.scope
    · rw [hscope, hafter]
      exact s.nextSend_observed request now
    · rw [limiter_elsewhere hscope]
  · by_cases hscope : scope = request.token.scope
    · rw [hscope, hafter]
      exact s.sameMeasure_observed request now
    · rw [limiter_elsewhere hscope]
      exact .refl _

/-- **A granted request takes one slot**, and counts as one send. -/
theorem granted_of_ok {grant : Grant} (hgranted : (s.refresh request now).1 = .ok grant) :
    Granted request now s (s.refresh request now).2 grant := by
  have hafter := s.limiter_answered request now
  rw [hgranted] at hafter
  have hdelay := delay_of_granted hgranted
  have hnext := s.nextSend_observed request now
  have hpace := s.samePace_refresh request now
  refine ⟨reacts_of_samePace hpace, ?one_send, ?slot_taken, ?no_slot,
    fun scope hother => s.holdsSame_refresh request now hother⟩
  case one_send =>
    rw [hpace.enabled_eq, hafter]
    refine ⟨(s.observed request now).sendTime now,
      .of_sameMeasure (s.sameMeasure_observed request now) (Limiter.windowStep_reserve _ now),
      fun hpaces => ?_, fun hidle => ?_⟩
    · rw [show (s.observed request now).sendTime now = _ from if_pos hpaces, Limiter.nanos_slot,
        Limiter.earliest_congr hnext]
    · exact if_neg (Bool.eq_false_iff.mp hidle)
  case slot_taken =>
    rw [hpace.enabled_eq, hpace.allowedRate_eq, hafter, hdelay]
    intro hpaces
    have hslot := Limiter.asked_add_delay hpaces now
    rw [Limiter.earliest_congr hnext] at hslot
    exact ⟨⟨now, ((s.observed request now).reserve now).1,
      interval (s.observed request now).allowedRate⟩, rfl, rfl, hslot,
      Limiter.earliest_reserve hpaces now, rfl⟩
  case no_slot =>
    rw [hpace.enabled_eq]
    intro hidle
    obtain ⟨hnowait, hkept⟩ := Limiter.reserve_of_idle hidle now
    rw [hafter, hdelay, hnowait, hkept]
    exact ⟨hnext, rfl⟩

/-! ## §4. Every request, and many of them. -/

/-- An operation that is refused is a request, and takes nothing. -/
theorem untouched_step {m : Moment} {op : Operation} {error : RetryError}
    (hrefused : ((Strategy.adaptive s).step m op).1 = .refused error) :
    ∃ after, ((Strategy.adaptive s).step m op).2 = .adaptive after ∧ s.Untouched after := by
  cases op with
  | acquire scope => cases hrefused
  | succeed token => cases hrefused
  | evict scope => cases hrefused
  | refresh request =>
      have herror : (s.refresh request m.now).1 = .error error :=
        Answer.ofExcept_eq_refused_iff.mp hrefused
      exact ⟨_, rfl, untouched_of_refused herror⟩

/-- **Refusals take nothing, however many there are**: after a run of refused operations all
budgets, slots and measurements are as before. -/
theorem untouched_run (s : AdaptiveStrategy R) (ops : List (Moment × Operation))
    (hrefused : ∀ answer ∈ ((Strategy.adaptive s).run ops).1, ∃ error, answer = .refused error) :
    ∃ after, ((Strategy.adaptive s).run ops).2 = .adaptive after ∧ s.Untouched after := by
  induction ops generalizing s with
  | nil => exact ⟨s, rfl, .refl s⟩
  | cons entry rest ih =>
      obtain ⟨m, op⟩ := entry
      rw [Strategy.run_cons] at hrefused ⊢
      obtain ⟨⟨error, herror⟩, hrest⟩ := List.forall_mem_cons.mp hrefused
      obtain ⟨next, hstep, huntouched⟩ := untouched_step herror
      rw [hstep] at hrest ⊢
      obtain ⟨last, hrun, hlast⟩ := ih next hrest
      exact ⟨last, hrun, huntouched.trans hlast⟩

/-- An adaptive strategy with nothing chosen and nothing used. -/
def unused : AdaptiveStrategy Float := { gate := { terms := {} }, rates := .default }

/-- A throttled request of a call that has made a number of attempts. -/
def throttledAfter (attempts : Count) : RetryRequest :=
  { token := { scope := "s", attemptsMade := attempts }, failure := .ofType .throttling }

/-- A scope whose rate is at its least already and that was throttled at this same time: one more
throttled call is refused and finds the pace that its throttle sets, so nothing changes. -/
theorem reacts_at_floor :
    let s : AdaptiveStrategy Float :=
      { gate := { terms := {} }, rates := { RateTerms.default with minRate := 50.0 } }
    let once := (s.refresh (throttledAfter 3) .start).2
    let twice := (once.refresh (throttledAfter 3) .start).2
    once.rate "s" = some 50.0
      ∧ (once.refresh (throttledAfter 3) .start).1 = .error (.exhausted "s" 3 3)
      ∧ (throttledAfter 3).failure.errorType = .throttling
      ∧ (once.limiter "s").SamePace (twice.limiter "s") := by
  intro s once twice
  exact ⟨by decide +kernel, by decide +kernel, rfl,
    ⟨by decide +kernel, by decide +kernel, by decide +kernel⟩⟩

end AdaptiveStrategy

end RetryControl
