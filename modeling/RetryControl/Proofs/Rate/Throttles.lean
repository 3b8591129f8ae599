/-
  RetryControl.Proofs.Rate.Throttles
  ────────────────────────────────
  **WHEN A SCOPE WAS LAST THROTTLED.**

  When a scope was last throttled can be told from the uses of the strategy
  alone: it is the moment of the last request in the scope with a throttling
  failure, granted or refused, unless the scope was forgotten since.  Its
  limiter holds just that moment, and paces exactly while there is one.

    • `latestThrottle` — the moment, read off the uses,
    • `AdaptiveStrategy.limiter_step` — the limiter of every scope after an
      operation,
    • `Limiter.Follows` — a limiter that keeps up with the uses,
    • `AdaptiveStrategy.Follows.step`, `.useAll` — every operation keeps all
      limiters up with the uses, and so does every run.
-/
import Mathlib.Data.List.Induction
import RetryControl.Proofs.Budget.Capacity
import RetryControl.Proofs.Rate.Bounds

namespace RetryControl

open RateArithmetic

/-! ## §1. The latest throttle. -/

/-- When a scope was last throttled, after one more use: a request with a throttling failure
throttles its scope, whatever is decided on it, and an eviction makes the scope a new one. -/
def Use.throttled (scope : String) (before : Option Instant) : Use → Option Instant
  | .operate m (.refresh request) =>
      if request.token.scope = scope ∧ request.failure.errorType = .throttling then some m.now
      else before
  | .operate _ (.evict other) => if other = scope then none else before
  | .operate _ (.acquire _) => before
  | .operate _ (.succeed _) => before
  | .read _ => before

/-- When a scope was last throttled, in uses of a strategy that had not been used. -/
def latestThrottle (scope : String) (uses : List Use) : Option Instant :=
  uses.foldl (Use.throttled scope) none

theorem latestThrottle_concat (scope : String) (uses : List Use) (u : Use) :
    latestThrottle scope (uses ++ [u]) = u.throttled scope (latestThrottle scope uses) := by
  unfold latestThrottle
  rw [List.foldl_append]
  rfl

theorem Use.throttled_elsewhere {scope : String} {op : Operation} (hother : scope ≠ op.scope)
    (before : Option Instant) (m : Moment) :
    (Use.operate m op).throttled scope before = before := by
  cases op with
  | acquire first => rfl
  | succeed token => rfl
  | refresh request => exact if_neg fun h => hother h.1.symm
  | evict other => exact if_neg fun h => hother h.symm

theorem Use.throttled_of_kept {scope : String} {u : Use}
    (hkept : ∀ m, u ≠ .operate m (.evict scope)) (before : Option Instant) :
    u.throttled scope before = before
      ∨ ∃ m op, u = .operate m op ∧ u.throttled scope before = some m.now := by
  cases u with
  | read seen => exact .inl rfl
  | operate m op =>
      cases op with
      | acquire first => exact .inl rfl
      | succeed token => exact .inl rfl
      | refresh request =>
          by_cases hthrottled : request.token.scope = scope
              ∧ request.failure.errorType = .throttling
          · exact .inr ⟨m, _, rfl, if_pos hthrottled⟩
          · exact .inl (if_neg hthrottled)
      | evict other =>
          have hother : ¬other = scope := fun h => hkept m (h ▸ rfl)
          exact .inl (if_neg hother)

/-- The latest throttle only moves ahead while the clock does and the scope is not forgotten. -/
theorem latestThrottle_append_ge {scope : String} {before during : List Use} {at_ : Instant}
    (hlatest : latestThrottle scope before = some at_)
    (hkept : ∀ m, .operate m (.evict scope) ∉ during)
    (hafter : ∀ m op, .operate m op ∈ during → at_ ≤ m.now) :
    ∃ later, latestThrottle scope (before ++ during) = some later ∧ at_ ≤ later := by
  -- from the end, since the last use decides
  induction during using List.reverseRecOn with
  | nil =>
      rw [List.append_nil]
      exact ⟨at_, hlatest, Nat.le_refl _⟩
  | append_singleton during u ih =>
      obtain ⟨later, hlater, hle⟩ := ih
        (fun m hmem => hkept m (List.mem_append_left _ hmem))
        (fun m op hmem => hafter m op (List.mem_append_left _ hmem))
      have hlast : u ∈ during ++ [u] := List.mem_append_right _ (List.mem_singleton_self u)
      rw [← List.append_assoc, latestThrottle_concat, hlater]
      rcases u.throttled_of_kept (fun m heq => hkept m (heq ▸ hlast)) (some later) with
        hsame | ⟨m, op, heq, hnow⟩
      · exact ⟨later, hsame, hle⟩
      · exact ⟨m.now, hnow, hafter m op (heq ▸ hlast)⟩

/-! ## §2. What measuring leaves alone. -/

namespace Limiter

variable {R : Type} [RateArithmetic R]

/-- Two limiters that pace alike and were throttled last at the same time. -/
structure SamePace (l l' : Limiter R) : Prop where
  enabled_eq : l'.enabled = l.enabled
  allowedRate_eq : l'.allowedRate = l.allowedRate
  lastThrottle_eq : l'.lastThrottle = l.lastThrottle

theorem samePace_measure (l : Limiter R) (send : Instant) : l.SamePace (l.measure send) := by
  unfold measure
  split <;> exact ⟨rfl, rfl, rfl⟩

theorem nextSend_measure (l : Limiter R) (send : Instant) :
    (l.measure send).nextSend = l.nextSend := by
  unfold measure
  split <;> rfl

theorem samePace_reserve (l : Limiter R) (now : Instant) : l.SamePace (l.reserve now).2 := by
  unfold reserve
  split
  · obtain ⟨henabled, hallowed, hthrottle⟩ := samePace_measure
      { l with nextSend := some (((l.slot now).add? (interval l.allowedRate)).getD (l.slot now)) }
      (l.slot now)
    exact ⟨henabled, hallowed, hthrottle⟩
  · exact samePace_measure l now

omit [RateArithmetic R] in
theorem SamePace.pacedRate_eq {l l' : Limiter R} (h : l.SamePace l') :
    l'.pacedRate = l.pacedRate := by
  unfold pacedRate
  rw [h.enabled_eq, h.allowedRate_eq]

/-- Without pacing no slot is taken, and none is waited for. -/
theorem reserve_of_idle {l : Limiter R} (hidle : l.enabled = false) (now : Instant) :
    (l.reserve now).1 = .zero ∧ (l.reserve now).2.nextSend = l.nextSend := by
  unfold reserve
  rw [hidle]
  exact ⟨rfl, l.nextSend_measure now⟩

/-- Without a slot given out before, the next one is now. -/
theorem wait_reserve {l : Limiter R} (hnext : l.nextSend = none) (now : Instant) :
    (l.reserve now).1 = .zero := by
  unfold reserve slot
  rw [hnext]
  split
  · exact Duration.ext (Nat.sub_self now.nanos)
  · rfl

end Limiter

/-! ## §3. The limiters after an operation. -/

variable {R : Type} [RateArithmetic R]

namespace AdaptiveStrategy

@[simp] theorem limiter_setLimiter (s : AdaptiveStrategy R) (scope other : String)
    (l : Limiter R) :
    (s.setLimiter scope l).limiter other = if other = scope then l else s.limiter other := by
  unfold limiter setLimiter NameMap.getD
  rw [NameMap.get?_insert]
  split <;> rfl

theorem limiter_evict (s : AdaptiveStrategy R) (scope other : String) :
    (s.evict scope).2.limiter other
      = if other = scope then .fresh s.rates else s.limiter other := by
  unfold limiter evict NameMap.getD
  rw [NameMap.get?_erase]
  split <;> rfl

/-- A scope that has no limiter is paced as one with a fresh limiter: not at all. -/
theorem rate_eq (s : AdaptiveStrategy R) (scope : String) :
    s.rate scope = (s.limiter scope).pacedRate := by
  unfold rate limiter NameMap.getD
  cases s.limiters.get? scope with
  | none => rfl
  | some l => rfl

/-- A granted request waits for a slot of the limiter that has seen the failure. -/
theorem refresh_of_ok {s : AdaptiveStrategy R} {request : RetryRequest} {token : Token}
    {after : Gate}
    (hdecision : s.gate.decideRetry request.token request.failure = (.ok token, after))
    (now : Instant) :
    s.refresh request now
      = (.ok ⟨request.lengthen ((s.observed request now).reserve now).1, token⟩,
        { s with gate := after }.setLimiter request.token.scope
          ((s.observed request now).reserve now).2) := by
  unfold refresh
  rw [hdecision]

/-- A refused one leaves that limiter as it is. -/
theorem refresh_of_error {s : AdaptiveStrategy R} {request : RetryRequest} {error : RetryError}
    {after : Gate}
    (hdecision : s.gate.decideRetry request.token request.failure = (.error error, after))
    (now : Instant) :
    s.refresh request now
      = (.error error,
        { s with gate := after }.setLimiter request.token.scope (s.observed request now)) := by
  unfold refresh
  rw [hdecision]

/-- The answer to a request: what the gate decides, and the wait for the limiter's next slot. -/
theorem answer_refresh (s : AdaptiveStrategy R) (request : RetryRequest) (now : Instant) :
    (s.refresh request now).1
      = (s.gate.decideRetry request.token request.failure).1.map fun token =>
          ⟨request.lengthen ((s.observed request now).reserve now).1, token⟩ := by
  rcases hdecision : s.gate.decideRetry request.token request.failure with ⟨decision, after⟩
  cases decision with
  | ok token => rw [refresh_of_ok hdecision]; rfl
  | error error => rw [refresh_of_error hdecision]; rfl

/-- A granted request waits for this slot, or longer if its failure asks for it. -/
theorem delay_of_granted {s : AdaptiveStrategy R} {request : RetryRequest} {now : Instant}
    {grant : Grant} (hgranted : (s.refresh request now).1 = .ok grant) :
    grant.delay = request.lengthen ((s.observed request now).reserve now).1 := by
  rw [answer_refresh] at hgranted
  exact RetryRequest.delay_of_map hgranted

/-- Looking at a failure takes no slot. -/
theorem nextSend_observed (s : AdaptiveStrategy R) (request : RetryRequest) (now : Instant) :
    (s.observed request now).nextSend = (s.limiter request.token.scope).nextSend := by
  unfold observed
  dsimp only
  split <;> rfl

/-- The limiter of an operation's scope after the operation. -/
def limiterAfter (s : AdaptiveStrategy R) (m : Moment) : Operation → Limiter R
  | .acquire scope => (s.limiter scope).measure m.now
  | .refresh request =>
      match (s.gate.decideRetry request.token request.failure).1 with
      | .ok _ => ((s.observed request m.now).reserve m.now).2
      | .error _ => s.observed request m.now
  | .succeed token => (s.limiter token.scope).succeed s.rates m.now
  | .evict _ => .fresh s.rates

theorem limiterAfter_refresh (s : AdaptiveStrategy R) (m : Moment) (request : RetryRequest) :
    s.limiterAfter m (.refresh request)
      = match (s.gate.decideRetry request.token request.failure).1 with
        | .ok _ => ((s.observed request m.now).reserve m.now).2
        | .error _ => s.observed request m.now := rfl

theorem limiter_refresh (s : AdaptiveStrategy R) (m : Moment) (request : RetryRequest) :
    (s.refresh request m.now).2.rates = s.rates
      ∧ ∀ scope, (s.refresh request m.now).2.limiter scope
        = if scope = request.token.scope then s.limiterAfter m (.refresh request)
          else s.limiter scope := by
  rw [limiterAfter_refresh]
  rcases hdecision : s.gate.decideRetry request.token request.failure with ⟨decision, after⟩
  cases decision with
  | ok token =>
      rw [refresh_of_ok hdecision]
      exact ⟨rfl, fun scope => limiter_setLimiter _ _ scope _⟩
  | error error =>
      rw [refresh_of_error hdecision]
      exact ⟨rfl, fun scope => limiter_setLimiter _ _ scope _⟩

/-- **Every operation changes the limiter of its own scope only.** -/
theorem limiter_step (s : AdaptiveStrategy R) (m : Moment) (op : Operation) :
    ∃ after, ((Strategy.adaptive s).step m op).2 = .adaptive after ∧ after.rates = s.rates
      ∧ ∀ scope, after.limiter scope
        = if scope = op.scope then s.limiterAfter m op else s.limiter scope := by
  cases op with
  | acquire first => exact ⟨_, rfl, rfl, fun scope => limiter_setLimiter _ first scope _⟩
  | refresh request => exact ⟨_, rfl, s.limiter_refresh m request⟩
  | succeed token => exact ⟨_, rfl, rfl, fun scope => limiter_setLimiter _ token.scope scope _⟩
  | evict other => exact ⟨_, rfl, rfl, fun scope => s.limiter_evict other scope⟩

/-- The rate of every scope after an operation. -/
theorem rate_step (s : AdaptiveStrategy R) (m : Moment) (op : Operation)
    (scope : String) :
    ((Strategy.adaptive s).step m op).2.rate scope
      = if scope = op.scope then (s.limiterAfter m op).pacedRate else s.rate scope := by
  obtain ⟨after, hstep, _, hlimiter⟩ := s.limiter_step m op
  rw [hstep]
  show after.rate scope = _
  rw [rate_eq, rate_eq, hlimiter scope]
  exact apply_ite Limiter.pacedRate _ _ _

/-- A slot that is taken leaves the rate as the failure has left it. -/
theorem pacedRate_refresh (s : AdaptiveStrategy R) (m : Moment)
    (request : RetryRequest) :
    (s.limiterAfter m (.refresh request)).pacedRate = (s.observed request m.now).pacedRate := by
  rw [limiterAfter_refresh]
  cases (s.gate.decideRetry request.token request.failure).1 with
  | ok token => exact (Limiter.samePace_reserve _ _).pacedRate_eq
  | error error => rfl

theorem rate_acquire (s : AdaptiveStrategy R) (m : Moment) (scope : String) :
    ((Strategy.adaptive s).step m (.acquire scope)).2.rate scope = s.rate scope := by
  rw [rate_step, if_pos (by rfl), rate_eq]
  exact (Limiter.samePace_measure _ _).pacedRate_eq

theorem rate_evict (s : AdaptiveStrategy R) (m : Moment) (scope : String) :
    ((Strategy.adaptive s).step m (.evict scope)).2.rate scope = none := by
  rw [rate_step, if_pos (by rfl)]
  rfl

theorem rate_notThrottled (s : AdaptiveStrategy R) (m : Moment) {request : RetryRequest}
    (hother : request.failure.errorType ≠ .throttling) :
    ((Strategy.adaptive s).step m (.refresh request)).2.rate request.token.scope
      = s.rate request.token.scope := by
  rw [rate_step, if_pos (by rfl), pacedRate_refresh, rate_eq]
  exact congrArg Limiter.pacedRate (if_neg hother)

end AdaptiveStrategy

namespace Strategy

/-- The limiter of a scope, in an adaptive strategy. -/
def limiter? : Strategy R → String → Option (Limiter R)
  | .standard _, _ => none
  | .adaptive s, scope => some (s.limiter scope)

end Strategy

/-! ## §4. Limiters that keep up with the uses. -/

variable [RateValue R]

/-- What a limiter holds when its scope was last throttled at that moment, or not at all. -/
structure Limiter.Follows (t : RateTerms R) (most : R) (latest : Option Instant) (l : Limiter R) :
    Prop where
  bounded : l.Bounded t most
  lastThrottle_eq : l.lastThrottle = latest
  /-- It paces exactly if there is one. -/
  enabled_eq : l.enabled = latest.isSome
  /-- Until there is one, it gives out no slots. -/
  nextSend_eq : latest = none → l.nextSend = none

namespace Limiter.Follows

variable [LawfulRates R] {t : RateTerms R} {most : R} {latest : Option Instant} {l : Limiter R}

theorem fresh (ht : t.Ordered) (hroom : Room most) : (fresh t).Follows t most none :=
  ⟨bounded_fresh ht hroom, rfl, rfl, fun _ => rfl⟩

theorem measure (hroom : Room most) (hl : l.Follows t most latest) (send : Instant) :
    (l.measure send).Follows t most latest := by
  have hpace := l.samePace_measure send
  exact ⟨hl.bounded.measure hroom send, hpace.lastThrottle_eq.trans hl.lastThrottle_eq,
    hpace.enabled_eq.trans hl.enabled_eq,
    fun hnone => (l.nextSend_measure send).trans (hl.nextSend_eq hnone)⟩

theorem throttle (ht : t.Ordered) (hl : l.Follows t most latest) (now : Instant) :
    (l.throttle t now).Follows t most (some now) :=
  ⟨hl.bounded.throttle ht now, rfl, rfl, fun hnone => nomatch hnone⟩

theorem succeed (ht : t.Ordered) (hl : l.Follows t most latest) (now : Instant) :
    (l.succeed t now).Follows t most latest := by
  have hbounded := hl.bounded.succeed ht now
  unfold Limiter.succeed at hbounded ⊢
  split
  · rename_i hrise
    rw [if_pos hrise] at hbounded
    exact ⟨hbounded, hl.lastThrottle_eq, hl.enabled_eq, hl.nextSend_eq⟩
  · exact hl

theorem reserve (hroom : Room most) (hl : l.Follows t most latest) (now : Instant) :
    (l.reserve now).2.Follows t most latest := by
  have hpace := l.samePace_reserve now
  refine ⟨hl.bounded.reserve hroom now, hpace.lastThrottle_eq.trans hl.lastThrottle_eq,
    hpace.enabled_eq.trans hl.enabled_eq, fun hnone => ?_⟩
  have hidle : l.enabled = false := hl.enabled_eq.trans (by rw [hnone]; rfl)
  exact (Limiter.reserve_of_idle hidle now).2.trans (hl.nextSend_eq hnone)

end Limiter.Follows

/-- An adaptive strategy whose limiters keep up with when each scope was last throttled. -/
structure AdaptiveStrategy.Follows (t : RateTerms R) (most : R) (latest : String → Option Instant)
    (s : AdaptiveStrategy R) : Prop where
  rates_eq : s.rates = t
  limiter : ∀ scope, (s.limiter scope).Follows t most (latest scope)

namespace AdaptiveStrategy.Follows

variable [LawfulRates R] {t : RateTerms R} {most : R} {latest : String → Option Instant}
  {s : AdaptiveStrategy R}

/-- The limiter that has seen a failure knows whether it was a throttle. -/
theorem observed (ht : t.Ordered) (hs : s.Follows t most latest) (request : RetryRequest)
    (m : Moment) :
    (s.observed request m.now).Follows t most
      ((Use.operate m (.refresh request)).throttled request.token.scope
        (latest request.token.scope)) := by
  have hl := hs.limiter request.token.scope
  show Limiter.Follows t most (if _ = _ ∧ _ then _ else _) (if _ then _ else _)
  by_cases hthrottled : request.failure.errorType = .throttling
  · rw [if_pos hthrottled, if_pos ⟨rfl, hthrottled⟩, hs.rates_eq]
    exact hl.throttle ht m.now
  · rw [if_neg hthrottled, if_neg fun h => hthrottled h.2]
    exact hl

theorem limiterAfter (ht : t.Ordered) (hroom : Room most) (hs : s.Follows t most latest)
    (m : Moment) (op : Operation) :
    (s.limiterAfter m op).Follows t most
      ((Use.operate m op).throttled op.scope (latest op.scope)) := by
  cases op with
  | acquire scope => exact (hs.limiter scope).measure hroom m.now
  | refresh request =>
      have hobserved := hs.observed ht request m
      rw [limiterAfter_refresh]
      cases (s.gate.decideRetry request.token request.failure).1 with
      | ok token => exact hobserved.reserve hroom m.now
      | error error => exact hobserved
  | succeed token =>
      have hnext := (hs.limiter token.scope).succeed ht m.now
      rw [← hs.rates_eq] at hnext ⊢
      exact hnext
  | evict scope =>
      have hfresh := Limiter.Follows.fresh ht hroom
      rw [← hs.rates_eq] at hfresh ⊢
      show Limiter.Follows s.rates most (if scope = scope then none else _) (Limiter.fresh s.rates)
      rw [if_pos rfl]
      exact hfresh

/-- **Every operation keeps the limiters up with the uses.** -/
theorem step (ht : t.Ordered) (hroom : Room most) (hs : s.Follows t most latest) (m : Moment)
    (op : Operation) :
    ∃ after, ((Strategy.adaptive s).step m op).2 = .adaptive after
      ∧ after.Follows t most
        fun scope => (Use.operate m op).throttled scope (latest scope) := by
  obtain ⟨after, hstep, hrates, hlimiter⟩ := s.limiter_step m op
  refine ⟨after, hstep, hrates.trans hs.rates_eq, fun scope => ?_⟩
  rw [hlimiter scope]
  split
  · rename_i hscope
    rw [hscope]
    exact hs.limiterAfter ht hroom m op
  · rename_i hother
    rw [Use.throttled_elsewhere hother]
    exact hs.limiter scope

/-- So does every run of operations and readings. -/
theorem useAll (ht : t.Ordered) (hroom : Room most) (hs : s.Follows t most latest)
    (uses : List Use) :
    ∃ after, ((Strategy.adaptive s).useAll uses).2 = .adaptive after
      ∧ after.Follows t most fun scope => uses.foldl (Use.throttled scope) (latest scope) := by
  induction uses generalizing s latest with
  | nil => exact ⟨s, rfl, hs⟩
  | cons u rest ih =>
      cases u with
      | read scope => exact ih hs
      | operate m op =>
          obtain ⟨next, hstep, hnext⟩ := hs.step ht hroom m op
          obtain ⟨after, hafter, hfollows⟩ := ih hnext
          refine ⟨after, ?_, hfollows⟩
          show (((Strategy.adaptive s).step m op).2.useAll rest).2 = _
          rw [hstep, hafter]

end AdaptiveStrategy.Follows

end RetryControl
