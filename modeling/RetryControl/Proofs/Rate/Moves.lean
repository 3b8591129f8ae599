/-
  RetryControl.Proofs.Rate.Moves
  ────────────────────────────────
  **WHAT MOVES THE RATE OF A SCOPE.**

  A scope has a rate from its first throttle on, until it is forgotten.  In
  between only two things move the rate: another request with a throttling
  failure, which never raises it, and a success that comes when the cooldown
  since the latest throttle has passed, which raises it by one step.

    • `RateLaw` — what every use does to every rate, in one state,
    • `AdaptiveStrategy.Follows.rateLaw` — it holds wherever the limiters keep
      up with the uses,
    • `Cooling`, `RateLaw.use_le` — uses during a cooldown, none of which lets
      the rate rise,
    • `rate_moves` — the law in every state of a built strategy, and rates
      that never grow during a cooldown.
-/
import RetryControl.Proofs.Rate.Throttles

namespace RetryControl

open RateArithmetic

variable {R : Type} [RateArithmetic R] [RateValue R]

/-! ## §1. The law of the rate. -/

/-- What holds of the rates of a strategy in one state, in which every scope was throttled last when
`latest` says: when there is a rate, and what every use does to it. -/
structure RateLaw (t : RateTerms R) (latest : String → Option Instant) (s : Strategy R) : Prop where
  /-- A scope has no rate exactly while it has not been throttled. -/
  none_iff : ∀ scope, s.rate scope = none ↔ latest scope = none
  /-- Until then a success changes nothing about the scope's limiter. -/
  idle_success : ∀ m token, latest token.scope = none →
    (s.step m (.succeed token)).2.limiter? token.scope = s.limiter? token.scope
  /-- Until then a granted retry waits no longer than its failure asks for. -/
  idle_delay : ∀ m request grant, latest request.token.scope = none →
    (s.step m (.refresh request)).1 = .granted grant → grant.delay = request.leastDelay
  /-- A rate is a number and not beyond all numbers. -/
  finite : ∀ scope rate, s.rate scope = some rate → isFinite rate = true
  /-- A throttle does not raise the rate, whether the retry is granted or refused. -/
  throttled : ∀ m request rate, request.failure.errorType = .throttling →
    s.rate request.token.scope = some rate →
      ∃ later, (s.step m (.refresh request)).2.rate request.token.scope = some later
        ∧ le later rate = true
  /-- Any other request leaves the rate as it is. -/
  notThrottled : ∀ m request, request.failure.errorType ≠ .throttling →
    (s.step m (.refresh request)).2.rate request.token.scope = s.rate request.token.scope
  /-- A success after the cooldown raises the rate by one step, up to the greatest rate. -/
  raised : ∀ m token rate at_, s.rate token.scope = some rate → latest token.scope = some at_ →
    t.cooldown ≤ m.now.since at_ →
      (s.step m (.succeed token)).2.rate token.scope
        = some (least (add rate t.increaseStep) t.maxRate)
  /-- A success within the cooldown leaves the rate as it is. -/
  cooling : ∀ m token at_, latest token.scope = some at_ → m.now.since at_ < t.cooldown →
    (s.step m (.succeed token)).2.rate token.scope = s.rate token.scope
  /-- The first attempt of a call leaves the rate as it is. -/
  acquired : ∀ m scope, (s.step m (.acquire scope)).2.rate scope = s.rate scope
  /-- Reading changes nothing. -/
  read : ∀ seen scope, (s.use (.read seen)).2.rate scope = s.rate scope
  /-- No operation touches the rate of another scope. -/
  elsewhere : ∀ m op scope, scope ≠ op.scope → (s.step m op).2.rate scope = s.rate scope
  /-- Only a throttle lowers a rate. -/
  lowered_only : ∀ m op scope rate later, s.rate scope = some rate →
    (s.step m op).2.rate scope = some later → lt later rate = true →
      ∃ request, op = .refresh request ∧ request.token.scope = scope
        ∧ request.failure.errorType = .throttling
  /-- Only a success after the cooldown raises a rate. -/
  raised_only : ∀ m op scope rate later, s.rate scope = some rate →
    (s.step m op).2.rate scope = some later → lt rate later = true →
      ∃ token at_, op = .succeed token ∧ token.scope = scope ∧ latest scope = some at_
        ∧ t.cooldown ≤ m.now.since at_ ∧ later = least (add rate t.increaseStep) t.maxRate

/-! ## §2. Limiters that keep up with the uses obey it. -/

namespace Limiter

variable {t : RateTerms R} {most : R} {latest : Option Instant} {l : Limiter R}

theorem Follows.pacedRate_eq_none_iff (hl : l.Follows t most latest) :
    l.pacedRate = none ↔ latest = none := by
  unfold pacedRate
  rw [hl.enabled_eq]
  cases latest with
  | none => simp
  | some at_ => simp

omit [RateArithmetic R] [RateValue R] in
theorem of_pacedRate {rate : R} (hrate : l.pacedRate = some rate) :
    l.enabled = true ∧ rate = l.allowedRate := by
  unfold pacedRate at hrate
  split at hrate
  · rename_i henabled
    cases hrate
    exact ⟨henabled, rfl⟩
  · cases hrate

/-- A limiter that paces lets its rate rise as soon as the cooldown has passed. -/
theorem Follows.mayRise_iff {at_ : Instant} (hl : l.Follows t most (some at_)) (now : Instant) :
    l.mayRise t now = true ↔ t.cooldown ≤ now.since at_ := by
  unfold mayRise
  rw [hl.enabled_eq, hl.lastThrottle_eq]
  simp

/-- A limiter that does not pace takes no notice of a success. -/
theorem Follows.succeed_idle (hl : l.Follows t most none) (now : Instant) :
    l.succeed t now = l := by
  have hidle : l.mayRise t now = false := by
    unfold mayRise
    rw [hl.enabled_eq]
    rfl
  unfold Limiter.succeed
  rw [hidle]
  rfl

end Limiter

namespace AdaptiveStrategy.Follows

variable {t : RateTerms R} {most : R} {latest : String → Option Instant} {s : AdaptiveStrategy R}

theorem rate_none_iff (hs : s.Follows t most latest) (scope : String) :
    s.rate scope = none ↔ latest scope = none := by
  rw [rate_eq]
  exact (hs.limiter scope).pacedRate_eq_none_iff

theorem rate_finite (hs : s.Follows t most latest) {scope : String} {rate : R}
    (hrate : s.rate scope = some rate) : isFinite rate = true := by
  rw [rate_eq] at hrate
  rw [(Limiter.of_pacedRate hrate).2]
  exact (hs.limiter scope).bounded.allowed_finite

theorem rate_succeed (hs : s.Follows t most latest) (m : Moment) {token : Token} {at_ : Instant}
    (hlatest : latest token.scope = some at_) :
    ((Strategy.adaptive s).step m (.succeed token)).2.rate token.scope
      = if t.cooldown ≤ m.now.since at_ then
          (s.rate token.scope).map fun rate => least (add rate t.increaseStep) t.maxRate
        else s.rate token.scope := by
  have hl := hs.limiter token.scope
  rw [hlatest] at hl
  rw [rate_step, if_pos (by rfl), rate_eq]
  show (Limiter.succeed (s.limiter token.scope) s.rates m.now).pacedRate = _
  rw [hs.rates_eq]
  unfold Limiter.succeed
  have hpaced : (s.limiter token.scope).pacedRate = some (s.limiter token.scope).allowedRate := by
    unfold Limiter.pacedRate
    rw [hl.enabled_eq]
    rfl
  split
  · rename_i hrise
    rw [if_pos ((hl.mayRise_iff m.now).mp hrise), hpaced]
    unfold Limiter.pacedRate
    rw [hl.enabled_eq]
    rfl
  · rename_i hrise
    rw [hl.mayRise_iff] at hrise
    rw [if_neg hrise]

/-- A scope that was not throttled takes no notice of a success. -/
theorem limiter_succeed_idle (hs : s.Follows t most latest) (m : Moment) {token : Token}
    (hidle : latest token.scope = none) :
    ((Strategy.adaptive s).step m (.succeed token)).2.limiter? token.scope
      = some (s.limiter token.scope) := by
  have hl := hs.limiter token.scope
  rw [hidle] at hl
  obtain ⟨after, hstep, _, hlimiter⟩ := s.limiter_step m (.succeed token)
  rw [hstep]
  show some (after.limiter token.scope) = _
  rw [hlimiter, if_pos (by rfl)]
  show some (Limiter.succeed (s.limiter token.scope) s.rates m.now) = _
  rw [hs.rates_eq, hl.succeed_idle]

/-- Before a scope's first throttle no slot was given out, so its first slot is now. -/
theorem delay_idle (hs : s.Follows t most latest) (m : Moment) {request : RetryRequest}
    {grant : Grant} (hidle : latest request.token.scope = none)
    (hgranted : ((Strategy.adaptive s).step m (.refresh request)).1 = .granted grant) :
    grant.delay = request.leastDelay := by
  -- the first throttle itself is such a request: it enables the limiter but takes no slot before
  have hnext : (s.observed request m.now).nextSend = none :=
    (s.nextSend_observed request m.now).trans
      ((hs.limiter request.token.scope).nextSend_eq hidle)
  have hok : (s.refresh request m.now).1 = .ok grant := Answer.ofExcept_eq_granted_iff.mp hgranted
  apply Duration.ext
  rw [delay_of_granted hok, Limiter.wait_reserve hnext, RetryRequest.nanos_lengthen]
  exact Nat.zero_max _

variable [LawfulRates R]

theorem rate_throttled (ht : t.Ordered) (hs : s.Follows t most latest) (m : Moment)
    {request : RetryRequest} {rate : R} (hthrottled : request.failure.errorType = .throttling)
    (hrate : s.rate request.token.scope = some rate) :
    ∃ later, ((Strategy.adaptive s).step m (.refresh request)).2.rate request.token.scope
        = some later ∧ le later rate = true := by
  have hbounded := (hs.limiter request.token.scope).bounded
  rw [rate_eq] at hrate
  obtain ⟨_, rfl⟩ := Limiter.of_pacedRate hrate
  obtain ⟨hfinite, _, hle⟩ := hbounded.allowedRate_throttle ht m.now
  refine ⟨((s.limiter request.token.scope).throttle t m.now).allowedRate, ?_,
    (OrderedRates.le_iff hfinite hbounded.allowed_finite).mpr hle⟩
  rw [rate_step, if_pos (by rfl), pacedRate_refresh, ← hs.rates_eq]
  exact congrArg Limiter.pacedRate (if_pos hthrottled)

/-- A step that is not negative does not lower a rate. -/
theorem le_raised (ht : t.Ordered) (hs : s.Follows t most latest) {scope : String} {rate : R}
    (hrate : s.rate scope = some rate) :
    le rate (least (add rate t.increaseStep) t.maxRate) = true := by
  have hbounded := (hs.limiter scope).bounded
  rw [rate_eq] at hrate
  obtain ⟨_, rfl⟩ := Limiter.of_pacedRate hrate
  obtain ⟨hfinite, hle, _⟩ := hbounded.raised_between ht
  exact (OrderedRates.le_iff hbounded.allowed_finite hfinite).mpr hle

/-- A rate is finite after an operation too. -/
theorem rate_step_finite (ht : t.Ordered) (hroom : Room most) (hs : s.Follows t most latest)
    {m : Moment} {op : Operation} {scope : String} {later : R}
    (hlater : ((Strategy.adaptive s).step m op).2.rate scope = some later) :
    isFinite later = true := by
  obtain ⟨after, hstep, hafter⟩ := hs.step ht hroom m op
  rw [hstep] at hlater
  exact hafter.rate_finite hlater

/-- **What can become of a rate in one operation**: it stays as it is, a throttle does not raise it,
or a success after the cooldown raises it by one step. -/
theorem rate_cases (ht : t.Ordered) (hs : s.Follows t most latest) {m : Moment} {op : Operation}
    {scope : String} {rate later : R} (hrate : s.rate scope = some rate)
    (hlater : ((Strategy.adaptive s).step m op).2.rate scope = some later) :
    later = rate
      ∨ (∃ request, op = .refresh request ∧ request.token.scope = scope
          ∧ request.failure.errorType = .throttling ∧ le later rate = true)
      ∨ ∃ token at_, op = .succeed token ∧ token.scope = scope ∧ latest scope = some at_
          ∧ t.cooldown ≤ m.now.since at_ ∧ later = least (add rate t.increaseStep) t.maxRate
          ∧ le rate later = true := by
  by_cases hscope : scope = op.scope
  swap
  · rw [rate_step, if_neg hscope, hrate] at hlater
    exact .inl (Option.some.inj hlater).symm
  cases op with
  | acquire first =>
      obtain rfl : scope = first := hscope
      rw [rate_acquire, hrate] at hlater
      exact .inl (Option.some.inj hlater).symm
  | refresh request =>
      obtain rfl : scope = request.token.scope := hscope
      by_cases hthrottled : request.failure.errorType = .throttling
      · obtain ⟨lowered, hlowered, hle⟩ := hs.rate_throttled ht m hthrottled hrate
        rw [show later = lowered from Option.some.inj (hlater.symm.trans hlowered)]
        exact .inr (.inl ⟨request, rfl, rfl, hthrottled, hle⟩)
      · rw [rate_notThrottled s m hthrottled, hrate] at hlater
        exact .inl (Option.some.inj hlater).symm
  | succeed token =>
      obtain rfl : scope = token.scope := hscope
      cases hlatest : latest token.scope with
      | none =>
          rw [(hs.rate_none_iff token.scope).mpr hlatest] at hrate
          cases hrate
      | some at_ =>
          rw [hs.rate_succeed m hlatest, hrate] at hlater
          split at hlater
          · rename_i hcooled
            cases hlater
            exact .inr (.inr ⟨token, at_, rfl, rfl, rfl, hcooled, rfl, hs.le_raised ht hrate⟩)
          · cases hlater
            exact .inl rfl
  | evict other =>
      obtain rfl : scope = other := hscope
      rw [rate_evict] at hlater
      cases hlater

/-- **Where the limiters keep up with the uses, the law of the rate holds.** -/
theorem rateLaw (ht : t.Ordered) (hroom : Room most) (hs : s.Follows t most latest) :
    RateLaw t latest (.adaptive s) := by
  constructor
  case none_iff => exact hs.rate_none_iff
  case idle_success => exact fun m token => hs.limiter_succeed_idle m
  case idle_delay => exact fun m request grant => hs.delay_idle m
  case finite => exact fun scope rate => hs.rate_finite
  case throttled => exact fun m request rate => hs.rate_throttled ht m
  case notThrottled => exact fun m request => rate_notThrottled s m
  case raised =>
    intro m token rate at_ hrate hlatest hcooled
    rw [hs.rate_succeed m hlatest, if_pos hcooled]
    exact congrArg _ hrate
  case cooling =>
    intro m token at_ hlatest hearly
    have hwaits : ¬t.cooldown ≤ m.now.since at_ := Nat.not_le.mpr hearly
    rw [hs.rate_succeed m hlatest, if_neg hwaits]
    rfl
  case acquired => exact rate_acquire s
  case read => exact fun seen scope => rfl
  case elsewhere =>
    intro m op scope hother
    rw [rate_step, if_neg hother]
    rfl
  case lowered_only =>
    intro m op scope rate later hrate hlater hlower
    have hfinite := hs.rate_finite hrate
    have hfinite' := hs.rate_step_finite ht hroom hlater
    rcases hs.rate_cases ht hrate hlater with
      rfl | ⟨request, hop, hscope, hthrottled, _⟩ | ⟨_, _, _, _, _, _, _, hle⟩
    · exact absurd hlower (lt_ne_of_le hfinite hfinite (le_refl_of_finite hfinite))
    · exact ⟨request, hop, hscope, hthrottled⟩
    · exact absurd hlower (lt_ne_of_le hfinite hfinite' hle)
  case raised_only =>
    intro m op scope rate later hrate hlater hhigher
    have hfinite := hs.rate_finite hrate
    have hfinite' := hs.rate_step_finite ht hroom hlater
    rcases hs.rate_cases ht hrate hlater with
      rfl | ⟨_, _, _, _, hle⟩ | ⟨token, at_, hop, hscope, hlatest, hcooled, hraised, _⟩
    · exact absurd hhigher (lt_ne_of_le hfinite hfinite (le_refl_of_finite hfinite))
    · exact absurd hhigher (lt_ne_of_le hfinite' hfinite hle)
    · exact ⟨token, at_, hop, hscope, hlatest, hcooled, hraised⟩

end AdaptiveStrategy.Follows

/-! ## §3. Cooldowns. -/

/-- Uses during which a scope cools down: it is not forgotten, and each of its successes comes
before the cooldown since its latest throttle has passed. -/
structure Cooling (t : RateTerms R) (scope : String) (before during : List Use) : Prop where
  /-- The scope is not forgotten. -/
  kept : ∀ m, .operate m (.evict scope) ∉ during
  /-- Successes in the scope come early. -/
  early : ∀ earlier m token later, during = earlier ++ .operate m (.succeed token) :: later →
    token.scope = scope → ∀ at_, latestThrottle scope (before ++ earlier) = some at_ →
      m.now.since at_ < t.cooldown

namespace Cooling

variable {t : RateTerms R} {scope : String} {before during : List Use}

omit [RateArithmetic R] [RateValue R] in
/-- What is left of such uses after the first of them. -/
theorem tail {u : Use} (h : Cooling t scope before (u :: during)) :
    Cooling t scope (before ++ [u]) during := by
  constructor
  case kept => exact fun m hmem => h.kept m (List.mem_cons_of_mem u hmem)
  case early =>
    intro earlier m token later hsplit hscope at_ hlatest
    rw [List.append_assoc] at hlatest
    exact h.early (u :: earlier) m token later (congrArg (u :: ·) hsplit) hscope at_ hlatest

omit [RateArithmetic R] [RateValue R] in
/-- **The window of a cooldown**: the clock shows times from a throttle on to less than the cooldown
after it. Throttles within the window only put off its end. -/
theorem of_window {at_ : Instant} (hlatest : latestThrottle scope before = some at_)
    (hkept : ∀ m, .operate m (.evict scope) ∉ during)
    (hwindow : ∀ m op, .operate m op ∈ during → at_ ≤ m.now ∧ m.now.since at_ < t.cooldown) :
    Cooling t scope before during := by
  refine ⟨hkept, fun earlier m token later hsplit hscope at' hlatest' => ?_⟩
  subst hsplit
  have hearlier : ∀ u ∈ earlier, u ∈ earlier ++ Use.operate m (.succeed token) :: later :=
    fun u hu => List.mem_append_left _ hu
  obtain ⟨latest, hsome, hge⟩ := latestThrottle_append_ge hlatest
    (fun m' hmem => hkept m' (hearlier _ hmem))
    (fun m' op hmem => (hwindow m' op (hearlier _ hmem)).1)
  cases hlatest'.symm.trans hsome
  obtain ⟨_, hearly⟩ := hwindow m (.succeed token) (List.mem_append_right _ List.mem_cons_self)
  rw [Instant.le_def] at hge
  rw [Duration.lt_def, Instant.nanos_since] at hearly ⊢
  omega

end Cooling

namespace RateLaw

variable [LawfulRates R] {t : RateTerms R} {latest : String → Option Instant} {s : Strategy R}

/-- **One use during a cooldown does not let the rate rise.** -/
theorem use_le (h : RateLaw t latest s) {scope : String} {rate : R}
    (hrate : s.rate scope = some rate) {u : Use} (hkept : ∀ m, u ≠ .operate m (.evict scope))
    (hearly : ∀ m token at_, u = .operate m (.succeed token) → token.scope = scope →
      latest scope = some at_ → m.now.since at_ < t.cooldown) :
    ∃ later, (s.use u).2.rate scope = some later ∧ le later rate = true := by
  have hsame : ∀ {next : Strategy R}, next.rate scope = s.rate scope →
      ∃ later, next.rate scope = some later ∧ le later rate = true :=
    fun heq => ⟨rate, heq.trans hrate, le_refl_of_finite (h.finite scope rate hrate)⟩
  cases u with
  | read seen => exact hsame (h.read seen scope)
  | operate m op =>
      by_cases hscope : scope = op.scope
      swap
      · exact hsame (h.elsewhere m op scope hscope)
      cases op with
      | acquire first =>
          obtain rfl : scope = first := hscope
          exact hsame (h.acquired m scope)
      | refresh request =>
          obtain rfl : scope = request.token.scope := hscope
          by_cases hthrottled : request.failure.errorType = .throttling
          · exact h.throttled m request rate hthrottled hrate
          · exact hsame (h.notThrottled m request hthrottled)
      | succeed token =>
          obtain rfl : scope = token.scope := hscope
          cases hlatest : latest token.scope with
          | none =>
              rw [(h.none_iff _).mpr hlatest] at hrate
              cases hrate
          | some at_ =>
              exact hsame (h.cooling m token at_ hlatest (hearly m token at_ rfl rfl hlatest))
      | evict other =>
          obtain rfl : scope = other := hscope
          exact absurd rfl (hkept m)

end RateLaw

/-! ## §4. Built strategies. -/

omit [RateValue R] in
theorem Strategy.useAll_append (s : Strategy R) (before during : List Use) :
    (s.useAll (before ++ during)).2 = ((s.useAll before).2.useAll during).2 := by
  induction before generalizing s with
  | nil => rfl
  | cons u rest ih => exact ih (s.use u).2

variable [LawfulRates R] {plan : AdaptivePlan R} {first : Strategy R}

/-- The law holds in every state. -/
theorem rateLaw_useAll (hbuilt : (Plan.adaptive plan).build = .ok first) (uses : List Use) :
    RateLaw plan.rates (latestThrottle · uses) (first.useAll uses).2 := by
  rcases Plan.kind_of_build hbuilt with ⟨_, _, hkind, _⟩ | ⟨_, built, hkind, rfl, hplan⟩
  · cases hkind
  cases hkind
  obtain ⟨hvalid, _, rfl⟩ := AdaptivePlan.build_eq_ok_iff.mp hplan
  obtain ⟨most, hroom⟩ := exists_room (R := R)
  have ht := RateTerms.ordered_of_valid hvalid
  have hfresh : AdaptiveStrategy.Follows plan.rates most (fun _ => none)
      { gate := { terms := plan.gate }, rates := plan.rates } :=
    ⟨rfl, fun _ => .fresh ht hroom⟩
  obtain ⟨after, hafter, hfollows⟩ := hfresh.useAll ht hroom uses
  rw [hafter]
  exact hfollows.rateLaw ht hroom

/-- Nor does any run of uses during a cooldown let the rate rise. -/
theorem rate_le_of_cooling (hbuilt : (Plan.adaptive plan).build = .ok first) {scope : String}
    {before during : List Use} {rate : R} (hcooling : Cooling plan.rates scope before during)
    (hrate : (first.useAll before).2.rate scope = some rate) :
    ∃ later, (first.useAll (before ++ during)).2.rate scope = some later
      ∧ le later rate = true := by
  have hlaw := rateLaw_useAll hbuilt before
  have hfinite := hlaw.finite scope rate hrate
  -- each use goes over to the uses before, where the law holds of the state it leads to
  induction during generalizing before rate with
  | nil =>
      rw [List.append_nil]
      exact ⟨rate, hrate, le_refl_of_finite hfinite⟩
  | cons u rest ih =>
      obtain ⟨next, hnext, hle⟩ := hlaw.use_le hrate
        (fun m heq => hcooling.kept m (heq ▸ List.mem_cons_self))
        (fun m token at_ heq hscope hlatest => hcooling.early [] m token rest
          (heq ▸ rfl) hscope at_ ((List.append_nil before).symm ▸ hlatest))
      have hafter : (first.useAll (before ++ [u])).2.rate scope = some next := by
        rw [Strategy.useAll_append]
        exact hnext
      have hlaw' := rateLaw_useAll hbuilt (before ++ [u])
      have hfinite' := hlaw'.finite scope next hafter
      obtain ⟨later, hlater, hle'⟩ := ih hcooling.tail hafter hlaw' hfinite'
      rw [List.append_assoc] at hlater
      have hlast := (rateLaw_useAll hbuilt (before ++ ([u] ++ rest))).finite scope later hlater
      exact ⟨later, hlater, le_trans_of_finite hlast hfinite' hfinite hle' hle⟩

/-- **WHAT MOVES THE RATE.**  In every state of a built adaptive strategy every use moves the rates
exactly as the law says, with the moment of each scope's latest throttle read off the uses; and no
rate grows during a cooldown. -/
theorem rate_moves (hbuilt : (Plan.adaptive plan).build = .ok first) :
    (∀ uses, RateLaw plan.rates (latestThrottle · uses) (first.useAll uses).2)
      ∧ ∀ scope before during rate, Cooling plan.rates scope before during →
          (first.useAll before).2.rate scope = some rate →
            ∃ later, (first.useAll (before ++ during)).2.rate scope = some later
              ∧ le later rate = true :=
  ⟨rateLaw_useAll hbuilt, fun _ _ _ _ hcooling hrate => rate_le_of_cooling hbuilt hcooling hrate⟩

/-- An adaptive plan with nothing chosen. -/
def plainAdaptivePlan : AdaptivePlan Float := { rates := .default }

/-- The strategy of the plain adaptive plan. -/
def plainAdaptiveStrategy : Strategy Float :=
  .adaptive { gate := { terms := plainAdaptivePlan.gate }, rates := .default }

/-- A number of milliseconds after the start of the time line, with random words that are all
zero. -/
def Moment.atMillis (ms : Nat) : Moment := ⟨.atMillis ms, fun _ => 0⟩

/-- A request of a call that was throttled. -/
def throttledRetry (scope : String) : Operation :=
  .refresh { token := .initial scope, failure := .ofType .throttling }

/-- A call is throttled after one second; until just before the second one is over another success
comes in vain, and then one counts. -/
theorem rate_moves_plain :
    let before : List Use :=
      [.operate (.atMillis 1000) (.acquire "s"), .operate (.atMillis 1000) (throttledRetry "s")]
    let during : List Use :=
      [.operate (.atMillis 1500) (.acquire "s"), .read "s",
        .operate (.atMillis 1999) (.succeed (.initial "s"))]
    let late : Use := .operate (.atMillis 2000) (.succeed (.initial "s"))
    (Plan.adaptive plainAdaptivePlan).build = .ok plainAdaptiveStrategy
      ∧ (plainAdaptiveStrategy.useAll before).2.rate "s" = some 50.0
      ∧ RateLaw .default (latestThrottle · before) (plainAdaptiveStrategy.useAll before).2
      ∧ Cooling RateTerms.default "s" before during
      ∧ (∃ later, (plainAdaptiveStrategy.useAll (before ++ during)).2.rate "s" = some later
          ∧ le later 50.0 = true)
      ∧ (plainAdaptiveStrategy.useAll (before ++ during ++ [late])).2.rate "s" = some 51.0 := by
  intro before during late
  have hbuilt : (Plan.adaptive plainAdaptivePlan).build = .ok plainAdaptiveStrategy := rfl
  have hrate : (plainAdaptiveStrategy.useAll before).2.rate "s" = some 50.0 := by decide +kernel
  have hlatest : latestThrottle "s" before = some (.atMillis 1000) := by decide +kernel
  have hcooling : Cooling RateTerms.default "s" before during := by
    apply Cooling.of_window hlatest
    · intro m hmem
      simp [during] at hmem
    · intro m op hmem
      simp only [during, List.mem_cons, List.not_mem_nil, or_false, Use.operate.injEq,
        reduceCtorEq, false_or] at hmem
      rcases hmem with ⟨rfl, _⟩ | ⟨rfl, _⟩ <;> exact ⟨by decide, by decide⟩
  obtain ⟨hlaw, hnever⟩ := rate_moves hbuilt
  exact ⟨hbuilt, hrate, hlaw before, hcooling, hnever "s" before during 50.0 hcooling hrate,
    by decide +kernel⟩

end RetryControl
