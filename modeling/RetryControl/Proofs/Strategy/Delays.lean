/-
  RetryControl.Proofs.Strategy.Delays
  ────────────────────────────────
  **HOW LONG A GRANTED ATTEMPT WAITS.**

  A grant waits for what its strategy works out, or for the suggested delay if
  that is longer.  A standard strategy works out the wait for the number that
  the granted token says; an adaptive one gives out a slot at the current time.
  No suggestion is as good as a suggestion of no time, so two requests that
  differ in nothing else get the same answer.

    • `Backoff.exists_ceiling` — a wait is at most that of the same backoff
      without jitter,
    • `RetryRequest.WaitsByNumber`, `AdaptiveStrategy.WaitsForSlot` — the wait
      of a grant, for each kind of strategy,
    • `Strategy.step_refresh_congr` — all that a request counts for,
    • `delays_honoured` — all of it, in every state of a built strategy.
-/
import RetryControl.Proofs.Admission.Numbering
import RetryControl.Proofs.Backoff.Jitter
import RetryControl.Proofs.Rate.Refusals

namespace RetryControl

open RateArithmetic

/-! ## §1. Waits below their ceiling. -/

namespace Backoff

/-- **A wait is at most that of the same backoff without jitter**, whatever is drawn. -/
theorem exists_ceiling (b : Backoff) {attempt : Count} (hattempt : 1 ≤ attempt.toNat) :
    ∃ ceiling, (∀ draws, b.withoutJitter.wait attempt draws = .ok ⟨ceiling, 0⟩)
      ∧ ∀ draws wait, b.wait attempt draws = .ok wait → wait.delay ≤ ceiling := by
  by_cases hlater : 2 ≤ attempt.toNat
  · refine ⟨b.ceiling attempt, b.wait_withoutJitter hlater, fun draws wait hwait => ?_⟩
    rw [b.wait_of_two_le hlater draws] at hwait
    cases hwait
    split
    · rw [Duration.le_def, nanos_jittered]
      exact (pickUpTo_le _ draws).trans (Nat.min_le_left _ _)
    · exact Nat.le_refl _
  · obtain rfl : attempt = 1 := UInt32.toNat_inj.mp (by omega : attempt.toNat = 1)
    refine ⟨.zero, b.withoutJitter.wait_attempt_one, fun draws wait hwait => ?_⟩
    rw [b.wait_attempt_one draws] at hwait
    cases hwait
    exact Nat.le_refl _

/-- Without jitter there is one wait for each attempt number. -/
theorem exists_steady_wait {b : Backoff} (hsteady : b.isJittered = false) {attempt : Count}
    {draws : Draws} {wait : Wait} (hwait : b.wait attempt draws = .ok wait) :
    ∀ draws', b.wait attempt draws' = .ok wait := by
  intro draws'
  rw [b.wait_unjittered hsteady attempt draws' draws, hwait]

end Backoff

/-! ## §2. Suggested delays. -/

namespace RetryRequest

/-- The request of a call whose last attempt failed, without a suggested delay. -/
def ofFailure (token : Token) (failure : Failure) : RetryRequest := { token, failure }

/-- The request with a suggested delay. -/
def suggesting (r : RetryRequest) (least : Duration) : RetryRequest :=
  { r with suggestedDelay := some least }

/-- Two requests that ask for the same: for the same call, after the same failure, and for a wait of
the same length. -/
structure AsksSame (r r' : RetryRequest) : Prop where
  token_eq : r'.token = r.token
  failure_eq : r'.failure = r.failure
  leastDelay_eq : r'.leastDelay = r.leastDelay

/-- An error that says itself how it counts asks for what its failure and its delay ask for. -/
theorem asksSame_ofError {ε : Type} [Classifiable ε] (token : Token) (error : ε) :
    ((ofFailure token (Classifiable.classify error)).suggesting
      ((Classifiable.suggestedDelay error).getD .zero)).AsksSame (ofError token error) :=
  ⟨rfl, rfl, rfl⟩

/-- Only the length of a suggested delay counts. -/
theorem lengthen_congr {r r' : RetryRequest} (hleast : r'.leastDelay = r.leastDelay)
    (wait : Duration) : r'.lengthen wait = r.lengthen wait := by
  apply Duration.ext
  rw [nanos_lengthen, nanos_lengthen, hleast]

theorem leastDelay_le_lengthen (r : RetryRequest) (wait : Duration) :
    r.leastDelay ≤ r.lengthen wait := by
  rw [Duration.le_def, nanos_lengthen]
  exact Nat.le_max_right _ _

/-- A wait that is not longer than the suggested delay becomes that delay. -/
theorem lengthen_of_le {r : RetryRequest} {wait : Duration} (hshort : wait ≤ r.leastDelay) :
    r.lengthen wait = r.leastDelay := by
  apply Duration.ext
  rw [nanos_lengthen]
  exact Nat.max_eq_right hshort

/-! ## §3. Waits by attempt number. -/

/-- How long an attempt waits that is granted by a strategy with this backoff. -/
structure WaitsByNumber (r : RetryRequest) (b : Backoff) (grant : Grant) : Prop where
  /-- Without jitter it waits what the backoff says for the number of the granted token, whatever is
  drawn, or the suggested delay if that is longer. -/
  steady : b.isJittered = false → ∃ wait,
    (∀ draws, b.wait grant.token.attemptsMade draws = .ok wait)
      ∧ grant.delay.nanos = max r.leastDelay.nanos wait.delay.nanos
  /-- With jitter it waits neither less than the suggested delay nor more than it would without
  jitter, and so exactly the suggested delay if that is not shorter. -/
  jittered : b.isJittered = true → ∃ ceiling,
    (∀ draws, b.withoutJitter.wait grant.token.attemptsMade draws = .ok ⟨ceiling, 0⟩)
      ∧ r.leastDelay.nanos ≤ grant.delay.nanos
      ∧ grant.delay.nanos ≤ max r.leastDelay.nanos ceiling.nanos
      ∧ (ceiling ≤ r.leastDelay → grant.delay = r.leastDelay)

/-- A grant that waits what the backoff says for its number. -/
theorem waitsByNumber_of_wait {r : RetryRequest} {b : Backoff} {grant : Grant} {draws : Draws}
    {wait : Backoff.Wait} (hnumber : 1 ≤ grant.token.attemptsMade.toNat)
    (hwait : b.wait grant.token.attemptsMade draws = .ok wait)
    (hdelay : grant.delay = r.lengthen wait.delay) : r.WaitsByNumber b grant := by
  constructor
  case steady =>
    intro hsteady
    refine ⟨wait, Backoff.exists_steady_wait hsteady hwait, ?_⟩
    rw [hdelay, nanos_lengthen, Nat.max_comm]
  case jittered =>
    intro _
    obtain ⟨ceiling, hceiling, hbelow⟩ := b.exists_ceiling hnumber
    have hle := hbelow draws wait hwait
    refine ⟨ceiling, hceiling, ?_, ?_, fun hshort => ?_⟩
    · rw [hdelay]
      exact r.leastDelay_le_lengthen wait.delay
    · rw [hdelay, nanos_lengthen]
      rw [Duration.le_def] at hle
      omega
    · rw [hdelay]
      exact lengthen_of_le (Nat.le_trans hle hshort)

end RetryRequest

variable {R : Type} [RateArithmetic R]

/-- **A grant of a standard strategy waits by its number.** -/
theorem StandardStrategy.waitsByNumber {s : StandardStrategy} {m : Moment} {request : RetryRequest}
    {grant : Grant}
    (hgranted : ((Strategy.standard s : Strategy R).step m (.refresh request)).1
      = .granted grant) : request.WaitsByNumber s.backoff grant := by
  obtain ⟨wait, hwait, hdelay⟩ := Strategy.delay_of_granted hgranted
  have hnumber := one_le_nextAttempt request
  rw [Strategy.nextAttempt_of_granted hgranted] at hwait hnumber
  exact RetryRequest.waitsByNumber_of_wait hnumber hwait hdelay

/-! ## §4. Waits for a slot. -/

/-- How long an attempt waits that an adaptive strategy grants. -/
structure AdaptiveStrategy.WaitsForSlot (s : AdaptiveStrategy R) (request : RetryRequest)
    (now : Instant) (after : AdaptiveStrategy R) (grant : Grant) : Prop where
  /-- In a scope that is not paced it waits for the suggested delay alone. -/
  idle : (s.observed request now).enabled = false → grant.delay = request.leastDelay
  /-- In a paced scope it waits for its slot, or for the suggested delay if that is longer. The slot
  is the earliest one that is left, or now if that has passed, and it is taken. -/
  paced : (s.observed request now).enabled = true → ∃ taken : TakenSlot, taken.asked = now
    ∧ taken.nanos = max (s.limiter request.token.scope).earliest now.nanos
    ∧ (after.limiter request.token.scope).earliest = taken.following
    ∧ grant.delay.nanos = max request.leastDelay.nanos taken.delay.nanos

/-- **A grant of an adaptive strategy waits for its slot.** -/
theorem AdaptiveStrategy.waitsForSlot {s : AdaptiveStrategy R} {request : RetryRequest}
    {now : Instant} {grant : Grant} (hgranted : (s.refresh request now).1 = .ok grant) :
    s.WaitsForSlot request now (s.refresh request now).2 grant := by
  have htaken := granted_of_ok hgranted
  have henabled := (s.samePace_refresh request now).enabled_eq
  constructor
  case idle =>
    intro hidle
    rw [(htaken.no_slot (henabled.trans hidle)).2]
    exact RetryRequest.lengthen_of_le (Nat.zero_le _)
  case paced =>
    intro hpaces
    obtain ⟨taken, hasked, _, hslot, hfollowing, hdelay⟩ :=
      htaken.slot_taken (henabled.trans hpaces)
    refine ⟨taken, hasked, hslot, hfollowing, ?_⟩
    rw [hdelay, RetryRequest.nanos_lengthen, Nat.max_comm]

/-! ## §5. What a request counts for. -/

namespace Strategy

/-- Every grant waits for a time that was lengthened by its request. -/
theorem exists_lengthened {s : Strategy R} {m : Moment} {request : RetryRequest} {grant : Grant}
    (hgranted : (s.step m (.refresh request)).1 = .granted grant) :
    ∃ wait, grant.delay = request.lengthen wait := by
  cases s with
  | standard s =>
      obtain ⟨wait, _, hdelay⟩ := delay_of_granted hgranted
      exact ⟨wait.delay, hdelay⟩
  | adaptive s =>
      exact ⟨_, AdaptiveStrategy.delay_of_granted (Answer.ofExcept_eq_granted_iff.mp hgranted)⟩

/-- **Requests that ask for the same are answered the same**, in every state, and leave the same
state behind. -/
theorem step_refresh_congr (s : Strategy R) (m : Moment) {r r' : RetryRequest}
    (hsame : r.AsksSame r') : s.step m (.refresh r') = s.step m (.refresh r) := by
  have hlengthen : r'.lengthen = r.lengthen :=
    funext (RetryRequest.lengthen_congr hsame.leastDelay_eq)
  cases s with
  | standard s =>
      have hrefresh : s.refresh r' m.draws = s.refresh r m.draws := by
        unfold StandardStrategy.refresh StandardStrategy.nextAttempt
        rw [hsame.token_eq, hsame.failure_eq, hlengthen]
      show (Answer.ofExcept (s.refresh r' m.draws).1, standard (s.refresh r' m.draws).2) = _
      rw [hrefresh]
      rfl
  | adaptive s =>
      have hrefresh : s.refresh r' m.now = s.refresh r m.now := by
        unfold AdaptiveStrategy.refresh AdaptiveStrategy.observed
        rw [hsame.token_eq, hsame.failure_eq, hlengthen]
      show (Answer.ofExcept (s.refresh r' m.now).1, adaptive (s.refresh r' m.now).2) = _
      rw [hrefresh]
      rfl

end Strategy

/-! ## §6. The main result. -/

/-- How a strategy that was built from the plan lets granted attempts wait. -/
structure HonoursDelays (p : Plan R) (s : Strategy R) : Prop where
  /-- No grant waits for less than its request suggests. -/
  atLeast : ∀ m request grant, (s.step m (.refresh request)).1 = .granted grant →
    request.leastDelay ≤ grant.delay
  /-- A standard strategy goes by the number of the granted token. -/
  byNumber : ∀ plan, p = .standard plan → ∀ m request grant,
    (s.step m (.refresh request)).1 = .granted grant → request.WaitsByNumber plan.backoff grant
  /-- An adaptive strategy goes by the slots of the scope. -/
  forSlot : ∀ plan, p = .adaptive plan → ∀ m request grant,
    (s.step m (.refresh request)).1 = .granted grant →
      ∃ own after, s = .adaptive own ∧ (s.step m (.refresh request)).2 = .adaptive after
        ∧ own.WaitsForSlot request m.now after grant
  /-- No suggested delay is as good as one of no time. -/
  asksSame : ∀ m (r r' : RetryRequest), r.AsksSame r' →
    s.step m (.refresh r') = s.step m (.refresh r)
  /-- An error that says itself how it counts is as good as its failure with its delay. -/
  ofError : ∀ m {ε : Type} [Classifiable ε] (token : Token) (error : ε),
    s.step m (.refresh (.ofError token error))
      = s.step m (.refresh
        ((RetryRequest.ofFailure token (Classifiable.classify error)).suggesting
          ((Classifiable.suggestedDelay error).getD .zero)))

/-- Every strategy honours the delays of its plan, in whatever state. -/
theorem Strategy.honoursDelays (s : Strategy R) : HonoursDelays s.plan s := by
  constructor
  case atLeast =>
    intro m request grant hgranted
    obtain ⟨wait, hdelay⟩ := exists_lengthened hgranted
    rw [hdelay]
    exact request.leastDelay_le_lengthen wait
  case byNumber =>
    intro plan hplan m request grant hgranted
    cases s with
    | standard own =>
        cases hplan
        exact StandardStrategy.waitsByNumber hgranted
    | adaptive own => cases hplan
  case forSlot =>
    intro plan hplan m request grant hgranted
    cases s with
    | standard own => cases hplan
    | adaptive own =>
        exact ⟨own, _, rfl, rfl,
          AdaptiveStrategy.waitsForSlot (Answer.ofExcept_eq_granted_iff.mp hgranted)⟩
  case asksSame =>
    intro m r r' hsame
    exact s.step_refresh_congr m hsame
  case ofError =>
    intro m ε _ token error
    exact s.step_refresh_congr m (RetryRequest.asksSame_ofError token error)

/-- **GRANTED ATTEMPTS WAIT AS LONG AS THEY SHOULD.**  In every state that a built strategy comes to
a grant waits for at least the suggested delay: a standard strategy lengthens the wait for the
number of the granted token to it, an adaptive one the wait for the slot that it takes at the
current time.  How the request came by its failure and its suggested delay makes no difference. -/
theorem delays_honoured {p : Plan R} {first : Strategy R} (hbuilt : p.build = .ok first)
    (uses : List Use) : HonoursDelays p (first.useAll uses).2 := by
  have hplan : (first.useAll uses).2.plan = p := by
    rw [Strategy.plan_useAll, p.plan_of_build hbuilt]
  have hhonours := (first.useAll uses).2.honoursDelays
  rw [hplan] at hhonours
  exact hhonours

/-- A suggested delay of half a minute is longer than a jittered wait of a second at most, so it is
waited for exactly. -/
theorem delays_honoured_suggested :
    let request : RetryRequest :=
      (RetryRequest.ofFailure (.initial "s") (.ofType .transient)).suggesting
        (Duration.ofMillis 30000)
    let grant : Grant := ⟨Duration.ofMillis 30000, ⟨"s", 2, 4⟩⟩
    scarcePlan.build = .ok scarceStrategy
      ∧ (scarceStrategy.step .start (.refresh request)).1 = .granted grant
      ∧ request.WaitsByNumber .default grant
      ∧ HonoursDelays scarcePlan (scarceStrategy.useAll []).2 := by
  intro request grant
  have hbuilt : scarcePlan.build = .ok scarceStrategy := rfl
  have hgranted : (scarceStrategy.step .start (.refresh request)).1 = .granted grant := by decide
  have hhonours := delays_honoured hbuilt []
  exact ⟨hbuilt, hgranted, hhonours.byNumber _ rfl .start request grant hgranted, hhonours⟩

end RetryControl
