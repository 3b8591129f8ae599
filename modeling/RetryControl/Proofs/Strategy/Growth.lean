/-
  RetryControl.Proofs.Strategy.Growth
  ────────────────────────────────
  **DELAYS THAT NEVER FALL.**

  The ceiling of a doubling delay comes from three places: the product, the
  cap where the product is no duration, and the cap where the factor has no 32
  bits any more.  Whichever of them two ceilings come from, a later attempt, a
  longer base and a longer cap never make the ceiling shorter, and it never
  exceeds its cap.  So the retries of a call wait longer and longer:

    • `exponentialCeiling_mono`, `exponentialCeiling_le` — the order of the
      ceilings, in all three arguments at once, and their bound,
    • `steadyDelay` — the delay before any attempt, drawn or not,
    • `CallDelays` — the delays that one call is granted, whatever else the
      strategy is asked meanwhile,
    • `CallDelays.eq_steadyDelays` — they are those of the attempts from the
      second one on,
    • `delays_never_fall` — all of it, for built strategies.
-/
import RetryControl.Proofs.Strategy.Delays

namespace RetryControl

namespace Backoff

/-! ## §1. The order of ceilings. -/

/-- **No ceiling exceeds its cap.** -/
theorem exponentialCeiling_le (base cap : Duration) (attempt : Count) :
    exponentialCeiling base cap attempt ≤ cap := by
  by_cases hearly : attempt.toNat < 34
  · rw [Duration.le_def, exponentialCeiling_early hearly]
    exact Nat.min_le_left _ _
  · rw [exponentialCeiling_late (Nat.le_of_not_lt hearly)]
    exact Nat.le_refl _

/-- **Later attempts, longer bases and longer caps have longer ceilings.** -/
theorem exponentialCeiling_mono {base base' cap cap' : Duration} {attempt later : Count}
    (hbase : base ≤ base') (hcap : cap ≤ cap') (hlater : attempt.toNat ≤ later.toNat) :
    exponentialCeiling base cap attempt ≤ exponentialCeiling base' cap' later := by
  by_cases hearly : later.toNat < 34
  · -- both ceilings are doubled base delays
    have hfactor : 2 ^ (attempt.toNat - 2) ≤ 2 ^ (later.toNat - 2) :=
      Nat.pow_le_pow_right (by decide) (Nat.sub_le_sub_right hlater 2)
    have hdoubled : base.nanos * 2 ^ (attempt.toNat - 2)
        ≤ base'.nanos * 2 ^ (later.toNat - 2) := Nat.mul_le_mul hbase hfactor
    rw [Duration.le_def, exponentialCeiling_early hearly,
      exponentialCeiling_early (Nat.lt_of_le_of_lt hlater hearly)]
    rw [Duration.le_def] at hcap
    unfold doubledNanos
    omega
  · -- the later one is its cap, whatever the other one comes from
    rw [exponentialCeiling_late (Nat.le_of_not_lt hearly)]
    exact Nat.le_trans (exponentialCeiling_le base cap attempt) hcap

/-- The longest delay that a backoff is set up for. -/
def longest : Backoff → Duration
  | .immediate => .zero
  | .fixed delay _ => delay
  | .exponential _ cap _ => cap

theorem ceiling_le_longest (b : Backoff) (attempt : Count) : b.ceiling attempt ≤ b.longest := by
  cases b with
  | immediate => exact Nat.le_refl _
  | fixed delay jitter => exact Nat.le_refl _
  | exponential base cap jitter => exact exponentialCeiling_le base cap attempt

theorem ceiling_mono (b : Backoff) {attempt later : Count}
    (hlater : attempt.toNat ≤ later.toNat) : b.ceiling attempt ≤ b.ceiling later := by
  cases b with
  | immediate => exact Nat.le_refl _
  | fixed delay jitter => exact Nat.le_refl _
  | exponential base cap jitter =>
      exact exponentialCeiling_mono (Nat.le_refl _) (Nat.le_refl _) hlater

/-! ## §2. Delays without jitter. -/

/-- The delay before an attempt if nothing is drawn: the ceiling, but none before the first
attempt. -/
def steadyDelay (b : Backoff) (attempt : Count) : Duration :=
  if attempt.toNat < 2 then .zero else b.ceiling attempt

/-- Without jitter every attempt with a number waits just that. -/
theorem wait_steadyDelay {b : Backoff} (hsteady : b.isJittered = false) {attempt : Count}
    (hnumber : 1 ≤ attempt.toNat) (draws : Draws) :
    b.wait attempt draws = .ok ⟨b.steadyDelay attempt, 0⟩ := by
  unfold steadyDelay
  by_cases hfirst : attempt.toNat < 2
  · obtain rfl : attempt = 1 := UInt32.toNat_inj.mp (by omega : attempt.toNat = 1)
    rw [if_pos hfirst, wait_attempt_one]
  · rw [if_neg hfirst, wait_of_two_le b (Nat.le_of_not_lt hfirst), hsteady]
    rfl

/-- Delays without jitter are in the order of their ceilings. -/
theorem steadyDelay_mono {b b' : Backoff} {attempt later : Count}
    (hlater : attempt.toNat ≤ later.toNat) (hceiling : b.ceiling attempt ≤ b'.ceiling later) :
    b.steadyDelay attempt ≤ b'.steadyDelay later := by
  unfold steadyDelay
  by_cases hfirst : attempt.toNat < 2
  · rw [if_pos hfirst]
    exact Nat.zero_le _
  · rw [if_neg hfirst, if_neg (by omega)]
    exact hceiling

theorem steadyDelay_le_longest (b : Backoff) (attempt : Count) :
    b.steadyDelay attempt ≤ b.longest := by
  unfold steadyDelay
  split
  · exact Nat.zero_le _
  · exact b.ceiling_le_longest attempt

/-- The delays before so many retries, which are the attempts from the second one on. -/
def steadyDelays (b : Backoff) (retries : Nat) : List Duration :=
  (List.range retries).map fun k => b.steadyDelay (Count.clamp (k + 2))

theorem steadyDelays_succ (b : Backoff) (retries : Nat) :
    b.steadyDelays (retries + 1)
      = b.steadyDelays retries ++ [b.steadyDelay (Count.clamp (retries + 2))] := by
  unfold steadyDelays
  rw [List.range_succ, List.map_append]
  rfl

/-- **Delays of successive retries never fall.** -/
theorem pairwise_steadyDelays (b : Backoff) (retries : Nat) :
    (b.steadyDelays retries).Pairwise (· ≤ ·) := by
  refine List.pairwise_map.mpr (List.pairwise_lt_range.imp fun {k n} hlt => ?_)
  have hlater : (Count.clamp (k + 2)).toNat ≤ (Count.clamp (n + 2)).toNat := by
    rw [Count.toNat_clamp, Count.toNat_clamp]
    omega
  exact steadyDelay_mono hlater (b.ceiling_mono hlater)

theorem steadyDelays_le_longest (b : Backoff) (retries : Nat) :
    ∀ d ∈ b.steadyDelays retries, d ≤ b.longest := by
  intro d hmem
  obtain ⟨k, _, rfl⟩ := List.mem_map.mp hmem
  exact b.steadyDelay_le_longest _

end Backoff

/-! ## §3. The delays of one call. -/

variable {R : Type} [RateArithmetic R]

/-- The delays of the retries that a call in the scope was granted, in their order, the token that it
holds then, and the strategy by then.  No failure of the call suggested a delay.  The call may start
after any operations, and any operations may come in between, with whatever tokens. -/
inductive CallDelays (first : Strategy R) (scope : String) :
    Strategy R → List Duration → Token → Prop where
  /-- The call starts. -/
  | acquired (ops : List (Moment × Operation)) (m : Moment) {grant : Grant}
      (hgranted : ((first.run ops).2.step m (.acquire scope)).1 = .granted grant) :
      CallDelays first scope ((first.run ops).2.step m (.acquire scope)).2 [] grant.token
  /-- The strategy is asked something else. -/
  | between {s : Strategy R} {delays : List Duration} {token : Token} (m : Moment)
      (op : Operation) (hcall : CallDelays first scope s delays token) :
      CallDelays first scope (s.step m op).2 delays token
  /-- The call is granted another attempt after a failure. -/
  | retried {s : Strategy R} {delays : List Duration} (m : Moment) {request : RetryRequest}
      {grant : Grant} (hcall : CallDelays first scope s delays request.token)
      (hunsuggested : request.suggestedDelay = none)
      (hgranted : (s.step m (.refresh request)).1 = .granted grant) :
      CallDelays first scope (s.step m (.refresh request)).2 (delays ++ [grant.delay]) grant.token

namespace CallDelays

variable {first s : Strategy R} {scope : String} {delays : List Duration} {token : Token}

/-- The tokens of such a call are those of a call with as many failures. -/
theorem exists_callToken (hcall : CallDelays first scope s delays token) :
    ∃ failures, failures.length = delays.length ∧ CallToken first scope s failures token := by
  induction hcall with
  | acquired ops m hgranted => exact ⟨[], rfl, .acquired ops m hgranted⟩
  | between m op hcall ih =>
      obtain ⟨failures, hlength, htoken⟩ := ih
      exact ⟨failures, hlength, htoken.between m op⟩
  | @retried s delays m request grant hcall hunsuggested hgranted ih =>
      obtain ⟨failures, hlength, htoken⟩ := ih
      refine ⟨failures ++ [request.failure], ?_, htoken.retried m hgranted⟩
      rw [List.length_append, List.length_append, hlength]
      rfl

theorem plan_eq (hcall : CallDelays first scope s delays token) : s.plan = first.plan := by
  induction hcall with
  | acquired ops m hgranted => rw [Strategy.plan_step, Strategy.plan_run]
  | between m op hcall ih => rw [Strategy.plan_step, ih]
  | retried m hcall hunsuggested hgranted ih => rw [Strategy.plan_step, ih]

/-- A retry without a suggested delay waits what the backoff says for the number of its token. -/
theorem delay_eq {own : StandardStrategy} {m : Moment} {request : RetryRequest} {grant : Grant}
    (hsteady : own.backoff.isJittered = false) (hunsuggested : request.suggestedDelay = none)
    (hgranted : ((Strategy.standard own : Strategy R).step m (.refresh request)).1
      = .granted grant) :
    grant.delay = own.backoff.steadyDelay grant.token.attemptsMade := by
  have hnumber := StandardStrategy.one_le_nextAttempt request
  obtain ⟨wait, hwait, hdelay⟩ := Strategy.delay_of_granted hgranted
  rw [Strategy.nextAttempt_of_granted hgranted] at hwait hnumber
  rw [Backoff.wait_steadyDelay hsteady hnumber] at hwait
  cases hwait
  unfold RetryRequest.lengthen at hdelay
  rw [hunsuggested] at hdelay
  exact hdelay

/-- **A call waits for the delays of its attempts, one after another.** -/
theorem eq_steadyDelays {plan : StandardPlan} (hplan : first.plan = .standard plan)
    (hsteady : plan.backoff.isJittered = false) (hlimit : 0 < first.gate.terms.maxAttempts.toNat)
    (hcall : CallDelays first scope s delays token) :
    delays = plan.backoff.steadyDelays delays.length := by
  induction hcall with
  | acquired ops m hgranted => rfl
  | between m op hcall ih => exact ih
  | @retried s delays m request grant hcall hunsuggested hgranted ih =>
      obtain ⟨failures, hlength, htoken⟩ := exists_callToken
        (hcall.retried m hunsuggested hgranted)
      have hmade := (htoken.numbered hlimit).attemptsMade_eq
      have hmost := Count.toNat_le_maxNat grant.token.attemptsMade
      -- the number of the token is the number of the retry and one more
      have hattempt : grant.token.attemptsMade = Count.clamp (delays.length + 2) := by
        apply UInt32.toNat_inj.mp
        rw [List.length_append, List.length_singleton] at hlength
        rw [Count.toNat_clamp]
        omega
      have hkept := hcall.plan_eq.trans hplan
      cases s with
      | adaptive own => cases hkept
      | standard own =>
          obtain rfl : own.plan = plan := Plan.standard.inj hkept
          have hdelay : grant.delay = own.backoff.steadyDelay _ :=
            delay_eq hsteady hunsuggested hgranted
          rw [List.length_append, List.length_singleton, Backoff.steadyDelays_succ, ← ih, hdelay,
            hattempt]
          rfl

end CallDelays

/-! ## §4. The main result. -/

/-- **DELAYS NEVER FALL.**  Without jitter the delay of a doubling backoff is at most its cap, and it
is not shortened by a later attempt, a longer base or a longer cap, on whichever side of its limits.
So the retries of a call on a built strategy without jitter wait for the delays of the attempts from
the second one on, as long as no failure suggests a delay: these never fall, and none is longer than
the backoff is set up for. -/
theorem delays_never_fall :
    (∀ (base base' cap cap' : Duration) (attempt later : Count) (draws draws' : Draws),
        1 ≤ attempt.toNat → attempt ≤ later → base ≤ base' → cap ≤ cap' →
        ∃ delay delay', (Backoff.exponential base cap false).wait attempt draws = .ok ⟨delay, 0⟩
          ∧ (Backoff.exponential base' cap' false).wait later draws' = .ok ⟨delay', 0⟩
          ∧ delay ≤ delay' ∧ delay' ≤ cap')
      ∧ ∀ (plan : StandardPlan) (first : Strategy R),
        (Plan.standard plan : Plan R).build = .ok first → plan.backoff.isJittered = false →
        ∀ scope s delays token, CallDelays first scope s delays token →
          delays = plan.backoff.steadyDelays delays.length
            ∧ delays.Pairwise (· ≤ ·) ∧ ∀ d ∈ delays, d ≤ plan.backoff.longest := by
  constructor
  · intro base base' cap cap' attempt later draws draws' hnumber hlater hbase hcap
    have hle : attempt.toNat ≤ later.toNat := UInt32.le_iff_toNat_le.mp hlater
    refine ⟨_, _, Backoff.wait_steadyDelay rfl hnumber draws,
      Backoff.wait_steadyDelay rfl (hnumber.trans hle) draws', ?_, ?_⟩
    · exact Backoff.steadyDelay_mono hle (Backoff.exponentialCeiling_mono hbase hcap hle)
    · exact Backoff.steadyDelay_le_longest _ later
  · intro plan first hbuilt hsteady scope s delays token hcall
    have hdelays := hcall.eq_steadyDelays (Plan.plan_of_build hbuilt) hsteady
      (Plan.maxAttempts_pos hbuilt)
    refine ⟨hdelays, ?_, ?_⟩
    · rw [hdelays]
      exact plan.backoff.pairwise_steadyDelays _
    · rw [hdelays]
      exact plan.backoff.steadyDelays_le_longest _

/-- A plan for five attempts whose delays come to their cap on the way. -/
def cappedPlan : StandardPlan :=
  { gate := { maxAttempts := 5 }
    backoff := .exponential (.ofMillis 100) (.ofMillis 300) false }

/-- The strategy of this plan. -/
def cappedStrategy : Strategy Float :=
  .standard { gate := { terms := cappedPlan.gate }, backoff := cappedPlan.backoff }

/-- A base of no time leaps to its cap with the thirty-fourth attempt, but it does not fall; and a
call whose scope is forgotten on the way waits for a tenth of a second, for two and for three. -/
theorem delays_never_fall_capped :
    let request (made debited : Count) : RetryRequest :=
      { token := ⟨"s", made, debited⟩, failure := .ofType .transient }
    let s : Strategy Float :=
      (cappedStrategy.run
        [(.start, .acquire "s"), (.start, .refresh (request 1 0)),
          (.start, .refresh (request 2 5)), (.start, .evict "s"),
          (.start, .refresh (request 3 10))]).2
    let delays : List Duration := [.ofMillis 100, .ofMillis 200, .ofMillis 300]
    1 ≤ (33 : Count).toNat ∧ (33 : Count) ≤ 34
      ∧ (∃ delay delay',
        (Backoff.exponential .zero (.ofMillis 300) false).wait 33 (fun _ => 0) = .ok ⟨delay, 0⟩
          ∧ (Backoff.exponential .zero (.ofMillis 300) false).wait 34 (fun _ => 0)
            = .ok ⟨delay', 0⟩
          ∧ delay ≤ delay' ∧ delay' ≤ .ofMillis 300)
      ∧ (Plan.standard cappedPlan : Plan Float).build = .ok cappedStrategy
      ∧ cappedPlan.backoff.isJittered = false
      ∧ CallDelays cappedStrategy "s" s delays ⟨"s", 4, 15⟩
      ∧ delays.Pairwise (· ≤ ·) ∧ ∀ d ∈ delays, d ≤ .ofMillis 300 := by
  intro request s delays
  have hnumber : 1 ≤ (33 : Count).toNat := by decide
  have hlater : (33 : Count) ≤ 34 := by decide
  have hbuilt : (Plan.standard cappedPlan : Plan Float).build = .ok cappedStrategy := rfl
  have hsteady : cappedPlan.backoff.isJittered = false := rfl
  have hstart : CallDelays cappedStrategy "s" (cappedStrategy.run [(.start, .acquire "s")]).2 []
      (request 1 0).token := .acquired [] .start rfl
  have hfirst : CallDelays cappedStrategy "s" _ [.ofMillis 100] (request 2 5).token :=
    hstart.retried .start rfl
      (by decide : _ = Answer.granted ⟨.ofMillis 100, ⟨"s", 2, 5⟩⟩)
  have hsecond : CallDelays cappedStrategy "s" _ [.ofMillis 100, .ofMillis 200]
      (request 3 10).token :=
    hfirst.retried .start rfl
      (by decide : _ = Answer.granted ⟨.ofMillis 200, ⟨"s", 3, 10⟩⟩)
  have hcall : CallDelays cappedStrategy "s" s delays ⟨"s", 4, 15⟩ :=
    (hsecond.between .start (.evict "s")).retried .start rfl
      (by decide : _ = Answer.granted ⟨.ofMillis 300, ⟨"s", 4, 15⟩⟩)
  obtain ⟨hleap, hcalls⟩ := delays_never_fall (R := Float)
  obtain ⟨_, hsorted, hlongest⟩ := hcalls cappedPlan cappedStrategy hbuilt hsteady "s" s delays _
    hcall
  exact ⟨hnumber, hlater,
    hleap .zero .zero (.ofMillis 300) (.ofMillis 300) 33 34 (fun _ => 0) (fun _ => 0) hnumber
      hlater (Nat.le_refl _) (Nat.le_refl _),
    hbuilt, hsteady, hcall, hsorted, hlongest⟩

end RetryControl
