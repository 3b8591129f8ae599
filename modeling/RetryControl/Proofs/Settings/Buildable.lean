/-
  RetryControl.Proofs.Settings.Buildable
  ────────────────────────────────
  **WHAT IS VALID CAN BE BUILT.**

  Settings are checked as a whole before a plan is made of them, and a plan is
  checked again when it is built.  The second check finds nothing that the
  first one has let through, whichever kind of strategy is built.  A strategy
  that was built does what its settings say, in every run, and the section
  that belongs to the other kind has no say in it.

    • `RetrySettings.build` — from settings to a strategy of either kind,
    • `build_eq_ok_iff` — it succeeds exactly for valid settings, with a
      strategy that is read off the settings,
    • `RetrySettings.Governs` — what the settings say about every answer,
      `governs_unused` — and that the strategy keeps to it,
    • `valid_iff_buildable` — all of this together, and the independence of
      the other kind's section.
-/
import RetryControl.Proofs.Admission.Decision
import RetryControl.Proofs.Admission.Rules
import RetryControl.Proofs.Backoff.Doubling
import RetryControl.Proofs.Strategy.Unjittered
import RetryControl.Proofs.Traffic.Conservation
import RetryControl.Settings.Basic

namespace RetryControl

/-! ## §1. Checks. -/

/-- A chain of checks passes when each of them does. -/
theorem Except.andThen_eq_ok_iff {ε : Type} {x y : Except ε Unit} :
    (x >>= fun _ => y) = .ok () ↔ x = .ok () ∧ y = .ok () := by
  cases x with
  | error error =>
      constructor
      · intro h
        cases h
      · rintro ⟨h, _⟩
        cases h
  | ok checked =>
      constructor
      · intro h
        exact ⟨rfl, h⟩
      · rintro ⟨_, h⟩
        exact h

theorem Except.orInvalid_eq_ok_iff {α : Type} {x : Except RetryError α} {a : α} :
    Except.orInvalid x = .ok a ↔ x = .ok a := by
  cases x with
  | error error =>
      constructor
      · intro h
        cases h
      · intro h
        cases h
  | ok a' =>
      constructor
      · intro h
        cases h
        rfl
      · rintro ⟨⟩
        rfl

namespace RetrySettings

variable {s : RetrySettings}

/-- Four things make settings valid. -/
theorem validate_eq_ok_iff :
    s.validate = .ok () ↔
      s.maxAttempts ≠ 0 ∧ s.retryOn ≠ [] ∧ s.backoff.backoff.validate = .ok ()
        ∧ s.adaptive.terms.validate = .ok () := by
  unfold validate
  by_cases hattempts : s.maxAttempts = 0
  · rw [if_pos hattempts]
    exact iff_of_false (nomatch ·) fun h => h.1 hattempts
  · rw [if_neg hattempts]
    by_cases hnone : s.retryOn = []
    · rw [if_pos (List.isEmpty_iff.mpr hnone)]
      exact iff_of_false (nomatch ·) fun h => h.2.1 hnone
    · rw [if_neg (mt List.isEmpty_iff.mp hnone), Except.andThen_eq_ok_iff,
        Except.orInvalid_eq_ok_iff, Except.orInvalid_eq_ok_iff]
      exact ⟨fun h => ⟨hattempts, hnone, h⟩, fun h => h.2.2⟩

/-- Settings are refused for one kind of reason only. -/
theorem invalid_of_validate {error : SettingsError} (hrefused : s.validate = .error error) :
    ∃ reason, error = .invalid reason := by
  unfold validate at hrefused
  split at hrefused
  · cases hrefused
    exact ⟨_, rfl⟩
  · split at hrefused
    · cases hrefused
      exact ⟨_, rfl⟩
    · cases hbackoff : s.backoff.backoff.validate with
      | error fault =>
          rw [hbackoff] at hrefused
          cases hrefused
          exact ⟨_, rfl⟩
      | ok checked =>
          rw [hbackoff] at hrefused
          cases hrates : s.adaptive.terms.validate with
          | error fault =>
              rw [hrates] at hrefused
              cases hrefused
              exact ⟨_, rfl⟩
          | ok checked =>
              rw [hrates] at hrefused
              cases hrefused

end RetrySettings

/-! ## §2. From settings to strategies. -/

/-- The two kinds of strategies. -/
inductive StrategyKind where
  /-- Delays by attempt number. -/
  | standard
  /-- Delays by send rate. -/
  | adaptive

namespace RetrySettings

/-- The plan of a kind. -/
def planOf (s : RetrySettings) : StrategyKind → Except SettingsError (Plan Float)
  | .standard => s.standardPlan.map .standard
  | .adaptive => s.adaptivePlan.map .adaptive

/-- The strategy that settings describe: a plan is made and built. -/
def build (s : RetrySettings) (kind : StrategyKind) : Except SettingsError (Strategy Float) :=
  s.planOf kind >>= fun plan => Except.orInvalid plan.build

/-- The strategy of a kind, read off the settings, with nothing used yet. -/
def unused (s : RetrySettings) : StrategyKind → Strategy Float
  | .standard => .standard { gate := { terms := s.gateTerms }, backoff := s.backoff.backoff }
  | .adaptive => .adaptive { gate := { terms := s.gateTerms }, rates := s.adaptive.terms }

variable {s : RetrySettings} {kind : StrategyKind}

@[simp] theorem gate_unused : (s.unused kind).gate = { terms := s.gateTerms } := by
  cases kind <;> rfl

/-- The plan of valid settings is the plan of the strategy that is read off them. -/
theorem planOf_of_valid (hvalid : s.validate = .ok ()) :
    s.planOf kind = .ok (s.unused kind).plan := by
  cases kind with
  | standard =>
      unfold planOf standardPlan
      rw [hvalid]
      rfl
  | adaptive =>
      unfold planOf adaptivePlan
      rw [hvalid]
      rfl

/-- **Valid settings can be built**: what the plan checks again has been checked before. -/
theorem build_of_valid (hvalid : s.validate = .ok ()) : s.build kind = .ok (s.unused kind) := by
  obtain ⟨hattempts, _, hbackoff, hrates⟩ := validate_eq_ok_iff.mp hvalid
  have hgate : s.gateTerms.validate = .ok () := if_neg hattempts
  -- each plan checks the gate and the section of its kind again
  have hbuilt : (s.unused kind).plan.build = .ok (s.unused kind) := by
    cases kind with
    | standard =>
        have hstandard : (StandardPlan.mk s.gateTerms s.backoff.backoff).build = .ok _ :=
          StandardPlan.build_eq_ok_iff.mpr ⟨hbackoff, hgate, rfl⟩
        exact congrArg (Except.map Strategy.standard) hstandard
    | adaptive =>
        have hadaptive : (AdaptivePlan.mk s.gateTerms s.adaptive.terms).build = .ok _ :=
          AdaptivePlan.build_eq_ok_iff.mpr ⟨hrates, hgate, rfl⟩
        exact congrArg (Except.map Strategy.adaptive) hadaptive
  unfold build
  rw [planOf_of_valid hvalid]
  exact Except.orInvalid_eq_ok_iff.mpr hbuilt

/-- Settings that are refused are refused for every kind, for the same reason. -/
theorem build_of_invalid {error : SettingsError} (hrefused : s.validate = .error error) :
    s.build kind = .error error := by
  cases kind with
  | standard =>
      unfold build planOf standardPlan
      rw [hrefused]
      rfl
  | adaptive =>
      unfold build planOf adaptivePlan
      rw [hrefused]
      rfl

/-- **What can be built is what is valid.** -/
theorem build_eq_ok_iff {built : Strategy Float} :
    s.build kind = .ok built ↔ s.validate = .ok () ∧ built = s.unused kind := by
  cases hchecked : s.validate with
  | error error =>
      rw [build_of_invalid hchecked]
      exact iff_of_false (nomatch ·) fun h => nomatch h.1
  | ok checked =>
      rw [build_of_valid hchecked, Except.ok.injEq]
      exact ⟨fun h => ⟨rfl, h.symm⟩, fun h => h.2.symm⟩

/-- Leaving the strategy out, building is checking. -/
theorem build_unit : (s.build kind).map (fun _ => ()) = s.validate := by
  cases hchecked : s.validate with
  | error error =>
      rw [build_of_invalid hchecked]
      rfl
  | ok checked =>
      rw [build_of_valid hchecked]
      rfl

end RetrySettings

/-! ## §3. What settings say about answers. -/

/-- The longest wait before an attempt after the first one, in unbounded arithmetic: a second is a
thousand milliseconds, and delays that double come to their cap at the latest with the
thirty-fourth attempt. -/
def BackoffSettings.ceilingNanos (s : BackoffSettings) (attempt : Nat) : Nat :=
  let base := s.baseDelayMs.toNat * nanosPerMilli
  let cap := s.maxDelayMs.toNat * nanosPerMilli
  match s.kind with
  | .immediate => 0
  | .fixed | .fixedWithoutJitter => base
  | .exponential | .exponentialWithoutJitter =>
      if attempt < 34 then min cap (base * 2 ^ (attempt - 2)) else cap

/-- What the section on delays says about waits. -/
structure BackoffSettings.Describes (s : BackoffSettings) (b : Backoff) : Prop where
  /-- Waits are drawn at random for two of the kinds. -/
  jittered_iff : b.isJittered = true ↔ s.kind = .fixed ∨ s.kind = .exponential
  /-- The wait, or the longest one that can be drawn. -/
  ceiling_eq : ∀ attempt : Count, (b.ceiling attempt).nanos = s.ceilingNanos attempt.toNat

/-- What the section on rate control says about the terms of limiters. -/
structure AdaptiveSettings.Describes (s : AdaptiveSettings) (t : RateTerms Float) : Prop where
  minRate_eq : t.minRate = s.minRate
  maxRate_eq : t.maxRate = s.maxRate
  decreaseFactor_eq : t.decreaseFactor = s.decreaseFactor
  increaseStep_eq : t.increaseStep = s.increaseStep
  cooldown_eq : t.cooldown.nanos = s.cooldownMs.toNat * nanosPerMilli

theorem BackoffSettings.describes (s : BackoffSettings) : s.Describes s.backoff := by
  have hdoubled : ∀ attempt : Count,
      (Backoff.exponentialCeiling (.ofMillis s.baseDelayMs) (.ofMillis s.maxDelayMs) attempt).nanos
        = if attempt.toNat < 34 then
            min (s.maxDelayMs.toNat * nanosPerMilli)
              (s.baseDelayMs.toNat * nanosPerMilli * 2 ^ (attempt.toNat - 2))
          else s.maxDelayMs.toNat * nanosPerMilli := by
    intro attempt
    split
    · rename_i hearly
      exact Backoff.exponentialCeiling_early hearly
    · rename_i hlate
      rw [Backoff.exponentialCeiling_late (Nat.le_of_not_lt hlate)]
      rfl
  constructor
  · unfold backoff
    cases s.kind <;> simp [Backoff.isJittered]
  · intro attempt
    unfold backoff ceilingNanos
    cases s.kind with
    | immediate => rfl
    | fixed => rfl
    | fixedWithoutJitter => rfl
    | exponential => exact hdoubled attempt
    | exponentialWithoutJitter => exact hdoubled attempt

theorem AdaptiveSettings.describes (s : AdaptiveSettings) : s.Describes s.terms :=
  ⟨rfl, rfl, rfl, rfl, rfl⟩

namespace RetrySettings

/-- What a retry costs by the settings: clients' errors are free, and so is everything while the
breaker is off. -/
def charge (s : RetrySettings) (errorType : ErrorType) : Nat :=
  if s.circuitBreakerEnabled = true ∧ errorType ≠ .clientError then s.budget.retryCost.toNat else 0

/-- What a success earns by the settings. -/
def credit (s : RetrySettings) (debited : Count) : Nat :=
  if s.circuitBreakerEnabled = true then
    if s.budget.repayDebitedOnSuccess = true then
      max s.budget.successCredit.toNat debited.toNat
    else s.budget.successCredit.toNat
  else 0

/-- The section on delays describes a standard plan, the one on rate control an adaptive plan. -/
def DescribesDelays (s : RetrySettings) : StrategyKind → Plan Float → Prop
  | .standard, .standard plan => s.backoff.Describes plan.backoff
  | .adaptive, .adaptive plan => s.adaptive.Describes plan.rates
  | .standard, .adaptive _ | .adaptive, .standard _ => False

/-- What settings say about the answers of a strategy, whatever it has been used for before. -/
structure Governs (s : RetrySettings) (kind : StrategyKind) (built : Strategy Float) : Prop where
  /-- A failure is given up at once exactly if its outermost error type is not listed. -/
  nonRetryable_iff : ∀ ops m (request : RetryRequest),
    ((built.run ops).2.step m (.refresh request)).1
        = .refused (.nonRetryable request.token.scope request.failure.errorType)
      ↔ request.failure.errorType ∉ s.retryOn
  /-- A call whose failure is listed has used its attempts up exactly if it has made as many as it
  may. -/
  exhausted_iff : ∀ ops m (request : RetryRequest),
    ((built.run ops).2.step m (.refresh request)).1
        = .refused (.exhausted request.token.scope request.token.attemptsMade s.maxAttempts)
      ↔ request.failure.errorType ∈ s.retryOn
        ∧ s.maxAttempts.toNat ≤ request.token.attemptsMade.toNat
  /-- Otherwise an attempt is granted exactly if the scope has its cost left. -/
  granted_iff : ∀ ops m (request : RetryRequest),
    (∃ grant, ((built.run ops).2.step m (.refresh request)).1 = .granted grant)
      ↔ request.failure.errorType ∈ s.retryOn
        ∧ request.token.attemptsMade.toNat < s.maxAttempts.toNat
        ∧ s.charge request.failure.errorType
          ≤ ((built.run ops).2.capacity request.token.scope).toNat
  /-- A scope has the whole budget at first. -/
  capacity_eq : ∀ scope, built.capacity scope = s.budget.initialCapacity
  /-- A success is credited by its call's debits or by the fixed credit, unless the breaker is
  off. -/
  credited : ∀ ops m (token : Token), ∃ amount : Count,
    ((built.run ops).2.step m (.succeed token)).1 = .credited amount
      ∧ amount.toNat = s.credit token.budgetDebited
  /-- The delays are those of the section that belongs to the kind. -/
  delays : ∀ ops, s.DescribesDelays kind (built.run ops).2.plan

/-- The rule of the settings looks at the outermost link only. -/
theorem retries_gateTerms {s : RetrySettings} (hlisted : s.retryOn ≠ []) (failure : Failure) :
    s.gateTerms.rule.retries failure = true ↔ failure.errorType ∈ s.retryOn :=
  RetryRule.retries_ofErrorTypes hlisted failure

/-- The gate of the settings credits what the settings say. -/
theorem toNat_credit_gateTerms (s : RetrySettings) {g : Gate} (hterms : g.terms = s.gateTerms)
    (token : Token) : (g.succeed token).1.toNat = s.credit token.budgetDebited := by
  rw [g.credit_succeed, hterms]
  unfold credit
  show (if s.circuitBreakerEnabled = true then s.gateTerms.budget.creditFor token.budgetDebited
    else 0 : Count).toNat = _
  split
  · by_cases hrepay : s.budget.repayDebitedOnSuccess = true
    · have hpolicy : s.gateTerms.budget.policy = .repayDebited := if_pos hrepay
      rw [if_pos hrepay, BudgetTerms.toNat_creditFor_repay hpolicy]
      rfl
    · have hpolicy : s.gateTerms.budget.policy = .fixed := if_neg hrepay
      rw [if_neg hrepay]
      unfold BudgetTerms.creditFor
      rw [hpolicy]
      rfl
  · rfl

/-- **A strategy keeps to the settings that it was read off**, in every run: its terms are theirs
and no operation changes them. -/
theorem governs_unused {s : RetrySettings} {kind : StrategyKind} (hlisted : s.retryOn ≠ []) :
    s.Governs kind (s.unused kind) := by
  have hterms : ∀ ops, ((s.unused kind).run ops).2.gate.terms = s.gateTerms := by
    intro ops
    rw [Strategy.terms_run, gate_unused]
  constructor
  case nonRetryable_iff =>
    intro ops m request
    rw [Strategy.refused_iff, Gate.nonRetryable_iff, hterms, ← Bool.not_eq_true,
      retries_gateTerms hlisted]
  case exhausted_iff =>
    intro ops m request
    have hlimit : ((s.unused kind).run ops).2.gate.terms.maxAttempts = s.maxAttempts :=
      congrArg GateTerms.maxAttempts (hterms ops)
    rw [Strategy.refused_iff, ← hlimit, Gate.exhausted_iff, hterms, retries_gateTerms hlisted]
  case granted_iff =>
    intro ops m request
    rw [Strategy.granted_iff, Gate.granted_iff, hterms, retries_gateTerms hlisted]
    rfl
  case capacity_eq =>
    intro scope
    cases kind <;> rfl
  case credited =>
    intro ops m token
    exact ⟨_, Strategy.answer_succeed _ m token, toNat_credit_gateTerms s (hterms ops) token⟩
  case delays =>
    intro ops
    rw [Strategy.plan_run]
    cases kind with
    | standard => exact s.backoff.describes
    | adaptive => exact s.adaptive.describes

/-! ## §4. The main result. -/

/-- **VALID SETTINGS ARE THE BUILDABLE ONES, AND GOVERN WHAT IS BUILT.**  For both kinds building
fails exactly where the check does, with its error; a strategy that was built keeps to the settings
in every run; and a section that belongs to the other kind makes no difference to any run. -/
theorem valid_iff_buildable (s : RetrySettings) :
    (∀ kind, (s.build kind).map (fun _ => ()) = s.validate)
      ∧ (∀ error, s.validate = .error error → ∃ reason, error = .invalid reason)
      ∧ (∀ kind built, s.build kind = .ok built → s.Governs kind built)
      ∧ (∀ rates built other, s.build .standard = .ok built →
          { s with adaptive := rates }.build .standard = .ok other →
          ∀ ops, other.run ops = built.run ops)
      ∧ ∀ delays built other, s.build .adaptive = .ok built →
          { s with backoff := delays }.build .adaptive = .ok other →
          ∀ ops, other.run ops = built.run ops := by
  refine ⟨fun kind => build_unit, fun error => invalid_of_validate, ?_, ?_, ?_⟩
  · intro kind built hbuilt
    obtain ⟨hvalid, rfl⟩ := build_eq_ok_iff.mp hbuilt
    exact governs_unused (validate_eq_ok_iff.mp hvalid).2.1
  · intro rates built other hbuilt hother ops
    obtain ⟨_, rfl⟩ := build_eq_ok_iff.mp hbuilt
    obtain ⟨_, rfl⟩ := build_eq_ok_iff.mp hother
    rfl
  · intro delays built other hbuilt hother ops
    obtain ⟨_, rfl⟩ := build_eq_ok_iff.mp hbuilt
    obtain ⟨_, rfl⟩ := build_eq_ok_iff.mp hother
    rfl

/-- The default settings build strategies of both kinds, and so they do with a higher least rate or
with fixed delays; without attempts they build none. -/
theorem valid_iff_buildable_default :
    let s : RetrySettings := {}
    let rates : AdaptiveSettings := { minRate := 2.0 }
    let delays : BackoffSettings := { kind := .fixed }
    s.Governs .standard (s.unused .standard)
      ∧ (∀ ops, ({ s with adaptive := rates }.unused .standard).run ops
        = (s.unused .standard).run ops)
      ∧ (∀ ops, ({ s with backoff := delays }.unused .adaptive).run ops
        = (s.unused .adaptive).run ops)
      ∧ ∀ kind, ({ s with maxAttempts := 0 }.build kind).map (fun _ => ())
        = .error (.invalid "max_attempts must be >= 1") := by
  intro s rates delays
  have hvalid : s.validate = .ok () := by decide +kernel
  have hrates : { s with adaptive := rates }.validate = .ok () := by decide +kernel
  have hdelays : { s with backoff := delays }.validate = .ok () := by decide +kernel
  obtain ⟨_, _, hgoverns, hstandard, hadaptive⟩ := valid_iff_buildable s
  exact ⟨hgoverns _ _ (build_of_valid hvalid),
    hstandard rates _ _ (build_of_valid hvalid) (build_of_valid hrates),
    hadaptive delays _ _ (build_of_valid hvalid) (build_of_valid hdelays),
    (valid_iff_buildable { s with maxAttempts := 0 }).1⟩

end RetrySettings

end RetryControl
