/-
  RetryControl.Strategy.Basic
  ────────────────────────────────
  **STRATEGIES OF BOTH KINDS.**

  One interface to the standard and the adaptive strategy: the operations,
  what can be read without changing anything, and runs of many operations.
  The lemmas say what the drivers of calls rely on: the attempt limit never
  changes, and an admitted retry is below it.
-/
import RetryControl.Strategy.Adaptive
import RetryControl.Strategy.Standard

namespace RetryControl

/-- A strategy of either kind. -/
inductive Strategy (R : Type) where
  /-- Delays by attempt number. -/
  | standard (strategy : StandardStrategy)
  /-- Delays by send rate. -/
  | adaptive (strategy : AdaptiveStrategy R)

namespace Strategy

variable {R : Type} [RateArithmetic R]

/-! ## §1. Reading. -/

/-- The gate of a strategy. -/
def gate : Strategy R → Gate
  | .standard s => s.gate
  | .adaptive s => s.gate

/-- The most attempts of one call. -/
def maxAttempts (s : Strategy R) : Count := s.gate.terms.maxAttempts

/-- What a scope has left for retries. -/
def capacity (s : Strategy R) (scope : String) : Count := s.gate.capacity scope

/-- The rate that a scope is paced at, if it is. -/
def rate : Strategy R → String → Option R
  | .standard _, _ => none
  | .adaptive s, scope => s.rate scope

/-- How many scopes hold a bucket, and for an adaptive strategy how many hold a limiter. -/
def scopeCounts : Strategy R → List Nat
  | .standard s => [s.gate.buckets.size]
  | .adaptive s => [s.gate.buckets.size, s.limiters.size]

/-! ## §2. Operations. -/

/-- The first attempt of a call. -/
def acquire (s : Strategy R) (m : Moment) (scope : String) : Grant × Strategy R :=
  match s with
  | .standard s => (⟨.zero, .initial scope⟩, .standard s)
  | .adaptive s =>
    let (grant, s) := s.acquire scope m.now
    (grant, .adaptive s)

/-- Another attempt after a failure. -/
def refresh (s : Strategy R) (m : Moment) (request : RetryRequest) :
    Except RetryError Grant × Strategy R :=
  match s with
  | .standard s =>
    let (answer, s) := s.refresh request m.draws
    (answer, .standard s)
  | .adaptive s =>
    let (answer, s) := s.refresh request m.now
    (answer, .adaptive s)

/-- The credit of a success. -/
def succeed (s : Strategy R) (m : Moment) (token : Token) : Count × Strategy R :=
  match s with
  | .standard s =>
    let (credited, s) := s.succeed token
    (credited, .standard s)
  | .adaptive s =>
    let (credited, s) := s.succeed token m.now
    (credited, .adaptive s)

/-- Forgets a scope; the answer says whether there was anything to forget. -/
def evict (s : Strategy R) (scope : String) : Bool × Strategy R :=
  match s with
  | .standard s =>
    let (existed, s) := s.evict scope
    (existed, .standard s)
  | .adaptive s =>
    let (existed, s) := s.evict scope
    (existed, .adaptive s)

/-! ## §3. Runs. -/

/-- One operation of any kind. -/
def step (s : Strategy R) (m : Moment) : Operation → Answer × Strategy R
  | .acquire scope => let (grant, s) := s.acquire m scope; (.granted grant, s)
  | .refresh request => let (answer, s) := s.refresh m request; (.ofExcept answer, s)
  | .succeed token => let (credited, s) := s.succeed m token; (.credited credited, s)
  | .evict scope => let (existed, s) := s.evict scope; (.evicted existed, s)

/-- Operations one after another, each at its own moment: the answers and the last strategy. -/
def run (s : Strategy R) : List (Moment × Operation) → List Answer × Strategy R
  | [] => ([], s)
  | (m, op) :: rest =>
    let (answer, next) := s.step m op
    let (answers, last) := next.run rest
    (answer :: answers, last)

theorem run_cons (s : Strategy R) (m : Moment) (op : Operation) (rest : List (Moment × Operation)) :
    s.run ((m, op) :: rest)
      = ((s.step m op).1 :: ((s.step m op).2.run rest).1, ((s.step m op).2.run rest).2) := rfl

/-! ## §4. What every operation keeps. -/

@[simp] theorem terms_gate_acquire (s : Strategy R) (m : Moment) (scope : String) :
    (s.acquire m scope).2.gate.terms = s.gate.terms := by
  cases s <;> rfl

theorem terms_gate_refresh (s : Strategy R) (m : Moment) (request : RetryRequest) :
    (s.refresh m request).2.gate.terms = s.gate.terms := by
  cases s with
  | standard s =>
    have h := Gate.terms_decideRetry s.gate request.token request.failure
    simp only [refresh, StandardStrategy.refresh]
    split
    · rfl
    · split <;> rename_i hdecision <;> rw [hdecision] at h <;> exact h
  | adaptive s =>
    have h := Gate.terms_decideRetry s.gate request.token request.failure
    simp only [refresh, AdaptiveStrategy.refresh]
    split <;> rename_i hdecision <;> rw [hdecision] at h <;> exact h

/-- The attempt limit outlives every request. -/
theorem maxAttempts_refresh (s : Strategy R) (m : Moment) (request : RetryRequest) :
    (s.refresh m request).2.maxAttempts = s.maxAttempts := by
  simp only [maxAttempts, terms_gate_refresh]

/-- A granted retry makes one attempt more than before, and not more than the limit. -/
theorem refresh_ok {s : Strategy R} {m : Moment} {request : RetryRequest} {grant : Grant}
    (h : (s.refresh m request).1 = .ok grant) :
    grant.token.attemptsMade.toNat = request.token.attemptsMade.toNat + 1
      ∧ grant.token.attemptsMade.toNat ≤ s.maxAttempts.toNat := by
  have hadmitted : (s.gate.decideRetry request.token request.failure).1 = .ok grant.token := by
    cases s with
    | standard s =>
      simp only [refresh, StandardStrategy.refresh] at h
      split at h
      · cases h
      · split at h <;> rename_i hdecision
        · cases h
          simp [gate, hdecision]
        · cases h
    | adaptive s =>
      simp only [refresh, AdaptiveStrategy.refresh] at h
      split at h <;> rename_i hdecision
      · cases h
        simp [gate, hdecision]
      · cases h
  obtain ⟨hlt, hnext⟩ := Gate.decideRetry_ok hadmitted
  have hmax := Count.toNat_le_maxNat s.maxAttempts
  simp only [maxAttempts] at *
  rw [hnext, Token.toNat_attemptsMade_nextAttempt]
  omega

/-- The attempts that a call has left. -/
def attemptsLeft (s : Strategy R) (token : Token) : Nat :=
  s.maxAttempts.toNat - token.attemptsMade.toNat

/-- A granted retry leaves the call fewer attempts than before. -/
theorem attemptsLeft_refresh {s : Strategy R} {m : Moment} {request : RetryRequest} {grant : Grant}
    (h : (s.refresh m request).1 = .ok grant) :
    (s.refresh m request).2.attemptsLeft grant.token < s.attemptsLeft request.token := by
  have hgrant := refresh_ok h
  simp only [attemptsLeft, maxAttempts_refresh]
  omega

end Strategy

end RetryControl
