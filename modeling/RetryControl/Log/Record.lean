/-
  RetryControl.Log.Record
  ────────────────────────────────
  **WHAT AN OPERATION LEAVES IN THE LOG.**

  The events of an operation are a function of the strategy before it, its
  moment and the operation.  They are read off the decisions that the
  operation makes and change nothing themselves.
-/
import RetryControl.Log.Event

namespace RetryControl

variable {R : Type}

/-! ## §1. Buckets. -/

/-- The event of asking a bucket for a cost. -/
def Bucket.withdrawEvent (b : Bucket) (cost : Count) : Event R :=
  .withdrawal cost (b.withdraw? cost).isSome

/-- The event of a credit to a bucket. -/
def Bucket.creditEvent (b : Bucket) (amount : Count) : Event R :=
  .credit amount (b.credit amount).available

/-! ## §2. The gate. -/

/-- The events of a request at the gate. -/
def Gate.decisionEvents (g : Gate) (token : Token) (failure : Failure) : List (Event R) :=
  let cost := g.terms.costOf failure.errorType
  match (g.decideRetry token failure).1 with
  | .error (.nonRetryable scope errorType) => [.notRetryable scope errorType]
  | .error (.exhausted scope made most) => [.exhausted scope made most]
  | .error (.circuitOpen scope) =>
      [(g.bucket token.scope).withdrawEvent cost, .circuitOpen scope cost]
  | .error (.invalidArgument _) => []
  | .ok next =>
      (if cost = 0 then [] else [(g.bucket token.scope).withdrawEvent cost])
        ++ [.admitted token.scope failure.errorType next.attemptsMade cost]

/-- The events of a success at the gate. -/
def Gate.succeedEvents (g : Gate) (token : Token) : List (Event R) :=
  if g.terms.breakerEnabled then
    let (credited, after) := g.succeed token
    [(g.bucket token.scope).creditEvent credited,
      .succeeded token.scope token.attemptsMade credited (after.capacity token.scope)]
  else []

/-! ## §3. The standard strategy. -/

/-- The events of a request to a standard strategy. -/
def StandardStrategy.refreshEvents (s : StandardStrategy) (request : RetryRequest)
    (draws : Draws) : List (Event R) :=
  match s.backoff.wait (nextAttempt request) draws with
  | .error _ => []
  | .ok _ =>
    let bounds := s.delayBounds request
    s.gate.decisionEvents request.token request.failure
      ++ match (s.refresh request draws).1 with
        | .ok grant =>
            [.scheduled grant.token.scope grant.token.attemptsMade
              (if bounds.1 = bounds.2 then some grant.delay else none)]
        | .error _ => []

/-! ## §4. The adaptive strategy. -/

variable [RateArithmetic R]

/-- The events of a request to an adaptive strategy. -/
def AdaptiveStrategy.refreshEvents (s : AdaptiveStrategy R) (request : RetryRequest)
    (now : Instant) : List (Event R) :=
  let limiter := s.observed request now
  (if request.failure.errorType = .throttling then
      [.throttled limiter.allowedRate limiter.measuredRate]
    else [])
    ++ s.gate.decisionEvents request.token request.failure
    ++ match (s.refresh request now).1 with
      | .ok grant =>
          (if limiter.enabled then
              [.slotReserved limiter.allowedRate (limiter.reserve now).1]
            else [])
            ++ [.paced grant.token.scope grant.token.attemptsMade grant.delay]
      | .error _ => []

/-- The events of a success of an adaptive strategy. -/
def AdaptiveStrategy.succeedEvents (s : AdaptiveStrategy R) (token : Token)
    (now : Instant) : List (Event R) :=
  let limiter := s.limiter token.scope
  (if limiter.mayRise s.rates now then [.raised (limiter.succeed s.rates now).allowedRate] else [])
    ++ s.gate.succeedEvents token

/-! ## §5. Both kinds. -/

/-- The events of an operation. -/
def Strategy.events (s : Strategy R) (m : Moment) (op : Operation) : List (Event R) :=
  match s, op with
  | .standard _, .acquire scope => [.acquired scope]
  | .standard s, .refresh request => s.refreshEvents request m.draws
  | .standard s, .succeed token => s.gate.succeedEvents token
  | .adaptive _, .acquire _ => []
  | .adaptive s, .refresh request => s.refreshEvents request m.now
  | .adaptive s, .succeed token => s.succeedEvents token m.now
  | _, .evict _ => []

/-- The events of building a plan: none if it cannot be built. -/
def Plan.buildEvents (p : Plan R) : List (Event R) :=
  match p.build with
  | .error _ => []
  | .ok _ =>
    match p with
    | .standard plan => [.standardBuilt plan]
    | .adaptive plan => [.adaptiveBuilt plan]

/-- The shortest and the longest wait that an admitted request can get, for a strategy that draws
its waits at random. -/
def Strategy.drawnBounds? (s : Strategy R) (request : RetryRequest) :
    Option (Duration × Duration) :=
  match s with
  | .standard s =>
    let bounds := s.delayBounds request
    if bounds.1 = bounds.2 then none else some bounds
  | .adaptive _ => none

end RetryControl
