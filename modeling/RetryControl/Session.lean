/-
  RetryControl.Session
  ────────────────────────────────
  **SEVERAL STRATEGIES SIDE BY SIDE.**

  A session holds strategies that share one manual clock, and tokens kept in
  named slots that all of them may use.  A command works on one strategy;
  the report of a command also reads what its scope has left, the rate it is
  paced at, and how many scopes hold state.
-/
import RetryControl.Log.Record

namespace RetryControl

variable {R : Type}

/-! ## §1. Commands and reports. -/

/-- Strategies, the clock that they share, and the tokens in use. -/
structure Session (R : Type) where
  /-- The strategies, in the order in which they were built. -/
  strategies : List (Strategy R)
  /-- The clock of all strategies. -/
  clock : ManualClock := {}
  /-- The tokens in use, by slot. -/
  slots : NameMap Token := .empty

/-- What a session is told to do with one of its strategies. -/
inductive Command (R : Type) where
  /-- Start a call and keep its token in a slot. -/
  | acquire (slot scope : String)
  /-- Keep a token in a slot that has been advanced by hand, once for each cost. -/
  | place (slot scope : String) (costs : List Count)
  /-- Ask for another attempt for the token of a slot; a refused token is gone. -/
  | refresh (slot scope : String) (failure : Failure) (suggestedDelay : Option Duration)
  /-- Report the success of the call whose token is in a slot. -/
  | succeed (slot scope : String)
  /-- Forget a scope. -/
  | evict (scope : String)
  /-- Only read. -/
  | peek (scope : String)
  /-- Move the clock. -/
  | advance (scope : String) (distance : Duration)
  /-- Build a copy of the strategy from its adjusted plan. -/
  | rebuild (scope : String) (choices : List (Adjustment R))

/-- The answer to a command. -/
inductive Reply (R : Type) where
  /-- An attempt is granted. -/
  | granted (grant : Grant)
  /-- An attempt is granted; its wait was drawn between the two bounds. -/
  | drawn (shortest longest : Duration) (grant : Grant)
  /-- A token was placed. -/
  | placed (token : Token)
  /-- No further attempt is granted. -/
  | refused (error : RetryError)
  /-- The slot is empty. -/
  | noToken
  /-- The success was credited with an amount. -/
  | credited (amount : Count)
  /-- The scope is forgotten; there was something to forget or not. -/
  | evicted (existed : Bool)
  /-- Nothing was done. -/
  | none
  /-- The clock has been moved so far in total. -/
  | elapsed (total : Duration)
  /-- A copy was built and has a number. -/
  | rebuilt (index : Nat) (copy : Strategy R)
  /-- The copy cannot be built. -/
  | notBuilt (error : RetryError)

/-- The answer to a command and what was read after it. -/
structure Report (R : Type) where
  /-- The answer. -/
  reply : Reply R
  /-- What happened. -/
  events : List (Event R)
  /-- What the scope has left for retries. -/
  capacity : Count
  /-- The rate that the scope is paced at, if it is. -/
  rate : Option R
  /-- How many scopes hold state. -/
  scopeCounts : List Nat

namespace Session

variable [RateArithmetic R]

/-! ## §2. Performing commands. -/

/-- The surroundings of the next operation. The words are not told, so any will do. -/
def moment (s : Session R) : Moment := ⟨s.clock.now, fun _ => 0⟩

/-- The session with one of its strategies replaced. -/
def setStrategy (s : Session R) (index : Nat) (strategy : Strategy R) : Session R :=
  { s with strategies := s.strategies.set index strategy }

/-- The session after an operation on one of its strategies, the answer and the events. -/
def operate (s : Session R) (index : Nat) (strategy : Strategy R) (op : Operation) :
    Answer × List (Event R) × Session R :=
  let (answer, after) := strategy.step s.moment op
  (answer, strategy.events s.moment op, s.setStrategy index after)

/-- The reply that tells an answer; `bounds` are given if the wait was drawn at random. -/
def replyOf (bounds : Option (Duration × Duration)) : Answer → Reply R
  | .granted grant =>
    match bounds with
    | some (shortest, longest) => .drawn shortest longest grant
    | none => .granted grant
  | .refused error => .refused error
  | .credited amount => .credited amount
  | .evicted existed => .evicted existed

/-- The token kept after an answer, if any. -/
def tokenOf : Answer → Option Token
  | .granted grant => some grant.token
  | _ => none

/-- The session with the token of an answer kept in a slot. -/
def keep (s : Session R) (slot : String) (answer : Answer) : Session R :=
  match tokenOf answer with
  | some token => { s with slots := s.slots.insert slot token }
  | none => s

/-- A command on one strategy: the scope it concerned, the reply, the events and the session
after it. -/
def performOn (s : Session R) (index : Nat) (strategy : Strategy R) :
    Command R → String × Reply R × List (Event R) × Session R
  | .acquire slot scope =>
    let (answer, events, after) := s.operate index strategy (.acquire scope)
    (scope, replyOf none answer, events, after.keep slot answer)
  | .place slot scope costs =>
    let token := costs.foldl Token.nextAttempt (.initial scope)
    (scope, .placed token, [], { s with slots := s.slots.insert slot token })
  | .refresh slot scope failure suggestedDelay =>
    match s.slots.get? slot with
    | none => (scope, .noToken, [], s)
    | some token =>
      let request : RetryRequest := { token, failure, suggestedDelay }
      -- the token is taken out whatever the answer is
      let emptied := { s with slots := s.slots.erase slot }
      let (answer, events, after) := emptied.operate index strategy (.refresh request)
      (token.scope, replyOf (strategy.drawnBounds? request) answer, events,
        after.keep slot answer)
  | .succeed slot scope =>
    match s.slots.get? slot with
    | none => (scope, .noToken, [], s)
    | some token =>
      let emptied := { s with slots := s.slots.erase slot }
      let (answer, events, after) := emptied.operate index strategy (.succeed token)
      (token.scope, replyOf none answer, events, after)
  | .evict scope =>
    let (answer, events, after) := s.operate index strategy (.evict scope)
    (scope, replyOf none answer, events, after)
  | .peek scope => (scope, .none, [], s)
  | .advance scope distance =>
    let clock := s.clock.advance distance
    (scope, .elapsed clock.elapsed, [], { s with clock })
  | .rebuild scope choices =>
    let plan := strategy.plan.adjustAll choices
    match plan.build with
    | .ok copy =>
      (scope, .rebuilt s.strategies.length copy, plan.buildEvents,
        { s with strategies := s.strategies ++ [copy] })
    | .error error => (scope, .notBuilt error, [], s)

/-- A command on the strategy of a number: its report, if there is such a strategy, and the
session after it. -/
def perform (s : Session R) (index : Nat) (command : Command R) :
    Option (Report R) × Session R :=
  match s.strategies[index]? with
  | none => (none, s)
  | some strategy =>
    let (scope, reply, events, after) := s.performOn index strategy command
    let current := after.strategies[index]?.getD strategy
    (some
      { reply, events
        capacity := current.capacity scope
        rate := current.rate scope
        scopeCounts := current.scopeCounts },
      after)

end Session

end RetryControl
