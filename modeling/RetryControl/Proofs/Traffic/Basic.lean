/-
  RetryControl.Proofs.Traffic.Basic
  ────────────────────────────────
  **CALLS SIDE BY SIDE.**

  Any number of calls share one strategy.  A call gets its first token when it
  starts, hands the token in with its next request or with its success, and
  goes on with the token of the grant, if there is one.  So all tokens come
  from the strategy and none is handed in twice.  A call may be given up at
  any time: then it makes no further move.

  Moves of different calls come in any order, each on an occasion of its own:

    • `CallRecord`, `Move`, `Traffic.move` — the calls on record and a move,
    • `Gate.Serves` — what a move can do to the records and to the budgets,
    • `Traffic.serves_move` — and every move does one of these things,
    • `Traffic.run_induction` — so what all of them keep, every run keeps.
-/
import RetryControl.Proofs.Budget.Capacity

namespace RetryControl

/-! ## §1. Calls on record. -/

/-- What has become of a call. -/
inductive Standing where
  /-- It has a token to hand in. -/
  | underway
  /-- It handed its token in and was refused another attempt. -/
  | refused
  /-- It handed its token in with a success. -/
  | succeeded
  deriving DecidableEq

/-- A call on record. -/
structure CallRecord where
  /-- The token that it holds, or has handed in last. -/
  token : Token
  /-- What has become of it. -/
  standing : Standing := .underway
  /-- The failures after which it was granted a retry, in order. -/
  retried : List Failure := []

/-- The token that a call has to hand in. -/
def tokenInHand? (calls : List CallRecord) (call : Nat) : Option Token :=
  match calls[call]? with
  | some c => if c.standing = .underway then some c.token else none
  | none => none

theorem tokenInHand?_eq_some_iff {calls : List CallRecord} {call : Nat} {token : Token} :
    tokenInHand? calls call = some token ↔
      ∃ c, calls[call]? = some c ∧ c.standing = .underway ∧ c.token = token := by
  unfold tokenInHand?
  cases hc : calls[call]? with
  | none => simp
  | some c => simp

/-! ## §2. Moves. -/

/-- A move of one of the calls, which are numbered in the order of their start, or the eviction of
a scope. -/
inductive Move where
  /-- A call starts. -/
  | start (scope : String)
  /-- The last attempt of a call has failed, and the call asks for another one. -/
  | retry (call : Nat) (failure : Failure)
  /-- A call has succeeded. -/
  | finish (call : Nat)
  /-- A scope is forgotten. -/
  | evict (scope : String)

namespace Move

/-- The operation that a move comes to, unless its call has no token to hand in. -/
def operation? (calls : List CallRecord) (suggestedDelay : Option Duration) :
    Move → Option Operation
  | .start scope => some (.acquire scope)
  | .retry call failure =>
      (tokenInHand? calls call).map fun token => .refresh { token, failure, suggestedDelay }
  | .finish call => (tokenInHand? calls call).map .succeed
  | .evict scope => some (.evict scope)

theorem operation?_retry {calls : List CallRecord} {call : Nat} {c : CallRecord}
    (hcall : calls[call]? = some c) (hunderway : c.standing = .underway) (failure : Failure)
    (suggestedDelay : Option Duration) :
    (Move.retry call failure).operation? calls suggestedDelay
      = some (.refresh { token := c.token, failure, suggestedDelay }) := by
  have hhand : tokenInHand? calls call = some c.token :=
    tokenInHand?_eq_some_iff.mpr ⟨c, hcall, hunderway, rfl⟩
  show (tokenInHand? calls call).map _ = _
  rw [hhand]
  rfl

theorem operation?_finish {calls : List CallRecord} {call : Nat} {c : CallRecord}
    (hcall : calls[call]? = some c) (hunderway : c.standing = .underway)
    (suggestedDelay : Option Duration) :
    (Move.finish call).operation? calls suggestedDelay = some (.succeed c.token) := by
  have hhand : tokenInHand? calls call = some c.token :=
    tokenInHand?_eq_some_iff.mpr ⟨c, hcall, hunderway, rfl⟩
  show (tokenInHand? calls call).map _ = _
  rw [hhand]
  rfl

/-- The records after a move on which so was decided. -/
def note (calls : List CallRecord) : Move → Decision → List CallRecord
  | .start _, .granted token => calls ++ [{ token }]
  | .retry call failure, .granted token =>
      calls.modify call fun c => { c with token, retried := c.retried ++ [failure] }
  | .retry call _, .refused _ => calls.modify call fun c => { c with standing := .refused }
  | .finish call, .credited _ => calls.modify call fun c => { c with standing := .succeeded }
  | _, _ => calls

end Move

/-- A strategy and the calls that share it. -/
structure Traffic (R : Type) where
  /-- The strategy. -/
  strategy : Strategy R
  /-- The calls on record, in the order of their start. -/
  calls : List CallRecord := []

namespace Traffic

variable {R : Type} [RateArithmetic R]

/-- One move: the answer, if there was a token to hand in, and the traffic after it. -/
def move (t : Traffic R) (o : Occasion) (move : Move) : Option Answer × Traffic R :=
  match move.operation? t.calls o.suggestedDelay with
  | some op =>
    let (answer, strategy) := t.strategy.step o.moment op
    (some answer, { strategy, calls := move.note t.calls answer.decision })
  | none => (none, t)

/-- Moves one after another: the answers and the traffic after the last. -/
def run (t : Traffic R) : List (Occasion × Move) → List (Option Answer) × Traffic R
  | [] => ([], t)
  | (o, move) :: rest =>
    let (answer, next) := t.move o move
    let (answers, last) := next.run rest
    (answer :: answers, last)

theorem move_of_operation {t : Traffic R} {o : Occasion} {move : Move} {op : Operation}
    (h : move.operation? t.calls o.suggestedDelay = some op) :
    (t.move o move).1.map Answer.decision = some (t.strategy.gate.step op).1
      ∧ (t.move o move).2.strategy.gate = (t.strategy.gate.step op).2
      ∧ (t.move o move).2.calls = move.note t.calls (t.strategy.gate.step op).1 := by
  unfold Traffic.move
  rw [h]
  refine ⟨?_, t.strategy.gate_step o.moment op, ?_⟩
  · show some (t.strategy.step o.moment op).1.decision = _
    rw [Strategy.decision_step]
  · show move.note t.calls (t.strategy.step o.moment op).1.decision = _
    rw [Strategy.decision_step]

theorem move_of_no_operation {t : Traffic R} {o : Occasion} {move : Move}
    (h : move.operation? t.calls o.suggestedDelay = none) : t.move o move = (none, t) := by
  unfold Traffic.move
  rw [h]

end Traffic

/-! ## §3. What a move can do. -/

namespace Gate

/-- What a move can do to the calls on record and to the budgets that a gate keeps. -/
inductive Serves (g : Gate) (calls : List CallRecord) : Move → List CallRecord → Gate → Prop where
  /-- The call has no token to hand in, so nothing happens. -/
  | idle (move : Move) : Serves g calls move calls g
  /-- A call starts. -/
  | started (scope : String) :
      Serves g calls (.start scope) (calls ++ [{ token := .initial scope }]) g
  /-- A retry is granted and takes its charge. -/
  | granted {call : Nat} {c : CallRecord} {failure : Failure} {after : Gate}
      (hcall : calls[call]? = some c) (hunderway : c.standing = .underway)
      (hpass : g.terms.passes c.token failure = true)
      (hcovered : g.terms.charge failure.errorType ≤ (g.capacity c.token.scope).toNat)
      (hcapacity : ∀ scope, (after.capacity scope).toNat
        = if scope = c.token.scope then
            (g.capacity scope).toNat - g.terms.charge failure.errorType
          else (g.capacity scope).toNat) :
      Serves g calls (.retry call failure)
        (calls.set call
          { c with
            token := c.token.nextAttempt (g.terms.costOf failure.errorType)
            retried := c.retried ++ [failure] })
        after
  /-- A retry is refused and takes nothing. -/
  | refused {call : Nat} {c : CallRecord} {failure : Failure} {after : Gate}
      (hcall : calls[call]? = some c) (hunderway : c.standing = .underway)
      (hcapacity : ∀ scope, (after.capacity scope).toNat = (g.capacity scope).toNat) :
      Serves g calls (.retry call failure)
        (calls.set call { c with standing := .refused }) after
  /-- A success is credited. -/
  | finished {call : Nat} {c : CallRecord} {after : Gate}
      (hcall : calls[call]? = some c) (hunderway : c.standing = .underway)
      (hcapacity : ∀ scope, (after.capacity scope).toNat
        = if scope = c.token.scope ∧ g.terms.breakerEnabled = true then
            min g.terms.budget.initialCapacity.toNat ((g.capacity scope).toNat
              + (g.terms.budget.creditFor c.token.budgetDebited).toNat)
          else (g.capacity scope).toNat) :
      Serves g calls (.finish call)
        (calls.set call { c with standing := .succeeded }) after
  /-- A scope is forgotten. -/
  | evicted {scope : String} {after : Gate}
      (hcapacity : ∀ other, (after.capacity other).toNat
        = if other = scope then g.terms.budget.initialCapacity.toNat
          else (g.capacity other).toNat) :
      Serves g calls (.evict scope) calls after

end Gate

private theorem forall_mem_set {P : CallRecord → Prop} {calls : List CallRecord}
    (hcalls : ∀ c ∈ calls, P c) {call : Nat} {c' : CallRecord} (hc' : P c') :
    ∀ c ∈ calls.set call c', P c := by
  intro c hc
  rcases List.mem_or_eq_of_mem_set hc with hkept | hnew
  · exact hcalls c hkept
  · rw [hnew]
    exact hc'

/-- **What holds of every call**: it holds of a call that starts, the next attempt keeps it, and it
does not depend on the standing of the call. -/
theorem Gate.Serves.forall_calls {g after : Gate} {calls later : List CallRecord} {move : Move}
    {P : CallRecord → Prop} (hserves : g.Serves calls move later after)
    (hfresh : ∀ scope, P { token := .initial scope })
    (hgranted : ∀ (call : Nat) c failure, calls[call]? = some c → c.standing = .underway →
      g.terms.charge failure.errorType ≤ (g.capacity c.token.scope).toNat → P c →
        P { c with
          token := c.token.nextAttempt (g.terms.costOf failure.errorType)
          retried := c.retried ++ [failure] })
    (hstanding : ∀ c standing, P c → P { c with standing }) (hcalls : ∀ c ∈ calls, P c) :
    ∀ c ∈ later, P c := by
  cases hserves with
  | idle => exact hcalls
  | evicted => exact hcalls
  | started scope =>
      intro c hc
      rcases List.mem_append.mp hc with hkept | hnew
      · exact hcalls c hkept
      · rw [List.mem_singleton.mp hnew]
        exact hfresh scope
  | granted hcall hunderway hpass hcovered hcapacity =>
      have hbefore := hcalls _ (List.mem_of_getElem? hcall)
      exact forall_mem_set hcalls (hgranted _ _ _ hcall hunderway hcovered hbefore)
  | refused hcall hunderway hcapacity =>
      have hbefore := hcalls _ (List.mem_of_getElem? hcall)
      exact forall_mem_set hcalls (hstanding _ .refused hbefore)
  | finished hcall hunderway hcapacity =>
      have hbefore := hcalls _ (List.mem_of_getElem? hcall)
      exact forall_mem_set hcalls (hstanding _ .succeeded hbefore)

/-- What a success is credited with. -/
theorem Gate.credit_succeed (g : Gate) (token : Token) :
    (g.succeed token).1
      = if g.terms.breakerEnabled then g.terms.budget.creditFor token.budgetDebited else 0 := by
  unfold Gate.succeed
  split <;> rfl

private theorem modify_eq_set {calls : List CallRecord} {call : Nat} {c : CallRecord}
    (hcall : calls[call]? = some c) (f : CallRecord → CallRecord) :
    calls.modify call f = calls.set call (f c) := by
  induction calls generalizing call with
  | nil => cases hcall
  | cons first rest ih =>
      cases call with
      | zero =>
          cases hcall
          rfl
      | succ call =>
          rw [List.modify_succ_cons, List.set_cons_succ, ih hcall]

namespace Traffic

variable {R : Type} [RateArithmetic R] {t : Traffic R}

theorem serves_retry (hbounded : t.strategy.gate.Bounded) (o : Occasion) {call : Nat}
    {c : CallRecord} (hcall : t.calls[call]? = some c) (hunderway : c.standing = .underway)
    (failure : Failure) :
    t.strategy.gate.Serves t.calls (.retry call failure)
      (t.move o (.retry call failure)).2.calls (t.move o (.retry call failure)).2.strategy.gate := by
  let request : RetryRequest := ⟨c.token, failure, o.suggestedDelay⟩
  obtain ⟨_, hgate, hcalls⟩ := move_of_operation (t := t) (o := o)
    (Move.operation?_retry hcall hunderway failure o.suggestedDelay)
  have hcapacity := hbounded.capacity_step (.refresh request)
  rw [hgate, hcalls]
  -- what is noted of the call hangs on the decision alone
  rcases t.strategy.gate.granted_or_refused request with ⟨token, hgranted⟩ | ⟨error, hrefused⟩
  · rw [hgranted] at hcapacity ⊢
    rw [show Move.note t.calls (.retry call failure) (.granted token)
          = t.calls.set call { c with token, retried := c.retried ++ [failure] }
        from modify_eq_set hcall _,
      Gate.token_of_granted hgranted]
    exact .granted hcall hunderway (Gate.passes_of_granted hgranted)
      (Gate.charge_le_capacity hgranted) hcapacity
  · rw [hrefused] at hcapacity ⊢
    rw [show Move.note t.calls (.retry call failure) (.refused error)
          = t.calls.set call { c with standing := .refused } from modify_eq_set hcall _]
    exact .refused hcall hunderway fun scope => (hcapacity scope).trans (ite_self _)

theorem serves_finish (hbounded : t.strategy.gate.Bounded) (o : Occasion) {call : Nat}
    {c : CallRecord} (hcall : t.calls[call]? = some c) (hunderway : c.standing = .underway) :
    t.strategy.gate.Serves t.calls (.finish call)
      (t.move o (.finish call)).2.calls (t.move o (.finish call)).2.strategy.gate := by
  obtain ⟨_, hgate, hcalls⟩ := move_of_operation (t := t) (o := o)
    (Move.operation?_finish hcall hunderway o.suggestedDelay)
  have hcapacity := hbounded.capacity_step (.succeed c.token)
  rw [hgate, hcalls]
  rw [show Move.note t.calls (.finish call) (t.strategy.gate.step (.succeed c.token)).1
        = t.calls.set call { c with standing := .succeeded } from modify_eq_set hcall _]
  refine .finished hcall hunderway fun scope => ?_
  rw [hcapacity scope]
  show (if scope = c.token.scope then
      (if t.strategy.gate.terms.breakerEnabled = true then
        min _ (_ + (t.strategy.gate.succeed c.token).1.toNat) else _)
    else _) = _
  by_cases hbreaker : t.strategy.gate.terms.breakerEnabled = true
  · rw [if_pos hbreaker, Gate.credit_succeed, if_pos hbreaker]
    simp only [hbreaker, and_true]
  · simp only [hbreaker, Bool.false_eq_true, and_false, if_false, ite_self]

/-- **Every move does one of these things.** -/
theorem serves_move (hbounded : t.strategy.gate.Bounded) (o : Occasion) (move : Move) :
    t.strategy.gate.Serves t.calls move (t.move o move).2.calls
      (t.move o move).2.strategy.gate := by
  cases hop : move.operation? t.calls o.suggestedDelay with
  | none =>
      rw [move_of_no_operation hop]
      exact .idle move
  | some op =>
      -- a retry or a finish with an operation has its call underway
      cases move with
      | start scope =>
          have hfirst : (Move.start scope).operation? t.calls o.suggestedDelay
              = some (.acquire scope) := rfl
          obtain ⟨_, hgate, hcalls⟩ := move_of_operation hfirst
          rw [hgate, hcalls]
          exact .started scope
      | retry call failure =>
          obtain ⟨token, hhand, _⟩ := Option.map_eq_some_iff.mp hop
          obtain ⟨c, hcall, hunderway, _⟩ := tokenInHand?_eq_some_iff.mp hhand
          exact serves_retry hbounded o hcall hunderway failure
      | finish call =>
          obtain ⟨token, hhand, _⟩ := Option.map_eq_some_iff.mp hop
          obtain ⟨c, hcall, hunderway, _⟩ := tokenInHand?_eq_some_iff.mp hhand
          exact serves_finish hbounded o hcall hunderway
      | evict scope =>
          have hevict : (Move.evict scope).operation? t.calls o.suggestedDelay
              = some (.evict scope) := rfl
          obtain ⟨_, hgate, hcalls⟩ := move_of_operation hevict
          rw [hgate, hcalls]
          exact .evicted (hbounded.capacity_step (.evict scope))

/-! ## §4. What runs keep. -/

/-- Moves keep a gate bounded and its terms what they are. -/
theorem bounded_move (hbounded : t.strategy.gate.Bounded) (o : Occasion) (move : Move) :
    (t.move o move).2.strategy.gate.Bounded
      ∧ (t.move o move).2.strategy.gate.terms = t.strategy.gate.terms := by
  cases hop : move.operation? t.calls o.suggestedDelay with
  | none =>
      rw [move_of_no_operation hop]
      exact ⟨hbounded, rfl⟩
  | some op =>
      obtain ⟨_, hgate, _⟩ := move_of_operation hop
      rw [hgate]
      exact ⟨hbounded.step op, t.strategy.gate.terms_step op⟩

/-- **One move at a time**: what every allowed move keeps, every run of allowed moves keeps. -/
theorem run_induction {terms : GateTerms} (allowed : Move → Prop)
    (P : List CallRecord → Gate → Prop)
    (hstep : ∀ {calls calls' g g' move}, g.Bounded → g.terms = terms → g'.terms = terms →
      allowed move → g.Serves calls move calls' g' → P calls g → P calls' g')
    (hbounded : t.strategy.gate.Bounded) (hterms : t.strategy.gate.terms = terms)
    (hstart : P t.calls t.strategy.gate) {moves : List (Occasion × Move)}
    (hallowed : ∀ entry ∈ moves, allowed entry.2) :
    (t.run moves).2.strategy.gate.Bounded ∧ (t.run moves).2.strategy.gate.terms = terms
      ∧ P (t.run moves).2.calls (t.run moves).2.strategy.gate := by
  induction moves generalizing t with
  | nil => exact ⟨hbounded, hterms, hstart⟩
  | cons entry rest ih =>
      obtain ⟨hnext, hsame⟩ := bounded_move hbounded entry.1 entry.2
      have hkept := hstep hbounded hterms (hsame.trans hterms)
        (hallowed entry List.mem_cons_self) (serves_move hbounded entry.1 entry.2) hstart
      exact ih hnext (hsame.trans hterms) hkept
        fun other h => hallowed other (List.mem_cons_of_mem entry h)

end Traffic

end RetryControl
