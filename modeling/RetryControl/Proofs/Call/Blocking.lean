/-
  RetryControl.Proofs.Call.Blocking
  ────────────────────────────────
  **WHAT A BLOCKING CALL DOES.**

  A call in a scope is a conversation with its strategy.  It opens with the
  first token, asks for another attempt after every failure, with the token
  that it was given last, and closes either with a success or with a request
  that is refused:

    • `Round`, `asked`, `taken` — the attempts that were followed by another
      one, and what is asked and done because of them,
    • `Drives`, `drives_blockingFrom` — the loop is such a conversation,
      whatever the attempts come to,
    • `blockingFrom_unjittered` — without jitter the random words make no
      difference,
    • `within_of_answers`, `capacity_of_answers` — what is granted keeps to
      the attempt limit and is paid from the budget of the scope,
    • `BlockingLaw`, `blocking_correct` — all this for whole calls, on
      strategies in any state that uses lead to.
-/
import RetryControl.Call.Blocking
import RetryControl.Proofs.Strategy.Unjittered
import RetryControl.Proofs.Traffic.Conservation

namespace RetryControl

variable {R ε α : Type}

/-! ## §1. Conversations. -/

/-- An attempt that failed and was followed by another one. -/
structure Round (ε : Type) where
  /-- The error that the attempt ended in. -/
  error : ε
  /-- The grant of the next attempt. -/
  grant : Grant

/-- The answer that an action passes on, if it is an answer of the strategy. -/
def Action.answer? : Action ε α → Option Answer
  | .acquired grant => some (.granted grant)
  | .attempted _ _ => none
  | .refreshed answer => some (.ofExcept answer)
  | .waited _ => none
  | .credited amount => some (.credited amount)

/-- The action runs the operation. -/
def Action.isAttempt : Action ε α → Bool
  | .attempted _ _ => true
  | _ => false

/-- The wait that an action is, if it is one. -/
def Action.wait? : Action ε α → Option Duration
  | .waited delay => some delay
  | _ => none

namespace Call

/-- The moment at which the strategy hears of an attempt that starts on this clock. -/
def reportMoment (script : Script ε α) (draws : Nat → Draws) (clock : ManualClock) (number : Nat) :
    Moment := ⟨(clock.advance (script number).takes).now, draws number⟩

/-- What is asked of the strategy when an attempt is the last one. -/
def lastAsked [Classifiable ε] (token : Token) : Except ε α → Operation
  | .ok _ => .succeed token
  | .error error => .refresh (.ofError token error)

/-- All that a call asks from attempt `number` on, which it makes with the token: one request for
each round, with the token of the grant before, and one thing more after the last attempt. -/
def asked [Classifiable ε] (script : Script ε α) (draws : Nat → Draws) (clock : ManualClock)
    (token : Token) (number : Nat) : List (Round ε) → List (Moment × Operation)
  | [] =>
    [(reportMoment script draws clock number, lastAsked token (script number).outcome)]
  | r :: rest =>
    (reportMoment script draws clock number, .refresh (.ofError token r.error))
      :: asked script draws (clock.advance (script number).takes) r.grant.token (number + 1) rest

/-- All that a call in a scope asks. -/
def conversation [Classifiable ε] (script : Script ε α) (draws : Nat → Draws) (clock : ManualClock)
    (scope : String) (rounds : List (Round ε)) : List (Moment × Operation) :=
  (⟨clock.now, draws 0⟩, .acquire scope)
    :: asked script draws clock (.initial scope) 1 rounds

/-- The actions of the rounds from attempt `number` on. -/
def taken (number : Nat) : List (Round ε) → List (Action ε α)
  | [] => []
  | r :: rest =>
    .attempted number (.error r.error) :: .refreshed (.ok r.grant)
      :: (waitActions r.grant.delay ++ taken (number + 1) rest)

/-- How the last attempt, the last answer, the outcome and the last action of a call belong
together. -/
inductive Ends : Except ε α → Answer → Outcome ε α → Action ε α → Prop where
  /-- The attempt succeeded, and its success was credited. -/
  | ok (value : α) (amount : Count) :
      Ends (.ok value) (.credited amount) (.ok value) (.credited amount)
  /-- The attempt failed, and another one was refused. -/
  | gaveUp (error : ε) (reason : RetryError) :
      Ends (.error error) (.refused reason) (.gaveUp reason error) (.refreshed (.error reason))

/-- The last action passes on the last answer, and it neither runs the operation nor waits. -/
theorem Ends.last_action {outcome : Except ε α} {answer : Answer} {ending : Outcome ε α}
    {last : Action ε α} (h : Ends outcome answer ending last) :
    last.answer? = some answer ∧ last.isAttempt = false ∧ last.wait? = none := by
  cases h <;> exact ⟨rfl, rfl, rfl⟩

end Call

variable [RateArithmetic R]

/-- The events of operations one after another. -/
def Strategy.eventsOf (s : Strategy R) : List (Moment × Operation) → List (Event R)
  | [] => []
  | (m, op) :: rest => s.events m op ++ (s.step m op).2.eventsOf rest

theorem Strategy.step_refresh (s : Strategy R) (m : Moment) (request : RetryRequest) :
    s.step m (.refresh request)
      = (.ofExcept (s.refresh m request).1, (s.refresh m request).2) := rfl

namespace Call

/-- A call has made the rounds from attempt `number` on, and one attempt more, after which the
strategy gave the answer. -/
structure Drives [Classifiable ε] (script : Script ε α) (draws : Nat → Draws) (s : Strategy R)
    (clock : ManualClock) (token : Token) (number : Nat) (rounds : List (Round ε))
    (answer : Answer) (f : Finished R ε α) : Prop where
  /-- The attempts of the rounds failed. -/
  failed : ∀ i r, rounds[i]? = some r → (script (number + i)).outcome = .error r.error
  /-- The strategy granted the rounds. -/
  answers_eq : (s.run (asked script draws clock token number rounds)).1
    = rounds.map (fun r => .granted r.grant) ++ [answer]
  /-- It was asked nothing else. -/
  strategy_eq : f.strategy = (s.run (asked script draws clock token number rounds)).2
  /-- Nothing else happened at it. -/
  events_eq : f.events = s.eventsOf (asked script draws clock token number rounds)
  /-- The call did nothing else, and ended as its last attempt did. -/
  ended : ∃ last, Ends (script (number + rounds.length)).outcome answer f.outcome last
    ∧ f.actions = taken number rounds
      ++ [.attempted (number + rounds.length) (script (number + rounds.length)).outcome, last]

/-! ## §2. The loop holds a conversation. -/

variable [Classifiable ε]

section

variable {script : Script ε α} {draws : Nat → Draws} {s : Strategy R} {clock : ManualClock}
  {token : Token} {number : Nat} {answer : Answer} {f : Finished R ε α}

/-- A call that ends with its next attempt makes no more rounds. -/
theorem Drives.nil {outcome : Except ε α} {last : Action ε α}
    (hattempt : (script number).outcome = outcome)
    (hstep : s.step (reportMoment script draws clock number) (lastAsked token outcome)
      = (answer, f.strategy))
    (hevents : f.events
      = s.events (reportMoment script draws clock number) (lastAsked token outcome))
    (hends : Ends outcome answer f.outcome last)
    (hactions : f.actions = [.attempted number outcome, last]) :
    Drives script draws s clock token number [] answer f := by
  subst hattempt
  constructor
  case failed =>
    intro i r h
    cases h
  case answers_eq =>
    rw [asked, Strategy.run_cons, hstep]
    rfl
  case strategy_eq =>
    rw [asked, Strategy.run_cons, hstep]
    rfl
  case events_eq =>
    rw [asked, Strategy.eventsOf, Strategy.eventsOf, List.append_nil]
    exact hevents
  case ended => exact ⟨last, hends, hactions⟩

/-- A granted retry is one round more, ahead of those of the rest of the call. -/
theorem Drives.cons {r : Round ε} {rounds : List (Round ε)} {after : Strategy R}
    (hattempt : (script number).outcome = .error r.error)
    (hstep : s.step (reportMoment script draws clock number) (.refresh (.ofError token r.error))
      = (.granted r.grant, after))
    (hrest : Drives script draws after (clock.advance (script number).takes) r.grant.token
      (number + 1) rounds answer f) :
    Drives script draws s clock token number (r :: rounds) answer
      (f.after (.attempted number (.error r.error) :: .refreshed (.ok r.grant)
          :: waitActions r.grant.delay)
        (s.events (reportMoment script draws clock number)
          (.refresh (.ofError token r.error)))) := by
  have hlength : number + 1 + rounds.length = number + (r :: rounds).length := by
    rw [List.length_cons]
    omega
  obtain ⟨last, hends, hactions⟩ := hrest.ended
  rw [hlength] at hends hactions
  constructor
  case failed =>
    intro i other h
    cases i with
    | zero =>
        cases h
        exact hattempt
    | succ i =>
        rw [show number + (i + 1) = number + 1 + i by omega]
        exact hrest.failed i other h
  case answers_eq =>
    rw [asked, Strategy.run_cons, hstep, hrest.answers_eq]
    rfl
  case strategy_eq =>
    rw [asked, Strategy.run_cons, hstep]
    exact hrest.strategy_eq
  case events_eq =>
    rw [asked, Strategy.eventsOf, hstep, ← hrest.events_eq]
    rfl
  case ended =>
    refine ⟨last, hends, ?_⟩
    show _ ++ f.actions = taken number (r :: rounds) ++ _
    rw [hactions, ← List.append_assoc]
    rfl

/-! The three ways of an attempt, as equations of the loop. -/

theorem blockingFrom_ok {value : α} (hattempt : (script number).outcome = .ok value) :
    blockingFrom script draws s clock token number
      = { outcome := .ok value
          actions := [.attempted number (.ok value),
            .credited (s.succeed (reportMoment script draws clock number) token).1]
          events := s.events (reportMoment script draws clock number) (.succeed token)
          strategy := (s.succeed (reportMoment script draws clock number) token).2
          clock := clock.advance (script number).takes } := by
  rw [blockingFrom]
  simp only [hattempt]
  rfl

theorem blockingFrom_refused {error : ε} {reason : RetryError}
    (hattempt : (script number).outcome = .error error)
    (hrefused : (s.refresh (reportMoment script draws clock number) (.ofError token error)).1
      = .error reason) :
    blockingFrom script draws s clock token number
      = { outcome := .gaveUp reason error
          actions := [.attempted number (.error error), .refreshed (.error reason)]
          events := s.events (reportMoment script draws clock number)
            (.refresh (.ofError token error))
          strategy := (s.refresh (reportMoment script draws clock number)
            (.ofError token error)).2
          clock := clock.advance (script number).takes } := by
  unfold reportMoment at hrefused
  rw [blockingFrom]
  simp only [hattempt]
  split
  · rename_i grant hgranted
    rw [hrefused] at hgranted
    cases hgranted
  · rename_i other hother
    rw [hrefused] at hother
    cases hother
    rfl

theorem blockingFrom_granted {error : ε} {grant : Grant}
    (hattempt : (script number).outcome = .error error)
    (hgranted : (s.refresh (reportMoment script draws clock number) (.ofError token error)).1
      = .ok grant) :
    blockingFrom script draws s clock token number
      = (blockingFrom script draws
            (s.refresh (reportMoment script draws clock number) (.ofError token error)).2
            (clock.advance (script number).takes) grant.token (number + 1)).after
          (.attempted number (.error error) :: .refreshed (.ok grant) :: waitActions grant.delay)
          (s.events (reportMoment script draws clock number)
            (.refresh (.ofError token error))) := by
  unfold reportMoment at hgranted
  rw [blockingFrom]
  simp only [hattempt]
  split
  · rename_i other hother
    rw [hgranted] at hother
    cases hother
    rfl
  · rename_i reason hrefused
    rw [hgranted] at hrefused
    cases hrefused

/-- **The loop holds a conversation**, whatever the attempts come to. -/
theorem drives_blockingFrom (script : Script ε α) (draws : Nat → Draws) (s : Strategy R)
    (clock : ManualClock) (token : Token) (number : Nat) :
    ∃ rounds answer, Drives script draws s clock token number rounds answer
      (blockingFrom script draws s clock token number) := by
  -- every grant leaves the call fewer attempts
  induction hleft : s.attemptsLeft token using Nat.strongRecOn
      generalizing s clock token number with
  | ind left ih =>
      cases hattempt : (script number).outcome with
      | ok value =>
          rw [blockingFrom_ok hattempt]
          exact ⟨[], _, .nil hattempt rfl rfl (.ok value _) rfl⟩
      | error error =>
          cases hanswer : (s.refresh (reportMoment script draws clock number)
              (.ofError token error)).1 with
          | error reason =>
              rw [blockingFrom_refused hattempt hanswer]
              have hstep : s.step (reportMoment script draws clock number)
                    (lastAsked token (.error error : Except ε α))
                  = (.refused reason, (s.refresh (reportMoment script draws clock number)
                      (.ofError token error)).2) := by
                rw [lastAsked, Strategy.step_refresh, hanswer]
                rfl
              exact ⟨[], _, .nil hattempt hstep rfl (.gaveUp error reason) rfl⟩
          | ok grant =>
              rw [blockingFrom_granted hattempt hanswer]
              have hfewer : Strategy.attemptsLeft _ grant.token < s.attemptsLeft token :=
                Strategy.attemptsLeft_refresh hanswer
              rw [hleft] at hfewer
              obtain ⟨rounds, answer, hrest⟩ := ih _ hfewer _ (clock.advance (script number).takes)
                grant.token (number + 1) rfl
              have hstep : s.step (reportMoment script draws clock number)
                    (.refresh (.ofError token error))
                  = (.granted grant, (s.refresh (reportMoment script draws clock number)
                      (.ofError token error)).2) := by
                rw [Strategy.step_refresh, hanswer]
                rfl
              exact ⟨⟨error, grant⟩ :: rounds, answer, .cons hattempt hstep hrest⟩

/-- **Without jitter a call is the same for all random words.** -/
theorem blockingFrom_unjittered (script : Script ε α) (draws draws' : Nat → Draws)
    {s : Strategy R} (hsteady : s.plan.isJittered = false) (clock : ManualClock) (token : Token) (number : Nat) :
    blockingFrom script draws s clock token number
      = blockingFrom script draws' s clock token number := by
  -- every grant leaves the call fewer attempts
  induction hleft : s.attemptsLeft token using Nat.strongRecOn
      generalizing s clock token number with
  | ind left ih =>
      have hrefresh : ∀ request, s.refresh (reportMoment script draws clock number) request
          = s.refresh (reportMoment script draws' clock number) request := fun request =>
        Strategy.refresh_unjittered hsteady (by rfl) request
      have hevents : ∀ op, s.events (reportMoment script draws clock number) op
          = s.events (reportMoment script draws' clock number) op := fun op =>
        Strategy.events_unjittered hsteady (by rfl) op
      cases hattempt : (script number).outcome with
      | ok value =>
          have hsucceed : s.succeed (reportMoment script draws clock number) token
              = s.succeed (reportMoment script draws' clock number) token :=
            s.succeed_unjittered (by rfl) token
          rw [blockingFrom_ok hattempt, blockingFrom_ok hattempt, hsucceed, hevents]
      | error error =>
          cases hanswer : (s.refresh (reportMoment script draws' clock number)
              (.ofError token error)).1 with
          | error reason =>
              rw [blockingFrom_refused hattempt (by rw [hrefresh]; exact hanswer),
                blockingFrom_refused hattempt hanswer, hrefresh, hevents]
          | ok grant =>
              have hfewer : Strategy.attemptsLeft _ grant.token < s.attemptsLeft token :=
                Strategy.attemptsLeft_refresh hanswer
              rw [hleft] at hfewer
              have hplan := s.plan_step (reportMoment script draws' clock number)
                (.refresh (.ofError token error))
              have hrest := ih _ hfewer (by rw [← hsteady]; exact congrArg Plan.isJittered hplan)
                (clock.advance (script number).takes) grant.token (number + 1) rfl
              rw [blockingFrom_granted hattempt (by rw [hrefresh]; exact hanswer),
                blockingFrom_granted hattempt hanswer, hrefresh, hevents, hrest]

/-! ## §3. What the grants of a conversation come to. -/

/-- The failures after which a call was granted another attempt. -/
def failuresOf (rounds : List (Round ε)) : List Failure :=
  rounds.map fun r => Classifiable.classify r.error

/-- What the last answer makes of a budget: a credit is added to it, up to the most that a bucket
holds, and a refusal leaves it as it is. -/
def settled (most left : Nat) : Answer → Nat
  | .credited amount => min most (left + amount.toNat)
  | _ => left

/-- The first of the answers is the grant of the first round, and the others are those of the
rest. -/
theorem answers_cons {r : Round ε} {rounds : List (Round ε)}
    (hanswers : (s.run (asked script draws clock token number (r :: rounds))).1
      = (r :: rounds).map (fun r => .granted r.grant) ++ [answer]) :
    (s.step (reportMoment script draws clock number) (.refresh (.ofError token r.error))).1
        = .granted r.grant
      ∧ ((s.step (reportMoment script draws clock number)
              (.refresh (.ofError token r.error))).2.run
            (asked script draws (clock.advance (script number).takes) r.grant.token
              (number + 1) rounds)).1
          = rounds.map (fun r => .granted r.grant) ++ [answer] := by
  rw [asked, Strategy.run_cons, List.map_cons, List.cons_append] at hanswers
  exact List.cons.inj hanswers

/-- A granted token belongs to the scope of the one handed in, is one attempt further, and keeps to
the attempt limit. -/
theorem token_of_round {r : Round ε} {m : Moment}
    (hgranted : (s.step m (.refresh (.ofError token r.error))).1 = .granted r.grant) :
    r.grant.token.scope = token.scope
      ∧ r.grant.token.attemptsMade.toNat = token.attemptsMade.toNat + 1
      ∧ r.grant.token.attemptsMade.toNat ≤ s.maxAttempts.toNat := by
  have hdecision := Strategy.decision_of_granted hgranted
  have hbelow := (GateTerms.passes_iff.mp (Gate.passes_of_granted hdecision)).2
  have hlimit := Count.toNat_le_maxNat s.gate.terms.maxAttempts
  have hmade : r.grant.token.attemptsMade.toNat
      = min (token.attemptsMade.toNat + 1) Count.maxNat := by
    rw [Gate.token_of_granted hdecision]
    exact Token.toNat_attemptsMade_nextAttempt token _
  replace hbelow : token.attemptsMade.toNat < s.gate.terms.maxAttempts.toNat := hbelow
  refine ⟨?_, by omega, ?_⟩
  · rw [Gate.token_of_granted hdecision]
    rfl
  · show _ ≤ s.gate.terms.maxAttempts.toNat
    omega

/-- A granted token was paid for from the budget of its scope. -/
theorem paid_of_round (hbounded : s.gate.Bounded) {r : Round ε} {m : Moment}
    (hgranted : (s.step m (.refresh (.ofError token r.error))).1 = .granted r.grant) :
    ((s.step m (.refresh (.ofError token r.error))).2.capacity token.scope).toNat
          + s.gate.terms.charge (Classifiable.classify r.error : Failure).errorType
        = (s.capacity token.scope).toNat
      ∧ (s.step m (.refresh (.ofError token r.error))).2.gate.Bounded := by
  have hcovered : s.gate.terms.charge (Classifiable.classify r.error : Failure).errorType
      ≤ (s.capacity token.scope).toNat :=
    Gate.charge_le_capacity (Strategy.decision_of_granted hgranted)
  have hpaid := Strategy.capacity_step_self hbounded m (.refresh (.ofError token r.error))
  rw [hgranted] at hpaid
  replace hpaid : ((s.step m (.refresh (.ofError token r.error))).2.capacity token.scope).toNat
      = (s.capacity token.scope).toNat
        - s.gate.terms.charge (Classifiable.classify r.error : Failure).errorType := hpaid
  refine ⟨by omega, ?_⟩
  rw [Strategy.gate_step]
  exact hbounded.step _

/-- **Grants keep to the attempt limit.** -/
theorem within_of_answers {rounds : List (Round ε)}
    (hanswers : (s.run (asked script draws clock token number rounds)).1
      = rounds.map (fun r => .granted r.grant) ++ [answer])
    (hmade : token.attemptsMade.toNat ≤ s.maxAttempts.toNat) :
    token.attemptsMade.toNat + rounds.length ≤ s.maxAttempts.toNat := by
  induction rounds generalizing s clock token number with
  | nil => exact hmade
  | cons r rounds ih =>
      obtain ⟨hgranted, hrest⟩ := answers_cons hanswers
      obtain ⟨_, hnext, hwithin⟩ := token_of_round hgranted
      have hsame : Strategy.maxAttempts (s.step (reportMoment script draws clock number)
          (.refresh (.ofError token r.error))).2 = s.maxAttempts :=
        congrArg GateTerms.maxAttempts (s.terms_step _ _)
      have hlater := ih hrest (by rw [hsame]; exact hwithin)
      rw [hsame] at hlater
      rw [List.length_cons]
      omega

/-- The last answer takes nothing from the budget, and adds to it what it credits. -/
theorem capacity_lastAsked (hbounded : s.gate.Bounded) {outcome : Except ε α} {m : Moment}
    {ending : Outcome ε α} {last : Action ε α}
    (hends : Ends outcome (s.step m (lastAsked token outcome)).1 ending last) :
    ((s.step m (lastAsked token outcome)).2.capacity token.scope).toNat
      = settled s.gate.terms.budget.initialCapacity.toNat (s.capacity token.scope).toNat
          (s.step m (lastAsked token outcome)).1 := by
  cases outcome with
  | error error =>
      have hafter := Strategy.capacity_step_self hbounded m (.refresh (.ofError token error))
      show ((s.step m (.refresh (.ofError token error))).2.capacity token.scope).toNat
        = settled _ _ (s.step m (.refresh (.ofError token error))).1
      generalize hanswer : (s.step m (lastAsked token (.error error : Except ε α))).1 = answer
        at hends
      replace hanswer : (s.step m (.refresh (.ofError token error))).1 = answer := hanswer
      rw [hanswer] at hafter ⊢
      cases hends
      exact hafter
  | ok value =>
      have hafter := Strategy.capacity_step_self hbounded m (.succeed token)
      have hheld : (s.capacity token.scope).toNat ≤ s.gate.terms.budget.initialCapacity.toNat :=
        hbounded.capacity_le token.scope
      have hdecision : (s.step m (.succeed token)).1.decision
          = .credited (s.gate.succeed token).1 := s.decision_step m (.succeed token)
      have hamount : (s.succeed m token).1 = (s.gate.succeed token).1 :=
        Decision.credited.inj hdecision
      rw [hdecision] at hafter
      show ((s.step m (.succeed token)).2.capacity token.scope).toNat
        = min _ (_ + (s.succeed m token).1.toNat)
      replace hafter : ((s.step m (.succeed token)).2.capacity token.scope).toNat
        = if s.gate.terms.breakerEnabled then
            min s.gate.terms.budget.initialCapacity.toNat
              ((s.capacity token.scope).toNat + (s.gate.succeed token).1.toNat)
          else (s.capacity token.scope).toNat := hafter
      rw [hafter, hamount, Gate.credit_succeed]
      split
      · rfl
      · show _ = min _ ((s.capacity token.scope).toNat + 0)
        omega

/-- **Grants are paid from the budget of the scope**, and the last answer adds what it credits. -/
theorem capacity_of_answers {rounds : List (Round ε)} (hbounded : s.gate.Bounded)
    (hanswers : (s.run (asked script draws clock token number rounds)).1
      = rounds.map (fun r => .granted r.grant) ++ [answer])
    {ending : Outcome ε α} {last : Action ε α}
    (hends : Ends (script (number + rounds.length)).outcome answer ending last) :
    ∃ left, left + s.gate.terms.charges (failuresOf rounds) = (s.capacity token.scope).toNat
      ∧ ((s.run (asked script draws clock token number rounds)).2.capacity token.scope).toNat
        = settled s.gate.terms.budget.initialCapacity.toNat left answer := by
  induction rounds generalizing s clock token number with
  | nil =>
      have hanswer : (s.step (reportMoment script draws clock number)
          (lastAsked token (script number).outcome)).1 = answer := (List.cons.inj hanswers).1
      subst hanswer
      exact ⟨(s.capacity token.scope).toNat, rfl, capacity_lastAsked hbounded hends⟩
  | cons r rounds ih =>
      obtain ⟨hgranted, hrest⟩ := answers_cons hanswers
      have hterms := s.terms_step (reportMoment script draws clock number)
        (.refresh (.ofError token r.error))
      have hscope := (token_of_round hgranted).1
      -- the first round is paid, and so are the others, from what it leaves
      obtain ⟨hpaid, hnext⟩ := paid_of_round hbounded hgranted
      rw [List.length_cons, show number + (rounds.length + 1) = number + 1 + rounds.length by omega]
        at hends
      obtain ⟨left, hleft, hlast⟩ := ih hnext hrest hends
      rw [hterms, hscope] at hleft hlast
      refine ⟨left, ?_, hlast⟩
      show left + (s.gate.terms.charge (Classifiable.classify r.error : Failure).errorType
        + s.gate.terms.charges (failuresOf rounds)) = _
      omega

end

/-! ## §4. Whole calls. -/

section

variable (number : Nat) (rounds : List (Round ε))

omit [Classifiable ε] in
theorem attempts_taken :
    (taken number rounds : List (Action ε α)).countP Action.isAttempt = rounds.length := by
  induction rounds generalizing number with
  | nil => rfl
  | cons r rounds ih =>
      have hwait : (waitActions r.grant.delay : List (Action ε α)).countP Action.isAttempt = 0 := by
        unfold waitActions
        split <;> rfl
      rw [taken, List.countP_cons_of_pos rfl, List.countP_cons_of_neg Bool.noConfusion,
        List.countP_append, hwait, ih, List.length_cons]
      omega

omit [Classifiable ε] in
theorem answers_taken :
    (taken number rounds : List (Action ε α)).filterMap Action.answer?
      = rounds.map fun r => .granted r.grant := by
  induction rounds generalizing number with
  | nil => rfl
  | cons r rounds ih =>
      have hwait :
          (waitActions r.grant.delay : List (Action ε α)).filterMap Action.answer? = [] := by
        unfold waitActions
        split <;> rfl
      show Answer.granted r.grant :: (waitActions r.grant.delay ++ _).filterMap _ = _
      rw [List.filterMap_append, hwait, ih]
      rfl

omit [Classifiable ε] in
theorem waits_taken :
    (taken number rounds : List (Action ε α)).filterMap Action.wait?
      = (rounds.map fun r => r.grant.delay).filter (· ≠ .zero) := by
  induction rounds generalizing number with
  | nil => rfl
  | cons r rounds ih =>
      show (waitActions r.grant.delay ++ taken (number + 1) rounds).filterMap Action.wait? = _
      rw [List.filterMap_append, ih, List.map_cons]
      unfold waitActions
      by_cases hzero : r.grant.delay = .zero
      · rw [if_pos hzero, List.filter_cons_of_neg (by simp [hzero])]
        rfl
      · rw [if_neg hzero, List.filter_cons_of_pos (by simp [hzero])]
        rfl

end

omit [RateArithmetic R] [Classifiable ε] in
theorem attempts_eq_countP (f : Finished R ε α) :
    f.attempts = f.actions.countP Action.isAttempt := rfl

/-- What holds of a blocking call that made the rounds and one attempt more, to which the strategy
gave its last answer. -/
structure BlockingLaw (s : Strategy R) (clock : ManualClock) (scope : String)
    (script : Script ε α) (draws : Nat → Draws) (rounds : List (Round ε)) (answer : Answer)
    (f : Finished R ε α) : Prop where
  /-- The operation was run once more than there are rounds. -/
  attempts_eq : f.attempts = rounds.length + 1
  /-- It was not run more often than the attempt limit allows. -/
  within : rounds.length + 1 ≤ s.maxAttempts.toNat
  /-- All attempts but the last one failed, with the errors of the rounds. -/
  failed : ∀ i r, rounds[i]? = some r → (script (i + 1)).outcome = .error r.error
  /-- If the last attempt succeeded, its value is the outcome; otherwise the outcome carries its
  error, and the reason for which the strategy refused another attempt. -/
  ended : ∃ last, Ends (script (rounds.length + 1)).outcome answer f.outcome last
    ∧ f.actions = .acquired ⟨.zero, .initial scope⟩ :: taken 1 rounds
      ++ [.attempted (rounds.length + 1) (script (rounds.length + 1)).outcome, last]
  /-- The strategy gave the first token, granted the rounds, and gave the last answer. -/
  answers_eq : (s.run (conversation script draws clock scope rounds)).1
    = .granted ⟨.zero, .initial scope⟩ :: rounds.map (fun r => .granted r.grant) ++ [answer]
  /-- These are all the answers that the call was given. -/
  told_eq : f.actions.filterMap Action.answer?
    = (s.run (conversation script draws clock scope rounds)).1
  /-- The strategy was asked nothing else. -/
  strategy_eq : f.strategy = (s.run (conversation script draws clock scope rounds)).2
  /-- Nothing else happened at it. -/
  events_eq : f.events = s.eventsOf (conversation script draws clock scope rounds)
  /-- The call waited for as long as the grants say, where that is any time at all. -/
  waits_eq : f.actions.filterMap Action.wait?
    = (rounds.map fun r => r.grant.delay).filter (· ≠ .zero)
  /-- The rounds were paid from the budget of the scope; what was left of it is still there after
  a refusal, and was added to by a credit, up to the initial capacity. -/
  capacity_eq : ∃ left,
    left + s.gate.terms.charges (failuresOf rounds) = (s.capacity scope).toNat
      ∧ (f.strategy.capacity scope).toNat
        = settled s.gate.terms.budget.initialCapacity.toNat left answer

section

variable {script : Script ε α} {draws : Nat → Draws} {s : Strategy R} {clock : ManualClock}
  {scope : String}

theorem step_acquire (s : Strategy R) (m : Moment) (scope : String) :
    s.step m (.acquire scope) = (.granted ⟨.zero, .initial scope⟩, (s.acquire m scope).2)
      ∧ (s.acquire m scope).2.gate = s.gate := by
  cases s <;> exact ⟨rfl, rfl⟩

theorem blocking_eq (s : Strategy R) (clock : ManualClock) (scope : String) (script : Script ε α)
    (draws : Nat → Draws) :
    blocking s clock scope script draws
      = (blockingFrom script draws (s.acquire ⟨clock.now, draws 0⟩ scope).2 clock
          (.initial scope) 1).after [.acquired ⟨.zero, .initial scope⟩]
          (s.events ⟨clock.now, draws 0⟩ (.acquire scope)) := by
  cases s <;> rfl

theorem blocking_unjittered (hsteady : s.plan.isJittered = false) (draws' : Nat → Draws) :
    blocking s clock scope script draws = blocking s clock scope script draws' := by
  have hplan : (s.acquire ⟨clock.now, draws' 0⟩ scope).2.plan = s.plan :=
    s.plan_step ⟨clock.now, draws' 0⟩ (.acquire scope)
  have hacquire : s.acquire ⟨clock.now, draws 0⟩ scope = s.acquire ⟨clock.now, draws' 0⟩ scope :=
    s.acquire_unjittered (by rfl) scope
  have hevents : s.events ⟨clock.now, draws 0⟩ (.acquire scope)
      = s.events ⟨clock.now, draws' 0⟩ (.acquire scope) :=
    Strategy.events_unjittered hsteady (by rfl) (.acquire scope)
  rw [blocking_eq, blocking_eq, hacquire, hevents,
    blockingFrom_unjittered script draws draws' (by rw [hplan]; exact hsteady)]

/-- **Every blocking call obeys the law**, if the gate is bounded and lets a call make its first
attempt. -/
theorem blockingLaw_of_bounded (hbounded : s.gate.Bounded)
    (hlimit : 0 < s.gate.terms.maxAttempts.toNat) :
    ∃ rounds answer, BlockingLaw s clock scope script draws rounds answer
      (blocking s clock scope script draws) := by
  obtain ⟨hfirst, hgate⟩ := step_acquire s ⟨clock.now, draws 0⟩ scope
  obtain ⟨rounds, answer, hdrives⟩ := drives_blockingFrom script draws
    (s.acquire ⟨clock.now, draws 0⟩ scope).2 clock (.initial scope) 1
  obtain ⟨last, hends, hactions⟩ := hdrives.ended
  have hnumber : 1 + rounds.length = rounds.length + 1 := Nat.add_comm _ _
  -- the conversation of the call is the first request, and then that of the loop
  have hrun : s.run (conversation script draws clock scope rounds)
      = (.granted ⟨.zero, .initial scope⟩ :: rounds.map (fun r => .granted r.grant) ++ [answer],
        (blocking s clock scope script draws).strategy) := by
    rw [conversation, Strategy.run_cons, hfirst, hdrives.answers_eq, ← hdrives.strategy_eq,
      blocking_eq]
    rfl
  have hdone : (blocking s clock scope script draws).actions
      = .acquired ⟨.zero, .initial scope⟩ :: taken 1 rounds
        ++ [.attempted (rounds.length + 1) (script (rounds.length + 1)).outcome, last] := by
    rw [blocking_eq, ← hnumber]
    exact congrArg (_ :: ·) hactions
  rw [hnumber] at hends
  have hended : Ends (script (rounds.length + 1)).outcome answer
      (blocking s clock scope script draws).outcome last := by
    rw [blocking_eq]
    exact hends
  obtain ⟨htold, hsilent, hwaitless⟩ := hended.last_action
  refine ⟨rounds, answer, ?_⟩
  constructor
  case attempts_eq =>
    rw [attempts_eq_countP, hdone, List.cons_append, List.countP_cons_of_neg Bool.noConfusion,
      List.countP_append, attempts_taken, List.countP_cons_of_pos rfl,
      List.countP_cons_of_neg (by rw [hsilent]; exact Bool.noConfusion)]
    rfl
  case within =>
    have hwithin := within_of_answers hdrives.answers_eq
      (show 1 ≤ (Strategy.gate _).terms.maxAttempts.toNat by rw [hgate]; exact hlimit)
    unfold Strategy.maxAttempts at hwithin ⊢
    rw [hgate] at hwithin
    rw [← hnumber]
    exact hwithin
  case failed =>
    intro i r h
    rw [Nat.add_comm]
    exact hdrives.failed i r h
  case ended => exact ⟨last, hended, hdone⟩
  case answers_eq => rw [hrun]
  case told_eq =>
    rw [hrun, hdone]
    show Answer.granted ⟨.zero, .initial scope⟩
      :: (taken 1 rounds ++ [_, last]).filterMap Action.answer? = _
    rw [List.filterMap_append, answers_taken, List.filterMap_cons_none rfl,
      List.filterMap_cons_some htold]
    rfl
  case strategy_eq => rw [hrun]
  case events_eq =>
    rw [conversation, Strategy.eventsOf, hfirst, ← hdrives.events_eq, blocking_eq]
    rfl
  case waits_eq =>
    rw [hdone, List.cons_append, List.filterMap_cons_none rfl, List.filterMap_append, waits_taken,
      List.filterMap_cons_none rfl, List.filterMap_cons_none hwaitless]
    exact List.append_nil _
  case capacity_eq =>
    rw [← hnumber] at hends
    obtain ⟨left, hleft, hlast⟩ := capacity_of_answers (by rw [hgate]; exact hbounded)
      hdrives.answers_eq hends
    unfold Strategy.capacity at hleft
    rw [hgate] at hleft hlast
    rw [← hdrives.strategy_eq] at hlast
    refine ⟨left, hleft, ?_⟩
    rw [blocking_eq]
    exact hlast

end

end Call

/-- **BLOCKING CALLS ARE CORRECT.**  On a built strategy in any state that uses lead to, whatever
the attempts come to, a call runs the operation at least once and not more often than the attempt
limit allows, asks the strategy what the law says and nothing else, ends as its last attempt does,
and is paid from the budget of its scope. -/
theorem blocking_correct [Classifiable ε] {p : Plan R} {first : Strategy R}
    (hbuilt : p.build = .ok first) (uses : List Use) (clock : ManualClock) (scope : String)
    (script : Script ε α) (draws : Nat → Draws) :
    ∃ rounds answer, Call.BlockingLaw (first.useAll uses).2 clock scope script draws rounds answer
      (Call.blocking (first.useAll uses).2 clock scope script draws) := by
  obtain ⟨hbounded, hterms⟩ := Strategy.bounded_useAll (Plan.bounded_of_build hbuilt) uses
  have hlimit : 0 < (first.useAll uses).2.gate.terms.maxAttempts.toNat := by
    rw [hterms]
    exact Plan.maxAttempts_pos hbuilt
  exact Call.blockingLaw_of_bounded hbounded hlimit

/-- A plan whose retries wait for five milliseconds. -/
def steadyPlan : Plan Float :=
  .standard { backoff := .fixed (.ofMillis 5) false }

/-- The strategy of the steady plan. -/
def steadyStrategy : Strategy Float :=
  .standard { gate := { terms := {} }, backoff := .fixed (.ofMillis 5) false }

/-- Two passing faults, and then a value. -/
def recoveringScript : Script ErrorType Nat := fun number =>
  if number < 3 then { outcome := .error .transient } else { outcome := .ok 7 }

/-- The call waits twice and comes to the value at its third attempt. -/
theorem blocking_correct_recovering :
    let call := Call.blocking steadyStrategy {} "s" recoveringScript fun _ _ => 0
    steadyPlan.build = .ok steadyStrategy
      ∧ (∃ rounds answer, Call.BlockingLaw steadyStrategy {} "s" recoveringScript (fun _ _ => 0)
          rounds answer call)
      ∧ call.outcome = .ok 7
      ∧ call.actions.filterMap Action.wait? = [.ofMillis 5, .ofMillis 5]
      ∧ (call.strategy.capacity "s").toNat = 500 - 5 - 5 + 1 := by
  intro call
  have hbuilt : steadyPlan.build = .ok steadyStrategy := rfl
  have hcall : call = Call.blocking steadyStrategy {} "s" recoveringScript fun _ _ => 0 := rfl
  rw [Call.blocking_eq, Call.blockingFrom_granted rfl rfl, Call.blockingFrom_granted rfl rfl,
    Call.blockingFrom_ok rfl] at hcall
  refine ⟨hbuilt, blocking_correct hbuilt [] {} "s" recoveringScript fun _ _ => 0, ?_⟩
  rw [hcall]
  exact ⟨rfl, by decide, by decide⟩

end RetryControl
