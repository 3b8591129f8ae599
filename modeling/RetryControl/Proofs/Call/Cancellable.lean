/-
  RetryControl.Proofs.Call.Cancellable
  ────────────────────────────────
  **A CANCELLED CALL IS THE BEGINNING OF A BLOCKING ONE.**

  Both loops hold the same conversation with their strategy, and a
  cancellation ends it early:

    • `Finished.calls`, `made` — what a call does besides waiting,
    • `SameCalls`, `CutShort` — two ways in which the loops can go,
    • `follows_blockingFrom` — the loop goes on as the blocking one does, or
      is cut short after some of its rounds,
    • `CancellableLaw`, `cancellable_follows_blocking` — all this for whole
      calls, on strategies in any state that uses lead to.
-/
import RetryControl.Proofs.Call.Blocking
import RetryControl.Proofs.Call.CancelPoint

namespace RetryControl

/-! ## §1. Calls without their waits. -/

variable {R ε α : Type}

/-- The action is a call of the strategy or of the operation. -/
def Action.isCall : Action ε α → Bool
  | .waited _ => false
  | _ => true

/-- The calls of the strategy and of the operation, in order, with what came of them. -/
def Finished.calls (f : Finished R ε α) : List (Action ε α) := f.actions.filter Action.isCall

namespace Call

theorem calls_waitActions (delay : Duration) :
    (waitActions delay : List (Action ε α)).filter Action.isCall = [] := by
  unfold waitActions
  split <;> rfl

theorem calls_round (number : Nat) (r : Round ε) (delay : Duration) :
    (.attempted number (.error r.error) :: .refreshed (.ok r.grant) :: waitActions delay
        : List (Action ε α)).filter Action.isCall
      = [.attempted number (.error r.error), .refreshed (.ok r.grant)] := by
  rw [List.filter_cons_of_pos rfl, List.filter_cons_of_pos rfl, calls_waitActions]

/-- The calls of the rounds from attempt `number` on. -/
def made (number : Nat) : List (Round ε) → List (Action ε α)
  | [] => []
  | r :: rest =>
    .attempted number (.error r.error) :: .refreshed (.ok r.grant) :: made (number + 1) rest

theorem calls_taken (number : Nat) (rounds : List (Round ε)) :
    (taken number rounds : List (Action ε α)).filter Action.isCall = made number rounds := by
  induction rounds generalizing number with
  | nil => rfl
  | cons r rounds ih =>
      rw [taken, made, List.filter_cons_of_pos rfl, List.filter_cons_of_pos rfl,
        List.filter_append, calls_waitActions, ih, List.nil_append]

theorem made_append (number : Nat) (before after : List (Round ε)) :
    (made number (before ++ after) : List (Action ε α))
      = made number before ++ made (number + before.length) after := by
  induction before generalizing number with
  | nil => rfl
  | cons r rest ih =>
      rw [List.cons_append, made, ih, made, List.length_cons,
        show number + 1 + rest.length = number + (rest.length + 1) by omega]
      rfl

theorem attempts_made (number : Nat) (rounds : List (Round ε)) :
    (made number rounds : List (Action ε α)).countP Action.isAttempt = rounds.length := by
  induction rounds generalizing number with
  | nil => rfl
  | cons r rounds ih =>
      rw [made, List.countP_cons_of_pos rfl, List.countP_cons_of_neg Bool.noConfusion, ih,
        List.length_cons]

theorem answers_made (number : Nat) (rounds : List (Round ε)) :
    (made number rounds : List (Action ε α)).filterMap Action.answer?
      = rounds.map fun r => .granted r.grant := by
  induction rounds generalizing number with
  | nil => rfl
  | cons r rounds ih =>
      show Answer.granted r.grant :: (made (number + 1) rounds).filterMap Action.answer? = _
      rw [ih]
      rfl

/-- Rounds credit nothing. -/
theorem credited_not_mem_made (number : Nat) (rounds : List (Round ε)) (amount : Count) :
    Action.credited amount ∉ (made number rounds : List (Action ε α)) := by
  induction rounds generalizing number with
  | nil => exact List.not_mem_nil
  | cons r rounds ih => simp [made, ih (number + 1)]

/-! ## §2. The loop goes on, or is cut short. -/

/-- Two calls that differ in their waits at most. -/
structure SameCalls (f g : Finished R ε α) : Prop where
  outcome_eq : g.outcome = f.outcome
  calls_eq : g.calls = f.calls
  events_eq : g.events = f.events
  strategy_eq : g.strategy = f.strategy
  clock_eq : g.clock = f.clock

variable [RateArithmetic R] [Classifiable ε]

/-- A call that was aborted when it had made these calls, and asked its strategy this. -/
structure CutShort (s : Strategy R) (asked : List (Moment × Operation))
    (calls : List (Action ε α)) (g : Finished R ε α) : Prop where
  outcome_eq : g.outcome = .aborted
  calls_eq : g.calls = calls
  strategy_eq : g.strategy = (s.run asked).2
  events_eq : g.events = s.eventsOf asked

section

variable {timer : Timer} {c : Cancellation} {script : Script ε α} {draws : Nat → Draws}
  {s : Strategy R} {clock : ManualClock} {token : Token} {number : Nat} {waited : Duration}

/-! The five ways of an attempt, as equations of the loop. -/

theorem cancellableFrom_happened (h : c.happenedBefore number = true) :
    cancellableFrom timer c script draws s clock token number waited
      = { outcome := .aborted, actions := [], events := [], strategy := s, clock } := by
  rw [cancellableFrom, if_pos h]

/-- An attempt that ends the call does so as in the blocking loop. -/
theorem cancellableFrom_ok (hlive : c.happenedBefore number = false) {value : α}
    (hattempt : (script number).outcome = .ok value) :
    cancellableFrom timer c script draws s clock token number waited
      = blockingFrom script draws s clock token number := by
  rw [blockingFrom_ok hattempt, cancellableFrom, hlive]
  simp only [hattempt]
  rfl

theorem cancellableFrom_refused (hlive : c.happenedBefore number = false) {error : ε}
    {reason : RetryError} (hattempt : (script number).outcome = .error error)
    (hrefused : (s.refresh (reportMoment script draws clock number) (.ofError token error)).1
      = .error reason) :
    cancellableFrom timer c script draws s clock token number waited
      = blockingFrom script draws s clock token number := by
  rw [blockingFrom_refused hattempt hrefused, cancellableFrom, if_neg (by rw [hlive]; decide)]
  unfold reportMoment at hrefused
  simp only [hattempt]
  split
  · rename_i grant hgranted
    rw [hrefused] at hgranted
    cases hgranted
  · rename_i other hother
    rw [hrefused] at hother
    cases hother
    rfl

theorem cancellableFrom_stopped (hlive : c.happenedBefore number = false) {error : ε}
    {grant : Grant} (hattempt : (script number).outcome = .error error)
    (hgranted : (s.refresh (reportMoment script draws clock number) (.ofError token error)).1
      = .ok grant) {into : Duration}
    (hstops : c.stopsWait timer number waited grant.delay = some into) :
    cancellableFrom timer c script draws s clock token number waited
      = { outcome := .aborted
          actions := .attempted number (.error error) :: .refreshed (.ok grant) :: waitActions into
          events := s.events (reportMoment script draws clock number)
            (.refresh (.ofError token error))
          strategy := (s.refresh (reportMoment script draws clock number)
            (.ofError token error)).2
          clock := clock.advance (script number).takes } := by
  unfold reportMoment at hgranted
  rw [cancellableFrom, if_neg (by rw [hlive]; decide)]
  simp only [hattempt]
  split
  · rename_i other hother
    rw [hgranted] at hother
    cases hother
    rw [hstops]
    rfl
  · rename_i reason hrefused
    rw [hgranted] at hrefused
    cases hrefused

theorem cancellableFrom_goes (hlive : c.happenedBefore number = false) {error : ε}
    {grant : Grant} (hattempt : (script number).outcome = .error error)
    (hgranted : (s.refresh (reportMoment script draws clock number) (.ofError token error)).1
      = .ok grant) (hgoes : c.stopsWait timer number waited grant.delay = none) :
    cancellableFrom timer c script draws s clock token number waited
      = (cancellableFrom timer c script draws
            (s.refresh (reportMoment script draws clock number) (.ofError token error)).2
            (clock.advance (script number).takes) grant.token (number + 1)
            (waited.addSat (timer.ends grant.delay))).after
          (.attempted number (.error error) :: .refreshed (.ok grant)
            :: waitActions (timer.ends grant.delay))
          (s.events (reportMoment script draws clock number)
            (.refresh (.ofError token error))) := by
  unfold reportMoment at hgranted
  rw [cancellableFrom, if_neg (by rw [hlive]; decide)]
  simp only [hattempt]
  split
  · rename_i other hother
    rw [hgranted] at hother
    cases hother
    rw [hgoes]
    rfl
  · rename_i reason hrefused
    rw [hgranted] at hrefused
    cases hrefused

/-- What an attempt that ends the call comes to does not depend on the loop. -/
theorem cancellableFrom_last (hlive : c.happenedBefore number = false) {ending : Outcome ε α}
    {last : Action ε α}
    (hends : Ends (script number).outcome (s.step (reportMoment script draws clock number)
      (lastAsked token (script number).outcome)).1 ending last) :
    cancellableFrom timer c script draws s clock token number waited
      = blockingFrom script draws s clock token number := by
  generalize hattempt : (script number).outcome = outcome at hends
  cases outcome with
  | ok value => exact cancellableFrom_ok hlive hattempt
  | error error =>
      rw [lastAsked, Strategy.step_refresh] at hends
      cases hanswer : (s.refresh (reportMoment script draws clock number)
          (.ofError token error)).1 with
      | ok grant =>
          rw [hanswer] at hends
          cases hends
      | error reason => exact cancellableFrom_refused hlive hattempt hanswer

/-- A cancellation that has happened ends the call at the next attempt. -/
theorem CutShort.of_happened (h : c.happenedBefore number = true) :
    CutShort s [] [] (cancellableFrom timer c script draws s clock token number waited) := by
  rw [cancellableFrom_happened h]
  exact ⟨rfl, rfl, rfl, rfl⟩

/-- In the wait after an attempt it ends the call with the round of that attempt. -/
theorem CutShort.of_stopped (hlive : c.happenedBefore number = false) {r : Round ε}
    (hattempt : (script number).outcome = .error r.error)
    (hgranted : (s.refresh (reportMoment script draws clock number) (.ofError token r.error)).1
      = .ok r.grant) {into : Duration}
    (hstops : c.stopsWait timer number waited r.grant.delay = some into) :
    CutShort s [(reportMoment script draws clock number, .refresh (.ofError token r.error))]
      [.attempted number (.error r.error), .refreshed (.ok r.grant)]
      (cancellableFrom timer c script draws s clock token number waited) := by
  rw [cancellableFrom_stopped hlive hattempt hgranted hstops]
  exact ⟨rfl, calls_round number r into, rfl, (List.append_nil _).symm⟩

omit [Classifiable ε] in
/-- Before it was cut short, a call can have done other things. -/
theorem CutShort.after {m : Moment} {op : Operation} {asked : List (Moment × Operation)}
    {calls : List (Action ε α)} {g : Finished R ε α} (h : CutShort (s.step m op).2 asked calls g)
    (actions : List (Action ε α)) :
    CutShort s ((m, op) :: asked) (actions.filter Action.isCall ++ calls)
      (g.after actions (s.events m op)) := by
  obtain ⟨houtcome, hcalls, hstrategy, hevents⟩ := h
  refine ⟨houtcome, ?_, hstrategy, ?_⟩
  · show (actions ++ g.actions).filter Action.isCall = _
    rw [List.filter_append, ← hcalls]
    rfl
  · show s.events m op ++ g.events = s.events m op ++ _
    rw [hevents]

omit [RateArithmetic R] [Classifiable ε] in
/-- Calls stay the same when both have made the same calls before. -/
theorem SameCalls.after {f g : Finished R ε α} (h : SameCalls f g)
    {actions actions' : List (Action ε α)}
    (hcalls : actions'.filter Action.isCall = actions.filter Action.isCall)
    (events : List (Event R)) : SameCalls (f.after actions events) (g.after actions' events) := by
  obtain ⟨houtcome, hcallsRest, hevents, hstrategy, hclock⟩ := h
  refine ⟨houtcome, ?_, ?_, hstrategy, hclock⟩
  · show (actions' ++ g.actions).filter Action.isCall = (actions ++ f.actions).filter Action.isCall
    rw [List.filter_append, List.filter_append, hcalls]
    exact congrArg _ hcallsRest
  · show events ++ g.events = events ++ f.events
    rw [hevents]

/-- **The loop goes on as the blocking one does, or is cut short**, and which of them it is hangs on
the cancellation and the waits alone. -/
theorem follows_blockingFrom {rounds : List (Round ε)} {answer : Answer}
    (hfailed : ∀ i r, rounds[i]? = some r → (script (number + i)).outcome = .error r.error)
    (hanswers : (s.run (asked script draws clock token number rounds)).1
      = rounds.map (fun r => .granted r.grant) ++ [answer])
    {ending : Outcome ε α} {last : Action ε α}
    (hends : Ends (script (number + rounds.length)).outcome answer ending last)
    (waited : Duration) :
    (c.roundsUntil? timer number waited (rounds.map fun r => r.grant.delay) = none →
        SameCalls (blockingFrom script draws s clock token number)
          (cancellableFrom timer c script draws s clock token number waited))
      ∧ ∀ n, c.roundsUntil? timer number waited (rounds.map fun r => r.grant.delay) = some n →
        CutShort s ((asked script draws clock token number rounds).take n)
          (made number (rounds.take n))
          (cancellableFrom timer c script draws s clock token number waited) := by
  -- round by round, with the time spent waiting growing
  induction rounds generalizing s clock token number waited with
  | nil =>
      cases hhappened : c.happenedBefore number with
      | true =>
          rw [Cancellation.roundsUntil?_happened hhappened]
          refine ⟨fun hnone => (nomatch hnone), fun n hcut => ?_⟩
          cases hcut
          exact .of_happened hhappened
      | false =>
          rw [List.map_nil, Cancellation.roundsUntil?_nil hhappened]
          refine ⟨fun _ => ?_, fun n hcut => (nomatch hcut)⟩
          have hanswer : (s.step (reportMoment script draws clock number)
              (lastAsked token (script number).outcome)).1 = answer := (List.cons.inj hanswers).1
          rw [← hanswer] at hends
          rw [cancellableFrom_last hhappened hends]
          exact ⟨rfl, rfl, rfl, rfl, rfl⟩
  | cons r rest ih =>
      have hattempt : (script number).outcome = .error r.error := hfailed 0 r rfl
      obtain ⟨hround, hrest⟩ := answers_cons hanswers
      have hgranted : (s.refresh (reportMoment script draws clock number)
          (.ofError token r.error)).1 = .ok r.grant := by
        rw [Strategy.step_refresh] at hround
        exact Answer.ofExcept_eq_granted_iff.mp hround
      rw [List.map_cons]
      cases hhappened : c.happenedBefore number with
      | true =>
          rw [Cancellation.roundsUntil?_happened hhappened]
          refine ⟨fun hnone => (nomatch hnone), fun n hcut => ?_⟩
          cases hcut
          exact .of_happened hhappened
      | false =>
          cases hstops : c.stopsWait timer number waited r.grant.delay with
          | some into =>
              rw [Cancellation.roundsUntil?_stopped hhappened hstops]
              refine ⟨fun hnone => (nomatch hnone), fun n hcut => ?_⟩
              cases hcut
              exact .of_stopped hhappened hattempt hgranted hstops
          | none =>
              have hnumber : number + 1 + rest.length = number + (r :: rest).length := by
                rw [List.length_cons]
                omega
              have hlater : ∀ i other, rest[i]? = some other →
                  (script (number + 1 + i)).outcome = .error other.error := by
                intro i other hat
                rw [show number + 1 + i = number + (i + 1) by omega]
                exact hfailed (i + 1) other hat
              obtain ⟨hsame, hcut⟩ := ih hlater hrest (by rw [hnumber]; exact hends)
                (waited.addSat (timer.ends r.grant.delay))
              rw [Cancellation.roundsUntil?_goes hhappened hstops,
                cancellableFrom_goes hhappened hattempt hgranted hstops,
                blockingFrom_granted hattempt hgranted]
              refine ⟨fun hnone => ?_, fun n hsome => ?_⟩
              · apply (hsame (Option.map_eq_none_iff.mp hnone)).after
                rw [calls_round, calls_round]
              · obtain ⟨m, hm, rfl⟩ := Option.map_eq_some_iff.mp hsome
                have hround : CutShort s _ (_ ++ made (number + 1) (rest.take m)) _ :=
                  (hcut m hm).after (.attempted number (.error r.error) :: .refreshed (.ok r.grant)
                    :: waitActions (timer.ends r.grant.delay))
                rw [calls_round] at hround
                exact hround

/-- **The first rounds are paid from the budget of the scope**, and no other scope pays. -/
theorem paid_of_answers {rounds : List (Round ε)} {answer : Answer} (hbounded : s.gate.Bounded)
    (hanswers : (s.run (asked script draws clock token number rounds)).1
      = rounds.map (fun r => .granted r.grant) ++ [answer])
    {n : Nat} (hwithin : n ≤ rounds.length) :
    let after := (s.run ((asked script draws clock token number rounds).take n)).2
    (after.capacity token.scope).toNat + s.gate.terms.charges (failuresOf (rounds.take n))
        = (s.capacity token.scope).toNat
      ∧ ∀ other, other ≠ token.scope → after.capacity other = s.capacity other := by
  induction rounds generalizing s clock token number n with
  | nil =>
      obtain rfl : n = 0 := Nat.le_zero.mp hwithin
      exact ⟨rfl, fun _ _ => rfl⟩
  | cons r rest ih =>
      cases n with
      | zero => exact ⟨rfl, fun _ _ => rfl⟩
      | succ n =>
          obtain ⟨hround, hrest⟩ := answers_cons hanswers
          obtain ⟨hpaid, hnext⟩ := paid_of_round hbounded hround
          have hterms := s.terms_step (reportMoment script draws clock number)
            (.refresh (.ofError token r.error))
          have hscope := (token_of_round hround).1
          obtain ⟨hlater, hothers⟩ := ih hnext hrest (Nat.le_of_succ_le_succ hwithin)
          rw [hterms, hscope] at hlater
          rw [hscope] at hothers
          have hsum : ∀ {left next whole paid later : Nat}, left + later = next →
              next + paid = whole → left + (paid + later) = whole := by omega
          exact ⟨hsum hlater hpaid, fun other hother =>
            (hothers other hother).trans (Strategy.capacity_step_other hbounded _ hother)⟩

end

/-! ## §3. Whole calls. -/

/-- How an attempt that was in flight when the call was cancelled may still settle it: with its
value, whose success is credited, or with its error, if another attempt is refused; otherwise the
call is aborted, though another attempt was granted. -/
inductive Settles : Except ε α → Outcome ε α → Action ε α → Prop where
  /-- The attempt succeeded. -/
  | ok (value : α) (amount : Count) : Settles (.ok value) (.ok value) (.credited amount)
  /-- It failed, and another one was refused. -/
  | gaveUp (error : ε) (reason : RetryError) :
      Settles (.error error) (.gaveUp reason error) (.refreshed (.error reason))
  /-- It failed, and another one was granted but not made. -/
  | aborted (error : ε) (grant : Grant) :
      Settles (.error error) .aborted (.refreshed (.ok grant))

omit [RateArithmetic R] [Classifiable ε] in
theorem Ends.settles {outcome : Except ε α} {answer : Answer} {ending : Outcome ε α}
    {last : Action ε α} (h : Ends outcome answer ending last) : Settles outcome ending last := by
  cases h with
  | ok value amount => exact .ok value amount
  | gaveUp error reason => exact .gaveUp error reason

omit [RateArithmetic R] [Classifiable ε] in
theorem Ends.isCall_last {outcome : Except ε α} {answer : Answer} {ending : Outcome ε α}
    {last : Action ε α} (h : Ends outcome answer ending last) : last.isCall = true := by
  cases h <;> rfl

omit [RateArithmetic R] [Classifiable ε] in
theorem Ends.ne_aborted {outcome : Except ε α} {answer : Answer} {ending : Outcome ε α}
    {last : Action ε α} (h : Ends outcome answer ending last) : ending ≠ .aborted := by
  intro haborted
  rw [haborted] at h
  cases h

/-- What holds of a call `g` that can be cancelled, beside a blocking call `f` that makes the rounds
and one attempt more. Of the timer only the point depends at which the call is cancelled. -/
structure CancellableLaw (timer : Timer) (s : Strategy R) (clock : ManualClock) (scope : String)
    (script : Script ε α) (draws : Nat → Draws) (rounds : List (Round ε)) (c : Cancellation)
    (f g : Finished R ε α) : Prop where
  /-- Its calls of the strategy and of the operation are the first ones of the blocking call, and
  the same came of them. -/
  calls_begin : g.calls <+: f.calls
  /-- It asked the strategy the first things that the blocking call asks, and nothing else. -/
  asked_begin : ∃ k,
    g.actions.filterMap Action.answer?
        = (s.run ((conversation script draws clock scope rounds).take k)).1
      ∧ g.strategy = (s.run ((conversation script draws clock scope rounds).take k)).2
      ∧ g.events = s.eventsOf ((conversation script draws clock scope rounds).take k)
  /-- If it is over before it is cancelled, it ends as the blocking call. -/
  spared : c.lands? timer (rounds.map fun r => r.grant.delay) = none → SameCalls f g
  /-- No attempt starts after the point at which it is cancelled. -/
  started : ∀ point, c.lands? timer (rounds.map fun r => r.grant.delay) = some point →
    g.attempts = point.attempts
  /-- An attempt in flight may still settle it. -/
  inFlight : ∀ number, c.lands? timer (rounds.map fun r => r.grant.delay) = some (.attempt number) →
    ∃ last, Settles (script number).outcome g.outcome last ∧ g.calls.getLast? = some last
  /-- Cancelled at any other point, it is aborted. -/
  elsewhere : ∀ point, c.lands? timer (rounds.map fun r => r.grant.delay) = some point →
    (∀ number, point ≠ .attempt number) → g.outcome = .aborted
  /-- An aborted call has credited nothing: its attempts failed, another one was granted after each,
  and these grants are what it has paid from the budget of its scope; no other scope has paid. -/
  aborted : g.outcome = .aborted →
    g.calls = .acquired ⟨.zero, .initial scope⟩ :: made 1 (rounds.take g.attempts)
      ∧ (∀ amount, .credited amount ∉ g.calls)
      ∧ (g.strategy.capacity scope).toNat
          + s.gate.terms.charges (failuresOf (rounds.take g.attempts))
        = (s.capacity scope).toNat
      ∧ ∀ other, other ≠ scope → g.strategy.capacity other = s.capacity other

omit [RateArithmetic R] [Classifiable ε] in
theorem attempts_eq_calls (f : Finished R ε α) :
    f.attempts = f.calls.countP Action.isAttempt := by
  rw [attempts_eq_countP, Finished.calls, List.countP_filter]
  congr 1
  funext action
  cases action <;> rfl

omit [RateArithmetic R] [Classifiable ε] in
theorem answers_eq_calls (f : Finished R ε α) :
    f.actions.filterMap Action.answer? = f.calls.filterMap Action.answer? := by
  unfold Finished.calls
  rw [List.filterMap_filter]
  congr 1
  funext action
  cases action <;> rfl

theorem run_take (s : Strategy R) (ops : List (Moment × Operation)) (k : Nat) :
    (s.run (ops.take k)).1 = (s.run ops).1.take k := by
  induction ops generalizing s k with
  | nil => rw [List.take_nil, show (s.run []).1 = [] from rfl, List.take_nil]
  | cons entry rest ih =>
      cases k with
      | zero => rfl
      | succ k => exact congrArg (_ :: ·) (ih (s.step entry.1 entry.2).2 k)

section

variable {s : Strategy R} {clock : ManualClock} {scope : String} {script : Script ε α}
  {draws : Nat → Draws} {rounds : List (Round ε)} {answer : Answer} {c : Cancellation}

theorem cancellableOn_eq (timer : Timer) (s : Strategy R) (clock : ManualClock) (scope : String)
    (c : Cancellation) (script : Script ε α) (draws : Nat → Draws) :
    cancellableOn timer s clock scope c script draws
      = (cancellableFrom timer c script draws (s.acquire ⟨clock.now, draws 0⟩ scope).2 clock
          (.initial scope) 1 .zero).after [.acquired ⟨.zero, .initial scope⟩]
          (s.events ⟨clock.now, draws 0⟩ (.acquire scope)) := by
  cases s <;> rfl

/-- The calls of a blocking call: the first token, the rounds, and what ended it. -/
theorem BlockingLaw.calls_eq {f : Finished R ε α}
    (hlaw : BlockingLaw s clock scope script draws rounds answer f) :
    ∃ last, Ends (script (rounds.length + 1)).outcome answer f.outcome last
      ∧ f.calls = .acquired ⟨.zero, .initial scope⟩ :: (made 1 rounds
        ++ [.attempted (rounds.length + 1) (script (rounds.length + 1)).outcome, last]) := by
  obtain ⟨last, hends, hactions⟩ := hlaw.ended
  refine ⟨last, hends, ?_⟩
  unfold Finished.calls
  rw [hactions, List.cons_append, List.filter_cons_of_pos rfl, List.filter_append, calls_taken,
    List.filter_cons_of_pos rfl, List.filter_cons_of_pos hends.isCall_last, List.filter_nil]

/-- What the rounds of a blocking call say of its loop. -/
theorem BlockingLaw.loop_answers {f : Finished R ε α}
    (hlaw : BlockingLaw s clock scope script draws rounds answer f) :
    ((s.acquire ⟨clock.now, draws 0⟩ scope).2.run
        (asked script draws clock (.initial scope) 1 rounds)).1
      = rounds.map (fun r => .granted r.grant) ++ [answer] := by
  have hanswers := hlaw.answers_eq
  rw [conversation, Strategy.run_cons, List.cons_append] at hanswers
  exact (List.cons.inj hanswers).2

/-- **A call that can be cancelled follows the blocking one, or is cut short.** -/
theorem follows_blocking
    (hlaw : BlockingLaw s clock scope script draws rounds answer
      (blocking s clock scope script draws)) (timer : Timer) (c : Cancellation) :
    (c.roundsUntil? timer 1 .zero (rounds.map fun r => r.grant.delay) = none →
        SameCalls (blocking s clock scope script draws)
          (cancellableOn timer s clock scope c script draws))
      ∧ ∀ n, c.roundsUntil? timer 1 .zero (rounds.map fun r => r.grant.delay) = some n →
        CutShort s ((conversation script draws clock scope rounds).take (n + 1))
          (.acquired ⟨.zero, .initial scope⟩ :: made 1 (rounds.take n))
          (cancellableOn timer s clock scope c script draws) := by
  obtain ⟨last, hends, _⟩ := hlaw.ended
  rw [Nat.add_comm] at hends
  have hfailed : ∀ i r, rounds[i]? = some r → (script (1 + i)).outcome = .error r.error := by
    intro i r hat
    rw [Nat.add_comm]
    exact hlaw.failed i r hat
  obtain ⟨hsame, hcut⟩ := follows_blockingFrom hfailed hlaw.loop_answers hends .zero
  rw [blocking_eq, cancellableOn_eq]
  refine ⟨fun hnone => (hsame hnone).after rfl _, fun n hsome => ?_⟩
  have hloop : CutShort (s.step ⟨clock.now, draws 0⟩ (.acquire scope)).2
      ((asked script draws clock (.initial scope) 1 rounds).take n) (made 1 (rounds.take n)) _ :=
    hcut n hsome
  exact hloop.after [.acquired ⟨.zero, .initial scope⟩]

/-- What a call that was cut short has made and paid. -/
theorem CutShort.paid {n : Nat} {f g : Finished R ε α} (hbounded : s.gate.Bounded)
    (hlaw : BlockingLaw s clock scope script draws rounds answer f)
    (hwithin : n ≤ rounds.length)
    (h : CutShort s ((conversation script draws clock scope rounds).take (n + 1))
      (.acquired ⟨.zero, .initial scope⟩ :: made 1 (rounds.take n)) g) :
    g.attempts = n
      ∧ (g.strategy.capacity scope).toNat + s.gate.terms.charges (failuresOf (rounds.take n))
        = (s.capacity scope).toNat
      ∧ ∀ other, other ≠ scope → g.strategy.capacity other = s.capacity other := by
  have hgate := (step_acquire s ⟨clock.now, draws 0⟩ scope).2
  obtain ⟨hpaid, hothers⟩ := paid_of_answers (by rw [hgate]; exact hbounded) hlaw.loop_answers
    hwithin
  rw [hgate] at hpaid
  refine ⟨?_, ?_, fun other hother => ?_⟩
  · rw [attempts_eq_calls, h.calls_eq, List.countP_cons_of_neg Bool.noConfusion, attempts_made,
      List.length_take, Nat.min_eq_left hwithin]
  · rw [h.strategy_eq]
    exact hpaid.trans (congrArg (fun gate : Gate => (gate.capacity scope).toNat) hgate)
  · rw [h.strategy_eq]
    exact (hothers other hother).trans (congrArg (fun gate : Gate => gate.capacity other) hgate)

/-- An attempt in flight that is followed by a round settles nothing. -/
theorem CutShort.settles {i : Nat} {f g : Finished R ε α}
    (hlaw : BlockingLaw s clock scope script draws rounds answer f) (hin : i < rounds.length)
    (h : CutShort s ((conversation script draws clock scope rounds).take (i + 1 + 1))
      (.acquired ⟨.zero, .initial scope⟩ :: made 1 (rounds.take (i + 1))) g) :
    ∃ last, Settles (script (i + 1)).outcome g.outcome last ∧ g.calls.getLast? = some last := by
  refine ⟨.refreshed (.ok rounds[i].grant), ?_, ?_⟩
  · rw [h.outcome_eq, hlaw.failed i rounds[i] (List.getElem?_eq_getElem hin)]
    exact .aborted _ _
  · have hlast : rounds.take (i + 1) = rounds.take i ++ [rounds[i]] := by
      rw [List.take_append_getElem hin]
    rw [h.calls_eq, hlast, made_append, ← List.cons_append, List.getLast?_append]
    rfl

/-- What a call that was cut short has made is how the blocking call begins. -/
theorem CutShort.calls_begin {n : Nat} {f g : Finished R ε α}
    (hlaw : BlockingLaw s clock scope script draws rounds answer f)
    (h : CutShort s ((conversation script draws clock scope rounds).take (n + 1))
      (.acquired ⟨.zero, .initial scope⟩ :: made 1 (rounds.take n)) g) :
    g.calls <+: f.calls := by
  obtain ⟨last, _, hcalls⟩ := hlaw.calls_eq
  rw [h.calls_eq, hcalls]
  refine ⟨made (1 + (rounds.take n).length) (rounds.drop n)
    ++ [.attempted (rounds.length + 1) (script (rounds.length + 1)).outcome, last], ?_⟩
  rw [List.cons_append, ← List.append_assoc, ← made_append, List.take_append_drop]

/-- It was told the first answers of the conversation. -/
theorem CutShort.told_eq {n : Nat} {f g : Finished R ε α}
    (hlaw : BlockingLaw s clock scope script draws rounds answer f) (hwithin : n ≤ rounds.length)
    (h : CutShort s ((conversation script draws clock scope rounds).take (n + 1))
      (.acquired ⟨.zero, .initial scope⟩ :: made 1 (rounds.take n)) g) :
    g.actions.filterMap Action.answer?
      = (s.run ((conversation script draws clock scope rounds).take (n + 1))).1 := by
  have hgranted : n ≤ (rounds.map fun r => Answer.granted r.grant).length := by
    rw [List.length_map]
    exact hwithin
  rw [answers_eq_calls, h.calls_eq, run_take, hlaw.answers_eq, List.cons_append,
    List.take_succ_cons, List.take_append_of_le_length hgranted, ← List.map_take,
    ← answers_made (α := α) 1]
  rfl

omit [Classifiable ε] in
/-- It has credited nothing. -/
theorem CutShort.credited_not_mem {asked : List (Moment × Operation)} {first : List (Round ε)}
    {g : Finished R ε α}
    (h : CutShort s asked (.acquired ⟨.zero, .initial scope⟩ :: made 1 first) g)
    (amount : Count) : .credited amount ∉ g.calls := by
  intro hmem
  rw [h.calls_eq] at hmem
  rcases List.mem_cons.mp hmem with hfirst | hround
  · cases hfirst
  · exact credited_not_mem_made 1 _ amount hround

/-- **Every call that can be cancelled obeys the law**, if the blocking call obeys its own. -/
theorem cancellableLaw_of_blockingLaw (hbounded : s.gate.Bounded)
    (hlaw : BlockingLaw s clock scope script draws rounds answer
      (blocking s clock scope script draws)) (timer : Timer) (c : Cancellation) :
    CancellableLaw timer s clock scope script draws rounds c (blocking s clock scope script draws)
      (cancellableOn timer s clock scope c script draws) := by
  obtain ⟨hsame, hcut⟩ := follows_blocking hlaw timer c
  obtain ⟨last, hends, hcalls⟩ := hlaw.calls_eq
  have hrounds := c.roundsUntil?_eq timer (rounds.map fun r => r.grant.delay)
  rw [List.length_map] at hrounds
  have hwithin : ∀ {n}, c.roundsUntil? timer 1 .zero (rounds.map fun r => r.grant.delay) = some n →
      n ≤ rounds.length := by
    intro n h
    have hle := Cancellation.roundsUntil?_le h
    rw [List.length_map] at hle
    exact hle
  -- where the call is cancelled says which of the two it is
  have hpoint : ∀ {point}, c.lands? timer (rounds.map fun r => r.grant.delay) = some point →
      c.roundsUntil? timer 1 .zero (rounds.map fun r => r.grant.delay)
        = point.rounds? rounds.length := by
    intro point h
    rw [hrounds, h]
    rfl
  constructor
  case calls_begin =>
    cases hend : c.roundsUntil? timer 1 .zero (rounds.map fun r => r.grant.delay) with
    | none => exact ⟨[], (List.append_nil _).trans (hsame hend).calls_eq⟩
    | some n => exact (hcut n hend).calls_begin hlaw
  case asked_begin =>
    cases hend : c.roundsUntil? timer 1 .zero (rounds.map fun r => r.grant.delay) with
    | none =>
        refine ⟨(conversation script draws clock scope rounds).length, ?_⟩
        rw [List.take_length, answers_eq_calls, (hsame hend).calls_eq, ← answers_eq_calls,
          (hsame hend).strategy_eq, (hsame hend).events_eq]
        exact ⟨hlaw.told_eq, hlaw.strategy_eq, hlaw.events_eq⟩
    | some n =>
        exact ⟨n + 1, (hcut n hend).told_eq hlaw (hwithin hend), (hcut n hend).strategy_eq,
          (hcut n hend).events_eq⟩
  case spared =>
    intro hnone
    apply hsame
    rw [hrounds, hnone]
    rfl
  case started =>
    intro point hland
    cases hend : point.rounds? rounds.length with
    | some n =>
        rw [((hcut n ((hpoint hland).trans hend)).paid hbounded hlaw
          (hwithin ((hpoint hland).trans hend))).1, CancelPoint.attempts_of_rounds hend]
    | none =>
        -- the attempt in flight is the last one of the blocking call
        obtain ⟨number, rfl, hlate⟩ := CancelPoint.rounds?_eq_none hend
        obtain ⟨_, hlimit⟩ := Cancellation.lands?_attempt hland
        rw [List.length_map] at hlimit
        rw [attempts_eq_calls, (hsame ((hpoint hland).trans hend)).calls_eq, ← attempts_eq_calls,
          hlaw.attempts_eq]
        show rounds.length + 1 = number
        omega
  case inFlight =>
    intro number hland
    obtain ⟨hpos, hlimit⟩ := Cancellation.lands?_attempt hland
    rw [List.length_map] at hlimit
    by_cases hin : number ≤ rounds.length
    · obtain ⟨i, rfl⟩ := Nat.exists_eq_add_of_le' hpos
      exact (hcut (i + 1) ((hpoint hland).trans (if_pos hin))).settles hlaw hin
    · -- it is the last attempt of the blocking call, too
      obtain rfl : number = rounds.length + 1 := by omega
      have hkept := hsame ((hpoint hland).trans (if_neg hin))
      refine ⟨last, ?_, ?_⟩
      · rw [hkept.outcome_eq]
        exact hends.settles
      · rw [hkept.calls_eq, hcalls, ← List.cons_append, List.getLast?_append]
        rfl
  case elsewhere =>
    intro point hland hother
    cases hend : point.rounds? rounds.length with
    | some n => exact (hcut n ((hpoint hland).trans hend)).outcome_eq
    | none =>
        obtain ⟨number, hnumber, _⟩ := CancelPoint.rounds?_eq_none hend
        exact absurd hnumber (hother number)
  case aborted =>
    intro haborted
    cases hend : c.roundsUntil? timer 1 .zero (rounds.map fun r => r.grant.delay) with
    | none =>
        -- the blocking call is never aborted
        rw [(hsame hend).outcome_eq] at haborted
        exact absurd haborted hends.ne_aborted
    | some n =>
        obtain ⟨hattempts, hpaid, hothers⟩ := (hcut n hend).paid hbounded hlaw (hwithin hend)
        rw [hattempts]
        exact ⟨(hcut n hend).calls_eq, (hcut n hend).credited_not_mem, hpaid, hothers⟩

end

end Call

/-- **A CANCELLED CALL IS THE BEGINNING OF A BLOCKING ONE.**  On a built strategy without jitter, in
any state that uses lead to, whatever the attempts come to and whenever it is cancelled, a call
makes the calls that a blocking one makes, up to a point that follows from the moment of its
cancellation: it is the same if that moment comes too late, no attempt starts after it, only an
attempt in flight may still settle the call, and an aborted call has paid for its rounds and credits
nothing.  This does not depend on how long the timer of a wait runs, and the random words of the two
calls need not be the same. -/
theorem cancellable_follows_blocking [RateArithmetic R] [Classifiable ε] {p : Plan R}
    {first : Strategy R} (hbuilt : p.build = .ok first) (hsteady : p.isJittered = false)
    (uses : List Use) (timer : Timer) (clock : ManualClock) (scope : String) (script : Script ε α)
    (c : Cancellation) (draws draws' : Nat → Draws) :
    let s := (first.useAll uses).2
    let f := Call.blocking s clock scope script draws'
    ∃ rounds answer, Call.BlockingLaw s clock scope script draws rounds answer f
      ∧ Call.CancellableLaw timer s clock scope script draws rounds c f
          (Call.cancellableOn timer s clock scope c script draws) := by
  intro s f
  obtain ⟨hbounded, hterms⟩ := Strategy.bounded_useAll (Plan.bounded_of_build hbuilt) uses
  have hlimit : 0 < s.gate.terms.maxAttempts.toNat := by
    rw [hterms]
    exact Plan.maxAttempts_pos hbuilt
  have hplan : s.plan = p := (first.plan_useAll uses).trans (p.plan_of_build hbuilt)
  have hwords : Call.blocking s clock scope script draws = f :=
    Call.blocking_unjittered (by rw [hplan]; exact hsteady) draws'
  obtain ⟨rounds, answer, hlaw⟩ : ∃ rounds answer, Call.BlockingLaw s clock scope script draws
      rounds answer (Call.blocking s clock scope script draws) :=
    Call.blockingLaw_of_bounded hbounded hlimit
  have hfollows := Call.cancellableLaw_of_blockingLaw hbounded hlaw timer c
  rw [hwords] at hlaw hfollows
  exact ⟨rounds, answer, hlaw, hfollows⟩

/-- The call is cancelled while its second attempt runs.  That attempt fails and another one is
granted, but where the blocking call makes it and comes to a value, this one is aborted. -/
theorem cancellable_follows_blocking_recovering :
    let f := Call.blocking steadyStrategy {} "s" recoveringScript fun _ _ => 7
    let g := Call.cancellable steadyStrategy {} "s" (.during 2) recoveringScript fun _ _ => 0
    steadyPlan.build = .ok steadyStrategy
      ∧ steadyPlan.isJittered = false
      ∧ (∃ rounds answer,
        Call.BlockingLaw steadyStrategy {} "s" recoveringScript (fun _ _ => 0) rounds answer f
          ∧ Call.CancellableLaw millisTimer steadyStrategy {} "s" recoveringScript
            (fun _ _ => 0) rounds (.during 2) f g)
      ∧ f.outcome = .ok 7
      ∧ g.outcome = .aborted
      ∧ g.attempts = 2
      ∧ (g.strategy.capacity "s").toNat = 500 - 5 - 5 := by
  intro f g
  have hbuilt : steadyPlan.build = .ok steadyStrategy := rfl
  have hsteady : steadyPlan.isJittered = false := rfl
  have hf : f = Call.blocking steadyStrategy {} "s" recoveringScript fun _ _ => 7 := rfl
  have hg : g = Call.cancellableOn millisTimer steadyStrategy {} "s" (.during 2)
    recoveringScript fun _ _ => 0 := rfl
  rw [Call.blocking_eq, Call.blockingFrom_granted rfl rfl, Call.blockingFrom_granted rfl rfl,
    Call.blockingFrom_ok rfl] at hf
  rw [Call.cancellableOn_eq, Call.cancellableFrom_goes rfl rfl rfl rfl,
    Call.cancellableFrom_stopped rfl rfl rfl rfl] at hg
  refine ⟨hbuilt, hsteady, cancellable_follows_blocking hbuilt hsteady [] millisTimer {} "s"
    recoveringScript (.during 2) (fun _ _ => 0) (fun _ _ => 7), ?_⟩
  rw [hf, hg]
  exact ⟨rfl, rfl, rfl, by decide⟩

end RetryControl
