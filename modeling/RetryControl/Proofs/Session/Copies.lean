/-
  RetryControl.Proofs.Session.Copies
  ────────────────────────────────
  **COPIES ARE FAITHFUL AND ON THEIR OWN.**

  A strategy gives back the plan that it was built from, so a copy is a new
  strategy of that plan.  In a session many copies stand side by side; they
  share the clock, and any of them may be given the token of another.  What
  each of them answers and shows is settled by its own operations and the
  moves of the clock alone:

    • `Session.performAll`, `Session.deedsOf` — the commands of a session, and
      what they come to for one of its strategies,
    • `Session.Does` — what one command does, and to whom,
    • `Session.Alone.perform`, `Session.Alone.performAll` — the strategy in
      its session and the same one alone go side by side,
    • `copies_faithful_and_isolated` — both halves.
-/
import RetryControl.Proofs.Scope.Independence
import RetryControl.Session

namespace RetryControl

variable {R : Type} [RateArithmetic R]

/-! ## §1. Runs in two parts. -/

namespace Clocked

/-- What showed in a run. -/
def shown (log : List (Deed × Option (Seen R))) : List (Seen R) := log.filterMap Prod.snd

theorem run_append (c : Clocked R) (draws : Nat → Draws) (before after : List Deed) :
    c.run draws (before ++ after)
      = ((c.run draws before).1
            ++ ((c.run draws before).2.run (fun n => draws (n + before.length)) after).1,
          ((c.run draws before).2.run (fun n => draws (n + before.length)) after).2) := by
  induction before generalizing c draws with
  | nil => rfl
  | cons d rest ih =>
      have hrest := ih (c.act (draws 0) d).2 (fun n => draws (n + 1))
      have hwords : (fun n => draws (n + (d :: rest).length))
          = fun n => draws (n + rest.length + 1) := by
        funext n
        rw [List.length_cons, Nat.add_assoc]
      show ((d, (c.act (draws 0) d).1)
          :: ((c.act (draws 0) d).2.run (fun n => draws (n + 1)) (rest ++ after)).1,
        ((c.act (draws 0) d).2.run (fun n => draws (n + 1)) (rest ++ after)).2) = _
      rw [hrest, hwords]
      rfl

theorem plan_run (c : Clocked R) (draws : Nat → Draws) (deeds : List Deed) :
    (c.run draws deeds).2.strategy.plan = c.strategy.plan := by
  induction deeds generalizing c draws with
  | nil => rfl
  | cons d rest ih =>
      exact (ih (c.act (draws 0) d).2 (fun n => draws (n + 1))).trans (c.plan_act (draws 0) d)

end Clocked

/-- The deed moves the clock. -/
def Deed.isAdvance : Deed → Bool
  | .operate _ => false
  | .read _ => false
  | .advance _ => true

namespace Clocked

/-- **To others only the moves of the clock count**: they show nothing, leave the strategy alone and
move the clock as all deeds did. -/
theorem run_advances (c c' : Clocked R) (hclock : c'.clock = c.clock) (draws draws' : Nat → Draws)
    (deeds : List Deed) :
    shown (c'.run draws' (deeds.filter Deed.isAdvance)).1 = []
      ∧ (c'.run draws' (deeds.filter Deed.isAdvance)).2.strategy = c'.strategy
      ∧ (c'.run draws' (deeds.filter Deed.isAdvance)).2.clock = (c.run draws deeds).2.clock := by
  induction deeds generalizing c c' draws draws' with
  | nil => exact ⟨rfl, rfl, hclock⟩
  | cons d rest ih =>
      cases d with
      | operate op => exact ih (c.act (draws 0) (.operate op)).2 c' hclock _ draws'
      | read scope => exact ih c c' hclock _ draws'
      | advance distance =>
          have hmoved : c'.clock.advance distance = c.clock.advance distance := by rw [hclock]
          exact ih (c.act (draws 0) (.advance distance)).2 (c'.act (draws' 0) (.advance distance)).2
            hmoved _ _

end Clocked

/-! ## §2. Sessions, and what they come to for one strategy. -/

/-- The answer of a strategy that a reply tells, if it tells one. -/
def Reply.answer? : Reply R → Option Answer
  | .granted grant => some (.granted grant)
  | .drawn _ _ grant => some (.granted grant)
  | .refused error => some (.refused error)
  | .credited amount => some (.credited amount)
  | .evicted existed => some (.evicted existed)
  | .placed _ | .noToken | .none | .elapsed _ | .rebuilt _ _ | .notBuilt _ => Option.none

omit [RateArithmetic R] in
@[simp] theorem Reply.answer?_replyOf (bounds : Option (Duration × Duration)) (answer : Answer) :
    (Session.replyOf bounds answer : Reply R).answer? = some answer := by
  cases answer with
  | granted grant => cases bounds <;> rfl
  | refused error => rfl
  | credited amount => rfl
  | evicted existed => rfl

/-- What a report shows of a scope. -/
def Report.seen (r : Report R) : Seen R := ⟨r.reply.answer?, r.capacity, r.rate⟩

/-- A copy is only ever built from a plan as it is. -/
def Command.copiesAsIs : Command R → Bool
  | .rebuild _ choices => choices.isEmpty
  | _ => true

namespace Session

/-- Commands one after another, each for the strategy of a number: their reports and the session
after the last. -/
def performAll (s : Session R) :
    List (Nat × Command R) → List (Nat × Option (Report R)) × Session R
  | [] => ([], s)
  | (index, command) :: rest =>
    let (report?, next) := s.perform index command
    let (reports, last) := next.performAll rest
    ((index, report?) :: reports, last)

/-- What the reports on one strategy show. -/
def shownOf (own : Nat) (reports : List (Nat × Option (Report R))) : List (Seen R) :=
  reports.flatMap fun entry => if entry.1 = own then entry.2.toList.map Report.seen else []

/-- What a command comes to for the strategy that it is given to; tokens are taken from their
slots. -/
def deeds (s : Session R) : Command R → List Deed
  | .acquire _ scope => [.operate (.acquire scope)]
  | .place _ scope _ => [.read scope]
  | .refresh slot scope failure suggestedDelay =>
    match s.slots.get? slot with
    | none => [.read scope]
    | some token => [.operate (.refresh { token, failure, suggestedDelay })]
  | .succeed slot scope =>
    match s.slots.get? slot with
    | none => [.read scope]
    | some token => [.operate (.succeed token)]
  | .evict scope => [.operate (.evict scope)]
  | .peek scope => [.read scope]
  | .advance scope distance => [.advance distance, .read scope]
  | .rebuild scope _ => [.read scope]

/-- What a command to any strategy comes to for the one of number `own`: all of it if the command is
its own, and otherwise the moves of the clock.  There is nothing to a command that no strategy is
there for. -/
def deedsFor (own : Nat) (s : Session R) (index : Nat) (command : Command R) : List Deed :=
  match s.strategies[index]? with
  | none => []
  | some _ =>
    if index = own then s.deeds command else (s.deeds command).filter Deed.isAdvance

/-- What a whole run comes to for the strategy of number `own`: the subsequence of its own
operations and readings, and the moves of the clock. -/
def deedsOf (own : Nat) (s : Session R) : List (Nat × Command R) → List Deed
  | [] => []
  | (index, command) :: rest =>
    s.deedsFor own index command ++ (s.perform index command).2.deedsOf own rest

/-! ## §3. What one command does. -/

/-- A command does what its deeds say, to one strategy and to the clock; other strategies stay as
they are, and any new ones at the end are copies.  What was read after it is reported, of the scope
that it concerned. -/
structure Does (first : Strategy R) (s : Session R) (index : Nat)
    (ran : List (Deed × Option (Seen R)) × Clocked R)
    (done : String × Reply R × List (Event R) × Session R) : Prop where
  strategies_eq : ∃ copies, (∀ copy ∈ copies, copy = first)
    ∧ done.2.2.2.strategies = s.strategies.set index ran.2.strategy ++ copies
  clock_eq : done.2.2.2.clock = ran.2.clock
  shown_eq : Clocked.shown ran.1 = [ran.2.strategy.look done.2.1.answer? done.1]

omit [RateArithmetic R] in
@[simp] theorem strategies_keep (s : Session R) (slot : String) (answer : Answer) :
    (s.keep slot answer).strategies = s.strategies := by
  unfold keep
  split <;> rfl

omit [RateArithmetic R] in
@[simp] theorem clock_keep (s : Session R) (slot : String) (answer : Answer) :
    (s.keep slot answer).clock = s.clock := by
  unfold keep
  split <;> rfl

section

variable {first strategy : Strategy R} {s : Session R} {index : Nat}

omit [RateArithmetic R] in
private theorem set_strategy (hat : s.strategies[index]? = some strategy) :
    s.strategies.set index strategy = s.strategies := by
  obtain ⟨hlt, hget⟩ := List.getElem?_eq_some_iff.mp hat
  rw [← hget, List.set_getElem_self]

omit [RateArithmetic R] in
/-- Commands that build no copy. -/
theorem Does.without_copy {ran : List (Deed × Option (Seen R)) × Clocked R}
    {done : String × Reply R × List (Event R) × Session R}
    (hstrategies : done.2.2.2.strategies = s.strategies.set index ran.2.strategy)
    (hclock : done.2.2.2.clock = ran.2.clock)
    (hshown : Clocked.shown ran.1 = [ran.2.strategy.look done.2.1.answer? done.1]) :
    Does first s index ran done :=
  ⟨⟨[], fun _ hmem => absurd hmem List.not_mem_nil, hstrategies.trans (List.append_nil _).symm⟩,
    hclock, hshown⟩

/-- Commands that only read, or only put a token into a slot. -/
theorem does_read (hat : s.strategies[index]? = some strategy) (draws : Nat → Draws)
    (scope : String) {reply : Reply R} (hreply : reply.answer? = none) (events : List (Event R))
    {after : Session R} (hstrategies : after.strategies = s.strategies)
    (hclock : after.clock = s.clock) :
    Does first s index (Clocked.run { strategy, clock := s.clock } draws [.read scope])
      (scope, reply, events, after) := by
  apply Does.without_copy (hstrategies.trans (set_strategy hat).symm) hclock
  show [strategy.look none scope] = [strategy.look reply.answer? scope]
  rw [hreply]

/-- Commands that are one operation: any words will do for a strategy without jitter. -/
theorem does_operate (hsteady : strategy.plan.isJittered = false) (draws : Nat → Draws)
    (op : Operation) {reply : Reply R}
    (hreply : reply.answer? = some (strategy.step s.moment op).1) (events : List (Event R))
    {after : Session R}
    (hstrategies : after.strategies
      = (s.setStrategy index (strategy.step s.moment op).2).strategies)
    (hclock : after.clock = s.clock) :
    Does first s index (Clocked.run { strategy, clock := s.clock } draws [.operate op])
      (op.scope, reply, events, after) := by
  -- the session has words of its own, which an operation without jitter does not look at
  have hstep : strategy.step s.moment op = strategy.step ⟨s.clock.now, draws 0⟩ op :=
    Strategy.step_unjittered hsteady (by rfl) op
  rw [hstep] at hreply hstrategies
  apply Does.without_copy hstrategies hclock
  show [(strategy.step ⟨s.clock.now, draws 0⟩ op).2.look
      (some (strategy.step ⟨s.clock.now, draws 0⟩ op).1) op.scope] = _
  rw [hreply]
  rfl

/-- **What one command does**, one case for each command. -/
theorem does_performOn (hat : s.strategies[index]? = some strategy)
    (hcopies : strategy.plan.build = .ok first) (hsteady : strategy.plan.isJittered = false)
    {command : Command R} (hplain : command.copiesAsIs = true) (draws : Nat → Draws) :
    Does first s index
      (Clocked.run { strategy, clock := s.clock } draws (s.deeds command))
      (s.performOn index strategy command) := by
  cases command with
  | acquire slot scope =>
      exact does_operate hsteady draws (.acquire scope) (Reply.answer?_replyOf none _) _
        (strategies_keep _ _ _) (clock_keep _ _ _)
  | place slot scope costs => exact does_read hat draws scope rfl _ rfl rfl
  | refresh slot scope failure suggestedDelay =>
      unfold deeds performOn
      dsimp only
      cases hslot : s.slots.get? slot with
      | none => exact does_read hat draws scope rfl _ rfl rfl
      | some token =>
          exact does_operate hsteady draws (.refresh { token, failure, suggestedDelay })
            (Reply.answer?_replyOf _ _) _ (strategies_keep _ _ _) (clock_keep _ _ _)
  | succeed slot scope =>
      unfold deeds performOn
      dsimp only
      cases hslot : s.slots.get? slot with
      | none => exact does_read hat draws scope rfl _ rfl rfl
      | some token =>
          exact does_operate hsteady draws (.succeed token) (Reply.answer?_replyOf _ _) _ rfl rfl
  | evict scope =>
      exact does_operate hsteady draws (.evict scope) (Reply.answer?_replyOf none _) _ rfl rfl
  | peek scope => exact does_read hat draws scope rfl _ rfl rfl
  | advance scope distance =>
      exact .without_copy (set_strategy hat).symm rfl rfl
  | rebuild scope choices =>
      obtain rfl : choices = [] := List.isEmpty_iff.mp hplain
      have hbuilt : (strategy.plan.adjustAll []).build = .ok first := hcopies
      unfold performOn
      dsimp only
      rw [hbuilt]
      -- the copy is the one thing that a session gains
      exact ⟨⟨[first], fun copy hmem => List.mem_singleton.mp hmem,
        congrArg (· ++ [first]) (set_strategy hat).symm⟩, rfl, rfl⟩

end

/-! ## §4. One strategy in its session, and alone. -/

/-- A session of strategies of one plan, and beside it the strategy of number `own` alone, on a
clock that shows the same; as long as the session has no such strategy, a new one stands for it. -/
structure Alone (first : Strategy R) (own : Nat) (s : Session R) (c : Clocked R) : Prop where
  plans_eq : ∀ strategy ∈ s.strategies, strategy.plan = first.plan
  strategy_eq : c.strategy = s.strategies[own]?.getD first
  clock_eq : c.clock = s.clock

variable {first : Strategy R} {own : Nat} {s : Session R} {c : Clocked R}

omit [RateArithmetic R] in
/-- Where copies are added, nothing else changes for a number: the first of them may take it. -/
private theorem getD_append_copies {strategies copies : List (Strategy R)}
    (hcopies : ∀ copy ∈ copies, copy = first) (own : Nat) :
    (strategies ++ copies)[own]?.getD first = strategies[own]?.getD first := by
  by_cases hlt : own < strategies.length
  · rw [List.getElem?_append_left hlt]
  · rw [List.getElem?_append_right (Nat.le_of_not_lt hlt),
      List.getElem?_eq_none (Nat.le_of_not_lt hlt)]
    cases hcopy : copies[own - strategies.length]? with
    | none => rfl
    | some copy => exact hcopies copy (List.mem_of_getElem? hcopy)

omit [RateArithmetic R] in
/-- Strategies of one plan stay so where one of them is replaced and copies are added. -/
private theorem plans_after (hplans : ∀ strategy ∈ s.strategies, strategy.plan = first.plan)
    {index : Nat} {replaced : Strategy R} (hreplaced : replaced.plan = first.plan)
    {copies : List (Strategy R)} (hcopies : ∀ copy ∈ copies, copy = first) :
    ∀ strategy ∈ s.strategies.set index replaced ++ copies, strategy.plan = first.plan := by
  intro strategy hmem
  rcases List.mem_append.mp hmem with hset | hcopy
  · rcases List.mem_or_eq_of_mem_set hset with hold | rfl
    · exact hplans strategy hold
    · exact hreplaced
  · rw [hcopies strategy hcopy]

omit [RateArithmetic R] in
theorem shownOf_cons (own index : Nat) (report? : Option (Report R))
    (rest : List (Nat × Option (Report R))) :
    shownOf own ((index, report?) :: rest) = shownOf own [(index, report?)] ++ shownOf own rest := by
  unfold shownOf
  rw [List.flatMap_cons, List.flatMap_singleton]

/-- **One command**: the strategy alone does what the command comes to for it; then both sides have
shown the same, and stay side by side. -/
theorem Alone.perform (h : Alone first own s c) (hcopies : first.plan.build = .ok first)
    (hsteady : first.plan.isJittered = false) (index : Nat) {command : Command R}
    (hplain : command.copiesAsIs = true) (draws : Nat → Draws) :
    shownOf own [(index, (s.perform index command).1)]
        = Clocked.shown (c.run draws (s.deedsFor own index command)).1
      ∧ Alone first own (s.perform index command).2
          (c.run draws (s.deedsFor own index command)).2 := by
  obtain ⟨hplans, hstrategy, hclock⟩ := h
  unfold deedsFor Session.perform
  cases hat : s.strategies[index]? with
  | none =>
      -- nobody is there: nothing is done, and nothing reported
      refine ⟨?_, hplans, hstrategy, hclock⟩
      show (if index = own then [] else []) ++ [] = []
      rw [ite_self]
      rfl
  | some strategy =>
      have hplan : strategy.plan = first.plan := hplans strategy (List.mem_of_getElem? hat)
      have hlt : index < s.strategies.length := (List.getElem?_eq_some_iff.mp hat).1
      have hran := Clocked.plan_run { strategy, clock := s.clock } draws (s.deeds command)
      have hbuilds : strategy.plan.build = .ok first := by rw [hplan]; exact hcopies
      have hdoes := does_performOn hat hbuilds (by rw [hplan]; exact hsteady) hplain draws
      dsimp only
      rcases hdone : s.performOn index strategy command with ⟨scope, reply, events, after⟩
      rw [hdone] at hdoes
      obtain ⟨⟨copies, hcopy, hafter⟩, hafterClock, hshown⟩ := hdoes
      dsimp only at hafter hafterClock hshown ⊢
      have hplansAfter : ∀ strategy ∈ after.strategies, strategy.plan = first.plan := by
        rw [hafter]
        exact plans_after hplans (hran.trans hplan) hcopy
      by_cases hown : index = own
      · -- its own command: the strategy alone is the one that the command was given to
        subst hown
        have hsame : c = { strategy, clock := s.clock } := by
          obtain ⟨mine, clock⟩ := c
          rw [hat] at hstrategy
          -- so far both have done the same
          exact congrArg₂ Clocked.mk hstrategy hclock
        subst hsame
        have hcurrent : after.strategies[index]?
            = some (Clocked.run { strategy, clock := s.clock } draws (s.deeds command)).2.strategy := by
          rw [hafter, List.getElem?_append_left (by rw [List.length_set]; exact hlt),
            List.getElem?_set_self hlt]
        rw [if_pos rfl, hshown]
        refine ⟨?_, hplansAfter, ?_, hafterClock.symm⟩
        · rw [hcurrent]
          show (if index = index then _ else _) ++ [] = _
          rw [if_pos rfl]
          rfl
        · rw [hcurrent]
          rfl
      · -- the command of another: only the clock may have moved
        obtain ⟨hnothing, hkept, hmoved⟩ := Clocked.run_advances { strategy, clock := s.clock } c
          hclock draws draws (s.deeds command)
        rw [if_neg hown]
        refine ⟨?_, hplansAfter, ?_, hmoved.trans hafterClock.symm⟩
        · rw [hnothing]
          show (if index = own then _ else []) ++ [] = _
          rw [if_neg hown]
          rfl
        · rw [hkept, hstrategy, hafter, getD_append_copies hcopy, List.getElem?_set_ne hown]

/-- **Whole sessions**: each strategy shows what it shows alone. -/
theorem Alone.performAll (h : Alone first own s c) (hcopies : first.plan.build = .ok first)
    (hsteady : first.plan.isJittered = false) {commands : List (Nat × Command R)}
    (hplain : ∀ entry ∈ commands, entry.2.copiesAsIs = true) (draws : Nat → Draws) :
    shownOf own (s.performAll commands).1
        = Clocked.shown (c.run draws (s.deedsOf own commands)).1
      ∧ Alone first own (s.performAll commands).2 (c.run draws (s.deedsOf own commands)).2 := by
  induction commands generalizing s c draws with
  | nil => exact ⟨rfl, h⟩
  | cons entry rest ih =>
      obtain ⟨index, command⟩ := entry
      obtain ⟨hshown, hafter⟩ := h.perform hcopies hsteady index
        (hplain _ (List.mem_cons_self ..)) draws
      obtain ⟨hshownRest, hlast⟩ := ih hafter
        (fun entry hmem => hplain entry (List.mem_cons_of_mem _ hmem))
        (fun n => draws (n + (s.deedsFor own index command).length))
      have hdeeds : s.deedsOf own ((index, command) :: rest)
          = s.deedsFor own index command ++ (s.perform index command).2.deedsOf own rest := rfl
      rw [hdeeds, Clocked.run_append]
      refine ⟨?_, hlast⟩
      calc shownOf own (s.performAll ((index, command) :: rest)).1
          = shownOf own [(index, (s.perform index command).1)]
            ++ shownOf own ((s.perform index command).2.performAll rest).1 :=
            shownOf_cons own index _ _
        _ = _ := by
            rw [hshown, hshownRest]
            exact List.filterMap_append.symm

end Session

/-! ## §5. Copies. -/

/-- **COPIES ARE FAITHFUL AND ISOLATED.**  From a strategy without jitter, whatever it has gone
through, a copy can be built, and it answers and shows all that a new strategy of the same plan does
on the same clock.  And take any run of a session that starts with the strategy alone, in which it
and its copies are used and copied in any order, with tokens moved between them freely: each of them
shows just what it shows alone, given its own operations and the moves of the clock, and from each
of them a copy can be built again. -/
theorem copies_faithful_and_isolated {p : Plan R} {first : Strategy R}
    (hbuilt : p.build = .ok first) (hsteady : p.isJittered = false) (uses : List Use) :
    let reached := (first.useAll uses).2
    (reached.plan = p
        ∧ ∃ copy, reached.plan.build = .ok copy
          ∧ ∀ clock draws draws' deeds,
            (Clocked.run { strategy := copy, clock } draws deeds).1
              = (Clocked.run { strategy := first, clock } draws' deeds).1)
      ∧ ∀ clock slots commands draws own,
        (∀ entry ∈ commands, Command.copiesAsIs entry.2 = true) →
          let session : Session R := { strategies := [reached], clock, slots }
          let performed := session.performAll commands
          let alone := Clocked.run { strategy := if own = 0 then reached else first, clock } draws
            (session.deedsOf own commands)
          Session.shownOf own performed.1 = Clocked.shown alone.1
            ∧ performed.2.clock = alone.2.clock
            ∧ ∀ strategy, performed.2.strategies[own]? = some strategy →
              strategy.plan.build = .ok first
                ∧ ∀ scope, strategy.capacity scope = alone.2.strategy.capacity scope
                  ∧ strategy.rate scope = alone.2.strategy.rate scope := by
  intro reached
  have hplan : first.plan = p := p.plan_of_build hbuilt
  have hreached : reached.plan = p := (first.plan_useAll uses).trans hplan
  have hcopies : first.plan.build = .ok first := by rw [hplan]; exact hbuilt
  have hsteadyFirst : first.plan.isJittered = false := by rw [hplan]; exact hsteady
  refine ⟨⟨hreached, first, by rw [hreached]; exact hbuilt, fun clock draws draws' deeds => ?_⟩, ?_⟩
  · exact Clocked.run_congr (fun scope => .refl scope _) hsteadyFirst draws' draws deeds
  · intro clock slots commands draws own hplain session performed alone
    have hstart : Session.Alone first own session
        { strategy := if own = 0 then reached else first, clock } := by
      refine ⟨fun strategy hmem => ?_, ?_, rfl⟩
      · rw [List.mem_singleton.mp hmem]
        exact first.plan_useAll uses
      · cases own with
        | zero => rfl
        | succ n => rfl
    obtain ⟨hshown, hplans, hstrategy, hclock⟩ :=
      hstart.performAll hcopies hsteadyFirst hplain draws
    -- all strategies still have the one plan
    refine ⟨hshown, hclock.symm, fun strategy hat => ⟨?_, fun scope => ?_⟩⟩
    · rw [hplans strategy (List.mem_of_getElem? hat)]
      exact hcopies
    · rw [hat] at hstrategy
      rw [show alone.2.strategy = strategy from hstrategy]
      exact ⟨rfl, rfl⟩

/-- A token of the throttled strategy is used at its copy: each pays, and slows down, on its own. -/
theorem copies_faithful_and_isolated_throttled :
    let uses : List Use := [.operate (.atMillis 1000) (throttledRetry "a")]
    let reached := (plainAdaptiveStrategy.useAll uses).2
    let session : Session Float :=
      { strategies := [reached], clock := { origin := .atMillis 1000 }, slots := .empty }
    let commands : List (Nat × Command Float) :=
      [(0, .rebuild "a" []), (0, .acquire "call" "a"), (1, .advance "a" (.ofMillis 1000)),
        (1, .refresh "call" "a" (.ofType .throttling) none), (0, .succeed "call" "a"),
        (1, .rebuild "a" []), (2, .peek "a")]
    let last := (session.performAll commands).2
    let copyAlone := Clocked.run { strategy := plainAdaptiveStrategy, clock := session.clock }
      (fun _ _ => 7) (session.deedsOf 1 commands)
    (Plan.adaptive plainAdaptivePlan).build = .ok plainAdaptiveStrategy
      ∧ (Plan.adaptive plainAdaptivePlan).isJittered = false
      ∧ reached.plan.build = .ok plainAdaptiveStrategy
      ∧ (∀ entry ∈ commands, Command.copiesAsIs entry.2 = true)
      ∧ Session.shownOf 1 (session.performAll commands).1 = Clocked.shown copyAlone.1
      ∧ last.strategies.map (fun s => (s.capacity "a", s.rate "a"))
        = [(496, some 51.0), (495, some 50.0), (500, none)] := by
  intro uses reached session commands last copyAlone
  have hbuilt : (Plan.adaptive plainAdaptivePlan).build = .ok plainAdaptiveStrategy := rfl
  have hsteady : (Plan.adaptive plainAdaptivePlan).isJittered = false := rfl
  have hplain : ∀ entry ∈ commands, Command.copiesAsIs entry.2 = true := by
    intro entry hmem
    simp only [commands, List.mem_cons, List.not_mem_nil, or_false] at hmem
    rcases hmem with rfl | rfl | rfl | rfl | rfl | rfl | rfl <;> rfl
  obtain ⟨_, hisolated⟩ := copies_faithful_and_isolated hbuilt hsteady uses
  exact ⟨hbuilt, hsteady, rfl, hplain,
    (hisolated session.clock .empty commands (fun _ _ => 7) 1 hplain).1, by decide +kernel⟩

end RetryControl
