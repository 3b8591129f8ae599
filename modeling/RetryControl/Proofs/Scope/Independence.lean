/-
  RetryControl.Proofs.Scope.Independence
  ────────────────────────────────
  **SCOPES ARE INDEPENDENT.**

  What is done in other scopes does not show in a scope: striking it out of
  a run changes neither an answer there nor what can be read there, at any
  point of the run.  Only the clock is common to all scopes, so its advances
  stay in.

    • `Deed`, `Clocked.run` — a strategy and the clock that it reads, and the
      record of a run with what showed at every deed,
    • `Clocked.HoldsSame.act` — the same deed keeps two sides the same in a
      scope, and shows the same there,
    • `Clocked.holdsSame_act_untouched` — a deed that does not touch a scope
      can be struck out,
    • `run_filter` — so whole runs can be thinned,
    • `scopes_independent` — in particular to one scope; and operations in two
      scopes commute.
-/
import RetryControl.Proofs.Rate.Moves
import RetryControl.Proofs.Scope.Entries

namespace RetryControl

/-! ## §1. Strategies on a clock. -/

/-- Something that is done with a strategy, or with the clock that it reads. -/
inductive Deed where
  /-- An operation at the time that the clock shows. -/
  | operate (op : Operation)
  /-- What a scope has left and the rate that it is paced at are read. -/
  | read (scope : String)
  /-- The clock is moved. -/
  | advance (distance : Duration)

/-- What shows of a scope after something was done in it: the answer to an operation, and what can
be read then. -/
structure Seen (R : Type) where
  answer? : Option Answer
  capacity : Count
  rate : Option R

/-- A strategy and the clock that it reads. -/
structure Clocked (R : Type) where
  strategy : Strategy R
  clock : ManualClock

variable {R : Type} [RateArithmetic R]

/-- What shows of a scope, with the answer of an operation if there was one. -/
def Strategy.look (s : Strategy R) (answer? : Option Answer) (scope : String) : Seen R :=
  ⟨answer?, s.capacity scope, s.rate scope⟩

namespace Clocked

/-- One deed: what shows of the scope that it is done in, and the strategy on its clock after it. -/
def act (c : Clocked R) (draws : Draws) : Deed → Option (Seen R) × Clocked R
  | .operate op =>
    let (answer, strategy) := c.strategy.step ⟨c.clock.now, draws⟩ op
    (some (strategy.look (some answer) op.scope), { c with strategy })
  | .read scope => (some (c.strategy.look none scope), c)
  | .advance distance => (none, { c with clock := c.clock.advance distance })

/-- Deeds one after another, each with random words of its own: the record of what showed at every
deed, and the strategy on its clock after the last. -/
def run (c : Clocked R) (draws : Nat → Draws) :
    List Deed → List (Deed × Option (Seen R)) × Clocked R
  | [] => ([], c)
  | d :: rest =>
    let (seen?, next) := c.act (draws 0) d
    let (log, last) := next.run (fun n => draws (n + 1)) rest
    ((d, seen?) :: log, last)

theorem log_run_cons (c : Clocked R) (draws : Nat → Draws) (d : Deed) (rest : List Deed) :
    (c.run draws (d :: rest)).1
      = (d, (c.act (draws 0) d).1)
        :: ((c.act (draws 0) d).2.run (fun n => draws (n + 1)) rest).1 := rfl

@[simp] theorem plan_act (c : Clocked R) (draws : Draws) (d : Deed) :
    (c.act draws d).2.strategy.plan = c.strategy.plan := by
  cases d with
  | operate op => exact c.strategy.plan_step _ op
  | read scope => rfl
  | advance distance => rfl

/-- Without jitter at the start, there is none later. -/
theorem steady_act {c : Clocked R} (hsteady : c.strategy.plan.isJittered = false) (draws : Draws)
    (d : Deed) : (c.act draws d).2.strategy.plan.isJittered = false := by
  rw [plan_act]
  exact hsteady

end Clocked

/-! ## §2. Deeds and one scope. -/

/-- The deed is done in the scope, or moves the clock. -/
def Deed.concerns (scope : String) : Deed → Bool
  | .operate op => op.scope == scope
  | .read seen => seen == scope
  | .advance _ => true

/-- The deed can leave a trace in the scope: reading does not. -/
def Deed.touches (scope : String) : Deed → Bool
  | .operate op => op.scope == scope
  | .read _ => false
  | .advance _ => true

theorem Deed.concerns_of_touches {scope : String} {d : Deed} (h : d.touches scope = true) :
    d.concerns scope = true := by
  cases d with
  | operate op => exact h
  | read seen => cases h
  | advance distance => rfl

namespace Clocked

/-- Both sides show the same time, and their strategies hold the same for the scope. -/
structure HoldsSame (scope : String) (c c' : Clocked R) : Prop where
  strategy : c.strategy.HoldsSame scope c'.strategy
  clock_eq : c'.clock = c.clock

variable {scope : String} {c c' c'' : Clocked R}

omit [RateArithmetic R] in
theorem HoldsSame.refl (scope : String) (c : Clocked R) : c.HoldsSame scope c :=
  ⟨.refl scope c.strategy, rfl⟩

omit [RateArithmetic R] in
theorem HoldsSame.symm (h : c.HoldsSame scope c') : c'.HoldsSame scope c :=
  ⟨h.strategy.symm, h.clock_eq.symm⟩

omit [RateArithmetic R] in
theorem HoldsSame.trans (h : c.HoldsSame scope c') (h' : c'.HoldsSame scope c'') :
    c.HoldsSame scope c'' :=
  ⟨h.strategy.trans h'.strategy, h'.clock_eq.trans h.clock_eq⟩

theorem HoldsSame.look_eq (h : c.HoldsSame scope c') (answer? : Option Answer) :
    c'.strategy.look answer? scope = c.strategy.look answer? scope := by
  obtain ⟨hcapacity, hrate⟩ := h.strategy.reads.readings
  unfold Strategy.look
  rw [hcapacity, hrate]

/-- **A deed that does not touch a scope** leaves alone what is held for it. -/
theorem holdsSame_act_untouched (c : Clocked R) (draws : Draws) {d : Deed}
    (huntouched : d.touches scope = false) : c.HoldsSame scope (c.act draws d).2 := by
  cases d with
  | operate op =>
      have hother : scope ≠ op.scope := fun h => (beq_eq_false_iff_ne.mp huntouched) h.symm
      exact ⟨c.strategy.holdsSame_step_elsewhere _ hother, rfl⟩
  | read seen => exact .refl scope c
  | advance distance => cases huntouched

/-- **The same deed keeps both sides the same in a scope**, and if it is done there, it shows the
same. -/
theorem HoldsSame.act (h : c.HoldsSame scope c') (hsteady : c.strategy.plan.isJittered = false)
    (draws draws' : Draws) (d : Deed) :
    (d.concerns scope = true → (c'.act draws' d).1 = (c.act draws d).1)
      ∧ (c.act draws d).2.HoldsSame scope (c'.act draws' d).2 := by
  cases d with
  | advance distance =>
      refine ⟨fun _ => rfl, h.strategy, ?_⟩
      show c'.clock.advance distance = c.clock.advance distance
      rw [h.clock_eq]
  | read seen =>
      refine ⟨fun hconcerns => ?_, h⟩
      obtain rfl : seen = scope := eq_of_beq hconcerns
      exact congrArg some (h.look_eq none)
  | operate op =>
      have hnow : c'.clock.now = c.clock.now := by rw [h.clock_eq]
      by_cases hscope : op.scope = scope
      · subst hscope
        obtain ⟨hanswer, hafter⟩ :
            (c'.strategy.step ⟨c'.clock.now, draws'⟩ op).1
                = (c.strategy.step ⟨c.clock.now, draws⟩ op).1
              ∧ (c.strategy.step ⟨c.clock.now, draws⟩ op).2.HoldsSame op.scope
                (c'.strategy.step ⟨c'.clock.now, draws'⟩ op).2 :=
          h.strategy.step hsteady hnow
        have hheld : (c.act draws (.operate op)).2.HoldsSame op.scope
            (c'.act draws' (.operate op)).2 := ⟨hafter, h.clock_eq⟩
        refine ⟨fun _ => ?_, hheld⟩
        show some ((c'.act draws' (.operate op)).2.strategy.look
            (some (c'.strategy.step ⟨c'.clock.now, draws'⟩ op).1) op.scope) = _
        rw [hheld.look_eq, hanswer]
        rfl
      · -- both sides stay as they were
        have huntouched : (Deed.operate op).touches scope = false := beq_eq_false_iff_ne.mpr hscope
        refine ⟨fun hconcerns => absurd (eq_of_beq hconcerns) hscope, ?_⟩
        exact (c.holdsSame_act_untouched draws huntouched).symm.trans
          (h.trans (c'.holdsSame_act_untouched draws' huntouched))

/-! ## §3. Whole runs. -/

/-- **A run can be thinned**: whatever does not touch the scope may be struck out, and of what is
kept, all that is done in the scope shows the same. -/
theorem HoldsSame.run_filter (h : c.HoldsSame scope c')
    (hsteady : c.strategy.plan.isJittered = false) {keep : Deed → Bool}
    (htouches : ∀ d, d.touches scope = true → keep d = true)
    (hconcerns : ∀ d, keep d = true → d.concerns scope = true) (draws draws' : Nat → Draws)
    (deeds : List Deed) :
    (c'.run draws' (deeds.filter keep)).1 = (c.run draws deeds).1.filter (fun entry => keep entry.1)
      ∧ (c.run draws deeds).2.HoldsSame scope (c'.run draws' (deeds.filter keep)).2 := by
  -- the two sides go on with different words, and at different paces
  induction deeds generalizing c c' draws draws' with
  | nil => exact ⟨rfl, h⟩
  | cons d rest ih =>
      have hsteadyNext := steady_act hsteady (draws 0) d
      cases hkeep : keep d with
      | true =>
          obtain ⟨hseen, hafter⟩ := h.act hsteady (draws 0) (draws' 0) d
          obtain ⟨hlog, hlast⟩ := ih hafter hsteadyNext (fun n => draws (n + 1))
            (fun n => draws' (n + 1))
          rw [List.filter_cons_of_pos hkeep]
          refine ⟨?_, hlast⟩
          rw [log_run_cons, log_run_cons, List.filter_cons, if_pos hkeep, hlog,
            hseen (hconcerns d hkeep)]
      | false =>
          have huntouched : d.touches scope = false := by
            cases htouch : d.touches scope with
            | false => rfl
            | true => exact absurd (htouches d htouch) (by rw [hkeep]; exact Bool.noConfusion)
          -- only the first side moves, and what is held for the scope stays
          have hafter := (c.holdsSame_act_untouched (draws 0) huntouched).symm.trans h
          obtain ⟨hlog, hlast⟩ := ih hafter hsteadyNext (fun n => draws (n + 1)) draws'
          have hdropped : ¬keep d = true := by rw [hkeep]; exact Bool.noConfusion
          rw [List.filter_cons_of_neg hdropped]
          refine ⟨?_, hlast⟩
          rw [log_run_cons, List.filter_cons, if_neg hdropped, hlog]

/-- Sides that are the same in all scopes cannot be told apart by any run. -/
theorem run_congr (h : ∀ scope, c.HoldsSame scope c')
    (hsteady : c.strategy.plan.isJittered = false) (draws draws' : Nat → Draws)
    (deeds : List Deed) : (c'.run draws' deeds).1 = (c.run draws deeds).1 := by
  induction deeds generalizing c c' draws draws' with
  | nil => rfl
  | cons d rest ih =>
      have hsteadyNext := steady_act hsteady (draws 0) d
      -- every deed concerns some scope
      have hconcerns : ∃ scope, d.concerns scope = true := by
        cases d with
        | operate op => exact ⟨op.scope, beq_self_eq_true _⟩
        | read seen => exact ⟨seen, beq_self_eq_true _⟩
        | advance distance => exact ⟨"", rfl⟩
      obtain ⟨scope, hscope⟩ := hconcerns
      have hseen := ((h scope).act hsteady (draws 0) (draws' 0) d).1 hscope
      rw [log_run_cons, log_run_cons, hseen,
        ih (fun other => ((h other).act hsteady (draws 0) (draws' 0) d).2) hsteadyNext
          (fun n => draws (n + 1)) (fun n => draws' (n + 1))]

/-- Two operations in different scopes, done in either order, show the same, and lead to sides that
are the same in all scopes. -/
theorem act_comm (c : Clocked R) (hsteady : c.strategy.plan.isJittered = false)
    {op op' : Operation}
    (hscopes : op.scope ≠ op'.scope) (draws draws' draws₂ draws₂' : Draws) :
    let first := (c.act draws (.operate op)).2
    let first' := (c.act draws' (.operate op')).2
    (first'.act draws₂' (.operate op)).1 = (c.act draws (.operate op)).1
      ∧ (c.act draws' (.operate op')).1 = (first.act draws₂ (.operate op')).1
      ∧ ∀ scope, (first.act draws₂ (.operate op')).2.HoldsSame scope
          (first'.act draws₂' (.operate op)).2 := by
  intro first first'
  have hsteadyFirst : first.strategy.plan.isJittered = false := steady_act hsteady draws _
  -- what one of them does not touch
  have hleft : ∀ scope, scope ≠ op.scope → c.HoldsSame scope first := fun scope hother =>
    c.holdsSame_act_untouched draws (beq_eq_false_iff_ne.mpr hother.symm)
  have hright : ∀ scope, scope ≠ op'.scope → c.HoldsSame scope first' := fun scope hother =>
    c.holdsSame_act_untouched draws' (beq_eq_false_iff_ne.mpr hother.symm)
  have hleft' : ∀ scope, scope ≠ op'.scope →
      first.HoldsSame scope (first.act draws₂ (.operate op')).2 := fun scope hother =>
    first.holdsSame_act_untouched draws₂ (beq_eq_false_iff_ne.mpr hother.symm)
  have hright' : ∀ scope, scope ≠ op.scope →
      first'.HoldsSame scope (first'.act draws₂' (.operate op)).2 := fun scope hother =>
    first'.holdsSame_act_untouched draws₂' (beq_eq_false_iff_ne.mpr hother.symm)
  obtain ⟨hseen, hafter⟩ := (hright op.scope hscopes).act hsteady draws draws₂' (.operate op)
  obtain ⟨hseen', hafter'⟩ := (hleft op'.scope hscopes.symm).symm.act hsteadyFirst draws₂ draws'
    (.operate op')
  refine ⟨hseen (beq_self_eq_true _), hseen' (beq_self_eq_true _), fun scope => ?_⟩
  -- a scope belongs to the one operation, to the other, or to neither
  by_cases hscope : scope = op.scope
  · subst hscope
    exact (hleft' op.scope hscopes).symm.trans hafter
  · by_cases hscope' : scope = op'.scope
    · subst hscope'
      exact hafter'.trans (hright' op'.scope hscopes.symm)
    · exact (hleft' scope hscope').symm.trans ((hleft scope hscope).symm.trans
        ((hright scope hscope').trans (hright' scope hscope)))

end Clocked

/-! ## §4. Independence. -/

/-- **SCOPES ARE INDEPENDENT.**  Take any run of a strategy without jitter, in any state: striking
out all that is done in other scopes changes nothing of what shows in a scope, and nothing of what
can be read there at the end; this holds of every run, so after each of its deeds.  And operations
in two scopes can be exchanged: both orders show the same, then and ever after. -/
theorem scopes_independent {s : Strategy R} (hsteady : s.plan.isJittered = false)
    (clock : ManualClock) (draws draws' : Nat → Draws) :
    (∀ scope deeds,
      let whole := Clocked.run { strategy := s, clock } draws deeds
      let alone := Clocked.run { strategy := s, clock } draws'
        (deeds.filter (Deed.concerns scope))
      alone.1 = whole.1.filter (fun entry => entry.1.concerns scope)
        ∧ alone.2.strategy.capacity scope = whole.2.strategy.capacity scope
        ∧ alone.2.strategy.rate scope = whole.2.strategy.rate scope
        ∧ alone.2.clock = whole.2.clock)
      ∧ ∀ op op' rest, op.scope ≠ op'.scope → ∃ seen seen' later,
          (Clocked.run { strategy := s, clock } draws (.operate op :: .operate op' :: rest)).1
              = (.operate op, seen) :: (.operate op', seen') :: later
            ∧ (Clocked.run { strategy := s, clock } draws'
                (.operate op' :: .operate op :: rest)).1
              = (.operate op', seen') :: (.operate op, seen) :: later := by
  constructor
  · intro scope deeds whole alone
    obtain ⟨hlog, hlast⟩ := (Clocked.HoldsSame.refl scope { strategy := s, clock }).run_filter
      hsteady (fun _ => Deed.concerns_of_touches) (fun _ hkept => hkept) draws draws' deeds
    obtain ⟨hcapacity, hrate⟩ := hlast.strategy.reads.readings
    exact ⟨hlog, hcapacity, hrate, hlast.clock_eq⟩
  · intro op op' rest hscopes
    let c : Clocked R := { strategy := s, clock }
    let first := (c.act (draws 0) (.operate op)).2
    let both := (first.act (draws 1) (.operate op')).2
    obtain ⟨hseen, hseen', hafter⟩ := c.act_comm hsteady hscopes (draws 0) (draws' 0) (draws 1)
      (draws' 1)
    have hsteadyBoth : both.strategy.plan.isJittered = false :=
      Clocked.steady_act (Clocked.steady_act (c := c) hsteady (draws 0) _) (draws 1) _
    refine ⟨(c.act (draws 0) (.operate op)).1, (first.act (draws 1) (.operate op')).1,
      (both.run (fun n => draws (n + 1 + 1)) rest).1, rfl, ?_⟩
    rw [Clocked.log_run_cons, Clocked.log_run_cons, ← hseen, ← hseen',
      ← Clocked.run_congr hafter hsteadyBoth (fun n => draws (n + 1 + 1))
        (fun n => draws' (n + 1 + 1))]

/-- Two calls, one of which is throttled: the other scope does not notice. -/
theorem scopes_independent_throttled :
    let deeds : List Deed :=
      [.operate (.acquire "a"), .operate (.acquire "b"), .operate (throttledRetry "a"),
        .advance (.ofMillis 1000), .operate (firstRetry "b"), .operate (.succeed (.initial "a"))]
    let whole := Clocked.run { strategy := plainAdaptiveStrategy, clock := {} } (fun _ _ => 7) deeds
    let alone := Clocked.run { strategy := plainAdaptiveStrategy, clock := {} } (fun _ _ => 0)
      (deeds.filter (Deed.concerns "b"))
    plainAdaptiveStrategy.plan.isJittered = false
      ∧ alone.1 = whole.1.filter (fun entry => entry.1.concerns "b")
      ∧ alone.1.length = 3
      ∧ whole.2.strategy.rate "a" = some 51.0
      ∧ whole.2.strategy.rate "b" = none := by
  intro deeds whole alone
  have hsteady : plainAdaptiveStrategy.plan.isJittered = false := rfl
  have hindependent := (scopes_independent hsteady {} (fun _ _ => 7) (fun _ _ => 0)).1 "b" deeds
  exact ⟨hsteady, hindependent.1, rfl, by decide +kernel, by decide +kernel⟩

end RetryControl
