/-
  RetryControl.Proofs.Scope.Freshness
  ────────────────────────────────
  **A SCOPE WITHOUT ENTRIES IS A NEW SCOPE.**

  Entries come into being on demand and go with an eviction, and nothing that
  is done later can tell how a scope came to have none: by its eviction, by
  never having been used, or because the strategy is new.  Nor can anything
  tell a missing entry from the one that stands in for it, except that an
  eviction says whether it found an entry.

    • `Strategy.HoldsNothing` — no entries for a scope,
    • `Clocked.LooksLike` — two sides that no run tells apart in a scope,
    • `Strategy.furnishAll` — scopes that are given full buckets and fresh
      limiters from the start,
    • `evicted_looks_new` — evicted, unused and furnished scopes are alike.
-/
import RetryControl.Proofs.Scope.Independence

namespace RetryControl

variable {R : Type} [RateArithmetic R]

/-! ## §1. Scopes without entries. -/

namespace Strategy

/-- A strategy keeps nothing for a scope. -/
structure HoldsNothing (scope : String) (s : Strategy R) : Prop where
  bucket_eq : s.gate.heldBucket? scope = none
  limiter_eq : s.heldLimiter? scope = none

variable {scope : String} {s s' : Strategy R}

/-- A new strategy keeps nothing at all. -/
theorem holdsNothing_of_build {p : Plan R} (hbuilt : p.build = .ok s) (scope : String) :
    s.HoldsNothing scope := by
  refine ⟨?_, ?_⟩
  · rw [p.gate_of_build hbuilt]
    rfl
  · rcases p.kind_of_build hbuilt with
      ⟨plan, built, rfl, rfl, hplan⟩ | ⟨plan, built, rfl, rfl, hplan⟩
    · rfl
    · rw [(AdaptivePlan.build_eq_ok_iff.mp hplan).2.2]
      rfl

/-- **An eviction drops both entries**, whatever there was. -/
theorem holdsNothing_evict (s : Strategy R) (m : Moment) (scope : String) :
    (s.step m (.evict scope)).2.HoldsNothing scope := by
  refine ⟨?_, ?_⟩
  · rw [gate_step]
    exact (s.gate.heldBucket?_evict scope scope).trans (if_pos rfl)
  · cases s with
    | standard own => rfl
    | adaptive own => exact (own.heldLimiter?_step m (.evict scope) scope).trans (if_pos rfl)

omit [RateArithmetic R] in
theorem HoldsNothing.holdsSame (h : s.HoldsNothing scope) (h' : s'.HoldsNothing scope)
    (hplan : s'.plan = s.plan) : s.HoldsSame scope s' :=
  ⟨hplan, h'.bucket_eq.trans h.bucket_eq.symm, h'.limiter_eq.trans h.limiter_eq.symm⟩

/-! ## §2. Furnished scopes. -/

end Strategy

/-- A gate with a full bucket for a scope. -/
def Gate.furnish (g : Gate) (scope : String) : Gate :=
  g.setBucket scope (.full g.terms.budget.initialCapacity)

/-- A strategy with a full bucket and, if it is adaptive, a fresh limiter for a scope. -/
def Strategy.furnish (s : Strategy R) (scope : String) : Strategy R :=
  match s with
  | .standard s => .standard { s with gate := s.gate.furnish scope }
  | .adaptive s =>
    .adaptive ({ s with gate := s.gate.furnish scope }.setLimiter scope (.fresh s.rates))

/-- A strategy in which all of these scopes are furnished. -/
def Strategy.furnishAll (s : Strategy R) (scopes : List String) : Strategy R :=
  scopes.foldl Strategy.furnish s

namespace Strategy

variable {scope : String} {s s' : Strategy R}

@[simp] theorem plan_furnish (s : Strategy R) (scope : String) :
    (s.furnish scope).plan = s.plan := by
  cases s <;> rfl

theorem heldBucket?_furnish (s : Strategy R) (scope other : String) :
    (s.furnish scope).gate.heldBucket? other
      = if other = scope then some (.full s.gate.terms.budget.initialCapacity)
        else s.gate.heldBucket? other := by
  cases s with
  | standard own => exact own.gate.heldBucket?_setBucket scope other _
  | adaptive own => exact own.gate.heldBucket?_setBucket scope other _

theorem heldLimiter?_furnish (s : Strategy R) (scope other : String) :
    (s.furnish scope).heldLimiter? other
      = if other = scope then s.plan.freshLimiter? else s.heldLimiter? other := by
  cases s with
  | standard own => exact (ite_self _).symm
  | adaptive own => exact own.limiters.get?_insert scope other _

/-- A scope that has nothing, or just what stands in for it. -/
structure AtStart (scope : String) (s : Strategy R) : Prop where
  bucket_eq : s.gate.heldBucket? scope = none
    ∨ s.gate.heldBucket? scope = some (.full s.gate.terms.budget.initialCapacity)
  limiter_eq : s.heldLimiter? scope = none ∨ s.heldLimiter? scope = s.plan.freshLimiter?

/-- Furnishing leaves the scope at its start if it was there. -/
theorem AtStart.furnish (h : s.AtStart scope) (other : String) :
    (s.furnish other).AtStart scope := by
  have hterms : (s.furnish other).gate.terms = s.gate.terms :=
    terms_of_plan_eq (s.plan_furnish other)
  obtain ⟨hbucket, hlimiter⟩ := h
  refine ⟨?_, ?_⟩
  · rw [heldBucket?_furnish, hterms]
    split
    · exact .inr rfl
    · exact hbucket
  · rw [heldLimiter?_furnish, plan_furnish]
    split
    · exact .inr rfl
    · exact hlimiter

/-- All scopes at their start read the same, whether something is held for them or not. -/
theorem AtStart.readsSame (h : s.AtStart scope) (h' : s'.AtStart scope)
    (hplan : s'.plan = s.plan) : s.ReadsSame scope s' := by
  have hread : ∀ {t : Strategy R}, t.AtStart scope →
      t.gate.bucket scope = .full t.gate.terms.budget.initialCapacity
        ∧ t.limiter? scope = t.plan.freshLimiter? := by
    intro t ht
    obtain ⟨hbucket, hlimiter⟩ := ht
    rw [Gate.bucket_eq_getD, limiter?_eq_map]
    -- a missing entry and the one that stands in for it are read alike
    refine ⟨?_, ?_⟩
    · rcases hbucket with hbucket | hbucket <;> rw [hbucket] <;> rfl
    · cases hfresh : t.plan.freshLimiter? with
      | none => rfl
      | some fresh =>
          rw [hfresh] at hlimiter
          rcases hlimiter with hlimiter | hlimiter <;> rw [hlimiter] <;> rfl
  obtain ⟨hbucket, hlimiter⟩ := hread h
  obtain ⟨hbucket', hlimiter'⟩ := hread h'
  refine ⟨hplan, ?_, ?_⟩
  · rw [hbucket, hbucket', terms_of_plan_eq hplan]
  · rw [hlimiter, hlimiter', hplan]

theorem HoldsNothing.atStart (h : s.HoldsNothing scope) : s.AtStart scope :=
  ⟨.inl h.bucket_eq, .inl h.limiter_eq⟩

theorem AtStart.furnishAll (h : s.AtStart scope) (scopes : List String) :
    (s.furnishAll scopes).AtStart scope := by
  induction scopes generalizing s with
  | nil => exact h
  | cons other rest ih => exact ih (h.furnish other)

@[simp] theorem plan_furnishAll (s : Strategy R) (scopes : List String) :
    (s.furnishAll scopes).plan = s.plan := by
  induction scopes generalizing s with
  | nil => rfl
  | cons other rest ih => exact (ih (s.furnish other)).trans (s.plan_furnish other)

/-- Every one of the scopes is furnished, and no other. -/
theorem entries_furnishAll (s : Strategy R) (scopes : List String) (scope : String) :
    (s.furnishAll scopes).gate.heldBucket? scope
        = (if scope ∈ scopes then some (.full s.gate.terms.budget.initialCapacity)
          else s.gate.heldBucket? scope)
      ∧ (s.furnishAll scopes).heldLimiter? scope
        = if scope ∈ scopes then s.plan.freshLimiter? else s.heldLimiter? scope := by
  induction scopes generalizing s with
  | nil => exact ⟨(if_neg List.not_mem_nil).symm, (if_neg List.not_mem_nil).symm⟩
  | cons other rest ih =>
      obtain ⟨hbucket, hlimiter⟩ := ih (s.furnish other)
      have hterms : (s.furnish other).gate.terms = s.gate.terms :=
        terms_of_plan_eq (s.plan_furnish other)
      rw [hterms, heldBucket?_furnish] at hbucket
      rw [plan_furnish, heldLimiter?_furnish] at hlimiter
      have hmem : scope ∈ other :: rest ↔ scope ∈ rest ∨ scope = other := by
        rw [List.mem_cons]
        exact or_comm
      refine ⟨hbucket.trans ?_, hlimiter.trans ?_⟩
      · rw [← ite_or]
        exact if_congr hmem.symm rfl rfl
      · rw [← ite_or]
        exact if_congr hmem.symm rfl rfl

end Strategy

/-! ## §3. Runs that cannot be told apart. -/

namespace Clocked

/-- **Nothing that is done from now on tells two sides apart in a scope**: what shows there is the
same, and it does not matter on either side whether the scope is read in between. -/
structure LooksLike (scope : String) (c c' : Clocked R) : Prop where
  shows : ∀ draws draws' deeds,
    (c.run draws deeds).1.filter (fun entry => entry.1.concerns scope)
      = (c'.run draws' deeds).1.filter (fun entry => entry.1.concerns scope)
  unread : ∀ draws draws' deeds,
    (c.run draws deeds).1.filter (fun entry => entry.1.touches scope)
      = (c'.run draws' (deeds.filter (Deed.touches scope))).1
  capacity_eq : ∀ draws draws' deeds,
    (c.run draws deeds).2.strategy.capacity scope
        = (c'.run draws' deeds).2.strategy.capacity scope
      ∧ (c.run draws deeds).2.strategy.capacity scope
        = (c'.run draws' (deeds.filter (Deed.touches scope))).2.strategy.capacity scope
  rate_eq : ∀ draws draws' deeds,
    (c.run draws deeds).2.strategy.rate scope = (c'.run draws' deeds).2.strategy.rate scope
      ∧ (c.run draws deeds).2.strategy.rate scope
        = (c'.run draws' (deeds.filter (Deed.touches scope))).2.strategy.rate scope

/-- **What is held for a scope is all that can ever show there.** -/
theorem HoldsSame.looksLike {scope : String} {c c' : Clocked R} (h : c.HoldsSame scope c')
    (hsteady : c.strategy.plan.isJittered = false) : c.LooksLike scope c' := by
  have hsteady' : c'.strategy.plan.isJittered = false := by
    rw [h.strategy.plan_eq]
    exact hsteady
  -- both sides are compared with the second one, with only the deeds in the scope kept
  have halone := fun draws draws' deeds => h.run_filter hsteady
    (fun _ => Deed.concerns_of_touches) (fun _ hkept => hkept) draws draws' deeds
  have halone' := fun draws draws' deeds => (HoldsSame.refl scope c').run_filter hsteady'
    (fun _ => Deed.concerns_of_touches) (fun _ hkept => hkept) draws draws' deeds
  have hunread := fun draws draws' deeds => h.run_filter hsteady
    (fun _ hkept => hkept) (fun _ => Deed.concerns_of_touches) draws draws' deeds
  have hreadings := fun draws draws' deeds =>
    ((halone draws draws' deeds).2.trans (halone' draws' draws' deeds).2.symm).strategy.reads.readings
  have hreadings' := fun draws draws' deeds =>
    (hunread draws draws' deeds).2.strategy.reads.readings
  exact {
    shows := fun draws draws' deeds =>
      (halone draws draws' deeds).1.symm.trans (halone' draws' draws' deeds).1
    unread := fun draws draws' deeds => (hunread draws draws' deeds).1.symm
    capacity_eq := fun draws draws' deeds =>
      ⟨(hreadings draws draws' deeds).1.symm, (hreadings' draws draws' deeds).1.symm⟩
    rate_eq := fun draws draws' deeds =>
      ⟨(hreadings draws draws' deeds).2.symm, (hreadings' draws draws' deeds).2.symm⟩ }

end Clocked

/-! ## §4. Stand-ins instead of missing entries. -/

/-- What shows, without what an eviction found. -/
def Seen.apartFromFinding (seen : Seen R) : Seen R :=
  { seen with answer? := seen.answer?.map Answer.apartFromFinding }

namespace Clocked

/-- The record of a run, without what evictions found. -/
def apartFromFindings (log : List (Deed × Option (Seen R))) : List (Deed × Option (Seen R)) :=
  log.map fun entry => (entry.1, entry.2.map Seen.apartFromFinding)

/-- Both sides show the same time, and their strategies read the same in every scope. -/
structure ReadsSame (c c' : Clocked R) : Prop where
  strategy : ∀ scope, c.strategy.ReadsSame scope c'.strategy
  clock_eq : c'.clock = c.clock

variable {c c' : Clocked R}

theorem ReadsSame.look_eq (h : c.ReadsSame c') (scope : String) {answer? answer?' : Option Answer}
    (hanswer : answer?'.map Answer.apartFromFinding = answer?.map Answer.apartFromFinding) :
    (c'.strategy.look answer?' scope).apartFromFinding
      = (c.strategy.look answer? scope).apartFromFinding := by
  obtain ⟨hcapacity, hrate⟩ := (h.strategy scope).readings
  unfold Strategy.look Seen.apartFromFinding
  rw [hcapacity, hrate, hanswer]

/-- **The same deed keeps both sides alike to a reader**, and shows the same but for findings. -/
theorem ReadsSame.act (h : c.ReadsSame c') (hsteady : c.strategy.plan.isJittered = false)
    (draws draws' : Draws) (d : Deed) :
    (c'.act draws' d).1.map Seen.apartFromFinding = (c.act draws d).1.map Seen.apartFromFinding
      ∧ (c.act draws d).2.ReadsSame (c'.act draws' d).2 := by
  cases d with
  | read scope => exact ⟨congrArg some (h.look_eq scope rfl), h⟩
  | advance distance =>
      refine ⟨rfl, h.strategy, ?_⟩
      show c'.clock.advance distance = c.clock.advance distance
      rw [h.clock_eq]
  | operate op =>
      have hnow : c'.clock.now = c.clock.now := by rw [h.clock_eq]
      have hanswer : (c'.strategy.step ⟨c'.clock.now, draws'⟩ op).1.apartFromFinding
          = (c.strategy.step ⟨c.clock.now, draws⟩ op).1.apartFromFinding :=
        (h.strategy op.scope).answer_eq hsteady hnow
      have hafter : (c.act draws (.operate op)).2.ReadsSame (c'.act draws' (.operate op)).2 := by
        refine ⟨fun scope => ?_, h.clock_eq⟩
        by_cases hscope : scope = op.scope
        · subst hscope
          exact (h.strategy op.scope).step hsteady hnow
        · -- no entry of another scope changes on either side
          exact (c.strategy.holdsSame_step_elsewhere _ hscope).reads.symm.trans
            ((h.strategy scope).trans (c'.strategy.holdsSame_step_elsewhere _ hscope).reads)
      exact ⟨congrArg some (hafter.look_eq op.scope (congrArg some hanswer)), hafter⟩

/-- So do whole runs. -/
theorem ReadsSame.run (h : c.ReadsSame c') (hsteady : c.strategy.plan.isJittered = false)
    (draws draws' : Nat → Draws) (deeds : List Deed) :
    apartFromFindings (c'.run draws' deeds).1 = apartFromFindings (c.run draws deeds).1
      ∧ (c.run draws deeds).2.ReadsSame (c'.run draws' deeds).2 := by
  induction deeds generalizing c c' draws draws' with
  | nil => exact ⟨rfl, h⟩
  | cons d rest ih =>
      have hsteadyNext := steady_act hsteady (draws 0) d
      obtain ⟨hseen, hafter⟩ := h.act hsteady (draws 0) (draws' 0) d
      obtain ⟨hlog, hlast⟩ := ih hafter hsteadyNext (fun n => draws (n + 1))
        (fun n => draws' (n + 1))
      refine ⟨?_, hlast⟩
      unfold apartFromFindings at hlog ⊢
      rw [log_run_cons, log_run_cons, List.map_cons, List.map_cons, hlog, hseen]

end Clocked

/-! ## §5. Evicted, unused and furnished scopes. -/

/-- **EVICTED AND UNUSED SCOPES ARE LIKE NEW.**  Whatever a strategy without jitter has gone
through: in a scope that it then evicts, and in a scope that it keeps nothing for, nothing tells it
from a new strategy of its plan on the same clock, however the run goes on and whichever tokens are
used in it, and however often the scope is read.  And a new strategy answers, and reads, as if full
buckets and fresh limiters had been there from the start, in whichever scopes: only an eviction can
say that it found them. -/
theorem evicted_looks_new {p : Plan R} {first : Strategy R} (hbuilt : p.build = .ok first)
    (hsteady : p.isJittered = false) (uses : List Use) (clock : ManualClock) :
    let reached := (first.useAll uses).2
    let new : Clocked R := { strategy := first, clock }
    (∀ m scope, Clocked.LooksLike scope
        { strategy := (reached.step m (.evict scope)).2, clock } new)
      ∧ (∀ scope, reached.HoldsNothing scope →
        Clocked.LooksLike scope { strategy := reached, clock } new)
      ∧ ∀ scopes,
        let furnished := first.furnishAll scopes
        (∀ scope ∈ scopes,
            furnished.gate.heldBucket? scope = some (.full first.gate.terms.budget.initialCapacity)
              ∧ furnished.heldLimiter? scope = p.freshLimiter?)
          ∧ ∀ draws draws' deeds,
            let run := Clocked.run { strategy := furnished, clock } draws' deeds
            Clocked.apartFromFindings run.1 = Clocked.apartFromFindings (new.run draws deeds).1
              ∧ ∀ scope,
                run.2.strategy.capacity scope = (new.run draws deeds).2.strategy.capacity scope
                  ∧ run.2.strategy.rate scope = (new.run draws deeds).2.strategy.rate scope := by
  intro reached new
  have hplan : first.plan = p := p.plan_of_build hbuilt
  have hreached : reached.plan = first.plan := first.plan_useAll uses
  have hfirst := Strategy.holdsNothing_of_build hbuilt
  have hsteadyFirst : first.plan.isJittered = false := by rw [hplan]; exact hsteady
  -- all of them have the plan of the new strategy
  have hsteadyReached : reached.plan.isJittered = false := by rw [hreached]; exact hsteadyFirst
  refine ⟨fun m scope => ?_, fun scope hnothing => ?_, fun scopes => ⟨fun scope hscope => ?_, ?_⟩⟩
  · have hevicted : (reached.step m (.evict scope)).2.plan = reached.plan := reached.plan_step m _
    have hheld : Clocked.HoldsSame scope
        { strategy := (reached.step m (.evict scope)).2, clock } new :=
      ⟨(reached.holdsNothing_evict m scope).holdsSame (hfirst scope)
        (hreached.symm.trans hevicted.symm), rfl⟩
    exact hheld.looksLike (by rw [hevicted]; exact hsteadyReached)
  · have hheld : Clocked.HoldsSame scope { strategy := reached, clock } new :=
      ⟨hnothing.holdsSame (hfirst scope) hreached.symm, rfl⟩
    exact hheld.looksLike hsteadyReached
  · obtain ⟨hbucket, hlimiter⟩ := first.entries_furnishAll scopes scope
    rw [if_pos hscope] at hbucket hlimiter
    rw [hplan] at hlimiter
    exact ⟨hbucket, hlimiter⟩
  · intro draws draws' deeds run
    have hreads : new.ReadsSame { strategy := first.furnishAll scopes, clock } :=
      ⟨fun scope => (hfirst scope).atStart.readsSame ((hfirst scope).atStart.furnishAll scopes)
        (first.plan_furnishAll scopes), rfl⟩
    obtain ⟨hlog, hlast⟩ := hreads.run hsteadyFirst draws draws' deeds
    exact ⟨hlog, fun scope => (hlast.strategy scope).readings⟩

/-- A scope is throttled, and then evicted: at the same time it is as an unused one. -/
theorem evicted_looks_new_throttled :
    let uses : List Use :=
      [.operate (.atMillis 1000) (.acquire "a"), .operate (.atMillis 1000) (throttledRetry "a")]
    let reached := (plainAdaptiveStrategy.useAll uses).2
    let clock : ManualClock := { origin := .atMillis 1000 }
    let evicted := (reached.step (.atMillis 1000) (.evict "a")).2
    let new : Clocked Float := { strategy := plainAdaptiveStrategy, clock }
    (Plan.adaptive plainAdaptivePlan).build = .ok plainAdaptiveStrategy
      ∧ (Plan.adaptive plainAdaptivePlan).isJittered = false
      ∧ reached.rate "a" = some 50.0
      ∧ reached.capacity "a" = 495
      ∧ evicted.capacity "a" = 500
      ∧ Clocked.LooksLike "a" { strategy := evicted, clock } new
      ∧ reached.HoldsNothing "b"
      ∧ Clocked.LooksLike "b" { strategy := reached, clock } new := by
  intro uses reached clock evicted new
  have hbuilt : (Plan.adaptive plainAdaptivePlan).build = .ok plainAdaptiveStrategy := rfl
  have hsteady : (Plan.adaptive plainAdaptivePlan).isJittered = false := rfl
  have hnothing : reached.HoldsNothing "b" := ⟨by decide +kernel, by decide +kernel⟩
  obtain ⟨hevicted, hunused, _⟩ := evicted_looks_new hbuilt hsteady uses clock
  exact ⟨hbuilt, hsteady, by decide +kernel, by decide +kernel, by decide +kernel,
    hevicted (.atMillis 1000) "a", hnothing, hunused "b" hnothing⟩

end RetryControl
