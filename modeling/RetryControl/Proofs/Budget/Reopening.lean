/-
  RetryControl.Proofs.Budget.Reopening
  ────────────────────────────────
  **WHEN AN OPEN CIRCUIT CLOSES.**

  A scope whose capacity is below the retry cost refuses every charged retry,
  and a refusal takes nothing.  So while it is open only successes move its
  capacity, and however refusals stand between them they raise it to

      min (initial capacity) (capacity at first + credits since)

  The circuit closes as soon as this covers the cost.  Under the fixed policy
  that is a number of successes, if any number is enough: a cost above the
  initial capacity is out of reach for good, since every scope starts there
  and none is ever raised above it.

    • `GateTerms.raised` — what successes raise a capacity to,
    • `Gate.Bounded.capacity_run_of_untried` — a run that tries too early only,
    • `Closes`, `Gate.Bounded.closes` — refused until ready, then granted,
    • `circuit_closes_once_raised` — all of it, for built strategies.
-/
import Mathlib.Data.Nat.Find
import Mathlib.Order.Bounds.Basic
import RetryControl.Proofs.Budget.Overdraw

namespace RetryControl

/-! ## §1. Successes of a scope, and what they raise its capacity to. -/

/-- The operation is a success in the scope. -/
def Operation.succeedsIn (scope : String) : Operation → Bool
  | .succeed token => token.scope == scope
  | _ => false

/-- The number of successes in a scope. -/
def successesAt (scope : String) (history : List (Operation × Decision)) : Nat :=
  history.countP fun entry => entry.1.succeedsIn scope

theorem successesAt_cons (scope : String) (entry : Operation × Decision)
    (rest : List (Operation × Decision)) :
    successesAt scope (entry :: rest)
      = successesAt scope rest + if entry.1.succeedsIn scope then 1 else 0 := by
  unfold successesAt
  rw [List.countP_cons]

/-- Where every success earns the same, the credits are that many times the successes. -/
theorem creditsAt_of_forall {scope : String} {credit : Nat}
    {history : List (Operation × Decision)}
    (hsame : ∀ entry ∈ history,
      creditAt scope entry = (if entry.1.succeedsIn scope then 1 else 0) * credit) :
    creditsAt scope history = successesAt scope history * credit := by
  induction history with
  | nil => exact (Nat.zero_mul _).symm
  | cons entry rest ih =>
      show creditAt scope entry + creditsAt scope rest = _
      rw [hsame entry List.mem_cons_self, ih fun other h => hsame other (List.mem_cons_of_mem _ h),
        successesAt_cons, Nat.add_mul, Nat.add_comm]

theorem creditsAt_append (scope : String) (earlier later : List (Operation × Decision)) :
    creditsAt scope (earlier ++ later) = creditsAt scope earlier + creditsAt scope later := by
  induction earlier with
  | nil => exact (Nat.zero_add _).symm
  | cons entry rest ih =>
      show creditAt scope entry + creditsAt scope (rest ++ later) = _
      rw [ih, ← Nat.add_assoc]
      rfl

/-- Only a success in the scope earns it anything. -/
theorem creditAt_of_not_succeedsIn {scope : String} {op : Operation}
    (hop : op.succeedsIn scope = false) (decision : Decision) :
    creditAt scope (op, decision) = 0 := by
  cases op with
  | acquire first => rfl
  | refresh request => rfl
  | evict other => rfl
  | succeed token =>
      cases decision with
      | credited amount => exact if_neg (beq_eq_false_iff_ne.mp hop)
      | granted token => rfl
      | refused error => rfl
      | evicted => rfl

namespace GateTerms

/-- What successes raise a scope to that had `held` before them, if nothing is taken meanwhile. -/
def raised (t : GateTerms) (scope : String) (held : Nat) (history : List (Operation × Decision)) :
    Nat :=
  min t.budget.initialCapacity.toNat (held + creditsAt scope history)

/-- Successes on the way can only have raised it further. -/
theorem raised_le_append (t : GateTerms) (scope : String) (held : Nat)
    (earlier later : List (Operation × Decision)) :
    t.raised scope held earlier ≤ t.raised scope held (earlier ++ later) := by
  unfold raised
  rw [creditsAt_append]
  omega

/-- Cutting off at the initial capacity on the way is cutting off once in the end. -/
theorem raised_cons (t : GateTerms) (scope : String) (held : Nat) (entry : Operation × Decision)
    (rest : List (Operation × Decision)) :
    t.raised scope held (entry :: rest)
      = t.raised scope (min t.budget.initialCapacity.toNat (held + creditAt scope entry)) rest := by
  show min _ (held + (creditAt scope entry + creditsAt scope rest))
    = min _ (min _ (held + creditAt scope entry) + creditsAt scope rest)
  omega

/-- Nobody asked for a charged retry in the scope while it was `ready`, as far as the history
goes: whoever asks next is the first one. -/
def Untried (t : GateTerms) (scope : String) (ready : List (Operation × Decision) → Prop)
    (history : List (Operation × Decision)) : Prop :=
  ∀ earlier entry later, history = earlier ++ entry :: later →
    t.contests scope entry.1 = true → ¬ready earlier

end GateTerms

/-! ## §2. A run that tries too early only. -/

namespace Gate

variable {g : Gate} {scope : String}

/-- One operation: as long as no covered request is made, the capacity moves by credits alone. -/
theorem Bounded.capacity_step_of_short (hg : g.Bounded) (hbreaker : g.terms.breakerEnabled = true)
    {op : Operation} (hkept : op ≠ .evict scope)
    (hshort : g.terms.contests scope op = true →
      (g.capacity scope).toNat < g.terms.budget.retryCost.toNat) :
    ((g.step op).2.capacity scope).toNat
      = min g.terms.budget.initialCapacity.toNat
          ((g.capacity scope).toNat + creditAt scope (op, (g.step op).1)) := by
  have hheld := hg.capacity_le scope
  cases hsuccess : op.succeedsIn scope with
  | true =>
      cases op with
      | acquire first => cases hsuccess
      | refresh request => cases hsuccess
      | evict other => cases hsuccess
      | succeed token =>
          have hscope : token.scope = scope := beq_iff_eq.mp hsuccess
          show ((g.succeed token).2.capacity scope).toNat
            = min _ (_ + if token.scope = scope then (g.succeed token).1.toNat else 0)
          rw [hg.capacity_succeed token scope, if_pos hscope.symm, if_pos hscope]
          exact if_pos hbreaker
  | false =>
      rw [creditAt_of_not_succeedsIn hsuccess]
      have hsame : ((g.step op).2.capacity scope).toNat = (g.capacity scope).toNat := by
        cases hop : g.terms.contests scope op with
        | true =>
            rcases step_of_contests hbreaker hop with ⟨hcovered, _⟩ | ⟨_, _, _, hsame⟩
            · exact absurd hcovered (Nat.not_le.mpr (hshort hop))
            · rw [hsame]
        | false =>
            refine (hg.step_of_not_contests hop hkept ?_).2
            intro token hsucceed
            rw [hsucceed] at hsuccess
            exact beq_eq_false_iff_ne.mp hsuccess
      omega

/-- **A run in which every charged retry is asked for too early**: the successes have raised the
capacity as if nobody had asked. -/
theorem Bounded.capacity_run_of_untried (hg : g.Bounded)
    (hbreaker : g.terms.breakerEnabled = true) {ops : List Operation}
    (hkept : ∀ op ∈ ops, op ≠ .evict scope)
    (huntried : g.terms.Untried scope
      (fun history => g.terms.budget.retryCost.toNat
        ≤ g.terms.raised scope (g.capacity scope).toNat history) (g.history ops)) :
    ((g.run ops).capacity scope).toNat
      = g.terms.raised scope (g.capacity scope).toNat (g.history ops) := by
  induction ops generalizing g with
  | nil =>
      have hheld := hg.capacity_le scope
      show (g.capacity scope).toNat = min _ ((g.capacity scope).toNat + 0)
      omega
  | cons op rest ih =>
      have hshort : g.terms.contests scope op = true →
          (g.capacity scope).toNat < g.terms.budget.retryCost.toNat := by
        intro hop
        have hfirst := huntried [] (op, (g.step op).1) ((g.step op).2.history rest) rfl hop
        have hnone : g.terms.raised scope (g.capacity scope).toNat [] = (g.capacity scope).toNat :=
          Nat.min_eq_right (hg.capacity_le scope)
        omega
      have hstep := hg.capacity_step_of_short hbreaker (hkept op List.mem_cons_self) hshort
      -- what is left is a run from the capacity that the first operation leaves
      have hrest := ih (hg.step op) (by rw [terms_step]; exact hbreaker)
        (fun other h => hkept other (List.mem_cons_of_mem op h))
        (by
          intro earlier entry later hsplit hentry hready
          rw [terms_step] at hentry hready
          refine huntried ((op, (g.step op).1) :: earlier) entry later ?_ hentry ?_
          · show (op, (g.step op).1) :: (g.step op).2.history rest = _
            rw [hsplit]
            rfl
          · show _ ≤ g.terms.raised scope _ ((op, (g.step op).1) :: earlier)
            rw [GateTerms.raised_cons, ← hstep]
            exact hready)
      show (((g.step op).2.run rest).capacity scope).toNat
        = g.terms.raised scope _ ((op, (g.step op).1) :: (g.step op).2.history rest)
      rw [hrest, GateTerms.raised_cons, ← hstep, terms_step]

/-- While the successes have not raised the capacity to the cost, nobody can have asked in time. -/
theorem untried_of_raised_lt {t : GateTerms} {held : Nat} {history : List (Operation × Decision)}
    (hshort : t.raised scope held history < t.budget.retryCost.toNat) :
    t.Untried scope (fun earlier => t.budget.retryCost.toNat ≤ t.raised scope held earlier)
      history := by
  intro earlier entry later hsplit _ hready
  rw [hsplit] at hshort
  have hmore := t.raised_le_append scope held earlier (entry :: later)
  omega

/-- Under the fixed policy every success of a scope earns it the same. -/
theorem creditAt_of_mem_history (hbreaker : g.terms.breakerEnabled = true)
    (hfixed : g.terms.budget.policy = .fixed) {ops : List Operation}
    {entry : Operation × Decision} (hentry : entry ∈ g.history ops) :
    creditAt scope entry
      = (if entry.1.succeedsIn scope then 1 else 0) * g.terms.budget.successCredit.toNat := by
  induction ops generalizing g with
  | nil => cases hentry
  | cons op rest ih =>
      rcases List.mem_cons.mp hentry with rfl | hlater
      · cases hsuccess : op.succeedsIn scope with
        | false =>
            rw [creditAt_of_not_succeedsIn hsuccess]
            exact (Nat.zero_mul _).symm
        | true =>
            cases op with
            | acquire first => cases hsuccess
            | refresh request => cases hsuccess
            | evict other => cases hsuccess
            | succeed token =>
                have hearned : (g.succeed token).1 = g.terms.budget.successCredit := by
                  rw [g.succeed_of_breaker hbreaker]
                  unfold BudgetTerms.creditFor
                  rw [hfixed]
                show (if token.scope = scope then (g.succeed token).1.toNat else 0) = 1 * _
                rw [if_pos (beq_iff_eq.mp hsuccess), hearned, Nat.one_mul]
      · have hsame := g.terms_step op
        rw [← hsame] at hbreaker hfixed ⊢
        exact ih hbreaker hfixed hlater

/-- A cost above the initial capacity is never paid, whatever is credited or forgotten. -/
theorem Bounded.chargedGrants_of_unreachable (hg : g.Bounded)
    (hbreaker : g.terms.breakerEnabled = true)
    (hcost : g.terms.budget.initialCapacity.toNat < g.terms.budget.retryCost.toNat)
    (ops : List Operation) : chargedGrants scope (g.history ops) = 0 := by
  induction ops generalizing g with
  | nil => rfl
  | cons op rest ih =>
      have hrest := ih (hg.step op) (by rw [terms_step]; exact hbreaker)
        (by rw [terms_step]; exact hcost)
      have hfirst : chargedGrant scope (op, (g.step op).1) = false := by
        cases hop : g.terms.contests scope op with
        | true =>
            have hheld := hg.capacity_le scope
            rcases step_of_contests hbreaker hop with ⟨hcovered, _⟩ | ⟨_, _, huncharged, _⟩
            · omega
            · exact huncharged
        | false =>
            cases op with
            | acquire first => rfl
            | succeed token => rfl
            | evict other => rfl
            | refresh request =>
                exact (hg.step_of_not_contests hop (by simp) (by simp)).1
      show ((op, (g.step op).1) :: (g.step op).2.history rest).countP (chargedGrant scope) = 0
      rw [List.countP_cons_of_neg (by simp [hfirst])]
      exact hrest

end Gate

/-! ## §3. Refused until ready, then granted. -/

variable {R : Type} [RateArithmetic R]

/-- The circuit of a scope is closed as soon as the history from here on is `ready`, and open
before, as long as the scope is not forgotten. -/
structure Closes (t : GateTerms) (s : Strategy R) (scope : String)
    (ready : List (Operation × Decision) → Prop) : Prop where
  /-- Until then every request that only the budget can refuse finds the circuit open. -/
  refused : ∀ ops m request, (∀ entry ∈ ops, entry.2 ≠ .evict scope) →
    t.contests scope (.refresh request) = true → ¬ready (s.history ops) →
    ((s.run ops).2.step m (.refresh request)).1 = .refused (.circuitOpen scope)
  /-- The first such request from then on is granted. -/
  granted : ∀ ops m request, (∀ entry ∈ ops, entry.2 ≠ .evict scope) →
    t.contests scope (.refresh request) = true → ready (s.history ops) →
    t.Untried scope ready (s.history ops) →
    ∃ grant, ((s.run ops).2.step m (.refresh request)).1 = .granted grant

/-- What counts as ready matters for the histories of runs only. -/
theorem Closes.congr {t : GateTerms} {s : Strategy R} {scope : String}
    {ready other : List (Operation × Decision) → Prop} (h : Closes t s scope ready)
    (hsame : ∀ ops history, history <+: s.history ops → (ready history ↔ other history)) :
    Closes t s scope other := by
  constructor
  case refused =>
    intro ops m request hkept hcontests hready
    exact h.refused ops m request hkept hcontests
      (fun hbefore => hready ((hsame ops _ List.prefix_rfl).mp hbefore))
  case granted =>
    intro ops m request hkept hcontests hready huntried
    refine h.granted ops m request hkept hcontests ((hsame ops _ List.prefix_rfl).mpr hready) ?_
    intro earlier entry later hsplit hentry hbefore
    exact huntried earlier entry later hsplit hentry
      ((hsame ops earlier ⟨entry :: later, hsplit.symm⟩).mp hbefore)

/-- **The circuit closes once successes have raised the capacity to the cost.** -/
theorem Strategy.closes_of_bounded {s : Strategy R} (hs : s.gate.Bounded)
    (hbreaker : s.gate.terms.breakerEnabled = true) (scope : String) :
    Closes s.gate.terms s scope fun history =>
      s.gate.terms.budget.retryCost.toNat
        ≤ s.gate.terms.raised scope (s.capacity scope).toNat history := by
  -- after a run without requests in time, a request is answered by what successes have raised
  have hlast : ∀ ops, (∀ entry ∈ ops, entry.2 ≠ .evict scope) →
      s.gate.terms.Untried scope (fun history => s.gate.terms.budget.retryCost.toNat
        ≤ s.gate.terms.raised scope (s.capacity scope).toNat history) (s.history ops) →
      ((s.run ops).2.gate.capacity scope).toNat
        = s.gate.terms.raised scope (s.capacity scope).toNat (s.history ops) := by
    intro ops hkept huntried
    rw [history_eq] at huntried ⊢
    rw [gate_run]
    refine hs.capacity_run_of_untried hbreaker ?_ huntried
    intro op hop
    obtain ⟨entry, hentry, hsame⟩ := List.mem_map.mp hop
    rw [← hsame]
    exact hkept entry hentry
  constructor
  case refused =>
    intro ops m request hkept hcontests hready
    obtain ⟨hscope, hpass, htype⟩ := GateTerms.contests_refresh.mp hcontests
    have hshort := Nat.lt_of_not_le hready
    rw [refused_iff, Gate.circuitOpen_iff, hlast ops hkept (Gate.untried_of_raised_lt hshort),
      terms_run, GateTerms.charge_of_ne hbreaker htype]
    exact ⟨hscope, hpass, hshort⟩
  case granted =>
    intro ops m request hkept hcontests hready huntried
    obtain ⟨hscope, hpass, htype⟩ := GateTerms.contests_refresh.mp hcontests
    obtain ⟨hrule, hmade⟩ := GateTerms.passes_iff.mp hpass
    rw [granted_iff, Gate.granted_iff, hscope, hlast ops hkept huntried, terms_run,
      GateTerms.charge_of_ne hbreaker htype]
    exact ⟨hrule, hmade, hready⟩

/-- Under the fixed policy being raised to the cost is a matter of the number of successes: of the
least number that is enough, if any is. -/
theorem GateTerms.le_raised_iff_of_forall {t : GateTerms} {scope : String} {held : Nat}
    {history : List (Operation × Decision)}
    (hsame : ∀ entry ∈ history, creditAt scope entry
      = (if entry.1.succeedsIn scope then 1 else 0) * t.budget.successCredit.toNat) :
    t.budget.retryCost.toNat ≤ t.raised scope held history ↔
      ∃ n, IsLeast {n | t.budget.retryCost.toNat
          ≤ min t.budget.initialCapacity.toNat (held + n * t.budget.successCredit.toNat)} n
        ∧ n ≤ successesAt scope history := by
  unfold raised
  rw [creditsAt_of_forall hsame]
  constructor
  · intro henough
    have hexists : ∃ n, t.budget.retryCost.toNat
        ≤ min t.budget.initialCapacity.toNat (held + n * t.budget.successCredit.toNat) :=
      ⟨_, henough⟩
    exact ⟨Nat.find hexists, ⟨Nat.find_spec hexists, fun n h => Nat.find_min' hexists h⟩,
      Nat.find_min' hexists henough⟩
  · rintro ⟨n, ⟨henough, _⟩, hle⟩
    have hmore := Nat.mul_le_mul_right t.budget.successCredit.toNat hle
    rw [Set.mem_ofPred_eq] at henough
    omega

/-- What the budget never stands in the way of: first attempts, and retries of requests that were
themselves at fault. -/
structure Unblocked (s : Strategy R) : Prop where
  /-- A first attempt is granted at once. -/
  acquired : ∀ m scope, ∃ grant,
    (s.step m (.acquire scope)).1 = .granted grant ∧ grant.delay = .zero
  /-- A request that was at fault is retried if it passes the rule and the attempt limit. -/
  retried : ∀ m request, request.failure.errorType = .clientError →
    s.gate.terms.passes request.token request.failure = true →
    ∃ grant, (s.step m (.refresh request)).1 = .granted grant
  /-- If it is not, then the circuit is not the reason. -/
  notOpen : ∀ m request scope, request.failure.errorType = .clientError →
    (s.step m (.refresh request)).1 ≠ .refused (.circuitOpen scope)

theorem Strategy.unblocked (s : Strategy R) : Unblocked s := by
  constructor
  case acquired =>
    intro m scope
    cases s with
    | standard s => exact ⟨_, rfl, rfl⟩
    | adaptive s => exact ⟨_, rfl, rfl⟩
  case retried =>
    intro m request htype hpass
    obtain ⟨hrule, hmade⟩ := GateTerms.passes_iff.mp hpass
    rw [granted_iff, Gate.granted_iff, htype, GateTerms.charge_clientError]
    exact ⟨hrule, hmade, Nat.zero_le _⟩
  case notOpen =>
    intro m request scope htype hopen
    rw [refused_iff, Gate.circuitOpen_iff, htype, GateTerms.charge_clientError] at hopen
    exact Nat.not_lt_zero _ hopen.2.2

/-! ## §4. The main result. -/

/-- **WHEN AN OPEN CIRCUIT CLOSES.**  In every state that a built strategy comes to, a scope
refuses all charged retries until successes have raised what it has to the cost, and grants the
first one from then on; under the fixed policy that is when the least number of successes that is
enough has been reported, and never if no number is.  If the cost is above the initial capacity,
no charged retry is ever granted, evictions or not.  First attempts and the retries of requests
that were at fault are never stopped by the budget. -/
theorem circuit_closes_once_raised {p : Plan R} {s : Strategy R} (hbuilt : p.build = .ok s)
    (hbreaker : p.gate.breakerEnabled = true) :
    (∀ uses scope, let now := (s.useAll uses).2
      Closes p.gate now scope (fun history =>
          p.gate.budget.retryCost.toNat
            ≤ p.gate.raised scope (now.capacity scope).toNat history)
        ∧ (p.gate.budget.policy = .fixed →
          Closes p.gate now scope fun history =>
            ∃ n, IsLeast {n | p.gate.budget.retryCost.toNat
                ≤ min p.gate.budget.initialCapacity.toNat
                  ((now.capacity scope).toNat + n * p.gate.budget.successCredit.toNat)} n
              ∧ n ≤ successesAt scope history))
      ∧ (p.gate.budget.initialCapacity.toNat < p.gate.budget.retryCost.toNat →
        ∀ ops scope, chargedGrants scope (s.history ops) = 0)
      ∧ ∀ now : Strategy R, Unblocked now := by
  have hbounded : s.gate.Bounded := Plan.bounded_of_build hbuilt
  have hterms : s.gate.terms = p.gate := Plan.terms_of_build hbuilt
  refine ⟨?_, ?_, Strategy.unblocked⟩
  · intro uses scope now
    obtain ⟨hnow, hkept⟩ := Strategy.bounded_useAll hbounded uses
    have hsame : now.gate.terms = p.gate := hkept.trans hterms
    have hcloses := now.closes_of_bounded hnow (by rw [hsame]; exact hbreaker) scope
    rw [hsame] at hcloses
    refine ⟨hcloses, fun hfixed => hcloses.congr ?_⟩
    intro ops history hprefix
    apply GateTerms.le_raised_iff_of_forall
    intro entry hentry
    have hmem := hprefix.subset hentry
    rw [Strategy.history_eq] at hmem
    rw [← hsame] at hbreaker hfixed ⊢
    exact Gate.creditAt_of_mem_history hbreaker hfixed hmem
  · intro hcost ops scope
    rw [Strategy.history_eq]
    rw [← hterms] at hbreaker hcost
    exact hbounded.chargedGrants_of_unreachable hbreaker hcost _

/-- A plan whose retries cost more than a scope ever has. -/
def unaffordablePlan : Plan Float :=
  .standard { gate := { budget := { initialCapacity := 3, retryCost := 4 } } }

/-- Two retries leave two units of ten, short of a cost of four: a retry in between is refused, and
the one after two successes is granted.  A cost of four is never paid out of three units. -/
theorem circuit_closes_once_raised_scarce :
    let now := (scarceStrategy.useAll
      [.operate .start (firstRetry "s"), .operate .start (firstRetry "s")]).2
    let ops : List (Moment × Operation) :=
      [(.start, firstRetry "s"), (.start, .succeed (.initial "s")),
        (.start, .succeed (.initial "s"))]
    scarcePlan.build = .ok scarceStrategy ∧ scarcePlan.gate.budget.policy = .fixed
      ∧ (now.capacity "s").toNat = 2
      ∧ ((now.run (ops.take 2)).2.step .start (firstRetry "s")).1 = .refused (.circuitOpen "s")
      ∧ (∃ grant, ((now.run ops).2.step .start (firstRetry "s")).1 = .granted grant)
      ∧ ∃ s, unaffordablePlan.build = .ok s
        ∧ ∀ ops, chargedGrants "s" (s.history (.mk .start (.evict "s") :: ops)) = 0 := by
  intro now ops
  obtain ⟨hraised, hcounted⟩ :=
    (circuit_closes_once_raised (p := scarcePlan) (s := scarceStrategy) rfl rfl).1
      [.operate .start (firstRetry "s"), .operate .start (firstRetry "s")] "s"
  have hunaffordable :=
    (circuit_closes_once_raised (p := unaffordablePlan) rfl rfl).2.1 (by decide)
  have hkept : ∀ entry ∈ ops, entry.2 ≠ .evict "s" := by
    simp [ops, firstRetry]
  have hleast : IsLeast {n | 4 ≤ min 10 (2 + n * 1)} 2 :=
    ⟨by decide, fun n henough => by rw [Set.mem_ofPred_eq] at henough; omega⟩
  -- the only retry that is asked for on the way comes before the first success
  have huntried : scarcePlan.gate.Untried "s" (fun history =>
      ∃ n, IsLeast {n | 4 ≤ min 10 (2 + n * 1)} n ∧ n ≤ successesAt "s" history)
        (now.history ops) := by
    intro earlier entry later hsplit hcontests
    rcases earlier with _ | ⟨first, _ | ⟨second, _ | ⟨third, more⟩⟩⟩
    · rintro ⟨n, hn, hle⟩
      have htwo := hn.unique hleast
      have hnone : n ≤ 0 := hle
      omega
    · cases hsplit
      cases hcontests
    · cases hsplit
      cases hcontests
    · -- the history has no fourth entry
      have hlength := congrArg List.length hsplit
      simp [ops, Strategy.history_eq, Gate.history] at hlength
  refine ⟨rfl, rfl, by decide, ?_, ?_, _, rfl, fun ops => hunaffordable _ "s"⟩
  · exact hraised.refused (ops.take 2) .start _
      (fun entry h => hkept entry (List.mem_of_mem_take h)) rfl (by decide)
  · exact (hcounted rfl).granted ops .start _ hkept rfl ⟨2, hleast, by decide⟩ huntried

end RetryControl
