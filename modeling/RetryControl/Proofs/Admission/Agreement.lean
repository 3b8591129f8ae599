/-
  RetryControl.Proofs.Admission.Agreement
  ────────────────────────────────
  **STRATEGIES OF BOTH KINDS DECIDE ALIKE.**

  A standard and an adaptive strategy with the same terms of admission are
  taken through the same script.  A step of a script names the token that it
  hands in by the step that gave the token out, so each strategy goes on with
  its own tokens.  Moments, random words and suggested delays may differ from
  one side to the other at every step.

    • `ScriptStep`, `Play` — scripts, and how far a strategy is in one,
    • `Alike` — two plays that cannot be told apart by their decisions,
    • `alike_step`, `alike_run` — and they stay so, step by step,
    • `standard_adaptive_agree` — in particular for the two kinds of strategy.
-/
import RetryControl.Proofs.Admission.Decision

namespace RetryControl

/-! ## §1. Scripts. -/

/-- The token that a decision gives out. -/
def Decision.token? : Decision → Option Token
  | .granted token => some token
  | _ => none

/-- A step of a script; a source is the number of the step whose token is handed in. -/
inductive ScriptStep where
  /-- A call starts. -/
  | acquire (scope : String)
  /-- An attempt has failed, and its call asks for another one. -/
  | refresh (source : Nat) (failure : Failure)
  /-- A call has succeeded. -/
  | succeed (source : Nat)
  /-- A scope is forgotten. -/
  | evict (scope : String)

/-- The token that an earlier step gave out, if it gave out one. -/
def tokenFrom? (decisions : List (Option Decision)) (source : Nat) : Option Token :=
  decisions[source]?.join.bind Decision.token?

/-- The operation that a step comes to after such decisions, unless its source gave out no token. -/
def ScriptStep.operation? (decisions : List (Option Decision))
    (suggestedDelay : Option Duration) : ScriptStep → Option Operation
  | .acquire scope => some (.acquire scope)
  | .refresh source failure =>
      (tokenFrom? decisions source).map fun token => .refresh { token, failure, suggestedDelay }
  | .succeed source => (tokenFrom? decisions source).map .succeed
  | .evict scope => some (.evict scope)

/-- Suggested delays do not matter to a gate. -/
theorem ScriptStep.operation?_agree (decisions : List (Option Decision)) (step : ScriptStep)
    (delay delay' : Option Duration) :
    (step.operation? decisions delay = none ∧ step.operation? decisions delay' = none)
      ∨ ∃ op op', step.operation? decisions delay = some op
        ∧ step.operation? decisions delay' = some op' ∧ ∀ g : Gate, g.step op = g.step op' := by
  cases step with
  | acquire scope => exact .inr ⟨_, _, rfl, rfl, fun _ => rfl⟩
  | evict scope => exact .inr ⟨_, _, rfl, rfl, fun _ => rfl⟩
  | refresh source failure =>
      dsimp only [operation?]
      cases tokenFrom? decisions source with
      | none => exact .inl ⟨rfl, rfl⟩
      | some token => exact .inr ⟨_, _, rfl, rfl, fun _ => rfl⟩
  | succeed source =>
      dsimp only [operation?]
      cases tokenFrom? decisions source with
      | none => exact .inl ⟨rfl, rfl⟩
      | some token => exact .inr ⟨_, _, rfl, rfl, fun _ => rfl⟩

/-! ## §2. Plays. -/

/-- A strategy on its way through a script. -/
structure Play (R : Type) where
  /-- The strategy. -/
  strategy : Strategy R
  /-- The answers so far, one for each step. -/
  answers : List (Option Answer) := []

namespace Play

variable {R : Type} [RateArithmetic R]

/-- The decisions so far, one for each step. -/
def decisions (p : Play R) : List (Option Decision) := p.answers.map (Option.map Answer.decision)

/-- The next step of a script. -/
def step (p : Play R) (o : Occasion) (step : ScriptStep) : Play R :=
  match step.operation? p.decisions o.suggestedDelay with
  | some op =>
    let (answer, strategy) := p.strategy.step o.moment op
    { strategy, answers := p.answers ++ [some answer] }
  | none => { p with answers := p.answers ++ [none] }

/-- The rest of a script. -/
def run (p : Play R) : List (Occasion × ScriptStep) → Play R
  | [] => p
  | (o, step) :: rest => (p.step o step).run rest

theorem step_of_operation {p : Play R} {o : Occasion} {step : ScriptStep} {op : Operation}
    (h : step.operation? p.decisions o.suggestedDelay = some op) :
    (p.step o step).decisions = p.decisions ++ [some (p.strategy.gate.step op).1]
      ∧ (p.step o step).strategy.gate = (p.strategy.gate.step op).2 := by
  unfold Play.step
  rw [h]
  constructor
  · show (p.answers ++ [some (p.strategy.step o.moment op).1]).map (Option.map Answer.decision) = _
    rw [List.map_append, ← Strategy.decision_step p.strategy o.moment op]
    rfl
  · exact p.strategy.gate_step o.moment op

theorem step_of_no_operation {p : Play R} {o : Occasion} {step : ScriptStep}
    (h : step.operation? p.decisions o.suggestedDelay = none) :
    (p.step o step).decisions = p.decisions ++ [none]
      ∧ (p.step o step).strategy.gate = p.strategy.gate := by
  unfold Play.step
  rw [h]
  exact ⟨List.map_append, rfl⟩

end Play

/-! ## §3. Plays that are alike. -/

/-- A gate never reports an invalid argument. -/
theorem Gate.step_ne_invalidArgument (g : Gate) (op : Operation) (message : String) :
    (g.step op).1 ≠ .refused (.invalidArgument message) := by
  cases op with
  | acquire scope => exact Decision.noConfusion
  | succeed token => exact Decision.noConfusion
  | evict scope => exact Decision.noConfusion
  | refresh request =>
      obtain ⟨answer, after, hdecides, hstep⟩ := g.exists_decides request
      rw [hstep]
      intro h
      cases hdecides <;> cases h

namespace Play

variable {R : Type} [RateArithmetic R]

/-- Two plays in which all was decided alike, with nothing between their budgets and no invalid
argument reported. -/
structure Alike (left right : Play R) : Prop where
  /-- The same was decided at every step. -/
  decisions_eq : left.decisions = right.decisions
  /-- All budgets are the same. -/
  gate_eq : left.strategy.gate = right.strategy.gate
  /-- No request was found to be invalid. -/
  valid : ∀ message, some (.refused (.invalidArgument message)) ∉ left.decisions

/-- **The same step keeps plays alike**, whatever its occasion is on either side. -/
theorem alike_step {left right : Play R} (h : left.Alike right) (o o' : Occasion)
    (step : ScriptStep) : (left.step o step).Alike (right.step o' step) := by
  obtain ⟨hdecisions, hgate, hvalid⟩ := h
  -- both sides have given out the same tokens, so both have an operation or neither has
  rcases step.operation?_agree left.decisions o.suggestedDelay o'.suggestedDelay with
    ⟨hnone, hnone'⟩ | ⟨op, op', hop, hop', hsame⟩
  · rw [hdecisions] at hnone'
    obtain ⟨hleft, hleftGate⟩ := step_of_no_operation hnone
    obtain ⟨hright, hrightGate⟩ := step_of_no_operation hnone'
    constructor
    · rw [hleft, hright, hdecisions]
    · rw [hleftGate, hrightGate, hgate]
    · intro message hmem
      rw [hleft] at hmem
      rcases List.mem_append.mp hmem with hbefore | hnew
      · exact hvalid message hbefore
      · cases List.mem_singleton.mp hnew
  · rw [hdecisions] at hop'
    obtain ⟨hleft, hleftGate⟩ := step_of_operation hop
    obtain ⟨hright, hrightGate⟩ := step_of_operation hop'
    constructor
    · rw [hleft, hright, hdecisions, hgate, hsame]
    · rw [hleftGate, hrightGate, hgate, hsame]
    · intro message hmem
      rw [hleft] at hmem
      rcases List.mem_append.mp hmem with hbefore | hnew
      · exact hvalid message hbefore
      · exact left.strategy.gate.step_ne_invalidArgument op message
          (Option.some.inj (List.mem_singleton.mp hnew)).symm

/-- **The same script keeps plays alike.** -/
theorem alike_run {left right : Play R} (h : left.Alike right)
    (script : List (ScriptStep × Occasion × Occasion)) :
    (left.run (script.map fun entry => (entry.2.1, entry.1))).Alike
      (right.run (script.map fun entry => (entry.2.2, entry.1))) := by
  induction script generalizing left right with
  | nil => exact h
  | cons entry rest ih => exact ih (alike_step h entry.2.1 entry.2.2 entry.1)

end Play

/-! ## §4. The two kinds of strategy. -/

variable {R : Type} [RateArithmetic R]

/-- **THE TWO KINDS DECIDE ALIKE.**  With the same terms of admission, whatever their waits are
set up with, a standard and an adaptive strategy give out the same tokens, report the same errors,
credit the same amounts and have the same budgets left after every script, so after each of its
steps; neither ever reports an invalid argument. -/
theorem standard_adaptive_agree {terms : GateTerms} {backoff : Backoff} {rates : RateTerms R}
    {left right : Strategy R}
    (hleft : (Plan.standard { gate := terms, backoff }).build = .ok left)
    (hright : (Plan.adaptive { gate := terms, rates }).build = .ok right)
    (script : List (ScriptStep × Occasion × Occasion)) :
    let here := Play.run { strategy := left } (script.map fun entry => (entry.2.1, entry.1))
    let there := Play.run { strategy := right } (script.map fun entry => (entry.2.2, entry.1))
    here.decisions = there.decisions
      ∧ (∀ scope, here.strategy.capacity scope = there.strategy.capacity scope)
      ∧ ∀ message, some (.refused (.invalidArgument message)) ∉ here.decisions
        ∧ some (.refused (.invalidArgument message)) ∉ there.decisions := by
  intro here there
  have hsame : left.gate = right.gate := by
    rw [Plan.gate_of_build hleft, Plan.gate_of_build hright]
    rfl
  have hstart : Play.Alike { strategy := left } { strategy := right } :=
    ⟨rfl, hsame, fun _ h => by cases h⟩
  obtain ⟨hdecisions, hgate, hvalid⟩ := Play.alike_run hstart script
  refine ⟨hdecisions, fun scope => ?_, fun message => ⟨hvalid message, ?_⟩⟩
  · show here.strategy.gate.capacity scope = there.strategy.gate.capacity scope
    rw [hgate]
  · rw [← hdecisions]
    exact hvalid message

/-- A rate in whole thousandths of a send per second. -/
structure Thousandths where
  /-- The number of thousandths. -/
  count : Nat

instance : RateArithmetic Thousandths where
  zero := ⟨0⟩
  one := ⟨1000⟩
  newestWeight := ⟨800⟩
  add a b := ⟨a.count + b.count⟩
  sub a b := ⟨a.count - b.count⟩
  mul a b := ⟨a.count * b.count / 1000⟩
  div a b := ⟨a.count * 1000 / b.count⟩
  lt a b := decide (a.count < b.count)
  le a b := decide (a.count ≤ b.count)
  isFinite _ := true
  ofCount n := ⟨n.toNat * 1000⟩
  seconds d := ⟨d.nanos / 1000000⟩
  duration? a := Duration.ofNanos? (a.count * 1000000)
  text a := toString a.count

/-- The default terms of rate control in thousandths. -/
def thousandthRates : RateTerms Thousandths :=
  { minRate := ⟨500⟩
    maxRate := ⟨100000⟩
    decreaseFactor := ⟨500⟩
    increaseStep := ⟨1000⟩
    cooldown := .ofMillis 1000 }

/-- A call is throttled twice, the second time on different occasions, and succeeds. -/
theorem standard_adaptive_agree_throttled :
    let here : Occasion := { moment := ⟨.start, fun _ => 0⟩ }
    let there : Occasion :=
      { moment := ⟨.start, fun _ => 7⟩, suggestedDelay := some (.ofMillis 30) }
    let script : List (ScriptStep × Occasion × Occasion) :=
      [(.acquire "s", here, here), (.refresh 0 (.ofType .throttling), here, here),
        (.refresh 1 (.ofType .throttling), here, there), (.succeed 2, there, here)]
    let left : Strategy Thousandths :=
      .standard { gate := { terms := {} }, backoff := .default }
    let right : Strategy Thousandths :=
      .adaptive { gate := { terms := {} }, rates := thousandthRates }
    (Plan.standard { backoff := .default }).build = .ok left
      ∧ (Plan.adaptive { rates := thousandthRates }).build = .ok right
      ∧ (Play.run { strategy := left } (script.map fun entry => (entry.2.1, entry.1))).decisions
        = (Play.run { strategy := right }
            (script.map fun entry => (entry.2.2, entry.1))).decisions
      ∧ ((Play.run { strategy := right }
          (script.map fun entry => (entry.2.2, entry.1))).strategy.capacity "s").toNat = 491 := by
  intro here there script left right
  have hleft : (Plan.standard { backoff := .default }).build = .ok left := rfl
  have hright : (Plan.adaptive { rates := thousandthRates }).build = .ok right := rfl
  exact ⟨hleft, hright, (standard_adaptive_agree hleft hright script).1, by decide⟩

end RetryControl
