/-
  RetryControl.Proofs.Call.CancelPoint
  ────────────────────────────────
  **WHERE A CANCELLATION LANDS.**

  A call is cancelled before its first attempt, while an attempt runs, or
  between two attempts, in the wait or after it.  Which point it is follows
  from the moment of the cancellation and from the waits of the call, on any
  timer; the loop, which only looks at what has happened so far, finds the same
  point:

    • `CancelPoint`, `Cancellation.lands?` — the point at which a call with
      given waits is cancelled,
    • `Cancellation.roundsUntil?` — the rounds that the loop makes until it
      looks at a cancellation that has happened,
    • `roundsUntil?_round`, `roundsUntil?_waiting` — attempt by attempt and
      wait by wait,
    • `roundsUntil?_eq` — both agree.
-/
import RetryControl.Call.Cancellable

namespace RetryControl

/-! ## §1. Points of a call. -/

/-- A point of a call at which it can be cancelled; attempts are counted from one. -/
inductive CancelPoint where
  /-- Before the first attempt. -/
  | start
  /-- While an attempt runs. -/
  | attempt (number : Nat)
  /-- In the wait after an attempt, or when it is over and the next attempt has not started. -/
  | wait (number : Nat)
  deriving DecidableEq

/-- How many attempts have started by then. -/
def CancelPoint.attempts : CancelPoint → Nat
  | .start => 0
  | .attempt number => number
  | .wait number => number

/-- How many rounds a call makes that is cancelled at the point, if it could make `total` of them:
an attempt in flight is a round only if another one is granted after it. -/
def CancelPoint.rounds? (total : Nat) : CancelPoint → Option Nat
  | .start => some 0
  | .attempt number => if number ≤ total then some number else none
  | .wait number => some number

theorem CancelPoint.attempts_of_rounds {point : CancelPoint} {total n : Nat}
    (h : point.rounds? total = some n) : point.attempts = n := by
  cases point with
  | start => exact Option.some.inj h
  | wait number => exact Option.some.inj h
  | attempt number =>
      unfold rounds? at h
      dsimp only at h
      split at h
      · exact Option.some.inj h
      · cases h

/-- Only an attempt in flight can settle a call. -/
theorem CancelPoint.rounds?_eq_none {point : CancelPoint} {total : Nat}
    (h : point.rounds? total = none) : ∃ number, point = .attempt number ∧ total < number := by
  cases point with
  | start => cases h
  | wait number => cases h
  | attempt number =>
      refine ⟨number, rfl, Nat.lt_of_not_le fun hin => ?_⟩
      rw [show rounds? total (.attempt number) = some number from if_pos hin] at h
      cases h

/-- The wait that is not over after some time spent in waits, counted from one. -/
def waitAt? (timer : Timer) (nanos : Nat) : List Duration → Option Nat
  | [] => none
  | delay :: rest =>
    if nanos < (timer.ends delay).nanos then some 1
    else (waitAt? timer (nanos - (timer.ends delay).nanos) rest).map (· + 1)

namespace Cancellation

/-- The point at which a call is cancelled that makes these waits, one after each attempt but the
last; none if it is over before. -/
def lands? (timer : Timer) (c : Cancellation) (delays : List Duration) : Option CancelPoint :=
  match c with
  | .never => none
  | .before => some .start
  | .during number =>
    if 1 ≤ number ∧ number ≤ delays.length + 1 then some (.attempt number) else none
  | .waiting time => (waitAt? timer (timer.ends time).nanos delays).map .wait
  | .afterWait number =>
    if 1 ≤ number ∧ number ≤ delays.length then some (.wait number) else none

/-! ## §2. What the loop looks at. -/

/-- How many rounds the loop makes from attempt `number` on before it looks at a cancellation that
has happened, if it ever does: the check ahead of an attempt comes before its round, and the wait
comes at the end of a round. -/
def roundsUntil? (timer : Timer) (c : Cancellation) (number : Nat) (waited : Duration) :
    List Duration → Option Nat
  | [] => if c.happenedBefore number then some 0 else none
  | delay :: rest =>
    if c.happenedBefore number then some 0
    else
      match c.stopsWait timer number waited delay with
      | some _ => some 1
      | none =>
          (c.roundsUntil? timer (number + 1) (waited.addSat (timer.ends delay)) rest).map (· + 1)

section

variable {timer : Timer} {c : Cancellation} {number : Nat} {waited delay : Duration}
  {rest delays : List Duration}

theorem roundsUntil?_happened (h : c.happenedBefore number = true) :
    c.roundsUntil? timer number waited delays = some 0 := by
  cases delays <;> exact if_pos h

theorem roundsUntil?_nil (hlive : c.happenedBefore number = false) :
    c.roundsUntil? timer number waited [] = none := by
  unfold roundsUntil?
  rw [hlive]
  rfl

theorem roundsUntil?_stopped (hlive : c.happenedBefore number = false) {into : Duration}
    (hstops : c.stopsWait timer number waited delay = some into) :
    c.roundsUntil? timer number waited (delay :: rest) = some 1 := by
  unfold roundsUntil?
  rw [hlive, hstops]
  rfl

theorem roundsUntil?_goes (hlive : c.happenedBefore number = false)
    (hgoes : c.stopsWait timer number waited delay = none) :
    c.roundsUntil? timer number waited (delay :: rest)
      = (c.roundsUntil? timer (number + 1) (waited.addSat (timer.ends delay)) rest).map
          (· + 1) := by
  conv => lhs; unfold roundsUntil?
  rw [hlive, hgoes]
  rfl

theorem roundsUntil?_le {n : Nat} (h : c.roundsUntil? timer number waited delays = some n) :
    n ≤ delays.length := by
  induction delays generalizing number n waited with
  | nil =>
      cases hhappened : c.happenedBefore number with
      | true =>
          rw [roundsUntil?_happened hhappened] at h
          cases h
          exact Nat.le_refl 0
      | false =>
          rw [roundsUntil?_nil hhappened] at h
          cases h
  | cons delay rest ih =>
      rw [List.length_cons]
      cases hhappened : c.happenedBefore number with
      | true =>
          rw [roundsUntil?_happened hhappened] at h
          cases h
          omega
      | false =>
          cases hstops : c.stopsWait timer number waited delay with
          | some into =>
              rw [roundsUntil?_stopped hhappened hstops] at h
              cases h
              omega
          | none =>
              rw [roundsUntil?_goes hhappened hstops] at h
              obtain ⟨m, hm, rfl⟩ := Option.map_eq_some_iff.mp h
              have hle := ih hm
              omega

/-- A cancellation that keeps no time cuts no wait short until it has happened. -/
theorem stopsWait_of_live (hlive : c.happenedIn number = false)
    (htimeless : ∀ time, c ≠ .waiting time) : c.stopsWait timer number waited delay = none := by
  unfold stopsWait
  rw [hlive]
  cases c with
  | waiting time => exact absurd rfl (htimeless time)
  | never | before | during number | afterWait number => exact ite_self _

/-- A cancellation that neither attempts nor waits notice ends no call. -/
theorem roundsUntil?_of_quiet (hquiet : ∀ n, c.happenedBefore n = false)
    (hwaits : ∀ number waited delay, c.stopsWait timer number waited delay = none) :
    c.roundsUntil? timer number waited delays = none := by
  induction delays generalizing number waited with
  | nil => exact roundsUntil?_nil (hquiet _)
  | cons delay rest ih => rw [roundsUntil?_goes (hquiet _) (hwaits ..), ih, Option.map_none]

/-- A cancellation that is first seen after the check ahead of an attempt, and not later than at the
next one, lets the call make the round of that attempt, and no further one. -/
theorem roundsUntil?_round {target : Nat} (hlive : ∀ n, n ≤ target → c.happenedBefore n = false)
    (hgoes : ∀ n waited delay, n < target → c.stopsWait timer n waited delay = none)
    (hseen : c.happenedBefore (target + 1) = true) (hahead : number ≤ target) :
    c.roundsUntil? timer number waited delays
      = if target < number + delays.length then some (target - number + 1) else none := by
  induction delays generalizing number waited with
  | nil =>
      rw [roundsUntil?_nil (hlive number hahead)]
      exact (if_neg (Nat.not_lt.mpr hahead)).symm
  | cons delay rest ih =>
      rw [List.length_cons]
      -- it is this attempt, or else a later one
      by_cases hnow : number = target
      · subst hnow
        rw [if_pos (by omega), Nat.sub_self]
        -- if the wait is not cut short, the next attempt is not made
        cases hstops : c.stopsWait timer number waited delay with
        | some into => exact roundsUntil?_stopped (hlive number hahead) hstops
        | none =>
            rw [roundsUntil?_goes (hlive number hahead) hstops, roundsUntil?_happened hseen]
            rfl
      · rw [roundsUntil?_goes (hlive number hahead) (hgoes _ _ _ (by omega)), ih (by omega)]
        by_cases hin : target < number + (rest.length + 1)
        · rw [if_pos hin, if_pos (by omega), Option.map_some]
          congr 1
          omega
        · rw [if_neg hin, if_neg (by omega), Option.map_none]

/-- A call that is cancelled in an attempt makes the round of that attempt, and no further one. -/
theorem roundsUntil?_during {target : Nat} (hpos : 1 ≤ target) (hahead : number ≤ target) :
    (during target).roundsUntil? timer number waited delays
      = if target < number + delays.length then some (target - number + 1) else none := by
  refine roundsUntil?_round (fun n hn => ?_)
    (fun n waited delay hn => stopsWait_of_live ?_ (fun _ => nofun)) ?_ hahead
  · simp only [happenedBefore, happenedIn, decide_eq_false_iff_not]
    omega
  · simp only [happenedIn, decide_eq_false_iff_not]
    omega
  · simp only [happenedBefore, happenedIn, decide_eq_true_eq]
    omega

/-- A call that is cancelled after a wait makes the rounds up to that wait. -/
theorem roundsUntil?_afterWait {target : Nat} (hpos : 1 ≤ target) (hahead : number ≤ target) :
    (afterWait target).roundsUntil? timer number waited delays
      = if target < number + delays.length then some (target - number + 1) else none := by
  refine roundsUntil?_round (fun n hn => ?_)
    (fun n waited delay hn => stopsWait_of_live ?_ (fun _ => nofun)) ?_ hahead
  · simp only [happenedBefore, decide_eq_false_iff_not]
    omega
  · simp only [happenedIn, decide_eq_false_iff_not]
    omega
  · simp only [happenedBefore, decide_eq_true_eq]
    omega

theorem nanos_ends_zero (timer : Timer) : (timer.ends .zero).nanos = 0 := by
  rw [timer.ends_zero, Duration.nanos_zero]

/-- A call that is cancelled after some time makes all rounds up to the one whose wait is not over
by then. -/
theorem roundsUntil?_waiting {time : Duration}
    (hearlier : waited.nanos ≤ (timer.ends time).nanos) :
    (waiting time).roundsUntil? timer number waited delays
      = waitAt? timer ((timer.ends time).nanos - waited.nanos) delays := by
  induction delays generalizing number waited with
  | nil => exact roundsUntil?_nil rfl
  | cons delay rest ih =>
      unfold waitAt?
      by_cases hcut : (timer.ends time).nanos - waited.nanos < (timer.ends delay).nanos
      · -- a timer that is not over has been set
        have hwaits : delay ≠ .zero := by
          intro hzero
          rw [hzero, nanos_ends_zero] at hcut
          omega
        have hstops : (waiting time).stopsWait timer number waited delay
            = some (.clamp ((timer.ends time).nanos - waited.nanos)) := by
          unfold stopsWait
          rw [if_neg hwaits]
          exact (if_neg Bool.noConfusion).trans (if_pos (by omega))
        rw [if_pos hcut, roundsUntil?_stopped rfl hstops]
      · have hgoes : (waiting time).stopsWait timer number waited delay = none := by
          unfold stopsWait
          split
          · rfl
          · exact (if_neg Bool.noConfusion).trans (if_neg (by omega))
        -- the sum is not held at the longest duration, as the timer of the cancellation is not over
        have hnext : (waited.addSat (timer.ends delay)).nanos
            = waited.nanos + (timer.ends delay).nanos := by
          have hlongest := (timer.ends time).nanos_le
          rw [Duration.nanos_addSat]
          omega
        rw [if_neg hcut, roundsUntil?_goes rfl hgoes, ih (by omega), hnext, Nat.sub_sub]

end

section

variable (timer : Timer)

theorem lands?_during (number : Nat) (delays : List Duration) :
    (during number).lands? timer delays
      = if 1 ≤ number ∧ number ≤ delays.length + 1 then some (.attempt number) else none := rfl

theorem lands?_waiting (time : Duration) (delays : List Duration) :
    (waiting time).lands? timer delays
      = (waitAt? timer (timer.ends time).nanos delays).map .wait := rfl

theorem lands?_afterWait (number : Nat) (delays : List Duration) :
    (afterWait number).lands? timer delays
      = if 1 ≤ number ∧ number ≤ delays.length then some (.wait number) else none := rfl

end

theorem lands?_attempt {timer : Timer} {c : Cancellation} {delays : List Duration} {number : Nat}
    (h : c.lands? timer delays = some (.attempt number)) :
    1 ≤ number ∧ number ≤ delays.length + 1 := by
  cases c with
  | never => cases h
  | before => cases h
  | waiting time =>
      rw [lands?_waiting] at h
      cases hwait : waitAt? timer (timer.ends time).nanos delays <;> rw [hwait] at h <;> cases h
  | during other =>
      rw [lands?_during] at h
      split at h
      · cases h
        assumption
      · cases h
  | afterWait other =>
      rw [lands?_afterWait] at h
      split at h <;> cases h

/-- **The loop finds the point at which it is cancelled.** -/
theorem roundsUntil?_eq (timer : Timer) (c : Cancellation) (delays : List Duration) :
    c.roundsUntil? timer 1 .zero delays
      = (c.lands? timer delays).bind (·.rounds? delays.length) := by
  cases c with
  | never =>
      exact roundsUntil?_of_quiet (fun _ => rfl) fun _ _ _ =>
        stopsWait_of_live rfl fun _ => nofun
  | before => exact roundsUntil?_happened rfl
  | waiting time =>
      rw [roundsUntil?_waiting (Nat.zero_le _), Duration.nanos_zero, Nat.sub_zero, lands?_waiting]
      cases waitAt? timer (timer.ends time).nanos delays <;> rfl
  | during number =>
      rw [lands?_during]
      by_cases hpos : 1 ≤ number
      · rw [roundsUntil?_during hpos hpos]
        by_cases hin : number ≤ delays.length
        · rw [if_pos (by omega), if_pos (by omega), Nat.sub_add_cancel hpos]
          exact (if_pos hin).symm
        · rw [if_neg (by omega)]
          split
          · exact (if_neg hin).symm
          · rfl
      · -- attempts are counted from one, so there is no such attempt
        have hquiet : ∀ n, (during number).happenedIn n = false := by
          intro n
          simp only [happenedIn, decide_eq_false_iff_not]
          omega
        rw [if_neg (by omega)]
        exact roundsUntil?_of_quiet
          (show ∀ n, (during number).happenedBefore n = false from fun n => hquiet (n - 1))
          fun other _ _ => stopsWait_of_live (hquiet other) fun _ => nofun
  | afterWait number =>
      rw [lands?_afterWait]
      by_cases hpos : 1 ≤ number
      · rw [roundsUntil?_afterWait hpos hpos]
        by_cases hin : number ≤ delays.length
        · rw [if_pos (by omega), if_pos ⟨hpos, hin⟩, Nat.sub_add_cancel hpos]
          rfl
        · rw [if_neg (by omega), if_neg fun h => hin h.2]
          rfl
      · have hquiet : ∀ n, (afterWait number).happenedIn n = false := by
          intro n
          simp only [happenedIn, decide_eq_false_iff_not]
          omega
        rw [if_neg fun h => hpos h.1]
        exact roundsUntil?_of_quiet
          (show ∀ n, (afterWait number).happenedBefore n = false from hquiet)
          fun other _ _ => stopsWait_of_live (hquiet other) fun _ => nofun

end Cancellation

end RetryControl
