/-
  RetryControl.Proofs.Rate.Schedule
  ────────────────────────────────
  **THE SEND SCHEDULE IN CLOSED FORM.**

  A limiter that paces remembers one time only, the end of the last interval.
  Unrolled over a whole run this says: a slot is forced by the request for it
  and by every request before, since each earlier one could not be before its
  own time and all slots from it on are an interval apart.  The slot is the
  greatest of these times, and nothing else goes into it, so that idle time is
  not saved up and a backlog that has passed is forgotten.

    • `asks` — the requests for slots in a run, each of which gets one,
    • `Forced` — the times that a slot cannot be before,
    • `Paced.spaced`, `Paced.forced` — paced slots are not before these times,
      and at one of them,
    • `Scheduled`, `slots_closed_form` — every slot of a run is the greatest of
      its forced times, as long as no interval before it ends past the last
      instant.

  The instants of the calls need not be in order.
-/
import Mathlib.Order.Bounds.Defs
import RetryControl.Proofs.Rate.Slots

namespace RetryControl

open RateArithmetic

/-! ## §1. Requests for slots. -/

/-- When slots are asked for in a run of calls. -/
def asks : List (Instant × LimiterCall) → List Instant
  | [] => []
  | (now, .reserve) :: rest => now :: asks rest
  | (_, .send) :: rest => asks rest
  | (_, .throttle) :: rest => asks rest
  | (_, .succeed) :: rest => asks rest

namespace Limiter

variable {R : Type} [RateArithmetic R] {l : Limiter R}

/-- A limiter that paces goes on pacing. -/
theorem enabled_call (hpaces : l.enabled = true) (t : RateTerms R) (now : Instant)
    (c : LimiterCall) : (l.call t now c).enabled = true := by
  cases c with
  | send => exact (l.samePace_measure now).enabled_eq.trans hpaces
  | throttle => rfl
  | succeed =>
      show (l.succeed t now).enabled = true
      unfold succeed
      split <;> exact hpaces
  | reserve => exact (l.samePace_reserve now).enabled_eq.trans hpaces

/-- While it does, every request gets a slot, and nothing else does. -/
theorem asked_slots (hpaces : l.enabled = true) (t : RateTerms R)
    (calls : List (Instant × LimiterCall)) :
    (l.slots t calls).map TakenSlot.asked = asks calls := by
  induction calls generalizing l with
  | nil => rfl
  | cons entry rest ih =>
      obtain ⟨now, c⟩ := entry
      have hrest := ih (enabled_call hpaces t now c)
      cases c with
      | send => exact hrest
      | throttle => exact hrest
      | succeed => exact hrest
      | reserve =>
          show (l.slotOf now .reserve ++ (l.call t now .reserve).slots t rest).map _ = _
          unfold slotOf
          rw [if_pos hpaces, List.map_append, hrest]
          rfl

end Limiter

/-! ## §2. What earlier slots force. -/

/-- The intervals of slots, added up. -/
def intervalNanos : List TakenSlot → Nat
  | [] => 0
  | s :: rest => s.interval.nanos + intervalNanos rest

/-- The times that a slot asked for now cannot be before, after earlier ones: now, and for every
request before, the time of that request plus all intervals since. -/
inductive Forced (earlier : List TakenSlot) (now : Instant) : Nat → Prop where
  /-- No slot is in the past. -/
  | now : Forced earlier now now.nanos
  /-- The slot `a` was not before its request either, and the slots `since` then came after it. -/
  | backlog (a : TakenSlot) (since : List TakenSlot) (hsince : a :: since <:+ earlier) :
      Forced earlier now (a.asked.nanos + intervalNanos (a :: since))

theorem Forced.cons {earlier : List TakenSlot} {now : Instant} {n : Nat} (a : TakenSlot)
    (h : Forced earlier now n) : Forced (a :: earlier) now n := by
  cases h with
  | now => exact .now
  | backlog b since hsince => exact .backlog b since (List.suffix_cons_iff.mpr (.inr hsince))

theorem TakenSlot.asked_le_nanos (s : TakenSlot) : s.asked.nanos ≤ s.nanos :=
  Nat.le_add_right _ _

/-- **A slot keeps all intervals**: from the earliest time on, and from every earlier slot on. -/
theorem Paced.spaced {earliest : Nat} {earlier later : List TakenSlot} {s : TakenSlot}
    (hpaced : Paced earliest (earlier ++ s :: later))
    (hfits : ∀ a ∈ earlier, a.intervalEnd ≤ lastNanos) :
    earliest + intervalNanos earlier ≤ s.nanos
      ∧ ∀ a since, a :: since <:+ earlier → a.nanos + intervalNanos (a :: since) ≤ s.nanos := by
  -- on the earlier slots: each of them leaves the earliest time for the slots after it
  induction earlier generalizing earliest with
  | nil =>
      cases hpaced with
      | cons hslot hrest =>
          refine ⟨hslot.ge.trans' (Nat.le_max_left _ _), fun a since hsince => ?_⟩
          cases List.suffix_nil.mp hsince
  | cons x xs ih =>
      cases hpaced with
      | cons hslot hrest =>
          obtain ⟨hfirst, hfits'⟩ := List.forall_mem_cons.mp hfits
          have hfollowing : x.following = x.nanos + x.interval.nanos := if_pos hfirst
          obtain ⟨hge, hsince⟩ := ih hrest hfits'
          have hall : intervalNanos (x :: xs) = x.interval.nanos + intervalNanos xs := rfl
          refine ⟨by omega, fun a since hsuffix => ?_⟩
          rcases List.suffix_cons_iff.mp hsuffix with heq | hlater
          · cases heq
            omega
          · exact hsince a since hlater

/-- **A slot is forced**: by its own request, by an earlier one, or by the earliest time. -/
theorem Paced.forced {earliest : Nat} {earlier later : List TakenSlot} {s : TakenSlot}
    (hpaced : Paced earliest (earlier ++ s :: later))
    (hfits : ∀ a ∈ earlier, a.intervalEnd ≤ lastNanos) :
    s.nanos = earliest + intervalNanos earlier ∨ Forced earlier s.asked s.nanos := by
  induction earlier generalizing earliest with
  | nil =>
      cases hpaced with
      | cons hslot hrest =>
          rw [hslot]
          rcases Nat.le_total earliest s.asked.nanos with hnow | hnow
          · rw [Nat.max_eq_right hnow]
            exact .inr .now
          · rw [Nat.max_eq_left hnow]
            exact .inl rfl
  | cons x xs ih =>
      cases hpaced with
      | cons hslot hrest =>
          obtain ⟨hfirst, hfits'⟩ := List.forall_mem_cons.mp hfits
          have hfollowing : x.following = x.nanos + x.interval.nanos := if_pos hfirst
          have hall : intervalNanos (x :: xs) = x.interval.nanos + intervalNanos xs := rfl
          rcases ih hrest hfits' with heq | hforced
          · -- the slot `x` was at its request or at the earliest time
            rcases Nat.le_total earliest x.asked.nanos with hnow | hnow
            · rw [Nat.max_eq_right hnow] at hslot
              have hs : s.nanos = x.asked.nanos + intervalNanos (x :: xs) := by omega
              rw [hs]
              exact .inr (.backlog x xs (List.suffix_refl _))
            · rw [Nat.max_eq_left hnow] at hslot
              exact .inl (by omega)
          · exact .inr (hforced.cons x)

/-! ## §3. Schedules of runs. -/

/-- What holds of a slot after the earlier ones. -/
structure Scheduled (earlier : List TakenSlot) (s : TakenSlot) : Prop where
  /-- It is the greatest of the times that are forced on it. -/
  isGreatest : IsGreatest {n | Forced earlier s.asked n} s.nanos
  /-- It is waited for only while what earlier requests force has not passed. -/
  delay_eq_zero_iff : s.delay = .zero ↔ ∀ a since, a :: since <:+ earlier →
    a.asked.nanos + intervalNanos (a :: since) ≤ s.asked.nanos
  /-- However long nothing was asked for, it keeps all intervals from every earlier slot. -/
  spaced : ∀ a since, a :: since <:+ earlier → a.nanos + intervalNanos (a :: since) ≤ s.nanos

/-- A slot at the greatest of its forced times is not waited for exactly if none of them is ahead. -/
theorem delay_eq_zero_iff_of_isGreatest {earlier : List TakenSlot} {s : TakenSlot}
    (hgreatest : IsGreatest {n | Forced earlier s.asked n} s.nanos) :
    s.delay = .zero ↔ ∀ a since, a :: since <:+ earlier →
      a.asked.nanos + intervalNanos (a :: since) ≤ s.asked.nanos := by
  have hnanos : s.nanos = s.asked.nanos + s.delay.nanos := rfl
  obtain ⟨hforced, hleast⟩ := hgreatest
  constructor
  · intro hzero a since hsince
    rw [hzero, Duration.nanos_zero] at hnanos
    exact (hleast (.backlog a since hsince)).trans_eq hnanos
  · intro hpassed
    have hnow : s.nanos ≤ s.asked.nanos := by
      generalize s.nanos = n at hforced
      cases hforced with
      | now => exact Nat.le_refl _
      | backlog a since hsince => exact hpassed a since hsince
    apply Duration.ext
    rw [Duration.nanos_zero]
    omega

/-- Where no slot was given out before the earlier ones, the earliest time is no time at all. -/
theorem Paced.isGreatest {earlier later : List TakenSlot} {s : TakenSlot}
    (hpaced : Paced 0 (earlier ++ s :: later))
    (hfits : ∀ a ∈ earlier, a.intervalEnd ≤ lastNanos) :
    IsGreatest {n | Forced earlier s.asked n} s.nanos := by
  have hbacklog : ∀ a since, a :: since <:+ earlier →
      a.asked.nanos + intervalNanos (a :: since) ≤ s.nanos := fun a since hsince =>
    (Nat.add_le_add_right a.asked_le_nanos _).trans ((hpaced.spaced hfits).2 a since hsince)
  constructor
  · rcases hpaced.forced hfits with hzero | hforced
    · -- the first request was at the start of the time line, or there was none
      rw [Nat.zero_add] at hzero
      cases earlier with
      | nil =>
          have hnow : s.nanos = s.asked.nanos :=
            Nat.le_antisymm (hzero.le.trans (Nat.zero_le _)) s.asked_le_nanos
          rw [hnow]
          exact .now
      | cons x xs =>
          have hx := hbacklog x xs (List.suffix_refl _)
          have hs : s.nanos = x.asked.nanos + intervalNanos (x :: xs) := by omega
          rw [hs]
          exact .backlog x xs (List.suffix_refl _)
    · exact hforced
  · intro n hforced
    cases hforced with
    | now => exact s.asked_le_nanos
    | backlog a since hsince => exact hbacklog a since hsince

theorem Paced.scheduled {earlier later : List TakenSlot} {s : TakenSlot}
    (hpaced : Paced 0 (earlier ++ s :: later))
    (hfits : ∀ a ∈ earlier, a.intervalEnd ≤ lastNanos) : Scheduled earlier s :=
  ⟨hpaced.isGreatest hfits, delay_eq_zero_iff_of_isGreatest (hpaced.isGreatest hfits),
    (hpaced.spaced hfits).2⟩

namespace Limiter

/-- **THE SEND SCHEDULE.**  A limiter that paces and has given out no slot yet gives one to every
request of a run, whatever else is called in between.  As long as the intervals before it end at
instants, a slot is the greatest of now and, over all requests before, the request's time plus all
intervals since, each at the rate that was allowed when its slot was given out. -/
theorem slots_closed_form {R : Type} [RateArithmetic R] {l : Limiter R}
    (hpaces : l.enabled = true) (hunset : l.nextSend = none) (t : RateTerms R)
    (calls : List (Instant × LimiterCall)) :
    (l.slots t calls).map TakenSlot.asked = asks calls
      ∧ ∀ earlier s later, l.slots t calls = earlier ++ s :: later →
        (∀ a ∈ earlier, a.intervalEnd ≤ lastNanos) → Scheduled earlier s := by
  refine ⟨asked_slots hpaces t calls, fun earlier s later hsplit hfits => ?_⟩
  have hpaced := l.paced_slots t calls
  have hnone : l.earliest = 0 := by
    unfold earliest
    rw [hunset]
    rfl
  rw [hsplit, hnone] at hpaced
  exact hpaced.scheduled hfits

/-- A limiter of the default terms after its first throttle: fifty sends per second. -/
def throttledOnce : Limiter Float := (fresh .default).throttle .default .start

/-- Three requests at once with another throttle after the first, and one long after. -/
def backlogCalls : List (Instant × LimiterCall) :=
  [(.atMillis 1000, .reserve), (.atMillis 1000, .throttle), (.atMillis 1000, .reserve),
    (.atMillis 1000, .succeed), (.atMillis 1000, .reserve), (.atMillis 5000, .reserve)]

/-- The third request waits for an interval at the first rate and one at the second; the last one
does not wait. -/
theorem slots_closed_form_backlog :
    let first : TakenSlot := ⟨.atMillis 1000, .ofMillis 0, .ofMillis 20⟩
    let second : TakenSlot := ⟨.atMillis 1000, .ofMillis 20, .ofMillis 40⟩
    let third : TakenSlot := ⟨.atMillis 1000, .ofMillis 60, .ofMillis 40⟩
    let last : TakenSlot := ⟨.atMillis 5000, .ofMillis 0, .ofMillis 40⟩
    throttledOnce.enabled = true ∧ throttledOnce.nextSend = none
      ∧ throttledOnce.slots .default backlogCalls = [first, second, third, last]
      ∧ (∀ a ∈ [first, second, third], a.intervalEnd ≤ lastNanos)
      ∧ Scheduled [first, second] third ∧ Scheduled [first, second, third] last := by
  intro first second third last
  have hpaces : throttledOnce.enabled = true := rfl
  have hunset : throttledOnce.nextSend = none := rfl
  have hslots : throttledOnce.slots .default backlogCalls = [first, second, third, last] := by
    decide +kernel
  have hfits : ∀ a ∈ [first, second, third], a.intervalEnd ≤ lastNanos := by decide +kernel
  obtain ⟨_, hscheduled⟩ := slots_closed_form hpaces hunset .default backlogCalls
  refine ⟨hpaces, hunset, hslots, hfits, ?_, ?_⟩
  · exact hscheduled [first, second] third [last] hslots
      fun a hmem => hfits a (List.mem_append_left [third] hmem)
  · exact hscheduled [first, second, third] last [] hslots hfits

end Limiter

end RetryControl
