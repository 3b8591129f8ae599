/-
  RetryControl.Proofs.Rate.Slots
  ────────────────────────────────
  **HOW FAR APART SLOTS ARE.**

  A limiter that paces gives out slots: the next one is an interval after the
  last one, or now if that has passed.  Throttles, successes and sends without
  pacing change the interval and the measured rate, but never the slot that
  comes next.  So the slots of a run are described by one number that is
  carried along, whatever is called between them.

    • `TakenSlot`, `Limiter.slots` — the slots that a run of calls gives out,
    • `Paced` — each slot is the one that the slot before it has left, or now,
    • `paced_slots` — so it is in every run, of any limiter,
    • `slots_spaced` — two slots are an interval apart exactly if the interval
      does not lead beyond the last instant; otherwise the second one waits for
      the first only,
    • `slots_spaced_fails_slow` — a rate so low that its interval is no
      duration is not paced at all.
-/
import RetryControl.Proofs.Rate.Throttles

namespace RetryControl

open RateArithmetic

/-! ## §1. Slots that are given out. -/

/-- A slot that a paced send was given. -/
structure TakenSlot where
  /-- When the slot was asked for. -/
  asked : Instant
  /-- How long the send waits for it. -/
  delay : Duration
  /-- The time between two sends at the rate that was allowed then. -/
  interval : Duration
  deriving DecidableEq

namespace TakenSlot

/-- When the send is made, in unbounded arithmetic. -/
def nanos (s : TakenSlot) : Nat := s.asked.nanos + s.delay.nanos

/-- The end of the interval that the slot starts, in unbounded arithmetic. -/
def intervalEnd (s : TakenSlot) : Nat := s.nanos + s.interval.nanos

/-- The earliest time of the next slot: the end of the interval, or this slot again if that is not
an instant. -/
def following (s : TakenSlot) : Nat := if s.intervalEnd ≤ lastNanos then s.intervalEnd else s.nanos

end TakenSlot

namespace Limiter

variable {R : Type} [RateArithmetic R]

/-- The slot that a call gives out, if it is for one and the limiter paces. -/
def slotOf (l : Limiter R) (now : Instant) : LimiterCall → List TakenSlot
  | .reserve => if l.enabled then [⟨now, (l.reserve now).1, interval l.allowedRate⟩] else []
  | .send | .throttle | .succeed => []

/-- The slots that a run of calls gives out, in their order. -/
def slots (l : Limiter R) (t : RateTerms R) : List (Instant × LimiterCall) → List TakenSlot
  | [] => []
  | entry :: rest => l.slotOf entry.1 entry.2 ++ (l.call t entry.1 entry.2).slots t rest

/-- The earliest time of the next slot. -/
def earliest (l : Limiter R) : Nat := l.nextSend.elim 0 Instant.nanos

/-! ## §2. One call. -/

omit [RateArithmetic R] in
theorem nanos_slot (l : Limiter R) (now : Instant) :
    (l.slot now).nanos = max l.earliest now.nanos := by
  unfold slot earliest
  cases l.nextSend with
  | none => exact (Nat.zero_max now.nanos).symm
  | some next => exact Instant.nanos_max next now

omit [RateArithmetic R] in
theorem earliest_congr {l l' : Limiter R} (hnext : l'.nextSend = l.nextSend) :
    l'.earliest = l.earliest := by
  unfold earliest
  rw [hnext]

/-- A paced send waits exactly until its slot. -/
theorem asked_add_delay {l : Limiter R} (hpaces : l.enabled = true) (now : Instant) :
    now.nanos + (l.reserve now).1.nanos = max l.earliest now.nanos := by
  have hdelay : (l.reserve now).1 = (l.slot now).since now := by
    unfold reserve
    rw [if_pos hpaces]
  have hnow : now.nanos ≤ (l.slot now).nanos := by
    rw [nanos_slot]
    exact Nat.le_max_right _ _
  rw [hdelay, Instant.nanos_since, Nat.add_sub_cancel' hnow, nanos_slot]

/-- Taking a slot moves the next one to the end of its interval. -/
theorem earliest_reserve {l : Limiter R} (hpaces : l.enabled = true) (now : Instant) :
    (l.reserve now).2.earliest
      = (TakenSlot.mk now (l.reserve now).1 (interval l.allowedRate)).following := by
  have hnext : (l.reserve now).2.nextSend
      = some (((l.slot now).add? (interval l.allowedRate)).getD (l.slot now)) := by
    unfold reserve
    rw [if_pos hpaces]
    exact nextSend_measure _ _
  have hslot : now.nanos + (l.reserve now).1.nanos = (l.slot now).nanos :=
    (asked_add_delay hpaces now).trans (l.nanos_slot now).symm
  unfold TakenSlot.following TakenSlot.intervalEnd TakenSlot.nanos earliest
  rw [hnext, hslot]
  show (((l.slot now).add? (interval l.allowedRate)).getD (l.slot now)).nanos = _
  -- an end that is no instant leaves the slot itself as the next one
  unfold Instant.add?
  split <;> rfl

/-- **Only taking a slot moves the next one.** -/
theorem earliest_call {l : Limiter R} {now : Instant} {c : LimiterCall} (t : RateTerms R)
    (hnone : l.slotOf now c = []) : (l.call t now c).earliest = l.earliest := by
  cases c with
  | send => exact earliest_congr (l.nextSend_measure now)
  | throttle => rfl
  | succeed =>
      refine earliest_congr ?_
      show (l.succeed t now).nextSend = _
      unfold succeed
      split <;> rfl
  | reserve =>
      have hidle : ¬l.enabled = true := by
        intro hpaces
        unfold slotOf at hnone
        rw [if_pos hpaces] at hnone
        cases hnone
      exact earliest_congr (reserve_of_idle (Bool.eq_false_iff.mpr hidle) now).2

/-- A call gives out no slot, or the earliest one that is not over. -/
theorem slotOf_cases (l : Limiter R) (t : RateTerms R) (now : Instant) (c : LimiterCall) :
    (l.slotOf now c = [] ∧ (l.call t now c).earliest = l.earliest)
      ∨ ∃ s, l.slotOf now c = [s] ∧ s.asked = now
        ∧ s.interval = interval l.allowedRate
        ∧ s.nanos = max l.earliest now.nanos ∧ (l.call t now c).earliest = s.following := by
  by_cases hnone : l.slotOf now c = []
  · exact .inl ⟨hnone, earliest_call t hnone⟩
  · cases c with
    | send | throttle | succeed => exact absurd rfl hnone
    | reserve =>
        have hpaces : l.enabled = true := by
          by_contra hidle
          unfold slotOf at hnone
          rw [if_neg hidle] at hnone
          exact hnone rfl
        exact .inr ⟨_, if_pos hpaces, rfl, rfl, asked_add_delay hpaces now,
          earliest_reserve hpaces now⟩

end Limiter

/-! ## §3. Runs of calls. -/

/-- Each slot is the earliest one when it is asked for, and leaves the next one behind. -/
inductive Paced : Nat → List TakenSlot → Prop where
  /-- No slots are paced. -/
  | nil (earliest : Nat) : Paced earliest []
  /-- A slot is neither before the earliest time nor before it was asked for, and not later. -/
  | cons {earliest : Nat} {s : TakenSlot} {rest : List TakenSlot}
      (hslot : s.nanos = max earliest s.asked.nanos) (hrest : Paced s.following rest) :
      Paced earliest (s :: rest)

/-- **The slots of every run are paced**, from the slot that the limiter starts with. -/
theorem Limiter.paced_slots {R : Type} [RateArithmetic R] (l : Limiter R) (t : RateTerms R)
    (calls : List (Instant × LimiterCall)) : Paced l.earliest (l.slots t calls) := by
  -- of the limiter the induction needs only the earliest next time
  induction calls generalizing l with
  | nil => exact .nil _
  | cons entry rest ih =>
      have hrest := ih (l.call t entry.1 entry.2)
      unfold slots
      rcases l.slotOf_cases t entry.1 entry.2 with
        ⟨hnone, hearliest⟩ | ⟨s, hsome, hasked, _, hslot, hearliest⟩
      · rw [hnone, ← hearliest]
        exact hrest
      · rw [hsome]
        rw [hearliest] at hrest
        rw [← hasked] at hslot
        exact .cons hslot hrest

namespace Paced

variable {earliest : Nat} {slots : List TakenSlot}

/-- Two slots one after another: the second is what the first has left, or now. -/
theorem isChain (hpaced : Paced earliest slots) :
    slots.IsChain fun a b => b.nanos = max a.following b.asked.nanos := by
  induction hpaced with
  | nil earliest => exact .nil
  | cons hslot hrest ih =>
      cases hrest with
      | nil earliest => exact .singleton _
      | cons hnext hrest => exact .cons_cons hnext ih

/-- No slot lies beyond the last instant. -/
theorem nanos_le (hpaced : Paced earliest slots) (hearliest : earliest ≤ lastNanos) :
    ∀ s ∈ slots, s.nanos ≤ lastNanos := by
  induction hpaced with
  | nil earliest => exact fun s hmem => nomatch hmem
  | @cons earliest s rest hslot hrest ih =>
      have hs : s.nanos ≤ lastNanos := by
        rw [hslot]
        exact Nat.max_le.mpr ⟨hearliest, s.asked.nanos_le⟩
      have hfollowing : s.following ≤ lastNanos := by
        unfold TakenSlot.following
        split
        · assumption
        · exact hs
      exact List.forall_mem_cons.mpr ⟨hs, ih hfollowing⟩

end Paced

/-! ## §4. How far apart. -/

/-- How two slots lie, the first given out just before the second: an interval apart exactly if the
interval ends at an instant, and otherwise as if there were no interval. -/
def TakenSlot.SpacedWithin (a b : TakenSlot) : Prop :=
  (a.intervalEnd ≤ b.nanos ↔ a.intervalEnd ≤ lastNanos)
    ∧ (lastNanos < a.intervalEnd → b.nanos = max a.nanos b.asked.nanos)

theorem TakenSlot.spacedWithin {a b : TakenSlot} (hb : b.nanos = max a.following b.asked.nanos)
    (hlast : b.nanos ≤ lastNanos) : a.SpacedWithin b := by
  constructor
  · constructor
    · intro hspaced
      exact hspaced.trans hlast
    · intro hfits
      rw [hb, following, if_pos hfits]
      exact Nat.le_max_left _ _
  · intro hlong
    rw [hb, following, if_neg (Nat.not_le_of_lt hlong)]

namespace Limiter

theorem earliest_le {R : Type} (l : Limiter R) : l.earliest ≤ lastNanos := by
  unfold earliest
  cases l.nextSend with
  | none => exact Nat.zero_le _
  | some next => exact next.nanos_le

/-- **SLOTS ARE AN INTERVAL APART WHERE THE TIME LINE REACHES THAT FAR**, and only there.  No slot
is in the past of its call; a slot is at least an interval after the slot before it exactly if that
interval ends at an instant, and otherwise it is the same slot again, or now. -/
theorem slots_spaced {R : Type} [RateArithmetic R] (l : Limiter R) (t : RateTerms R)
    (calls : List (Instant × LimiterCall)) :
    (∀ s ∈ l.slots t calls, s.asked.nanos ≤ s.nanos ∧ s.nanos ≤ lastNanos)
      ∧ (l.slots t calls).IsChain TakenSlot.SpacedWithin := by
  have hpaced := l.paced_slots t calls
  have hlast := hpaced.nanos_le l.earliest_le
  constructor
  · intro s hmem
    exact ⟨Nat.le_add_right _ _, hlast s hmem⟩
  · refine hpaced.isChain.imp_of_mem_imp ?_
    intro a b _ hmem hb
    exact TakenSlot.spacedWithin hb (hlast b hmem)

/-- A rate that is never above a send in 10³⁰⁰ seconds. -/
def slowest : RateTerms Float := { RateTerms.default with minRate := 1e-300, maxRate := 1e-300 }

/-- A throttle, and two slots at once. -/
def slowestCalls : List (Instant × LimiterCall) :=
  [(.start, .throttle), (.start, .reserve), (.start, .reserve)]

/-- **At a rate that leaves the longest interval, both sends are made at once.** -/
theorem slots_spaced_fails_slow :
    slowest.validate = .ok ()
      ∧ (fresh slowest).slots slowest slowestCalls
        = [⟨.start, .zero, .longest⟩, ⟨.start, .zero, .longest⟩]
      ∧ ¬∀ (t : RateTerms Float) (calls : List (Instant × LimiterCall)), t.validate = .ok () →
        calls.Pairwise (fun a b => a.1 ≤ b.1) →
        ((fresh t).slots t calls).IsChain fun a b => a.intervalEnd ≤ b.nanos := by
  have hvalid : slowest.validate = .ok () := by decide +kernel
  have hslots : (fresh slowest).slots slowest slowestCalls
      = [⟨.start, .zero, .longest⟩, ⟨.start, .zero, .longest⟩] := by decide +kernel
  refine ⟨hvalid, hslots, fun hspaced => ?_⟩
  have hboth := hspaced slowest slowestCalls hvalid (by decide)
  rw [hslots] at hboth
  exact absurd (List.isChain_pair.mp hboth) (by decide)

end Limiter

end RetryControl
