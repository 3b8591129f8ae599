/-
  RetryControl.Proofs.Rate.Measurement
  ────────────────────────────────
  **EVERY SEND IS MEASURED ONCE.**

  A limiter measures its sends in windows of half a second or more, and all it
  keeps of a window is its start and one counter.  Paced sends are measured at
  slots that lie ahead, so the instants go back and forth, and the send that
  closes a window sets the counter back.  Still no send is counted in two
  windows, or in none: a meter beside the limiter that writes down each send
  shows it.

    • `Limiter.windowStep_call` — what a call does to the measurement,
    • `Metered` — a limiter with the sends of its windows written down,
    • `Metered.Tallied` — the counters are the numbers of sends written down,
      a window is closed by the first send that comes late enough, and the
      measured rate is that of the closed windows,
    • `Limiter.windowStart_callAll` — a window starts half a second or more
      after any window before it,
    • `sends_measured_once` — all of it, for every run from a fresh limiter.
-/
import RetryControl.Proofs.Rate.Refusals

namespace RetryControl

open RateArithmetic

/-- The call makes a send. -/
def LimiterCall.isSend : LimiterCall → Bool
  | .send | .reserve => true
  | .throttle | .succeed => false

variable {R : Type}

/-! ## §1. What a call does to the measurement. -/

namespace Limiter

variable [RateArithmetic R]

/-- When the send is made that a call makes; throttles and successes make none. -/
def sendOf? (l : Limiter R) (now : Instant) : LimiterCall → Option Instant
  | .send => some now
  | .reserve => some (l.sendTime now)
  | .throttle | .succeed => none

/-- The sends that a run of calls makes, in their order. -/
def sends (l : Limiter R) (t : RateTerms R) : List (Instant × LimiterCall) → List Instant
  | [] => []
  | entry :: rest =>
      (l.sendOf? entry.1 entry.2).toList ++ (l.call t entry.1 entry.2).sends t rest

/-- **What a call does to the measurement.** -/
theorem windowStep_call (l : Limiter R) (t : RateTerms R) (now : Instant) (c : LimiterCall) :
    WindowStep l (l.sendOf? now c) (l.call t now c) := by
  cases c with
  | send => exact l.windowStep_measure now
  | throttle => exact .kept ⟨rfl, rfl, rfl⟩
  | succeed =>
      show WindowStep l none (l.succeed t now)
      unfold succeed
      split <;> exact .kept ⟨rfl, rfl, rfl⟩
  | reserve => exact l.windowStep_reserve now

/-- Sends and slots are all the sends that there are. -/
theorem length_sends (l : Limiter R) (t : RateTerms R) (calls : List (Instant × LimiterCall)) :
    (l.sends t calls).length = calls.countP fun entry => entry.2.isSend := by
  induction calls generalizing l with
  | nil => rfl
  | cons entry rest ih =>
      obtain ⟨now, c⟩ := entry
      rw [List.countP_cons, sends, List.length_append, ih, Nat.add_comm]
      congr 1
      -- whether there is a send does not depend on the limiter
      cases c <;> rfl

/-! ## §2. Successive windows. -/

/-- The window after a call is the one before it, or starts late enough to have closed it. -/
theorem windowStart_call {l : Limiter R} {start : Instant} (hstart : l.windowStart = some start)
    (t : RateTerms R) (now : Instant) (c : LimiterCall) :
    ∃ later, (l.call t now c).windowStart = some later
      ∧ (later = start ∨ windowEnd start ≤ later.nanos) := by
  have hstep := l.windowStep_call t now c
  generalize l.sendOf? now c = send? at hstep
  cases hstep with
  | kept hsame => exact ⟨start, hsame.windowStart_eq.trans hstart, .inl rfl⟩
  | counted _ hafter =>
      rw [hstart, Option.getD_some] at hafter
      exact ⟨start, hafter, .inl rfl⟩
  | @closed _ send own hbefore hlate hafter =>
      obtain rfl : own = start := Option.some.inj (hbefore.symm.trans hstart)
      exact ⟨send, hafter, .inr hlate⟩

/-- **Windows start half a second or more apart**, however many of them lie between. -/
theorem windowStart_callAll {l : Limiter R} {start : Instant} (hstart : l.windowStart = some start)
    (t : RateTerms R) (calls : List (Instant × LimiterCall)) :
    ∃ later, (l.callAll t calls).windowStart = some later
      ∧ (later = start ∨ windowEnd start ≤ later.nanos) := by
  induction calls generalizing l start with
  | nil => exact ⟨start, hstart, .inl rfl⟩
  | cons entry rest ih =>
      obtain ⟨next, hnext, hapart⟩ := windowStart_call hstart t entry.1 entry.2
      obtain ⟨later, hlater, hrest⟩ := ih hnext
      refine ⟨later, hlater, ?_⟩
      -- a window that has started since has itself started late enough
      rcases hapart with rfl | hapart
      · exact hrest
      · rcases hrest with rfl | hrest
        · exact .inr hapart
        · unfold windowEnd at hapart hrest ⊢
          exact .inr (by omega)

end Limiter

/-! ## §3. The meter. -/

/-- A window that was closed, with what the limiter has counted in it. -/
structure ClosedWindow where
  /-- When it started. -/
  start : Instant
  /-- The sends measured in it, the one that has closed it included. -/
  sends : List Instant
  /-- The number of sends that the limiter has counted in it, which its rate is taken of. -/
  counted : Count

/-- The rate of a closed window: the number counted in it, over the time from its start to the send
that has closed it. -/
def ClosedWindow.rate [RateArithmetic R] (w : ClosedWindow) : R :=
  div (ofCount w.counted) (seconds ((w.sends.getLastD w.start).since w.start))

/-- The measured rate after windows were closed: each window weighs more than all before it. -/
def ratesSmoothed [RateArithmetic R] (windows : List ClosedWindow) : R :=
  windows.foldl (fun rate w => add (mul newestWeight w.rate) (mul olderWeight rate)) zero

/-- The window is closed by the first of its sends that may close it, and all its sends are counted,
as far as a counter goes. -/
structure ClosedWindow.Whole (w : ClosedWindow) : Prop where
  counted_eq : w.counted.toNat = min w.sends.length Count.maxNat
  closing : ∃ early last, w.sends = early ++ [last]
    ∧ (∀ send ∈ early, send.nanos < windowEnd w.start) ∧ windowEnd w.start ≤ last.nanos

theorem ClosedWindow.Whole.one_le_counted {w : ClosedWindow} (hw : w.Whole) :
    1 ≤ w.counted.toNat := by
  obtain ⟨early, last, hsends, _⟩ := hw.closing
  rw [hw.counted_eq, hsends, List.length_append, List.length_singleton]
  exact Nat.le_min.mpr ⟨Nat.le_add_left _ _, by decide⟩

/-- A limiter, and beside it the sends of its windows. -/
structure Metered (R : Type) where
  limiter : Limiter R
  closed : List ClosedWindow := []
  /-- The sends in the current window. -/
  current : List Instant := []

namespace Metered

/-- Writes down a send: a counter that is at zero after it shows that it has closed its window. -/
def note (m : Metered R) (after : Limiter R) : Option Instant → Metered R
  | none => { m with limiter := after }
  | some send =>
      if after.windowSends = 0 then
        { limiter := after
          closed := m.closed
            ++ [⟨m.limiter.windowOf send, m.current ++ [send], m.limiter.sendsWith⟩] }
      else { m with limiter := after, current := m.current ++ [send] }

/-- All sends written down, window after window. -/
def sends (m : Metered R) : List Instant := m.closed.flatMap (·.sends) ++ m.current

/-- A send in an open window goes to the others in it. -/
theorem note_of_counted {m : Metered R} {after : Limiter R}
    (hsends : after.windowSends = m.limiter.sendsWith) (send : Instant) :
    m.note after (some send) = { m with limiter := after, current := m.current ++ [send] } := by
  refine if_neg ?_
  rw [hsends]
  exact m.limiter.sendsWith_ne_zero

/-- A send that closes its window is the last one in it. -/
theorem note_of_closed (m : Metered R) {after : Limiter R} (hsends : after.windowSends = 0)
    (send : Instant) :
    m.note after (some send)
      = { limiter := after
          closed := m.closed
            ++ [⟨m.limiter.windowOf send, m.current ++ [send], m.limiter.sendsWith⟩] } :=
  if_pos hsends

theorem limiter_note (m : Metered R) (after : Limiter R) (send? : Option Instant) :
    (m.note after send?).limiter = after := by
  unfold note
  cases send? with
  | none => rfl
  | some send => dsimp only; split <;> rfl

/-- Each send is written down in one place. -/
theorem sends_note (m : Metered R) (after : Limiter R) (send? : Option Instant) :
    (m.note after send?).sends = m.sends ++ send?.toList := by
  unfold note sends
  cases send? with
  | none => exact (List.append_nil _).symm
  | some send =>
      dsimp only [Option.toList_some]
      split
      · rw [List.flatMap_append, List.flatMap_singleton, List.append_nil, List.append_assoc]
      · rw [List.append_assoc]

variable [RateArithmetic R]

/-- The counters of the limiter are the numbers of sends that are written down. -/
structure Tallied (m : Metered R) : Prop where
  whole : ∀ w ∈ m.closed, w.Whole
  rate_eq : m.limiter.measuredRate = ratesSmoothed m.closed
  count_eq : m.limiter.windowSends.toNat = min m.current.length Count.maxNat
  /-- None of the sends in the current window could have closed it. -/
  early : ∀ send ∈ m.current, ∃ start, m.limiter.windowStart = some start
    ∧ send.nanos < windowEnd start

/-- A window with one more send has one more counted, as far as a counter goes. -/
theorem Tallied.sendsWith_eq {m : Metered R} (hm : m.Tallied) (send : Instant) :
    m.limiter.sendsWith.toNat = min (m.current ++ [send]).length Count.maxNat := by
  rw [Limiter.toNat_sendsWith, hm.count_eq, List.length_append, List.length_singleton]
  omega

/-- **Each step keeps the tally.** -/
theorem Tallied.note {m : Metered R} (hm : m.Tallied) {after : Limiter R} {send? : Option Instant}
    (hstep : WindowStep m.limiter send? after) : (m.note after send?).Tallied := by
  cases hstep with
  | kept hsame =>
      obtain ⟨hrate, hstart, hsends⟩ := hsame
      refine ⟨hm.whole, hrate.trans hm.rate_eq, ?_, ?_⟩
      · show after.windowSends.toNat = _
        rw [hsends]
        exact hm.count_eq
      · show ∀ send ∈ m.current, ∃ start, after.windowStart = _ ∧ _
        rw [hstart]
        exact hm.early
  | @counted _ send hearly hstart hsends hrate =>
      rw [note_of_counted hsends]
      refine ⟨hm.whole, hrate.trans hm.rate_eq, ?_, fun other hmem => ?_⟩
      · show after.windowSends.toNat = _
        rw [hsends]
        exact hm.sendsWith_eq send
      · refine ⟨_, hstart, ?_⟩
        rcases List.mem_append.mp hmem with hbefore | hlast
        · obtain ⟨start, hown, hbefore⟩ := hm.early other hbefore
          rw [hown]
          exact hbefore
        · rw [List.mem_singleton.mp hlast]
          exact hearly
  | @closed _ send start hbefore hlate hstart hsends hrate =>
      rw [m.note_of_closed hsends, Limiter.windowOf_of_start hbefore]
      refine ⟨fun w hmem => ?_, ?_, ?_, fun other hmem => absurd hmem List.not_mem_nil⟩
      · rcases List.mem_append.mp hmem with hold | hnew
        · exact hm.whole w hold
        · -- its sends are those of the window so far, none of which could close it, and this one
          rw [List.mem_singleton.mp hnew]
          refine ⟨hm.sendsWith_eq send, m.current, send, rfl, fun other hother => ?_, hlate⟩
          obtain ⟨own, hown, hearly⟩ := hm.early other hother
          obtain rfl : own = start := Option.some.inj (hown.symm.trans hbefore)
          exact hearly
      · unfold ratesSmoothed ClosedWindow.rate
        rw [List.foldl_append, List.foldl_cons, List.foldl_nil, List.getLastD_concat]
        rw [hm.rate_eq] at hrate
        exact hrate
      · show after.windowSends.toNat = _
        rw [hsends]
        rfl

/-- While no window has more sends than a counter can count, the counters add up to the sends. -/
theorem Tallied.length_sends {m : Metered R} (hm : m.Tallied)
    (hclosed : ∀ w ∈ m.closed, w.sends.length ≤ Count.maxNat)
    (hcurrent : m.current.length ≤ Count.maxNat) :
    m.sends.length
      = (m.closed.map fun w => w.counted.toNat).sum + m.limiter.windowSends.toNat := by
  have heach : m.closed.map (fun w => w.sends.length) = m.closed.map fun w => w.counted.toNat := by
    refine List.map_congr_left fun w hmem => ?_
    rw [(hm.whole w hmem).counted_eq, Nat.min_eq_left (hclosed w hmem)]
  unfold sends
  rw [List.length_append, List.length_flatMap, heach, hm.count_eq, Nat.min_eq_left hcurrent]

/-- The limiter after a call, with the send of the call written down. -/
def call (m : Metered R) (t : RateTerms R) (now : Instant) (c : LimiterCall) : Metered R :=
  m.note (m.limiter.call t now c) (m.limiter.sendOf? now c)

/-- The limiter after calls one after another, with all their sends written down. -/
def callAll (m : Metered R) (t : RateTerms R) (calls : List (Instant × LimiterCall)) : Metered R :=
  calls.foldl (fun m entry => m.call t entry.1 entry.2) m

/-- The meter does not disturb the limiter. -/
theorem limiter_callAll (m : Metered R) (t : RateTerms R) (calls : List (Instant × LimiterCall)) :
    (m.callAll t calls).limiter = m.limiter.callAll t calls := by
  induction calls generalizing m with
  | nil => rfl
  | cons entry rest ih =>
      refine (ih (m.call t entry.1 entry.2)).trans ?_
      rw [show (m.call t entry.1 entry.2).limiter = _ from m.limiter_note _ _]
      rfl

theorem sends_callAll (m : Metered R) (t : RateTerms R) (calls : List (Instant × LimiterCall)) :
    (m.callAll t calls).sends = m.sends ++ m.limiter.sends t calls := by
  induction calls generalizing m with
  | nil => exact (List.append_nil _).symm
  | cons entry rest ih =>
      refine (ih (m.call t entry.1 entry.2)).trans ?_
      unfold call
      rw [sends_note, limiter_note, List.append_assoc]
      rfl

/-- **Every run keeps the tally.** -/
theorem Tallied.callAll {m : Metered R} (hm : m.Tallied) (t : RateTerms R)
    (calls : List (Instant × LimiterCall)) : (m.callAll t calls).Tallied := by
  induction calls generalizing m with
  | nil => exact hm
  | cons entry rest ih => exact ih (hm.note (m.limiter.windowStep_call t entry.1 entry.2))

/-- **A window closes exactly at a send half a second or more after its start.** -/
theorem closes_iff (m : Metered R) (t : RateTerms R) (now : Instant) (c : LimiterCall) :
    (∃ w, (m.call t now c).closed = m.closed ++ [w])
      ↔ ∃ send start, m.limiter.sendOf? now c = some send
        ∧ m.limiter.windowStart = some start ∧ windowEnd start ≤ send.nanos := by
  have hstep := m.limiter.windowStep_call t now c
  unfold call
  generalize m.limiter.sendOf? now c = send? at hstep ⊢
  generalize m.limiter.call t now c = after at hstep ⊢
  have hnothing : ¬∃ w, m.closed = m.closed ++ [w] := by
    rintro ⟨w, heq⟩
    have hlength := congrArg List.length heq
    rw [List.length_append, List.length_singleton] at hlength
    omega
  cases hstep with
  | kept hsame =>
      refine iff_of_false hnothing ?_
      rintro ⟨send, start, hnone, _⟩
      cases hnone
  | @counted _ send hearly hstart hsends =>
      rw [note_of_counted hsends]
      refine iff_of_false hnothing ?_
      rintro ⟨_, start, hsend, hown, hlate⟩
      obtain rfl := Option.some.inj hsend
      rw [hown] at hearly
      exact Nat.not_le.mpr hearly hlate
  | @closed _ send start hbefore hlate hstart hsends =>
      rw [m.note_of_closed hsends]
      exact iff_of_true ⟨_, rfl⟩ ⟨send, start, rfl, hbefore, hlate⟩

end Metered

/-! ## §4. Fresh limiters. -/

variable [RateArithmetic R]

/-- What has become of the sends of a run of calls, and what becomes of the next ones. -/
structure MeasuredOnce (t : RateTerms R) (calls : List (Instant × LimiterCall)) (m : Metered R) :
    Prop where
  /-- This is the state of the limiter after the calls. -/
  limiter_eq : m.limiter = (Limiter.fresh t).callAll t calls
  /-- Each send is in one window, closed or current, in the order in which they were made. -/
  sends_eq : m.closed.flatMap (·.sends) ++ m.current = (Limiter.fresh t).sends t calls
  /-- There are as many of them as calls that send. -/
  sends_length : ((Limiter.fresh t).sends t calls).length = calls.countP fun entry => entry.2.isSend
  /-- Each window is closed by the first of its sends that may close it, with all of them counted. -/
  whole : ∀ w ∈ m.closed, w.Whole
  /-- No window is closed without a send. -/
  counted_pos : ∀ w ∈ m.closed, 1 ≤ w.counted.toNat
  windowSends_eq : m.limiter.windowSends.toNat = min m.current.length Count.maxNat
  /-- The measured rate is that of the closed windows, each with the number counted in it. -/
  measuredRate_eq : m.limiter.measuredRate = ratesSmoothed m.closed
  /-- While the sends of each window fit in a counter, the counters add up to all sends. -/
  counted_eq : (∀ w ∈ m.closed, w.sends.length ≤ Count.maxNat) →
    m.current.length ≤ Count.maxNat →
      calls.countP (fun entry => entry.2.isSend)
        = (m.closed.map fun w => w.counted.toNat).sum + m.limiter.windowSends.toNat
  /-- The next call closes the window exactly if it makes a send half a second or more after the
  start of the window. -/
  closes_iff : ∀ now c, (∃ w, (m.call t now c).closed = m.closed ++ [w])
    ↔ ∃ send start, m.limiter.sendOf? now c = some send
      ∧ m.limiter.windowStart = some start ∧ start.nanos + measuringWindow.nanos ≤ send.nanos
  /-- The window after any more calls is still this one, or starts half a second or more after it. -/
  starts_apart : ∀ more start, m.limiter.windowStart = some start →
    ∃ later, (m.limiter.callAll t more).windowStart = some later
      ∧ (later = start ∨ start.nanos + measuringWindow.nanos ≤ later.nanos)

/-- **EVERY SEND IS MEASURED ONCE.**  Whatever a limiter is called for, and at whatever instants, each
send is counted in one window: the counts of the closed windows and the counter of the current one
add up to the sends that were made, as long as the sends of no window go beyond a counter.  Each
closed window counts one or more, it closes exactly at a send half a second or more after its start,
its rate is taken of what was counted in it, and windows start half a second or more apart. -/
theorem sends_measured_once (t : RateTerms R) (calls : List (Instant × LimiterCall)) :
    MeasuredOnce t calls (Metered.callAll { limiter := .fresh t } t calls) := by
  have hfresh : ({ limiter := .fresh t } : Metered R).Tallied :=
    ⟨fun _ hmem => absurd hmem List.not_mem_nil, rfl, rfl,
      fun _ hmem => absurd hmem List.not_mem_nil⟩
  have htallied := hfresh.callAll t calls
  have hsends := Metered.sends_callAll { limiter := .fresh t } t calls
  have hlength := (Limiter.fresh t).length_sends t calls
  -- what the next call does is a matter of the state alone, however it was reached
  generalize hreached : Metered.callAll { limiter := .fresh t } t calls = m at htallied hsends ⊢
  constructor
  case limiter_eq =>
    rw [← hreached]
    exact Metered.limiter_callAll { limiter := .fresh t } t calls
  case sends_eq => exact hsends
  case sends_length => exact hlength
  case whole => exact htallied.whole
  case counted_pos =>
    intro w hmem
    exact (htallied.whole w hmem).one_le_counted
  case windowSends_eq => exact htallied.count_eq
  case measuredRate_eq => exact htallied.rate_eq
  case counted_eq =>
    intro hclosed hcurrent
    rw [← htallied.length_sends hclosed hcurrent, hsends]
    exact hlength.symm
  case closes_iff => exact fun now c => m.closes_iff t now c
  case starts_apart => exact fun more start hstart => Limiter.windowStart_callAll hstart t more

/-- Four sends around one second and the one half a second later make a window of five; the slot
that is taken at the start of the time line falls into the next one, which starts later. -/
theorem sends_measured_once_unordered :
    let m := Metered.callAll { limiter := .fresh RateTerms.default } .default unorderedCalls
    MeasuredOnce .default unorderedCalls m
      ∧ m.closed.map (fun w => (w.start, w.counted)) = [(.atMillis 1000, 5)]
      ∧ m.current = [.atMillis 0]
      ∧ m.limiter.windowStart = some (.atMillis 1500)
      ∧ unorderedCalls.countP (fun entry => entry.2.isSend) = 6
      ∧ (m.closed.map fun w => w.counted.toNat).sum + m.limiter.windowSends.toNat = 6 := by
  intro m
  have hmeasured : MeasuredOnce .default unorderedCalls m :=
    sends_measured_once .default unorderedCalls
  have hsum := hmeasured.counted_eq (by decide +kernel) (by decide +kernel)
  exact ⟨hmeasured, by decide +kernel, by decide +kernel, by decide +kernel, rfl, hsum.symm⟩

end RetryControl
