/-
  RetryControl.Proofs.Rate.Windows
  ────────────────────────────────
  **HOW A SEND IS MEASURED.**

  A limiter counts its sends in windows of half a second or more.  A send is
  counted in the window that it falls into, once, and if it closes the window,
  the number of sends in it, over the time that it has taken, goes into the
  measured rate.  Paced sends are measured when they are made, which is at
  their slots.

    • `Limiter.SameMeasure` — the same sends are measured,
    • `WindowStep` — what a send does to the measurement: one more is counted,
      or a window is closed,
    • `Limiter.windowStep_measure`, `Limiter.windowStep_reserve` — sends and
      slots are measured so.
-/
import RetryControl.Proofs.Rate.Slots

namespace RetryControl

open RateArithmetic

/-- Where a window that starts at an instant may be closed, in unbounded arithmetic. -/
def windowEnd (start : Instant) : Nat := start.nanos + measuringWindow.nanos

variable {R : Type}

/-! ## §1. Measurements. -/

namespace Limiter

/-- Two limiters that have measured the same sends. -/
structure SameMeasure (l l' : Limiter R) : Prop where
  measuredRate_eq : l'.measuredRate = l.measuredRate
  windowStart_eq : l'.windowStart = l.windowStart
  windowSends_eq : l'.windowSends = l.windowSends

theorem SameMeasure.refl (l : Limiter R) : l.SameMeasure l := ⟨rfl, rfl, rfl⟩

theorem SameMeasure.trans {l l' l'' : Limiter R} (h : l.SameMeasure l')
    (h' : l'.SameMeasure l'') : l.SameMeasure l'' :=
  ⟨h'.measuredRate_eq.trans h.measuredRate_eq, h'.windowStart_eq.trans h.windowStart_eq,
    h'.windowSends_eq.trans h.windowSends_eq⟩

end Limiter

variable [RateArithmetic R]

/-- What happens to the measurement of a limiter when a send is made, or none. -/
inductive WindowStep (l : Limiter R) : Option Instant → Limiter R → Prop where
  /-- Without a send it stays as it is. -/
  | kept {after : Limiter R} (hsame : l.SameMeasure after) : WindowStep l none after
  /-- A send before the window may be closed is counted; the first one of all starts the window. -/
  | counted {after : Limiter R} {send : Instant}
      (hearly : send.nanos < windowEnd (l.windowStart.getD send))
      (hstart : after.windowStart = some (l.windowStart.getD send))
      (hsends : after.windowSends = l.windowSends.addSat 1)
      (hrate : after.measuredRate = l.measuredRate) : WindowStep l (some send) after
  /-- A later send is counted and closes the window: its sends over the time since its start go into
  the measured rate, and the next window starts without a send. -/
  | closed {after : Limiter R} {send start : Instant} (hbefore : l.windowStart = some start)
      (hlate : windowEnd start ≤ send.nanos) (hstart : after.windowStart = some send)
      (hsends : after.windowSends = 0)
      (hrate : after.measuredRate
        = add (mul newestWeight
            (div (ofCount (l.windowSends.addSat 1)) (seconds (send.since start))))
          (mul olderWeight l.measuredRate)) : WindowStep l (some send) after

/-- The measurement of a limiter depends on what it has measured alone. -/
theorem WindowStep.of_sameMeasure {l l' after : Limiter R} {send? : Option Instant}
    (hsame : l.SameMeasure l') (h : WindowStep l' send? after) : WindowStep l send? after := by
  obtain ⟨hrate, hstart, hsends⟩ := hsame
  cases h with
  | kept hkept => exact .kept (.trans ⟨hrate, hstart, hsends⟩ hkept)
  | counted hearly hafter hcount hkept =>
      rw [hstart] at hearly hafter
      rw [hsends] at hcount
      exact .counted hearly hafter hcount (hkept.trans hrate)
  | closed hbefore hlate hafter hcount hsmoothed =>
      rw [hsends, hrate] at hsmoothed
      exact .closed (hstart.symm.trans hbefore) hlate hafter hcount hsmoothed

/-! ## §2. Windows. -/

namespace Limiter

omit [RateArithmetic R] in
theorem windowOf_of_start {l : Limiter R} {start : Instant} (hstart : l.windowStart = some start)
    (send : Instant) : l.windowOf send = start := by
  unfold windowOf
  rw [hstart, Option.getD_some]

omit [RateArithmetic R] in
/-- A send closes a window that has started, and started long enough before it. -/
theorem closesWindow_iff_start {l : Limiter R} {send : Instant} :
    l.closesWindow send = true
      ↔ ∃ start, l.windowStart = some start ∧ windowEnd start ≤ send.nanos := by
  have hpos : 0 < measuringWindow.nanos := by decide
  rw [closesWindow_iff, Duration.le_def]
  unfold intoWindow windowEnd
  rw [Instant.nanos_since]
  cases hstart : l.windowStart with
  | none =>
      -- the first send of all starts its window itself
      have hown : l.windowOf send = send := by
        unfold windowOf
        rw [hstart, Option.getD_none]
      rw [hown, Nat.sub_self]
      refine iff_of_false (Nat.not_le.mpr hpos) ?_
      rintro ⟨start, hnone, _⟩
      cases hnone
  | some start =>
      rw [windowOf_of_start hstart]
      constructor
      · intro hlate
        exact ⟨start, rfl, by omega⟩
      · rintro ⟨_, hown, hlate⟩
        obtain rfl := Option.some.inj hown
        omega

omit [RateArithmetic R] in
theorem toNat_sendsWith (l : Limiter R) :
    l.sendsWith.toNat = min (l.windowSends.toNat + 1) Count.maxNat := Count.toNat_addSat _ _

omit [RateArithmetic R] in
/-- The counter is never at zero with a send counted. -/
theorem sendsWith_ne_zero (l : Limiter R) : l.sendsWith ≠ 0 := by
  intro hzero
  have hcount := l.toNat_sendsWith
  rw [hzero] at hcount
  have hroom : 0 < Count.maxNat := by decide
  have hnone : (0 : Count).toNat = 0 := rfl
  omega

/-! ## §3. Sends. -/

/-- **A send is measured once.** -/
theorem windowStep_measure (l : Limiter R) (send : Instant) :
    WindowStep l (some send) (l.measure send) := by
  unfold measure
  split
  · rename_i hcloses
    obtain ⟨start, hstart, hlate⟩ := closesWindow_iff_start.mp hcloses
    refine .closed hstart hlate rfl rfl ?_
    show l.smoothed (l.windowRate send) = _
    unfold smoothed windowRate intoWindow
    rw [windowOf_of_start hstart]
    rfl
  · rename_i hopen
    refine .counted ?_ rfl rfl rfl
    -- an open window has not started yet, or not long enough ago
    cases hstart : l.windowStart with
    | none => exact Nat.lt_add_of_pos_right (by decide)
    | some start =>
        exact Nat.lt_of_not_le fun hlate =>
          hopen (closesWindow_iff_start.mpr ⟨start, hstart, hlate⟩)

/-- When a send is made that is asked for now: at its slot if the limiter paces, and else now. -/
def sendTime (l : Limiter R) (now : Instant) : Instant := if l.enabled then l.slot now else now

/-- **Taking a slot measures one send**, at the time that it is made. -/
theorem windowStep_reserve (l : Limiter R) (now : Instant) :
    WindowStep l (some (l.sendTime now)) (l.reserve now).2 := by
  unfold reserve sendTime
  split
  · -- what is measured does not depend on the next slot
    refine .of_sameMeasure ?_ (windowStep_measure _ (l.slot now))
    exact ⟨rfl, rfl, rfl⟩
  · exact l.windowStep_measure now

end Limiter

end RetryControl
