/-
  RetryControl.Proofs.Clock.Readings
  ────────────────────────────────
  **WHEN A CLOCK THAT IS MOVED BY HAND GOES BACK.**

  Two limits meet in the clock.  The total that it was moved by is held at the
  longest duration, which is twice as long as the time line; what it shows is
  the origin plus that total as long as this is an instant, and the bare origin
  again when it is none.  So the total never falls, but the readings can.

    • `ManualClock.readings` — what the clock shows at first and after each
      move,
    • `nanos_elapsed_advanceAll` — the total is a sum that is held once,
    • `nanos_now_advanceAll` — what is shown after any moves,
    • `readings_never_fall_iff` — the readings never go back exactly if no move
      leads past the last instant, or nothing but the origin was ever shown,
    • `readings_fall_past_the_end` — a move past the last instant takes a
      clock that has shown a later time back to its origin.
-/
import RetryControl.Clock

namespace RetryControl

/-! ## §1. Moving a clock many times. -/

/-- The time that durations come to, in unbounded arithmetic. -/
def totalNanos : List Duration → Nat
  | [] => 0
  | d :: rest => d.nanos + totalNanos rest

/-- The time line is shorter than the longest duration. -/
theorem lastNanos_lt_longestNanos : lastNanos < longestNanos := by decide

namespace ManualClock

/-- The clock after moves one after another. -/
def advanceAll (c : ManualClock) (moves : List Duration) : ManualClock := moves.foldl advance c

/-- What the clock shows at first and after each move. -/
def readings (c : ManualClock) : List Duration → List Instant
  | [] => [c.now]
  | d :: rest => c.now :: (c.advance d).readings rest

variable {c : ManualClock} {moves : List Duration}

/-- The origin plus the total that the clock was moved by, in unbounded arithmetic. -/
def reach (c : ManualClock) : Nat := c.origin.nanos + c.elapsed.nanos

/-- **The total is held once**, however often it is reached on the way. -/
theorem nanos_elapsed_advanceAll (c : ManualClock) (moves : List Duration) :
    (c.advanceAll moves).elapsed.nanos
      = min (c.elapsed.nanos + totalNanos moves) longestNanos := by
  induction moves generalizing c with
  | nil => exact (Nat.min_eq_left c.elapsed.nanos_le).symm
  | cons d rest ih =>
      show ((c.advance d).advanceAll rest).elapsed.nanos = _
      rw [ih]
      show min (min (c.elapsed.nanos + d.nanos) longestNanos + totalNanos rest) longestNanos
        = min (c.elapsed.nanos + (d.nanos + totalNanos rest)) longestNanos
      omega

theorem origin_advanceAll (c : ManualClock) (moves : List Duration) :
    (c.advanceAll moves).origin = c.origin := by
  induction moves generalizing c with
  | nil => rfl
  | cons d rest ih => exact ih (c.advance d)

/-! ## §2. One reading. -/

/-- The clock shows its origin plus the total while the time line reaches that far, and its origin
again past the last instant. -/
theorem nanos_now (c : ManualClock) :
    c.now.nanos = if c.reach ≤ lastNanos then c.reach else c.origin.nanos := by
  unfold now Instant.add? reach
  split <;> rfl

theorem nanos_now_of_le (hreach : c.reach ≤ lastNanos) : c.now.nanos = c.reach := by
  rw [nanos_now, if_pos hreach]

theorem now_of_lt (hpast : lastNanos < c.reach) : c.now = c.origin := by
  apply Instant.ext
  rw [nanos_now, if_neg (Nat.not_le_of_lt hpast)]

/-- No reading is before the origin. -/
theorem origin_le_now (c : ManualClock) : c.origin ≤ c.now := by
  rw [Instant.le_def, nanos_now]
  split
  · exact Nat.le_add_right _ _
  · exact Nat.le_refl _

/-- Where a total is held, the time line has long been left. -/
theorem reach_advance_le_iff (c : ManualClock) (d : Duration) (more : Nat) :
    (c.advance d).reach + more ≤ lastNanos ↔ c.reach + (d.nanos + more) ≤ lastNanos := by
  have hshort := lastNanos_lt_longestNanos
  show c.origin.nanos + min (c.elapsed.nanos + d.nanos) longestNanos + more ≤ lastNanos
    ↔ c.origin.nanos + c.elapsed.nanos + (d.nanos + more) ≤ lastNanos
  omega

theorem reach_advanceAll_le_iff (c : ManualClock) (moves : List Duration) :
    (c.advanceAll moves).reach ≤ lastNanos ↔ c.reach + totalNanos moves ≤ lastNanos := by
  induction moves generalizing c with
  | nil => exact Iff.rfl
  | cons d rest ih => exact (ih (c.advance d)).trans (c.reach_advance_le_iff d (totalNanos rest))

/-- **What the clock shows after any moves.** -/
theorem nanos_now_advanceAll (c : ManualClock) (moves : List Duration) :
    (c.advanceAll moves).now.nanos
      = if c.reach + totalNanos moves ≤ lastNanos then c.reach + totalNanos moves
        else c.origin.nanos := by
  have hshort := lastNanos_lt_longestNanos
  have helapsed := c.nanos_elapsed_advanceAll moves
  have hfits := c.reach_advanceAll_le_iff moves
  rw [nanos_now]
  unfold reach at *
  rw [c.origin_advanceAll moves] at *
  split
  · rename_i hreach
    rw [if_pos (hfits.mp hreach)]
    omega
  · rename_i hpast
    rw [if_neg fun h => hpast (hfits.mpr h)]

/-! ## §3. All readings. -/

/-- While the time line reaches far enough for all moves, nothing shown later is before what is
shown now. -/
theorem now_le_readings (hfits : c.reach + totalNanos moves ≤ lastNanos) :
    ∀ r ∈ c.readings moves, c.now ≤ r := by
  induction moves generalizing c with
  | nil =>
      intro r hmem
      rw [List.mem_singleton.mp hmem]
      exact Nat.le_refl _
  | cons d rest ih =>
      have hrest := (c.reach_advance_le_iff d (totalNanos rest)).mpr hfits
      have hstep : c.now ≤ (c.advance d).now := by
        have hlater : c.reach ≤ (c.advance d).reach := by
          have hheld := c.elapsed.nanos_le
          show c.origin.nanos + c.elapsed.nanos
            ≤ c.origin.nanos + min (c.elapsed.nanos + d.nanos) longestNanos
          omega
        rw [Instant.le_def, nanos_now_of_le (by omega), nanos_now_of_le (by omega)]
        exact hlater
      intro r hmem
      rcases List.mem_cons.mp hmem with rfl | hmem
      · exact Nat.le_refl _
      · exact Nat.le_trans hstep (ih hrest r hmem)

theorem now_mem_readings (c : ManualClock) (moves : List Duration) :
    c.now ∈ c.readings moves := by
  cases moves with
  | nil => exact List.mem_singleton_self _
  | cons d rest => exact List.mem_cons_self

/-- **The readings never go back exactly if all of them are instants that the total leads to, or
all of them are the origin.** -/
theorem pairwise_readings_iff (c : ManualClock) (moves : List Duration) :
    (c.readings moves).Pairwise (· ≤ ·) ↔
      c.reach + totalNanos moves ≤ lastNanos ∨ ∀ r ∈ c.readings moves, r = c.origin := by
  induction moves generalizing c with
  | nil =>
      refine iff_of_true (List.pairwise_singleton _ _) ?_
      rcases Nat.lt_or_ge lastNanos c.reach with hpast | hreach
      · refine .inr fun r hmem => ?_
        rw [List.mem_singleton.mp hmem, now_of_lt hpast]
      · exact .inl hreach
  | cons d rest ih =>
      show (c.now :: (c.advance d).readings rest).Pairwise (· ≤ ·) ↔ _
      rw [List.pairwise_cons, ih, c.reach_advance_le_iff]
      constructor
      · rintro ⟨hfirst, hfits | horigin⟩
        · exact .inl hfits
        · -- the next reading is the origin, and this one is not later than it
          have hnext := hfirst _ (now_mem_readings (c.advance d) rest)
          rw [horigin _ (now_mem_readings (c.advance d) rest)] at hnext
          have hnow : c.now = c.origin :=
            Instant.ext (Nat.le_antisymm hnext c.origin_le_now)
          exact .inr (List.forall_mem_cons.mpr ⟨hnow, horigin⟩)
      · rintro (hfits | horigin)
        · have hlater : ∀ r ∈ c.readings (d :: rest), c.now ≤ r := now_le_readings hfits
          exact ⟨(List.forall_mem_cons.mp hlater).2, .inl hfits⟩
        · obtain ⟨hnow, hrest⟩ := List.forall_mem_cons.mp horigin
          refine ⟨fun r hmem => ?_, .inr hrest⟩
          rw [hnow, hrest r hmem]
          exact Nat.le_refl _

/-- **WHAT A CLOCK SHOWS THAT IS MOVED BY HAND.**  From its origin on, the total is the sum of the
moves, held at the longest duration, and the clock shows the origin plus the sum while the time line
reaches that far, and the origin otherwise.  So its readings never go back exactly if the sum does
not lead past the last instant, or they were all the origin. -/
theorem readings_never_fall_iff (origin : Instant) (moves : List Duration) :
    (({ origin } : ManualClock).advanceAll moves).elapsed.nanos
        = min (totalNanos moves) longestNanos
      ∧ (({ origin } : ManualClock).advanceAll moves).now.nanos
        = (if origin.nanos + totalNanos moves ≤ lastNanos then origin.nanos + totalNanos moves
          else origin.nanos)
      ∧ ((({ origin } : ManualClock).readings moves).Pairwise (· ≤ ·) ↔
          origin.nanos + totalNanos moves ≤ lastNanos
            ∨ ∀ r ∈ ({ origin } : ManualClock).readings moves, r = origin) := by
  have helapsed := nanos_elapsed_advanceAll { origin } moves
  rw [Duration.nanos_zero, Nat.zero_add] at helapsed
  exact ⟨helapsed, nanos_now_advanceAll { origin } moves, pairwise_readings_iff { origin } moves⟩

/-- **A second after its origin, a move past the last instant takes the clock back to it.** -/
theorem readings_fall_past_the_end :
    let second := Duration.ofMillis 1000
    ({} : ManualClock).readings [second, .longest] = [.start, ⟨nanosPerSecond, by decide⟩, .start]
      ∧ ¬∀ (origin : Instant) (moves : List Duration),
        (({ origin } : ManualClock).readings moves).Pairwise (· ≤ ·) := by
  intro second
  have hshown : ({} : ManualClock).readings [second, .longest]
      = [.start, ⟨nanosPerSecond, by decide⟩, .start] := by decide
  refine ⟨hshown, fun hnever => ?_⟩
  have hfall := hnever .start [second, .longest]
  rw [hshown] at hfall
  exact absurd hfall (by decide)

end ManualClock

end RetryControl
