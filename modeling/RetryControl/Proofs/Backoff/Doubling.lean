/-
  RetryControl.Proofs.Backoff.Doubling
  ────────────────────────────────
  **WHERE DELAYS DOUBLE, AND WHERE THEY JUMP TO THE CAP.**

  Doubling delays are described by one number: the base delay, doubled for
  every attempt after the second, but not beyond the cap.  The ceiling that is
  worked out agrees with it as long as the factor is a number of 32 bits, and
  from the thirty-fourth attempt on it is the cap, however short the base is.

    • `doubledNanos` — the number, in unbounded arithmetic,
    • `exponentialCeiling_early`, `exponentialCeiling_late` — the ceiling on
      either side of the thirty-fourth attempt,
    • `doubling_law` — so it is that number exactly before that attempt, and
      afterwards exactly if the doubled base has reached the cap,
    • `doubling_fails_zero` — a base of no time at all waits for the whole cap.
-/
import Mathlib.Algebra.Order.Ring.Nat
import RetryControl.Backoff

namespace RetryControl

namespace Duration

/-! ## §1. Checked products. -/

theorem mul?_of_le {d : Duration} {k : Nat} (hfits : d.nanos * k ≤ longestNanos) :
    d.mul? k = some ⟨d.nanos * k, hfits⟩ := by
  unfold mul? ofNanos?
  rw [dif_pos hfits]

theorem mul?_of_lt {d : Duration} {k : Nat} (hlong : longestNanos < d.nanos * k) :
    d.mul? k = none := by
  unfold mul? ofNanos?
  rw [dif_neg (Nat.not_le_of_lt hlong)]

end Duration

namespace Backoff

/-! ## §2. The ceiling of doubling delays. -/

/-- The base delay, doubled for every attempt after the second, but not beyond the cap. -/
def doubledNanos (base cap : Duration) (attempt : Count) : Nat :=
  min cap.nanos (base.nanos * 2 ^ (attempt.toNat - 2))

theorem twoTo_eq (n : Nat) : twoTo n = 2 ^ n := rfl

/-- **Before the thirty-fourth attempt delays double up to the cap.**  A product that leaves the
range of durations is beyond every cap. -/
theorem exponentialCeiling_early {base cap : Duration} {attempt : Count}
    (hearly : attempt.toNat < 34) :
    (exponentialCeiling base cap attempt).nanos = doubledNanos base cap attempt := by
  have hcap := cap.nanos_le
  unfold exponentialCeiling doubledNanos
  dsimp only
  rw [if_pos (by omega : attempt.toNat - 2 < 32), ← twoTo_eq]
  by_cases hfits : base.nanos * twoTo (attempt.toNat - 2) ≤ longestNanos
  · rw [Duration.mul?_of_le hfits]
    exact (Duration.nanos_min _ _).trans (Nat.min_comm _ _)
  · -- no cap is as long as a product that is no duration
    rw [Duration.mul?_of_lt (Nat.lt_of_not_le hfits)]
    have hbeyond : cap.nanos ≤ base.nanos * twoTo (attempt.toNat - 2) := by omega
    exact (Nat.min_eq_left hbeyond).symm

/-- **From the thirty-fourth attempt on the ceiling is the cap**, whatever the base is. -/
theorem exponentialCeiling_late {base cap : Duration} {attempt : Count}
    (hlate : 34 ≤ attempt.toNat) : exponentialCeiling base cap attempt = cap := by
  unfold exponentialCeiling
  dsimp only
  rw [if_neg (by omega : ¬attempt.toNat - 2 < 32)]

/-- The ceiling is what the base comes to by doubling exactly where the factor has 32 bits or the
cap is reached. -/
theorem exponentialCeiling_eq_doubled_iff (base cap : Duration) (attempt : Count) :
    (exponentialCeiling base cap attempt).nanos = doubledNanos base cap attempt ↔
      attempt.toNat < 34 ∨ cap.nanos ≤ base.nanos * 2 ^ (attempt.toNat - 2) := by
  by_cases hearly : attempt.toNat < 34
  · exact iff_of_true (exponentialCeiling_early hearly) (.inl hearly)
  · rw [exponentialCeiling_late (Nat.le_of_not_lt hearly)]
    unfold doubledNanos
    constructor
    · intro heq
      exact .inr (by omega)
    · rintro (h | hreached)
      · exact absurd h hearly
      · exact (Nat.min_eq_left hreached).symm

/-! ## §3. Waits by attempt number. -/

/-- No strategy waits before an attempt without a number. -/
theorem wait_attempt_zero (b : Backoff) (draws : Draws) :
    b.wait 0 draws = .error (.invalidArgument "attempt must be >= 1, got 0") := by
  unfold wait
  rw [if_pos (by decide)]
  -- only the number in the message is left
  congr 2

/-- The first attempt of a call starts at once. -/
theorem wait_attempt_one (b : Backoff) (draws : Draws) : b.wait 1 draws = .ok ⟨.zero, 0⟩ := by
  unfold wait
  rw [if_neg (by decide), if_pos rfl]

/-- Later attempts wait for the ceiling, or for a time drawn below it. -/
theorem wait_of_two_le (b : Backoff) {attempt : Count} (hlater : 2 ≤ attempt.toNat)
    (draws : Draws) :
    b.wait attempt draws
      = .ok (if b.isJittered then jittered (b.ceiling attempt) draws
        else ⟨b.ceiling attempt, 0⟩) := by
  have hsome : ¬attempt < 1 := by
    rw [UInt32.lt_iff_toNat_lt]
    show ¬attempt.toNat < 1
    omega
  have hsecond : ¬attempt = 1 := by
    rintro rfl
    exact absurd hlater (by decide)
  unfold wait
  rw [if_neg hsome, if_neg hsecond]
  split <;> rfl

/-- **WHERE DELAYS DOUBLE.**  From the second attempt on the delay without jitter is the ceiling and
the one with jitter is drawn below the same ceiling; the ceiling is the doubled base, held at the
cap, exactly before the thirty-fourth attempt and where the doubled base has reached the cap, and
otherwise it is the cap.  The first attempt never waits, and an attempt without a number is
refused. -/
theorem doubling_law (base cap : Duration) (draws : Draws) :
    (∀ attempt : Count, 2 ≤ attempt.toNat →
        (exponential base cap false).wait attempt draws
            = .ok ⟨exponentialCeiling base cap attempt, 0⟩
          ∧ (exponential base cap true).wait attempt draws
            = .ok (jittered (exponentialCeiling base cap attempt) draws)
          ∧ ((exponentialCeiling base cap attempt).nanos = doubledNanos base cap attempt ↔
              attempt.toNat < 34 ∨ cap.nanos ≤ base.nanos * 2 ^ (attempt.toNat - 2))
          ∧ (34 ≤ attempt.toNat → exponentialCeiling base cap attempt = cap))
      ∧ ∀ jitter,
        (exponential base cap jitter).wait 1 draws = .ok ⟨.zero, 0⟩
          ∧ (exponential base cap jitter).wait 0 draws
            = .error (.invalidArgument "attempt must be >= 1, got 0") := by
  constructor
  · intro attempt hlater
    exact ⟨wait_of_two_le _ hlater draws, wait_of_two_le _ hlater draws,
      exponentialCeiling_eq_doubled_iff base cap attempt, exponentialCeiling_late⟩
  · intro jitter
    exact ⟨wait_attempt_one _ draws, wait_attempt_zero _ draws⟩

/-- A tenth of a second has come to its cap of twenty seconds long before the thirty-fourth
attempt, so its law has no exception there. -/
theorem doubling_law_tenth :
    let base := Duration.ofMillis 100
    let cap := Duration.ofMillis 20000
    2 ≤ (34 : Count).toNat
      ∧ (exponential base cap false).wait 34 (fun _ => 0) = .ok ⟨cap, 0⟩
      ∧ (exponentialCeiling base cap 34).nanos = doubledNanos base cap 34 := by
  intro base cap
  have hlater : 2 ≤ (34 : Count).toNat := by decide
  obtain ⟨hwait, _, hlaw, hcap⟩ := (doubling_law base cap (fun _ => 0)).1 34 hlater
  rw [hcap (by decide)] at hwait
  exact ⟨hlater, hwait, hlaw.mpr (.inr (by decide))⟩

/-- **Doubling no time at all gives no time, but the thirty-fourth attempt waits for the whole
cap.** -/
theorem doubling_fails_zero :
    let cap := Duration.ofMillis 20000
    (exponential .zero cap false).wait 34 (fun _ => 0) = .ok ⟨cap, 0⟩
      ∧ cap.nanos = 20 * nanosPerSecond ∧ doubledNanos .zero cap 34 = 0
      ∧ ¬∀ (base cap : Duration) (attempt : Count), 2 ≤ attempt.toNat →
        (exponentialCeiling base cap attempt).nanos = doubledNanos base cap attempt := by
  intro cap
  refine ⟨by decide, by decide, by decide, fun hlaw => ?_⟩
  have hzero := hlaw .zero cap 34 (by decide)
  exact absurd hzero (by decide)

end Backoff

end RetryControl
