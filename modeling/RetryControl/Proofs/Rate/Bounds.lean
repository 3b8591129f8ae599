/-
  RetryControl.Proofs.Rate.Bounds
  ────────────────────────────────
  **NO RATE LEAVES ITS BOUNDS.**

  A limiter holds two rates, the allowed one and the measured one.  A throttle
  clamps the allowed rate from below only and a success from above only, so
  each of them needs the other bound to hold already.  The measured rate is
  smoothed with its own past: the bound that one window has is a bound of any
  mixture of windows.

    • `Limiter.callAll` — a limiter after any calls, at any instants,
    • `Limiter.Bounded` — what every call keeps (`Bounded.call`) and so every
      run of calls (`Bounded.callAll`),
    • `rate_invariant` — the bounds of both rates and of everything that is
      divided by, in every state that calls on a fresh limiter lead to.

  The instants need not be in order: a window that starts after a send is
  never closed by it.
-/
import RetryControl.Proofs.Binary64.Rates

namespace RetryControl

open RateArithmetic

/-! ## §1. Calls of a limiter. -/

/-- What a limiter can be called for. -/
inductive LimiterCall where
  /-- A send without pacing is counted. -/
  | send
  /-- A throttling failure was observed. -/
  | throttle
  /-- A call succeeded. -/
  | succeed
  /-- The next slot is taken. -/
  | reserve

namespace Limiter

variable {R : Type} [RateArithmetic R]

/-- The limiter after a call. -/
def call (l : Limiter R) (t : RateTerms R) (now : Instant) : LimiterCall → Limiter R
  | .send => l.measure now
  | .throttle => l.throttle t now
  | .succeed => l.succeed t now
  | .reserve => (l.reserve now).2

/-- The limiter after calls one after another, each at its own instant. -/
def callAll (l : Limiter R) (t : RateTerms R) (calls : List (Instant × LimiterCall)) : Limiter R :=
  calls.foldl (fun l entry => l.call t entry.1 entry.2) l

omit [RateArithmetic R] in
theorem closesWindow_iff {l : Limiter R} {send : Instant} :
    l.closesWindow send = true ↔ measuringWindow ≤ l.intoWindow send := by
  unfold closesWindow
  rw [decide_eq_true_iff]

/-! ## §2. What every call keeps. -/

variable [RateValue R]

/-- The bounds of both rates in numbers. -/
structure Bounded (t : RateTerms R) (most : R) (l : Limiter R) : Prop where
  allowed_finite : isFinite l.allowedRate = true
  minRate_le : value t.minRate ≤ value l.allowedRate
  allowed_le : value l.allowedRate ≤ value t.maxRate
  measured_finite : isFinite l.measuredRate = true
  measured_nonneg : 0 ≤ value l.measuredRate
  measured_le : value l.measuredRate ≤ value most

variable [LawfulRates R] {t : RateTerms R} {most : R} {l : Limiter R}

theorem bounded_fresh (ht : t.Ordered) (hroom : Room most) : (fresh t).Bounded t most := by
  have hzero : value (zero : R) = 0 := LawfulRates.value_zero
  have hmost : (0 : ℚ) ≤ value most := le_trans (by norm_num [Count.maxNat]) hroom.windowRate_le
  constructor
  case allowed_finite => exact ht.maxRate_finite
  case minRate_le => exact ht.minRate_le_maxRate
  case allowed_le => exact le_rfl
  case measured_finite => exact LawfulRates.finite_zero
  case measured_nonneg => exact hzero.ge
  case measured_le => exact hzero.trans_le hmost

/-- A closed window has lasted half a second or more, so its rate is at most twice its sends. -/
theorem windowRate_between (hroom : Room most) {send : Instant}
    (hcloses : l.closesWindow send = true) :
    isFinite (l.windowRate send) = true ∧ 0 ≤ value (l.windowRate send)
      ∧ value (l.windowRate send) ≤ value most := by
  have hwindow := closesWindow_iff.mp hcloses
  obtain ⟨hseconds, hhalf⟩ := seconds_window (R := R) hwindow
  obtain ⟨hcount, hcount_value⟩ := ofCount_exact (R := R) l.sendsWith
  have hsends : (l.sendsWith.toNat : ℚ) ≤ Count.maxNat := by
    exact_mod_cast Count.toNat_le_maxNat l.sendsWith
  have hnonneg : (0 : ℚ) ≤ l.sendsWith.toNat := Nat.cast_nonneg _
  have hpos : 0 < value (seconds (l.intoWindow send) : R) := by linarith
  have hrounds : RoundsTo (l.windowRate send)
      (value (ofCount l.sendsWith : R) / value (seconds (l.intoWindow send) : R)) :=
    LawfulRates.div_rounds hcount hseconds hpos.ne'
  rw [hcount_value] at hrounds
  have hlow : value (zero : R)
      ≤ (l.sendsWith.toNat : ℚ) / value (seconds (l.intoWindow send) : R) := by
    rw [LawfulRates.value_zero]
    exact div_nonneg hnonneg hpos.le
  have hhigh : (l.sendsWith.toNat : ℚ) / value (seconds (l.intoWindow send) : R)
      ≤ value most := by
    rw [div_le_iff₀ hpos]
    have hmost := hroom.windowRate_le
    nlinarith
  obtain ⟨hfinite, hge, hle⟩ :=
    hrounds.between LawfulRates.finite_zero hroom.finite hlow hhigh
  rw [LawfulRates.value_zero] at hge
  exact ⟨hfinite, hge, hle⟩

/-- A weighted rate is rounded from its part of all the room or from less. -/
private theorem weighted_between {weight rate part : R} (hweight : isFinite weight = true)
    (hpart : isFinite part = true) (hparts : value part = value weight * value most)
    (hweight_nonneg : 0 ≤ value weight) (hrate : isFinite rate = true)
    (hrate_nonneg : 0 ≤ value rate) (hrate_le : value rate ≤ value most) :
    isFinite (mul weight rate) = true ∧ 0 ≤ value (mul weight rate)
      ∧ value (mul weight rate) ≤ value weight * value most := by
  have hzero : value (zero : R) ≤ value weight * value rate := by
    rw [LawfulRates.value_zero]
    exact mul_nonneg hweight_nonneg hrate_nonneg
  have hhigh : value weight * value rate ≤ value part := by
    rw [hparts]
    exact mul_le_mul_of_nonneg_left hrate_le hweight_nonneg
  obtain ⟨hfinite, hge, hle⟩ := (LawfulRates.mul_rounds hweight hrate).between
    LawfulRates.finite_zero hpart hzero hhigh
  rw [LawfulRates.value_zero] at hge
  rw [hparts] at hle
  exact ⟨hfinite, hge, hle⟩

/-- **Smoothing needs no more room than its windows do**: both weights together are one. -/
theorem smoothed_between (hroom : Room most) {rate : R} (hrate : isFinite rate = true)
    (hrate_nonneg : 0 ≤ value rate) (hrate_le : value rate ≤ value most)
    (hl : l.Bounded t most) :
    isFinite (l.smoothed rate) = true ∧ 0 ≤ value (l.smoothed rate)
      ∧ value (l.smoothed rate) ≤ value most := by
  obtain ⟨newest, hnewest, hnewest_eq⟩ := hroom.exists_newest
  obtain ⟨older, holder, holder_eq⟩ := hroom.exists_older
  obtain ⟨hweight_nonneg, hweight_le⟩ := newestWeight_between (R := R)
  obtain ⟨hrest, hrest_value⟩ := olderWeight_exact (R := R)
  obtain ⟨hfirst, hfirst_nonneg, hfirst_le⟩ := weighted_between LawfulRates.finite_newestWeight
    hnewest hnewest_eq hweight_nonneg hrate hrate_nonneg hrate_le
  obtain ⟨hsecond, hsecond_nonneg, hsecond_le⟩ := weighted_between hrest holder holder_eq
    (by linarith) hl.measured_finite hl.measured_nonneg hl.measured_le
  have hsum : value (newestWeight : R) * value most + value (olderWeight : R) * value most
      = value most := by
    rw [hrest_value, ← add_mul, add_sub_cancel, one_mul]
  have hlow : value (zero : R)
      ≤ value (mul newestWeight rate) + value (mul olderWeight l.measuredRate) := by
    rw [LawfulRates.value_zero]
    exact add_nonneg hfirst_nonneg hsecond_nonneg
  have hhigh : value (mul newestWeight rate) + value (mul olderWeight l.measuredRate)
      ≤ value most := by linarith
  obtain ⟨hfinite, hge, hle⟩ := (LawfulRates.add_rounds hfirst hsecond).between
    LawfulRates.finite_zero hroom.finite hlow hhigh
  rw [LawfulRates.value_zero] at hge
  exact ⟨hfinite, hge, hle⟩

namespace Bounded

omit [LawfulRates R] in
/-- Only the two rates matter. -/
theorem of_rates (hl : l.Bounded t most) {l' : Limiter R}
    (hallowed : l'.allowedRate = l.allowedRate)
    (hmeasured : l'.measuredRate = l.measuredRate) : l'.Bounded t most := by
  constructor
  case allowed_finite => exact hallowed ▸ hl.allowed_finite
  case minRate_le => exact hallowed ▸ hl.minRate_le
  case allowed_le => exact hallowed ▸ hl.allowed_le
  case measured_finite => exact hmeasured ▸ hl.measured_finite
  case measured_nonneg => exact hmeasured ▸ hl.measured_nonneg
  case measured_le => exact hmeasured ▸ hl.measured_le

theorem measure (hroom : Room most) (hl : l.Bounded t most) (send : Instant) :
    (l.measure send).Bounded t most := by
  unfold Limiter.measure
  split
  · rename_i hcloses
    obtain ⟨hrate, hrate_nonneg, hrate_le⟩ := windowRate_between hroom hcloses
    obtain ⟨hfinite, hnonneg, hle⟩ := smoothed_between hroom hrate hrate_nonneg hrate_le hl
    exact ⟨hl.allowed_finite, hl.minRate_le, hl.allowed_le, hfinite, hnonneg, hle⟩
  · exact hl.of_rates rfl rfl

/-- What a throttle starts from is positive and not above the allowed rate. -/
theorem throttledFrom_le (ht : t.Ordered) (hl : l.Bounded t most) :
    isFinite l.throttledFrom = true ∧ 0 < value l.throttledFrom
      ∧ value l.throttledFrom ≤ value l.allowedRate := by
  have hallowed : 0 < value l.allowedRate := ht.minRate_pos.trans_le hl.minRate_le
  unfold throttledFrom
  split
  · rename_i hmeasured
    rw [OrderedRates.lt_iff LawfulRates.finite_zero hl.measured_finite,
      LawfulRates.value_zero] at hmeasured
    obtain ⟨hfinite, hvalue⟩ := least_finite hl.measured_finite hl.allowed_finite
    rw [hvalue]
    exact ⟨hfinite, lt_min hmeasured hallowed, min_le_right _ _⟩
  · exact ⟨hl.allowed_finite, hallowed, le_rfl⟩

/-- **A throttle never raises the allowed rate**, and leaves it no lower than the least one: the
factor is below one, and the clamp from below cannot lift what was not below it. -/
theorem allowedRate_throttle (ht : t.Ordered) (hl : l.Bounded t most) (now : Instant) :
    isFinite (l.throttle t now).allowedRate = true
      ∧ value t.minRate ≤ value (l.throttle t now).allowedRate
      ∧ value (l.throttle t now).allowedRate ≤ value l.allowedRate := by
  obtain ⟨hfrom, hfrom_pos, hfrom_le⟩ := hl.throttledFrom_le ht
  have hzero : value (zero : R) ≤ value l.throttledFrom * value t.decreaseFactor := by
    rw [LawfulRates.value_zero]
    exact mul_nonneg hfrom_pos.le ht.decreaseFactor_pos.le
  have hhigh : value l.throttledFrom * value t.decreaseFactor ≤ value l.allowedRate :=
    (mul_le_of_le_one_right hfrom_pos.le ht.decreaseFactor_lt_one.le).trans hfrom_le
  obtain ⟨hfinite, _, hle⟩ := (LawfulRates.mul_rounds hfrom ht.decreaseFactor_finite).between
    LawfulRates.finite_zero hl.allowed_finite hzero hhigh
  obtain ⟨hgreatest, hvalue⟩ := greatest_finite hfinite ht.minRate_finite
  refine ⟨hgreatest, ?_, ?_⟩
  · exact hvalue.ge.trans' (le_max_right _ _)
  · exact hvalue.trans_le (max_le hle hl.minRate_le)

theorem throttle (ht : t.Ordered) (hl : l.Bounded t most) (now : Instant) :
    (l.throttle t now).Bounded t most := by
  obtain ⟨hfinite, hge, hle⟩ := hl.allowedRate_throttle ht now
  exact ⟨hfinite, hge, hle.trans hl.allowed_le, hl.measured_finite, hl.measured_nonneg,
    hl.measured_le⟩

/-- **A success never lowers the allowed rate**, and leaves it no higher than the greatest one: a
sum beyond all rates is cut back by the clamp from above. -/
theorem raised_between (ht : t.Ordered) (hl : l.Bounded t most) :
    isFinite (least (add l.allowedRate t.increaseStep) t.maxRate) = true
      ∧ value l.allowedRate ≤ value (least (add l.allowedRate t.increaseStep) t.maxRate)
      ∧ value (least (add l.allowedRate t.increaseStep) t.maxRate) ≤ value t.maxRate := by
  have hrounds := LawfulRates.add_rounds hl.allowed_finite ht.increaseStep_finite
  have hup : value l.allowedRate ≤ value l.allowedRate + value t.increaseStep :=
    le_add_of_nonneg_right ht.increaseStep_nonneg
  have hlow := (hrounds l.allowedRate hl.allowed_finite).1 hup
  -- the sum itself need not be finite, so only its order is used until it is compared
  unfold least
  split
  · rename_i hhigh
    have hfinite := OrderedRates.finite_between hl.allowed_finite ht.maxRate_finite hlow hhigh
    exact ⟨hfinite, (OrderedRates.le_iff hl.allowed_finite hfinite).mp hlow,
      (OrderedRates.le_iff hfinite ht.maxRate_finite).mp hhigh⟩
  · exact ⟨ht.maxRate_finite, hl.allowed_le, le_rfl⟩

theorem succeed (ht : t.Ordered) (hl : l.Bounded t most) (now : Instant) :
    (l.succeed t now).Bounded t most := by
  unfold Limiter.succeed
  split
  · obtain ⟨hfinite, hge, hle⟩ := hl.raised_between ht
    exact ⟨hfinite, hl.minRate_le.trans hge, hle, hl.measured_finite, hl.measured_nonneg,
      hl.measured_le⟩
  · exact hl

theorem reserve (hroom : Room most) (hl : l.Bounded t most) (now : Instant) :
    (l.reserve now).2.Bounded t most := by
  unfold Limiter.reserve
  split
  · have hnext : ∀ next, ({ l with nextSend := next } : Limiter R).Bounded t most :=
      fun _ => hl.of_rates rfl rfl
    exact (hnext _).measure hroom _
  · exact hl.measure hroom now

/-- **Every call keeps both rates within their bounds.** -/
theorem call (ht : t.Ordered) (hroom : Room most) (hl : l.Bounded t most) (now : Instant)
    (c : LimiterCall) : (l.call t now c).Bounded t most := by
  cases c with
  | send => exact hl.measure hroom now
  | throttle => exact hl.throttle ht now
  | succeed => exact hl.succeed ht now
  | reserve => exact hl.reserve hroom now

theorem callAll (ht : t.Ordered) (hroom : Room most) (hl : l.Bounded t most)
    (calls : List (Instant × LimiterCall)) : (l.callAll t calls).Bounded t most := by
  induction calls generalizing l with
  | nil => exact hl
  | cons entry rest ih => exact ih (hl.call ht hroom entry.1 entry.2)

end Bounded

end Limiter

/-! ## §3. The invariant. -/

variable {R : Type} [RateArithmetic R] [RateValue R]

/-- What holds of the rates of a limiter in one state, and of the divisors that its next call works
with. -/
structure RateInvariant (t : RateTerms R) (l : Limiter R) : Prop where
  allowed_within : le t.minRate l.allowedRate = true ∧ le l.allowedRate t.maxRate = true
  measured_finite : isFinite l.measuredRate = true
  measured_nonneg : le zero l.measuredRate = true
  /-- The sends of a window are divided by half a second or more, whichever send closes it. -/
  windowDivisor : ∀ send, l.closesWindow send = true →
    isFinite (seconds (l.intoWindow send) : R) = true
      ∧ 1 / 2 ≤ value (seconds (l.intoWindow send) : R)
  /-- The time between two slots is one second divided by a positive and finite rate. -/
  paceDivisor : isFinite l.allowedRate = true ∧ lt zero l.allowedRate = true

theorem Limiter.Bounded.rateInvariant [LawfulRates R] {t : RateTerms R} {most : R} {l : Limiter R}
    (ht : t.Ordered) (hl : l.Bounded t most) : RateInvariant t l := by
  constructor
  case allowed_within =>
    rw [OrderedRates.le_iff ht.minRate_finite hl.allowed_finite,
      OrderedRates.le_iff hl.allowed_finite ht.maxRate_finite]
    exact ⟨hl.minRate_le, hl.allowed_le⟩
  case measured_finite => exact hl.measured_finite
  case measured_nonneg =>
    rw [OrderedRates.le_iff LawfulRates.finite_zero hl.measured_finite, LawfulRates.value_zero]
    exact hl.measured_nonneg
  case windowDivisor =>
    intro send hcloses
    have hwindow := Limiter.closesWindow_iff.mp hcloses
    exact seconds_window hwindow
  case paceDivisor =>
    rw [OrderedRates.lt_iff LawfulRates.finite_zero hl.allowed_finite, LawfulRates.value_zero]
    exact ⟨hl.allowed_finite, ht.minRate_pos.trans_le hl.minRate_le⟩

/-- **THE RATES OF A LIMITER STAY WITHIN THEIR BOUNDS**, whatever it is called for and whenever,
from its first call on. -/
theorem rate_invariant [LawfulRates R] {t : RateTerms R} (hvalid : t.validate = .ok ())
    (calls : List (Instant × LimiterCall)) :
    RateInvariant t ((Limiter.fresh t).callAll t calls) := by
  obtain ⟨most, hroom⟩ := exists_room (R := R)
  have ht := RateTerms.ordered_of_valid hvalid
  have hfresh := Limiter.bounded_fresh ht hroom
  exact (hfresh.callAll ht hroom calls).rateInvariant ht

/-- The instant a number of milliseconds after the start of the time line. -/
def Instant.atMillis (ms : Nat) : Instant :=
  ⟨min (ms * nanosPerMilli) lastNanos, Nat.min_le_right _ _⟩

/-- Calls out of the order of time: five sends in a window of half a second, a throttle, a success
in the cooldown, a slot before all that, and a success after the cooldown. -/
def unorderedCalls : List (Instant × LimiterCall) :=
  [(.atMillis 1000, .send), (.atMillis 0, .send), (.atMillis 1000, .send), (.atMillis 1000, .send),
    (.atMillis 1500, .send), (.atMillis 2000, .throttle), (.atMillis 2500, .succeed),
    (.atMillis 0, .reserve), (.atMillis 3000, .succeed)]

/-- Ten sends per second count for four fifths, the throttle halves them, and one success adds
one. -/
theorem rate_invariant_unordered :
    RateTerms.default.validate = .ok ()
      ∧ (let l := (Limiter.fresh RateTerms.default).callAll .default unorderedCalls
        l.measuredRate = 8.0 ∧ l.allowedRate = 5.0 ∧ RateInvariant .default l) :=
  ⟨rfl, by decide +kernel, by decide +kernel, rate_invariant rfl unorderedCalls⟩

end RetryControl
