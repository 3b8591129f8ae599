/-
  RetryControl.Proofs.Rate.Laws
  ────────────────────────────────
  **WHAT RATE CONTROL ASKS OF ITS ARITHMETIC.**

  Rates are rounded numbers.  What is proved about them does not hang on how
  they are rounded, only on this: the order of finite rates is the order of
  the numbers they stand for, and a result lies on the same side of every
  finite rate as the exact result does.

    • `RoundsTo` — a result and the exact number that it was rounded from,
    • `OrderedRates` — the laws of order,
    • `LawfulRates` — these and the laws of the operations, one for each,
    • `RoundsTo.between` — a result between two finite rates is finite, and
      stays between them.

  So an infinite rate, or what is no number, can only come of an exact result
  that no finite rate bounds.
-/
import Mathlib.Algebra.Order.Field.Rat
import Mathlib.Tactic.Linarith
import Mathlib.Tactic.Ring
import RetryControl.Rate.Limiter

namespace RetryControl

open RateArithmetic

/-! ## §1. Exact numbers and rounded results. -/

/-- Rates that stand for numbers. -/
class RateValue (R : Type) where
  /-- The exact number that a finite rate stands for. -/
  value : R → ℚ

export RateValue (value)

variable {R : Type} [RateArithmetic R] [RateValue R]

/-- A result that is rounded from an exact number: it lies on the same side of every finite rate as
that number does. The rates that no number lies beyond, infinite ones, are results too. -/
def RoundsTo (result : R) (exact : ℚ) : Prop :=
  ∀ a : R, isFinite a = true →
    (value a ≤ exact → le a result = true) ∧ (exact ≤ value a → le result a = true)

/-- Finite rates in the order of their numbers, and nothing else between them. -/
class OrderedRates (R : Type) [RateArithmetic R] [RateValue R] : Prop where
  le_iff : ∀ {a b : R}, isFinite a = true → isFinite b = true →
    (le a b = true ↔ value a ≤ value b)
  lt_iff : ∀ {a b : R}, isFinite a = true → isFinite b = true →
    (lt a b = true ↔ value a < value b)
  /-- What lies between two finite rates is finite. -/
  finite_between : ∀ {a b x : R}, isFinite a = true → isFinite b = true → le a x = true →
    le x b = true → isFinite x = true
  le_of_lt : ∀ {a b : R}, lt a b = true → le a b = true

/-- The laws of an arithmetic of rates: order, enough finite rates, and rounded results. -/
class LawfulRates (R : Type) [RateArithmetic R] [RateValue R] : Prop extends OrderedRates R where
  /-- There is a rate for every short mantissa over a power of two that is not extreme. -/
  exists_rate : ∀ (n : ℕ) (e : ℤ), n < 2 ^ 53 → -60 ≤ e → e ≤ 60 →
    ∃ a : R, isFinite a = true ∧ value a = n * 2 ^ e
  finite_zero : isFinite (zero : R) = true
  value_zero : value (zero : R) = 0
  finite_one : isFinite (one : R) = true
  value_one : value (one : R) = 1
  finite_newestWeight : isFinite (newestWeight : R) = true
  /-- The weight of the newest window is a part of one that leaves an exact rest. -/
  exists_newestWeight : ∃ n : ℕ, 0 < n ∧ n < 2 ^ 53
    ∧ value (newestWeight : R) = n * 2 ^ (-53 : ℤ)
  add_rounds : ∀ {a b : R}, isFinite a = true → isFinite b = true →
    RoundsTo (add a b) (value a + value b)
  sub_rounds : ∀ {a b : R}, isFinite a = true → isFinite b = true →
    RoundsTo (sub a b) (value a - value b)
  mul_rounds : ∀ {a b : R}, isFinite a = true → isFinite b = true →
    RoundsTo (mul a b) (value a * value b)
  /-- Quotients by anything but zero are rounded. -/
  div_rounds : ∀ {a b : R}, isFinite a = true → isFinite b = true → value b ≠ 0 →
    RoundsTo (div a b) (value a / value b)
  ofCount_rounds : ∀ n : Count, RoundsTo (ofCount n : R) n.toNat
  /-- The seconds of a duration are its whole seconds plus the rest, each rounded on its own. -/
  seconds_parts : ∀ d : Duration, ∃ whole rest unit : R, RoundsTo whole d.wholeSeconds
    ∧ RoundsTo rest d.subsecondNanos ∧ RoundsTo unit nanosPerSecond
    ∧ seconds d = add whole (div rest unit)

/-! ## §2. Results between finite rates. -/

namespace RoundsTo

variable [OrderedRates R] {r a b : R} {v : ℚ}

/-- **Finite bounds of the exact number are bounds of the result**, which is finite then. -/
theorem between (h : RoundsTo r v) (ha : isFinite a = true) (hb : isFinite b = true)
    (hav : value a ≤ v) (hvb : v ≤ value b) :
    isFinite r = true ∧ value a ≤ value r ∧ value r ≤ value b := by
  have hlow : le a r = true := (h a ha).1 hav
  have hhigh : le r b = true := (h b hb).2 hvb
  have hr : isFinite r = true := OrderedRates.finite_between ha hb hlow hhigh
  exact ⟨hr, (OrderedRates.le_iff ha hr).mp hlow, (OrderedRates.le_iff hr hb).mp hhigh⟩

/-- An exact number that is a finite rate is not rounded at all. -/
theorem eq_of_value (h : RoundsTo r v) (ha : isFinite a = true) (hv : value a = v) :
    isFinite r = true ∧ value r = v := by
  obtain ⟨hr, hge, hle⟩ := h.between ha ha hv.le hv.ge
  exact ⟨hr, hv ▸ le_antisymm hle hge⟩

end RoundsTo

/-! ## §3. Comparing finite rates. -/

section Order

variable [OrderedRates R] {a b c : R}

theorem le_refl_of_finite (ha : isFinite a = true) : le a a = true :=
  (OrderedRates.le_iff ha ha).mpr le_rfl

theorem le_trans_of_finite (ha : isFinite a = true) (hb : isFinite b = true)
    (hc : isFinite c = true) (hab : le a b = true) (hbc : le b c = true) : le a c = true := by
  rw [OrderedRates.le_iff ha hb] at hab
  rw [OrderedRates.le_iff hb hc] at hbc
  exact (OrderedRates.le_iff ha hc).mpr (hab.trans hbc)

theorem lt_ne_of_le (ha : isFinite a = true) (hb : isFinite b = true) (hab : le a b = true) :
    lt b a ≠ true := by
  rw [OrderedRates.le_iff ha hb] at hab
  rw [Ne, OrderedRates.lt_iff hb ha]
  exact not_lt.mpr hab

theorem least_finite (ha : isFinite a = true) (hb : isFinite b = true) :
    isFinite (least a b) = true ∧ value (least a b) = min (value a) (value b) := by
  unfold least
  split
  · rename_i hle
    exact ⟨ha, (min_eq_left ((OrderedRates.le_iff ha hb).mp hle)).symm⟩
  · rename_i hle
    rw [OrderedRates.le_iff ha hb, not_le] at hle
    exact ⟨hb, (min_eq_right hle.le).symm⟩

theorem greatest_finite (ha : isFinite a = true) (hb : isFinite b = true) :
    isFinite (greatest a b) = true ∧ value (greatest a b) = max (value a) (value b) := by
  unfold greatest
  split
  · rename_i hle
    exact ⟨hb, (max_eq_right ((OrderedRates.le_iff ha hb).mp hle)).symm⟩
  · rename_i hle
    rw [OrderedRates.le_iff ha hb, not_le] at hle
    exact ⟨ha, (max_eq_left hle.le).symm⟩

end Order

/-! ## §4. Exact rates. -/

section Exact

variable [LawfulRates R]

/-- Every count is a finite rate. -/
theorem ofCount_exact (n : Count) :
    isFinite (ofCount n : R) = true ∧ value (ofCount n : R) = n.toNat := by
  have hshort : n.toNat < 2 ^ 53 := (UInt32.toNat_lt n).trans (by norm_num)
  obtain ⟨a, ha, hvalue⟩ := LawfulRates.exists_rate (R := R) n.toNat 0 hshort (by norm_num)
    (by norm_num)
  rw [zpow_zero, mul_one] at hvalue
  exact (LawfulRates.ofCount_rounds n).eq_of_value ha hvalue

theorem newestWeight_between :
    0 ≤ value (newestWeight : R) ∧ value (newestWeight : R) ≤ 1 := by
  obtain ⟨n, _, hn, hweight⟩ := LawfulRates.exists_newestWeight (R := R)
  have hn' : (n : ℚ) ≤ 2 ^ 53 := by exact_mod_cast hn.le
  have hpow : (2 : ℚ) ^ (-53 : ℤ) = 1 / 2 ^ 53 := by norm_num
  rw [hweight, hpow, mul_one_div, div_le_one₀ (by norm_num)]
  exact ⟨div_nonneg (Nat.cast_nonneg n) (by norm_num), hn'⟩

/-- The older windows have the rest of the weight, exactly. -/
theorem olderWeight_exact :
    isFinite (olderWeight : R) = true
      ∧ value (olderWeight : R) = 1 - value (newestWeight : R) := by
  obtain ⟨n, hpos, hn, hweight⟩ := LawfulRates.exists_newestWeight (R := R)
  obtain ⟨a, ha, hvalue⟩ := LawfulRates.exists_rate (R := R) (2 ^ 53 - n) (-53) (by omega)
    (by norm_num) (by norm_num)
  have hrounds := LawfulRates.sub_rounds (R := R) LawfulRates.finite_one
    LawfulRates.finite_newestWeight
  rw [LawfulRates.value_one] at hrounds
  -- the weight is a multiple of the last bit below one, so nothing is left to round
  refine hrounds.eq_of_value ha ?_
  rw [hvalue, hweight, Nat.cast_sub hn.le]
  norm_num
  ring

/-- Whole seconds stay within the range of durations when they are rounded, and at least one of
them stays at least one. -/
theorem whole_between {d : Duration} {whole : R} (hwhole : RoundsTo whole d.wholeSeconds) :
    isFinite whole = true ∧ 0 ≤ value whole ∧ value whole ≤ 2 ^ 64
      ∧ (1 ≤ d.wholeSeconds → 1 ≤ value whole) := by
  have hrange : d.wholeSeconds ≤ 2 ^ 64 := by
    have hd := d.nanos_le
    unfold longestNanos wordCount nanosPerSecond at hd
    unfold Duration.wholeSeconds nanosPerSecond
    omega
  obtain ⟨top, htop, htop_value⟩ := LawfulRates.exists_rate (R := R) 16 60 (by norm_num)
    (by norm_num) (by norm_num)
  have htop_eq : value top = 2 ^ 64 := by
    rw [htop_value]
    norm_num
  have hle : ((d.wholeSeconds : ℕ) : ℚ) ≤ value top := by
    rw [htop_eq]
    exact_mod_cast hrange
  have hzero : value (zero : R) = 0 := LawfulRates.value_zero
  obtain ⟨hfinite, hge, hhigh⟩ := hwhole.between LawfulRates.finite_zero htop
    (hzero.trans_le (Nat.cast_nonneg _)) hle
  refine ⟨hfinite, hzero.symm.trans_le hge, hhigh.trans_eq htop_eq, fun hone => ?_⟩
  have hone' : value (one : R) ≤ (d.wholeSeconds : ℕ) := by
    rw [LawfulRates.value_one]
    exact_mod_cast hone
  rw [← LawfulRates.value_one (R := R)]
  exact (hwhole.between LawfulRates.finite_one htop hone' hle).2.1

/-- The rest of a second, as a rounded quotient, is between nothing and one second, and half a
second or more stays so. -/
theorem rest_between {d : Duration} {rest unit : R} (hrest : RoundsTo rest d.subsecondNanos)
    (hunit : RoundsTo unit nanosPerSecond) :
    isFinite (div rest unit) = true ∧ 0 ≤ value (div rest unit) ∧ value (div rest unit) ≤ 1
      ∧ (nanosPerSecond ≤ 2 * d.subsecondNanos → 1 / 2 ≤ value (div rest unit)) := by
  have hlt : d.subsecondNanos < nanosPerSecond := Nat.mod_lt _ (by decide)
  obtain ⟨a, ha, ha_value⟩ := LawfulRates.exists_rate (R := R) d.subsecondNanos 0
    (hlt.trans (by norm_num [nanosPerSecond])) (by norm_num) (by norm_num)
  obtain ⟨b, hb, hb_value⟩ := LawfulRates.exists_rate (R := R) nanosPerSecond 0
    (by norm_num [nanosPerSecond]) (by norm_num) (by norm_num)
  obtain ⟨half, hhalf, hhalf_value⟩ := LawfulRates.exists_rate (R := R) 1 (-1) (by norm_num)
    (by norm_num) (by norm_num)
  rw [zpow_zero, mul_one] at ha_value hb_value
  obtain ⟨hrest_finite, hrest_value⟩ := hrest.eq_of_value ha ha_value
  obtain ⟨hunit_finite, hunit_value⟩ := hunit.eq_of_value hb hb_value
  have hpos : (0 : ℚ) < nanosPerSecond := by norm_num [nanosPerSecond]
  have hunit_nonzero : value unit ≠ 0 := by
    rw [hunit_value]
    exact hpos.ne'
  have hrounds := LawfulRates.div_rounds hrest_finite hunit_finite hunit_nonzero
  rw [hrest_value, hunit_value] at hrounds
  have hzero : value (zero : R) = 0 := LawfulRates.value_zero
  have hone : value (one : R) = 1 := LawfulRates.value_one
  have hlow : value (zero : R) ≤ (d.subsecondNanos : ℚ) / nanosPerSecond := by
    rw [hzero]
    exact div_nonneg (Nat.cast_nonneg _) hpos.le
  have hhigh : (d.subsecondNanos : ℚ) / nanosPerSecond ≤ value (one : R) := by
    rw [hone, div_le_iff₀ hpos, one_mul]
    exact_mod_cast hlt.le
  obtain ⟨hfinite, hge, hle⟩ := hrounds.between LawfulRates.finite_zero LawfulRates.finite_one
    hlow hhigh
  refine ⟨hfinite, hzero.symm.trans_le hge, hle.trans_eq hone, fun hlong => ?_⟩
  have hhalf_eq : value half = 1 / 2 := by
    rw [hhalf_value]
    norm_num
  have hlong' : value half ≤ (d.subsecondNanos : ℚ) / nanosPerSecond := by
    have hcast : (nanosPerSecond : ℚ) ≤ 2 * d.subsecondNanos := by exact_mod_cast hlong
    rw [hhalf_eq, le_div_iff₀ hpos]
    linarith
  rw [← hhalf_eq]
  exact (hrounds.between hhalf LawfulRates.finite_one hlong' hhigh).2.1

/-- **A duration that closes a measuring window is at least half a second long, as a rate too.**
Either it has a whole second, or the rest alone is half a second or more. -/
theorem seconds_window {d : Duration} (hd : measuringWindow ≤ d) :
    isFinite (seconds d : R) = true ∧ 1 / 2 ≤ value (seconds d : R) := by
  obtain ⟨whole, rest, unit, hwhole, hrest, hunit, hseconds⟩ :=
    LawfulRates.seconds_parts (R := R) d
  obtain ⟨hwhole_finite, hwhole_nonneg, hwhole_le, hwhole_one⟩ := whole_between hwhole
  obtain ⟨hrest_finite, hrest_nonneg, hrest_le, hrest_half⟩ := rest_between hrest hunit
  have hparts : 1 ≤ d.wholeSeconds ∨ nanosPerSecond ≤ 2 * d.subsecondNanos := by
    have hwindow : 500000000 ≤ d.nanos := hd
    unfold Duration.wholeSeconds Duration.subsecondNanos nanosPerSecond
    omega
  have hsum : 1 / 2 ≤ value whole + value (div rest unit) := by
    rcases hparts with hone | hhalf
    · have hge := hwhole_one hone
      linarith
    · have hge := hrest_half hhalf
      linarith
  obtain ⟨half, hhalf, hhalf_value⟩ := LawfulRates.exists_rate (R := R) 1 (-1) (by norm_num)
    (by norm_num) (by norm_num)
  obtain ⟨top, htop, htop_value⟩ := LawfulRates.exists_rate (R := R) 32 60 (by norm_num)
    (by norm_num) (by norm_num)
  have hhalf_eq : value half = 1 / 2 := by
    rw [hhalf_value]
    norm_num
  have htop_le : value whole + value (div rest unit) ≤ value top := by
    rw [htop_value]
    norm_num at hwhole_le ⊢
    linarith
  rw [hseconds, ← hhalf_eq]
  obtain ⟨hfinite, hge, _⟩ := (LawfulRates.add_rounds hwhole_finite hrest_finite).between hhalf htop
    (hhalf_eq.trans_le hsum) htop_le
  exact ⟨hfinite, hge⟩

/-- A finite rate with room below it for the rate of the fullest window, and for the parts that the
newest window and the older ones have in a smoothed rate. -/
structure Room (most : R) : Prop where
  finite : isFinite most = true
  /-- The fullest window, closed after half a second, has no greater rate. -/
  windowRate_le : (2 * Count.maxNat : ℚ) ≤ value most
  /-- The part of the newest window is a rate. -/
  exists_newest : ∃ newest : R, isFinite newest = true
    ∧ value newest = value (newestWeight : R) * value most
  /-- The part of the older windows is a rate. -/
  exists_older : ∃ older : R, isFinite older = true
    ∧ value older = value (olderWeight : R) * value most

theorem exists_room : ∃ most : R, Room most := by
  obtain ⟨n, hpos, hn, hweight⟩ := LawfulRates.exists_newestWeight (R := R)
  obtain ⟨most, hmost, hmost_value⟩ := LawfulRates.exists_rate (R := R) 1 33 (by norm_num)
    (by norm_num) (by norm_num)
  obtain ⟨newest, hnewest, hnewest_value⟩ := LawfulRates.exists_rate (R := R) n (-20) hn
    (by norm_num) (by norm_num)
  obtain ⟨older, holder, holder_value⟩ := LawfulRates.exists_rate (R := R) (2 ^ 53 - n) (-20)
    (by omega) (by norm_num) (by norm_num)
  -- any power of two will do that is great enough: its parts keep the mantissas of the weights
  refine ⟨most, hmost, ?_, ⟨newest, hnewest, ?_⟩, ⟨older, holder, ?_⟩⟩
  · rw [hmost_value]
    norm_num [Count.maxNat]
  · rw [hnewest_value, hmost_value, hweight]
    norm_num
    ring
  · rw [holder_value, hmost_value, olderWeight_exact.2, hweight, Nat.cast_sub hn.le]
    norm_num
    ring

end Exact

/-! ## §5. Valid terms. -/

/-- What valid terms of rate control say in numbers. -/
structure RateTerms.Ordered (t : RateTerms R) : Prop where
  minRate_finite : isFinite t.minRate = true
  maxRate_finite : isFinite t.maxRate = true
  decreaseFactor_finite : isFinite t.decreaseFactor = true
  increaseStep_finite : isFinite t.increaseStep = true
  minRate_pos : 0 < value t.minRate
  minRate_le_maxRate : value t.minRate ≤ value t.maxRate
  decreaseFactor_lt_one : value t.decreaseFactor < 1
  decreaseFactor_pos : 0 < value t.decreaseFactor
  increaseStep_nonneg : 0 ≤ value t.increaseStep

theorem RateTerms.ordered_of_valid [LawfulRates R] {t : RateTerms R}
    (hvalid : t.validate = .ok ()) : t.Ordered := by
  have hzero : isFinite (zero : R) = true := LawfulRates.finite_zero
  have hone : isFinite (one : R) = true := LawfulRates.finite_one
  unfold validate at hvalid
  split at hvalid
  · cases hvalid
  rename_i hmin
  split at hvalid
  · cases hvalid
  rename_i hmax
  split at hvalid
  · cases hvalid
  rename_i hfactor
  split at hvalid
  · cases hvalid
  rename_i hstep
  simp only [Bool.not_eq_true', Bool.not_eq_false, Bool.and_eq_true] at hmin hmax hfactor hstep
  have hfactor_finite := OrderedRates.finite_between hzero hone
    (OrderedRates.le_of_lt hfactor.1) (OrderedRates.le_of_lt hfactor.2)
  have hpos := (OrderedRates.lt_iff hzero hmin.1).mp hmin.2
  have hfactor_pos := (OrderedRates.lt_iff hzero hfactor_finite).mp hfactor.1
  have hfactor_lt := (OrderedRates.lt_iff hfactor_finite hone).mp hfactor.2
  have hstep_nonneg := (OrderedRates.le_iff hzero hstep.1).mp hstep.2
  rw [LawfulRates.value_zero] at hpos hfactor_pos hstep_nonneg
  rw [LawfulRates.value_one] at hfactor_lt
  constructor
  case minRate_finite => exact hmin.1
  case maxRate_finite => exact hmax.1
  case decreaseFactor_finite => exact hfactor_finite
  case increaseStep_finite => exact hstep.1
  case minRate_pos => exact hpos
  case minRate_le_maxRate => exact (OrderedRates.le_iff hmin.1 hmax.1).mp hmax.2
  case decreaseFactor_lt_one => exact hfactor_lt
  case decreaseFactor_pos => exact hfactor_pos
  case increaseStep_nonneg => exact hstep_nonneg

end RetryControl
