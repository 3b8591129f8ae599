/-
  RetryControl.Proofs.Binary64.Rates
  ────────────────────────────────
  **BINARY64 NUMBERS ARE LAWFUL RATES.**

  The arithmetic that rate control runs with obeys every law that its proofs
  ask for.  The laws about operations come from rounding, the laws about order
  from canonical words, and the few constants are computed:

    • `roundsTo_pack` — a packed rounded number is rounded as a rate,
    • `finite_of_between` — what lies between finite rates is finite,
    • `exists_rate` — every short mantissa has a rate,
    • `roundsTo_ofNat` — whole numbers of any size are rounded, and those
      below `2 ^ 53` are converted exactly (`toUInt64_exact`),
    • the instance `LawfulRates Float`.
-/
import RetryControl.Proofs.Binary64.Words
import RetryControl.Proofs.Rate.Laws

namespace RetryControl

open Float.Model Float.Model.UnpackedFloat RateArithmetic Binary64

/-- A binary64 rate stands for what its word does. -/
instance : RateValue Float where
  value x := rational x.toModel.unpack

namespace Binary64

/-! ## §1. Order and rounding of words. -/

theorem rate_le_iff {a b : Float} :
    le a b = true ↔ a.toModel.unpack.le b.toModel.unpack = true := by
  show decide (a ≤ b) = true ↔ _
  rw [decide_eq_true_iff]
  exact decide_eq_true_iff

theorem rate_lt_iff {a b : Float} :
    lt a b = true ↔ a.toModel.unpack.lt b.toModel.unpack = true := by
  show decide (a < b) = true ↔ _
  rw [decide_eq_true_iff]
  exact decide_eq_true_iff

theorem canonical (x : Float) : Canonical x.toModel.unpack := (shape_unpack x.toModel).1

/-- **A packed rounded number is a rounded rate.** -/
theorem roundsTo_pack {u : UnpackedFloat} {v : ℚ} (hu : Rounded u v) :
    RoundsTo (Float.ofModel (Float.Model.pack u)) v := by
  intro a ha
  obtain ⟨hcanonical, hrange⟩ := shape_unpack a.toModel
  rw [rate_le_iff, rate_le_iff]
  exact pack_sides hu ha hcanonical hrange

theorem rate_le_iff_value {a b : Float} (ha : isFinite a = true) (hb : isFinite b = true) :
    le a b = true ↔ value a ≤ value b :=
  rate_le_iff.trans (le_iff_rational ha hb (canonical a) (canonical b))

theorem rate_lt_iff_value {a b : Float} (ha : isFinite a = true) (hb : isFinite b = true) :
    lt a b = true ↔ value a < value b :=
  rate_lt_iff.trans (lt_iff_rational ha hb (canonical a) (canonical b))

/-- Infinities lie beyond all finite rates, and what is no number beside all rates. -/
theorem finite_of_between {a b x : Float} (ha : isFinite a = true) (hb : isFinite b = true)
    (hax : le a x = true) (hxb : le x b = true) : isFinite x = true := by
  rw [rate_le_iff] at hax hxb
  show x.toModel.unpack.isFinite = true
  have ha' : a.toModel.unpack.isFinite = true := ha
  have hb' : b.toModel.unpack.isFinite = true := hb
  revert hax hxb ha' hb'
  generalize a.toModel.unpack = u
  generalize b.toModel.unpack = w
  cases x.toModel.unpack with
  | zero s => exact fun _ _ _ _ => rfl
  | finite s m e hm => exact fun _ _ _ _ => rfl
  | notANumber =>
      intro hax
      cases u <;> cases hax
  | infinity s =>
      intro hax hxb ha' hb'
      cases s with
      | negative => cases u <;> first | cases hax | cases ha'
      | positive => cases w <;> first | cases hxb | cases hb'

theorem le_of_lt {a b : Float} (h : lt a b = true) : le a b = true := by
  rw [rate_lt_iff] at h
  rw [rate_le_iff]
  unfold UnpackedFloat.lt at h
  unfold UnpackedFloat.le
  rw [beq_iff_eq] at h
  rw [h]
  rfl

instance : OrderedRates Float where
  le_iff := rate_le_iff_value
  lt_iff := rate_lt_iff_value
  finite_between := finite_of_between
  le_of_lt := le_of_lt

/-- A finite rate is rounded from what it stands for. -/
theorem roundsTo_value {a : Float} (ha : isFinite a = true) : RoundsTo a (value a) := fun _ hb =>
  ⟨(rate_le_iff_value hb ha).mpr, (rate_le_iff_value ha hb).mpr⟩

/-! ## §2. Operations. -/

section Operations

variable {a b : Float}

theorem add_rounds (ha : isFinite a = true) (hb : isFinite b = true) :
    RoundsTo (add a b) (value a + value b) :=
  roundsTo_pack (rounded_add ha hb (canonical a) (canonical b))

theorem sub_rounds (ha : isFinite a = true) (hb : isFinite b = true) :
    RoundsTo (sub a b) (value a - value b) :=
  roundsTo_pack (rounded_sub ha hb (canonical a) (canonical b))

theorem mul_rounds (ha : isFinite a = true) (hb : isFinite b = true) :
    RoundsTo (mul a b) (value a * value b) :=
  roundsTo_pack (rounded_mul ha hb (canonical a) (canonical b))

theorem div_rounds (ha : isFinite a = true) (hb : isFinite b = true) (hnonzero : value b ≠ 0) :
    RoundsTo (div a b) (value a / value b) :=
  roundsTo_pack (rounded_div ha hb hnonzero)

end Operations

/-! ## §3. Whole numbers and durations. -/

/-- What needs no rounding is a finite rate. -/
theorem pack_exact {u : UnpackedFloat} {m : ℕ} {e : ℤ} (hm : m < 2 ^ 53) (hmin : -1074 ≤ e)
    (hmax : e ≤ 971) (hu : Rounded u (m * 2 ^ e)) :
    isFinite (Float.ofModel (Float.Model.pack u)) = true
      ∧ value (Float.ofModel (Float.Model.pack u)) = m * 2 ^ e := by
  obtain ⟨hword, hexact⟩ := unpack_pack_exact hm hmin hmax hu
  constructor
  · show (Float.Model.pack u).unpack.isFinite = true
    rw [hword]
    exact hu.finite
  · show rational (Float.Model.pack u).unpack = _
    rw [hword]
    exact hexact

/-- There is a rate for every short mantissa. -/
theorem exists_rate (n : ℕ) (e : ℤ) (hn : n < 2 ^ 53) (hmin : -60 ≤ e) (hmax : e ≤ 60) :
    ∃ a : Float, isFinite a = true ∧ value a = n * 2 ^ e :=
  ⟨_, pack_exact hn (by omega) (by omega) (rounded_normalize n e .positive)⟩

/-- A short whole number is converted as a word and then scaled by one. -/
theorem toFloat_of_short {n : ℕ} (hn : n < 2 ^ 53) :
    n.toFloat = mul n.toUInt64.toFloat (Float.ofBits 0x3FF0000000000000) := by
  show Float.ofScientific n false 0 = _
  unfold Float.ofScientific
  rw [dif_pos ⟨hn, by norm_num⟩]
  rfl

/-- A longer one is rounded from all its digits. -/
theorem toFloat_of_long {n : ℕ} (hn : ¬n < 2 ^ 53) :
    n.toFloat = .ofModel (Float.Model.pack (UnpackedFloat.ofScientific .binary64 n 0)) := by
  show Float.ofScientific n false 0 = _
  unfold Float.ofScientific
  rw [dif_neg fun h => hn h.1]
  rfl

theorem toUInt64_exact {n : ℕ} (hn : n < 2 ^ 53) :
    isFinite n.toUInt64.toFloat = true ∧ value n.toUInt64.toFloat = n := by
  have hword : n.toUInt64.toNat = n := Nat.mod_eq_of_lt (hn.trans (by norm_num))
  have hfloat : n.toUInt64.toFloat
      = .ofModel (Float.Model.pack (UnpackedFloat.ofNat .binary64 n)) := by
    show Float.ofModel (Float.Model.pack (UnpackedFloat.ofNat .binary64 n.toUInt64.toNat)) = _
    rw [hword]
  have hone : (n : ℚ) = n * 2 ^ (0 : ℤ) := by rw [zpow_zero, mul_one]
  have hround := rounded_ofNat n
  rw [hone] at hround ⊢
  rw [hfloat]
  exact pack_exact hn (by norm_num) (by norm_num) hround

/-- **Whole numbers are rounded**, of whatever size. -/
theorem roundsTo_ofNat (n : ℕ) : RoundsTo n.toFloat n := by
  by_cases hn : n < 2 ^ 53
  · obtain ⟨hfinite, hvalue⟩ := toUInt64_exact hn
    have hone : value (Float.ofBits 0x3FF0000000000000) = 1 := by
      show rational (.finite .positive (2 ^ 52) (-52) (by decide)) = 1
      norm_num [rational, signed]
    have hmul := mul_rounds (b := Float.ofBits 0x3FF0000000000000) hfinite rfl
    rw [hvalue, hone, mul_one] at hmul
    rw [toFloat_of_short hn]
    exact hmul
  · rw [toFloat_of_long hn]
    exact roundsTo_pack (rounded_ofScientific (by omega))

/-- The nanoseconds of a second, as they are written in the conversion of durations. -/
theorem value_nanosPerSecond : value (1e9 : Float) = nanosPerSecond := by
  show rational (.finite .positive 8388608000000000 (-23) (by decide)) = _
  norm_num [rational, signed, nanosPerSecond]

end Binary64

/-! ## §4. The laws. -/

open Binary64 in
instance : LawfulRates Float where
  exists_rate := exists_rate
  finite_zero := rfl
  value_zero := rfl
  finite_one := rfl
  value_one := by
    show rational (.finite .positive (2 ^ 52) (-52) (by decide)) = 1
    norm_num [rational, signed]
  finite_newestWeight := rfl
  exists_newestWeight := ⟨7205759403792794, by norm_num, by norm_num, rfl⟩
  add_rounds := add_rounds
  sub_rounds := sub_rounds
  mul_rounds := mul_rounds
  div_rounds := div_rounds
  ofCount_rounds n := roundsTo_ofNat n.toNat
  seconds_parts d := by
    refine ⟨_, _, _, roundsTo_ofNat d.wholeSeconds, roundsTo_ofNat d.subsecondNanos, ?_, rfl⟩
    rw [← value_nanosPerSecond]
    exact roundsTo_value rfl

end RetryControl
