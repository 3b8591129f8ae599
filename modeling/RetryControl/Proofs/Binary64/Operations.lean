/-
  RetryControl.Proofs.Binary64.Operations
  ────────────────────────────────
  **RESULTS OF OPERATIONS ARE ROUNDED.**

  Each operation on unpacked numbers works out a mantissa and a power of two
  that stand for the exact result, or for the whole part of it with a note on
  the rest, and then rounds once.  So each of them gives a canonical number on
  the same side of the grid as the exact result:

    • `rounded_add`, `rounded_sub`, `rounded_mul`, `rounded_div` — for finite
      operands in canonical form,
    • `rounded_ofNat` — for whole numbers.
-/
import RetryControl.Proofs.Binary64.Rounding

namespace RetryControl.Binary64

open Float.Model Float.Model.UnpackedFloat

/-! ## §1. Signs. -/

theorem signed_mul (s₁ s₂ : Sign) (x y : ℚ) :
    signed (s₁ * s₂) (x * y) = signed s₁ x * signed s₂ y := by
  cases s₁ <;> cases s₂
  · exact (neg_mul_neg x y).symm
  · exact (neg_mul x y).symm
  · exact (mul_neg x y).symm
  · rfl

theorem signed_div (s₁ s₂ : Sign) (x y : ℚ) :
    signed (s₁ / s₂) (x / y) = signed s₁ x / signed s₂ y := by
  cases s₁ <;> cases s₂
  · exact (neg_div_neg_eq x y).symm
  · exact (neg_div y x).symm
  · exact (div_neg x).symm
  · rfl

theorem cast_apply (s : Sign) (n : ℤ) : ((s.apply n : ℤ) : ℚ) = signed s n := by
  cases s with
  | negative => exact Int.cast_neg n
  | positive => rfl

/-! ## §2. Rounding whole mantissas. -/

theorem log2_shiftLeft {m : ℕ} (hm : 0 < m) (k : ℕ) : (m <<< k).log2 = m.log2 + k := by
  have hpos : m <<< k ≠ 0 := (Nat.shiftLeft_pos_iff.mpr hm).ne'
  rw [Nat.log2_eq_iff hpos, Nat.shiftLeft_eq, pow_add,
    show m.log2 + k + 1 = m.log2 + 1 + k by omega, pow_add]
  exact ⟨Nat.mul_le_mul_right _ (Nat.log2_self_le hm.ne'),
    Nat.mul_lt_mul_of_pos_right Nat.lt_log2_self (by positivity)⟩

/-- A longer mantissa over a smaller power of two is the same number. -/
theorem shiftLeft_mul_two_zpow (m k : ℕ) (e : ℤ) :
    ((m <<< k : ℕ) : ℚ) * 2 ^ (e - k) = m * 2 ^ e := by
  have hpow : (2 : ℚ) ^ k ≠ 0 := by positivity
  rw [Nat.shiftLeft_eq, Nat.cast_mul, Nat.cast_pow, Nat.cast_ofNat, zpow_sub₀ (by norm_num),
    zpow_natCast, mul_assoc, mul_div_cancel₀ _ hpow]

theorem rounded_round (s : Sign) {m : ℕ} (hm : 0 < m) (e : ℤ) :
    Rounded (UnpackedFloat.round .binary64 s m e) (signed s (m * 2 ^ e)) := by
  unfold UnpackedFloat.round decreaseExponent
  dsimp only
  rw [targetExponent_eq, ← shiftLeft_mul_two_zpow m (e - max ((m.log2 : ℤ) + e - 52) (-1074)).toNat]
  refine rounded_roundWithAccuracy s ?_ (.ofExact _)
  unfold Fine
  rw [log2_shiftLeft hm]
  omega

theorem rounded_normalize (m e : ℤ) (s : Sign) :
    Rounded (UnpackedFloat.normalize .binary64 m e s) (m * 2 ^ e) := by
  unfold UnpackedFloat.normalize
  rcases lt_trichotomy m 0 with hneg | rfl | hpos
  · rw [Int.compare_eq_lt.mpr hneg]
    have hround := rounded_round .negative (m := (-m).toNat) (by omega) e
    have hcast : (((-m).toNat : ℕ) : ℚ) = -m := by exact_mod_cast Int.toNat_of_nonneg (by omega)
    rw [hcast] at hround
    simpa [signed] using hround
  · rw [Int.cast_zero, zero_mul]
    exact ⟨rfl, trivial, .refl 0⟩
  · rw [Int.compare_eq_gt.mpr hpos]
    have hround := rounded_round .positive (m := m.toNat) (by omega) e
    have hcast : ((m.toNat : ℕ) : ℚ) = m := by exact_mod_cast Int.toNat_of_nonneg hpos.le
    rw [hcast] at hround
    exact hround

/-- Whole numbers are rounded. -/
theorem rounded_ofNat (n : ℕ) : Rounded (UnpackedFloat.ofNat .binary64 n) n := by
  have hround := rounded_normalize n 0 .positive
  rw [zpow_zero, mul_one] at hround
  exact hround

theorem ofScientific_eq {n : ℕ} (hn : 0 < n) :
    UnpackedFloat.ofScientific .binary64 n 0
      = roundWithAccuracy .binary64 .positive (n <<< 53) (-53) .exact := by
  have hsmall : ¬(0 : ℤ) < -((2 ^ 11 : ℤ) + n.log2) := by omega
  unfold UnpackedFloat.ofScientific
  rw [dif_neg hn.ne', if_neg (by decide), if_neg hsmall, if_pos le_rfl]
  show roundWithAccuracy .binary64 .positive ((n <<< 53) * 1) (-53 + 0) .exact = _
  rw [mul_one, add_zero]

/-- A whole number of any size, as a mantissa that is long enough to be cut off only. -/
theorem rounded_ofScientific {n : ℕ} (hn : 0 < n) :
    Rounded (UnpackedFloat.ofScientific .binary64 n 0) n := by
  have hlong : Fine (n <<< 53) (-53) := by
    unfold Fine
    rw [log2_shiftLeft hn]
    omega
  have hvalue := shiftLeft_mul_two_zpow n 53 0
  rw [zpow_zero, mul_one, show (0 : ℤ) - (53 : ℕ) = -53 by norm_num] at hvalue
  have hround := rounded_roundWithAccuracy .positive hlong (.ofExact _)
  rw [hvalue] at hround
  rw [ofScientific_eq hn]
  exact hround

/-! ## §3. Operations on finite numbers. -/

section Operations

variable {u₁ u₂ : UnpackedFloat}

theorem Rounded.self (hfinite : u₁.isFinite = true) (hu : Canonical u₁) :
    Rounded u₁ (rational u₁) :=
  ⟨hfinite, hu, .refl _⟩

/-- A mantissa brought to a smaller power of two, with its sign. -/
theorem apply_decreaseExponent (s : Sign) (m : ℕ) {e t : ℤ} (ht : t ≤ e) :
    ((s.apply (decreaseExponent m e t).1 : ℤ) : ℚ) * 2 ^ t = signed s (m * 2 ^ e) := by
  have hvalue := shiftLeft_mul_two_zpow m (e - t).toNat e
  rw [show e - ((e - t).toNat : ℤ) = t by omega] at hvalue
  rw [cast_apply, ← hvalue]
  cases s with
  | negative => exact neg_mul _ _
  | positive => rfl

/-- **Sums are rounded.** -/
theorem rounded_add (h₁ : u₁.isFinite = true) (h₂ : u₂.isFinite = true) (hu₁ : Canonical u₁)
    (hu₂ : Canonical u₂) : Rounded (add .binary64 u₁ u₂) (rational u₁ + rational u₂) := by
  cases u₁ with
  | infinity s => cases h₁
  | notANumber => cases h₁
  | zero s₁ =>
      cases u₂ with
      | infinity s => cases h₂
      | notANumber => cases h₂
      | zero s₂ =>
          rw [show rational (.zero s₁) + rational (.zero s₂) = 0 from add_zero 0]
          cases s₁ <;> cases s₂ <;> exact ⟨rfl, trivial, .refl 0⟩
      | finite s₂ m₂ e₂ hm₂ =>
          rw [show rational (.zero s₁) = 0 from rfl, zero_add]
          exact .self h₂ hu₂
  | finite s₁ m₁ e₁ hm₁ =>
      cases u₂ with
      | infinity s => cases h₂
      | notANumber => cases h₂
      | zero s₂ =>
          rw [show rational (.zero s₂) = 0 from rfl, add_zero]
          exact .self h₁ hu₁
      | finite s₂ m₂ e₂ hm₂ =>
          have hround := rounded_normalize
            (s₁.apply (decreaseExponent m₁ e₁ (min e₁ e₂)).1
              + s₂.apply (decreaseExponent m₂ e₂ (min e₁ e₂)).1) (min e₁ e₂) .positive
          rw [Int.cast_add, add_mul, apply_decreaseExponent s₁ m₁ (min_le_left e₁ e₂),
            apply_decreaseExponent s₂ m₂ (min_le_right e₁ e₂)] at hround
          exact hround

theorem rational_neg (u : UnpackedFloat) : rational u.neg = -rational u := by
  cases u with
  | infinity s => exact neg_zero.symm
  | notANumber => exact neg_zero.symm
  | zero s => exact neg_zero.symm
  | finite s m e hm =>
      cases s with
      | negative => exact (neg_neg _).symm
      | positive => rfl

theorem canonical_neg {u : UnpackedFloat} (hu : Canonical u) : Canonical u.neg := by
  cases u <;> exact hu

theorem isFinite_neg (u : UnpackedFloat) : u.neg.isFinite = u.isFinite := by
  cases u <;> rfl

/-- A difference is worked out as the sum with the other sign, zeros and infinities included. -/
theorem sub_eq_add_negated (u₁ u₂ : UnpackedFloat) :
    sub .binary64 u₁ u₂ = add .binary64 u₁ u₂.neg := by
  have happly : ∀ (s : Sign) (n : ℤ), (-s).apply n = -s.apply n := by
    intro s n
    cases s with
    | negative => exact (neg_neg n).symm
    | positive => rfl
  cases u₁ with
  | infinity s₁ => cases u₂ <;> rfl
  | notANumber => cases u₂ <;> rfl
  | zero s₁ => cases u₂ <;> rfl
  | finite s₁ m₁ e₁ hm₁ =>
      cases u₂ with
      | infinity s₂ => rfl
      | notANumber => rfl
      | zero s₂ => rfl
      | finite s₂ m₂ e₂ hm₂ =>
          show UnpackedFloat.normalize .binary64 (_ - _) _ _
            = UnpackedFloat.normalize .binary64 (_ + _) _ _
          rw [happly, sub_eq_add_neg]

/-- **Differences are rounded.** -/
theorem rounded_sub (h₁ : u₁.isFinite = true) (h₂ : u₂.isFinite = true) (hu₁ : Canonical u₁)
    (hu₂ : Canonical u₂) : Rounded (sub .binary64 u₁ u₂) (rational u₁ - rational u₂) := by
  rw [sub_eq_add_negated, sub_eq_add_neg, ← rational_neg]
  exact rounded_add h₁ ((isFinite_neg u₂).trans h₂) hu₁ (canonical_neg hu₂)

/-- A product of two canonical mantissas has all the bits it needs. -/
theorem fine_mul {m₁ m₂ : ℕ} {e₁ e₂ : ℤ} (hm₁ : 0 < m₁) (hm₂ : 0 < m₂)
    (h₁ : 2 ^ 52 ≤ m₁ ∨ e₁ = -1074) (h₂ : 2 ^ 52 ≤ m₂ ∨ e₂ = -1074) :
    Fine (m₁ * m₂) (e₁ + e₂) := by
  unfold Fine
  rw [Nat.le_log2 (Nat.mul_pos hm₁ hm₂).ne']
  rcases h₁ with hlong | hmin
  · exact .inl (hlong.trans (Nat.le_mul_of_pos_right m₁ hm₂))
  · rcases h₂ with hlong' | hmin'
    · exact .inl (hlong'.trans (Nat.le_mul_of_pos_left m₂ hm₁))
    · exact .inr (by omega)

/-- **Products are rounded.** -/
theorem rounded_mul (h₁ : u₁.isFinite = true) (h₂ : u₂.isFinite = true) (hu₁ : Canonical u₁)
    (hu₂ : Canonical u₂) : Rounded (mul .binary64 u₁ u₂) (rational u₁ * rational u₂) := by
  have hzero : ∀ s, Rounded (.zero s) 0 := fun s => ⟨rfl, trivial, .refl _⟩
  cases u₁ with
  | infinity s => cases h₁
  | notANumber => cases h₁
  | zero s₁ =>
      rw [show rational (.zero s₁) = 0 from rfl, zero_mul]
      cases u₂ with
      | infinity s => cases h₂
      | notANumber => cases h₂
      | zero s₂ => exact hzero _
      | finite s₂ m₂ e₂ hm₂ => exact hzero _
  | finite s₁ m₁ e₁ hm₁ =>
      cases u₂ with
      | infinity s => cases h₂
      | notANumber => cases h₂
      | zero s₂ =>
          rw [show rational (.zero s₂) = 0 from rfl, mul_zero]
          exact hzero _
      | finite s₂ m₂ e₂ hm₂ =>
          have hround := rounded_roundWithAccuracy (s₁ * s₂)
            (fine_mul hm₁ hm₂ hu₁.2.2 hu₂.2.2) (.ofExact (m₁ * m₂))
          rw [zpow_add₀ (by norm_num), Nat.cast_mul, mul_mul_mul_comm, signed_mul] at hround
          exact hround

/-- What the quotient of two mantissas is worked out as: the numerator is shifted first. -/
theorem divCore_eq (m₁ : ℕ) (e₁ : ℤ) (m₂ : ℕ) (e₂ : ℤ) :
    ∃ (k : ℕ) (t : ℤ), divCore .binary64 m₁ e₁ m₂ e₂
        = ((m₁ <<< k) / m₂, t, accuracyOfFraction ((m₁ <<< k) % m₂) m₂)
      ∧ t + k = e₁ - e₂ ∧ (t ≤ -1074 ∨ (m₂.log2 : ℤ) + 53 ≤ m₁.log2 + k) := by
  refine ⟨_, _, rfl, ?_, ?_⟩
  · omega
  · simp only [Format.targetExponent, totalExponent, Format.mantissaBits, Format.minExponent]
    norm_num
    omega

/-- The whole part of a quotient has all the bits it needs. -/
theorem fine_div {m₁ m₂ k : ℕ} {t : ℤ} (hm₁ : 0 < m₁) (hm₂ : 0 < m₂)
    (hlong : t ≤ -1074 ∨ (m₂.log2 : ℤ) + 53 ≤ m₁.log2 + k) : Fine ((m₁ <<< k) / m₂) t := by
  rcases hlong with hmin | hlong
  · exact .inr hmin
  left
  have hquotient : 2 ^ 52 ≤ (m₁ <<< k) / m₂ := by
    rw [Nat.le_div_iff_mul_le hm₂]
    calc 2 ^ 52 * m₂ ≤ 2 ^ 52 * 2 ^ (m₂.log2 + 1) := Nat.mul_le_mul_left _ Nat.lt_log2_self.le
      _ = 2 ^ (m₂.log2 + 53) := by rw [← pow_add, show 52 + (m₂.log2 + 1) = m₂.log2 + 53 by omega]
      _ ≤ 2 ^ (m₁.log2 + k) := Nat.pow_le_pow_right (by norm_num) (by omega)
      _ = 2 ^ (m₁ <<< k).log2 := by rw [log2_shiftLeft hm₁]
      _ ≤ m₁ <<< k := Nat.log2_self_le (Nat.shiftLeft_pos_iff.mpr hm₁).ne'
  have hpos : (m₁ <<< k) / m₂ ≠ 0 := by
    intro hzero
    rw [hzero] at hquotient
    exact absurd hquotient (by norm_num)
  exact (Nat.le_log2 hpos).mpr hquotient

/-- A quotient is rounded from its whole part and what the remainder tells. -/
theorem div_finite (s₁ s₂ : Sign) {m₁ m₂ : ℕ} {e₁ e₂ : ℤ} (hm₁ : 0 < m₁) (hm₂ : 0 < m₂) :
    ∃ (m : ℕ) (e : ℤ) (accuracy : Accuracy) (x : ℚ),
      div .binary64 (.finite s₁ m₁ e₁ hm₁) (.finite s₂ m₂ e₂ hm₂)
        = roundWithAccuracy .binary64 (s₁ / s₂) m e accuracy
      ∧ Fine m e ∧ Halves (.ofMantissaAndAccuracy m accuracy) x
      ∧ x * 2 ^ e = m₁ * 2 ^ e₁ / (m₂ * 2 ^ e₂) := by
  obtain ⟨k, t, hcore, hk, hlong⟩ := divCore_eq m₁ e₁ m₂ e₂
  refine ⟨_, t, _, _, ?_, fine_div hm₁ hm₂ hlong, .ofQuotient (m₁ <<< k) hm₂, ?_⟩
  · show roundWithAccuracy .binary64 (s₁ / s₂) (divCore .binary64 m₁ e₁ m₂ e₂).1
      (divCore .binary64 m₁ e₁ m₂ e₂).2.1 (divCore .binary64 m₁ e₁ m₂ e₂).2.2 = _
    rw [hcore]
  · have hshift := shiftLeft_mul_two_zpow m₁ k (e₁ - e₂)
    rw [show e₁ - e₂ - k = t by omega, zpow_sub₀ (by norm_num)] at hshift
    rw [div_mul_eq_mul_div, hshift, ← mul_div_assoc, div_div, mul_comm ((2 : ℚ) ^ e₂)]

/-- **Quotients by anything but zero are rounded.** -/
theorem rounded_div (h₁ : u₁.isFinite = true) (h₂ : u₂.isFinite = true)
    (hnonzero : rational u₂ ≠ 0) : Rounded (div .binary64 u₁ u₂) (rational u₁ / rational u₂) := by
  cases u₂ with
  | infinity s => cases h₂
  | notANumber => cases h₂
  | zero s₂ => exact absurd rfl hnonzero
  | finite s₂ m₂ e₂ hm₂ =>
      cases u₁ with
      | infinity s => cases h₁
      | notANumber => cases h₁
      | zero s₁ =>
          rw [show rational (.zero s₁) = 0 from rfl, zero_div]
          exact ⟨rfl, trivial, .refl 0⟩
      | finite s₁ m₁ e₁ hm₁ =>
          obtain ⟨m, e, accuracy, x, hdiv, hfine, hx, hvalue⟩ := div_finite s₁ s₂ hm₁ hm₂
          have hround := rounded_roundWithAccuracy (s₁ / s₂) hfine hx
          rw [hvalue, signed_div, ← hdiv] at hround
          exact hround

end Operations

end RetryControl.Binary64
