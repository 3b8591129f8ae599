/-
  RetryControl.Proofs.Binary64.Naturals
  ────────────────────────────────
  **NATURAL NUMBERS THROUGH BINARY64.**

  A natural number that is converted to binary64 and back comes back if it
  needs no rounding.  From sixty-three bits on the numbers of binary64 are
  2048 apart, so of the natural numbers there only the multiples of 2048 come
  back — and the greatest one of sixty-four bits, which is rounded up to the
  next multiple and cut off again.

    • `parts_eq`, `exists_parts` — the parts of a number and what it stands for,
    • `toNatClamped_of_value` — a number that stands for a natural one,
    • `exists_multiple` — great numbers are multiples of 2048,
    • `toNatClamped_ofInt_iff` — which great natural numbers come back.
-/
import RetryControl.Proofs.Binary64.Rates

namespace RetryControl

open Float.Model Float.Model.UnpackedFloat RateArithmetic

namespace Binary64

/-! ## §1. The parts of a word. -/

section Words

variable (w : BitVec Format.binary64.numBits)

theorem toNat_unpackMantissa : (unpackMantissa w).toNat = w.toNat % 2 ^ 52 := by
  unfold unpackMantissa
  rw [BitVec.toNat_cast, BitVec.extractLsb_toNat, Nat.shiftRight_zero]
  rfl

theorem toNat_unpackExponent : (unpackExponent w).toNat = w.toNat / 2 ^ 52 % 2 ^ 11 := by
  unfold unpackExponent
  rw [BitVec.toNat_cast, BitVec.extractLsb_toNat, Nat.shiftRight_eq_div_pow]
  rfl

theorem toNat_unpackSign : (unpackSign w).toNat = w.toNat / 2 ^ 63 % 2 := by
  unfold unpackSign
  rw [BitVec.toNat_cast, BitVec.extractLsb_toNat, Nat.shiftRight_eq_div_pow]
  rfl

/-- The sign is the minus. -/
def isNegative : Sign → Bool
  | .negative => true
  | .positive => false

theorem isNegative_unpackSign :
    isNegative (Sign.ofBitVec (unpackSign w)) = decide (w.toNat / 2 ^ 63 % 2 = 1) := by
  have hall : ∀ s : BitVec 1, isNegative (Sign.ofBitVec s) = decide (s.toNat = 1) := by decide
  rw [← toNat_unpackSign]
  exact hall _

/-- The parts of what a word unpacks to. -/
def Parts.ofUnpacked : UnpackedFloat → Parts
  | .notANumber => .nan
  | .infinity s => .infinite (isNegative s)
  | .zero s => .finite (isNegative s) 0 leastExponent
  | .finite s m e _ => .finite (isNegative s) m e

theorem partsOfBits_eq :
    partsOfBits w.toNat = Parts.ofUnpacked (UnpackedFloat.unpack .binary64 w) := by
  have hinfinite : (unpackExponent w).toNat = 2047 ↔ unpackExponent w = -1#_ :=
    BitVec.toNat_inj (y := -1#11)
  have hleast : (unpackExponent w).toNat = 0 ↔ unpackExponent w = 0#_ :=
    BitVec.toNat_inj (y := 0#11)
  have hzero : (unpackMantissa w).toNat = 0 ↔ unpackMantissa w = 0#_ :=
    BitVec.toNat_inj (y := 0#52)
  unfold partsOfBits UnpackedFloat.unpack
  dsimp only
  show (if w.toNat / 2 ^ 52 % 2 ^ 11 = 2047 then
      if w.toNat % 2 ^ 52 = 0 then Parts.infinite (decide (w.toNat / 2 ^ 63 % 2 = 1)) else .nan
    else if w.toNat / 2 ^ 52 % 2 ^ 11 = 0 then
      .finite (decide (w.toNat / 2 ^ 63 % 2 = 1)) (w.toNat % 2 ^ 52) leastExponent
    else .finite (decide (w.toNat / 2 ^ 63 % 2 = 1)) (2 ^ 52 + w.toNat % 2 ^ 52)
      (leastExponent + ((w.toNat / 2 ^ 52 % 2 ^ 11 : Nat) - 1))) = _
  rw [← toNat_unpackMantissa, ← toNat_unpackExponent, ← isNegative_unpackSign]
  simp only [hinfinite, hleast, hzero]
  split
  · split <;> rfl
  split
  -- no implicit bit
  · rename_i hexponent
    split
    · rename_i hmantissa
      rw [hzero.mpr hmantissa]
      rfl
    · rw [hleast.mpr hexponent]
      rfl
  · show _ = Parts.finite _ (1#1 ++ unpackMantissa w).toNat _
    rw [toNat_implicit]
    congr 1
    show leastExponent + _ = ((unpackExponent w).toNat : Int) - (1023 + 52)
    unfold leastExponent
    omega

end Words

/-- **The parts of a number are those of what it unpacks to.** -/
theorem parts_eq (x : Float) : parts x = .ofUnpacked x.toModel.unpack :=
  partsOfBits_eq x.toModel.toBits.toBitVec

/-- **A finite number stands for its mantissa times its power of two**, under its sign. -/
theorem exists_parts {x : Float} (hfinite : x.isFinite = true) :
    ∃ (negative : Bool) (mantissa : ℕ) (exponent : ℤ),
      parts x = .finite negative mantissa exponent
        ∧ value x = (if negative then -1 else 1) * (mantissa * 2 ^ exponent)
        ∧ mantissa < 2 ^ 53 ∧ (mantissa = 0 ∨ 2 ^ 52 ≤ mantissa ∨ exponent = -1074) := by
  have hcanonical := canonical x
  rw [parts_eq]
  show ∃ negative mantissa exponent, Parts.ofUnpacked x.toModel.unpack = _
    ∧ rational x.toModel.unpack = _ ∧ _
  revert hcanonical
  have hmodel : x.toModel.unpack.isFinite = true := hfinite
  revert hmodel
  cases x.toModel.unpack with
  | infinity s => nofun
  | notANumber => nofun
  | zero s =>
      intro _ _
      refine ⟨isNegative s, 0, leastExponent, rfl, ?_, by decide, .inl rfl⟩
      rw [Nat.cast_zero, zero_mul, mul_zero]
      rfl
  | finite s m e hm =>
      intro _ hcanonical
      refine ⟨isNegative s, m, e, rfl, ?_, hcanonical.1, .inr hcanonical.2.2⟩
      cases s with
      | negative => exact (neg_one_mul _).symm
      | positive => exact (one_mul _).symm

/-! ## §2. Back to natural numbers. -/

theorem divHalfUp_mul {n den : ℕ} (hden : 0 < den) : divHalfUp (n * den) den = n := by
  unfold divHalfUp
  rw [show 2 * (n * den) + den = den + n * (2 * den) by ring,
    Nat.add_mul_div_right _ _ (by omega), Nat.div_eq_of_lt (by omega), Nat.zero_add]

/-- A mantissa and a power of two that stand for a natural number, as a quotient. -/
theorem divHalfUp_quotient {m n : ℕ} {e : ℤ} (hvalue : (m : ℚ) * 2 ^ e = n) :
    divHalfUp (quotient m e 1).1 (quotient m e 1).2 = n := by
  unfold quotient
  rw [mul_one]
  split
  · rename_i he
    have hnat : m * 2 ^ e.toNat = n := by
      rw [← Int.toNat_of_nonneg he, zpow_natCast] at hvalue
      exact_mod_cast hvalue
    have hone := @divHalfUp_mul n 1 one_pos
    rw [mul_one, ← hnat] at hone
    exact hone.trans hnat
  · rename_i he
    have hnat : m = n * 2 ^ (-e).toNat := by
      have hpow : (2 : ℚ) ^ (-e).toNat = (2 ^ e)⁻¹ := by
        rw [← zpow_natCast, Int.toNat_of_nonneg (by omega), zpow_neg]
      have hcast : (m : ℚ) = n * 2 ^ (-e).toNat := by
        rw [hpow, ← hvalue, mul_inv_cancel_right₀ (two_zpow_pos e).ne']
      exact_mod_cast hcast
    show divHalfUp m (2 ^ (-e).toNat) = n
    rw [hnat]
    exact divHalfUp_mul (by positivity)

/-- **A number that stands for a natural one is converted to it**, held in the range. -/
theorem toNatClamped_of_value {x : Float} (hfinite : x.isFinite = true) {n : ℕ}
    (hvalue : value x = n) (most : ℕ) : toNatClamped x most = min n most := by
  obtain ⟨negative, m, e, hparts, hexact, _⟩ := exists_parts hfinite
  rw [hvalue] at hexact
  unfold toNatClamped
  rw [hparts]
  dsimp only
  have hpos : (0 : ℚ) ≤ m * 2 ^ e := mul_nonneg (Nat.cast_nonneg m) (two_zpow_pos e).le
  cases negative with
  | false =>
      rw [if_neg Bool.false_ne_true, one_mul] at hexact
      rw [if_neg Bool.false_ne_true, divHalfUp_quotient hexact.symm]
  | true =>
      rw [if_pos rfl, neg_one_mul] at hexact
      have hzero : n = 0 := by
        have hle : (n : ℚ) ≤ 0 := by
          rw [hexact]
          exact neg_nonpos.mpr hpos
        exact_mod_cast le_antisymm hle (Nat.cast_nonneg n)
      rw [if_pos rfl, hzero, Nat.zero_min]

theorem toNatClamped_le (x : Float) (most : ℕ) : toNatClamped x most ≤ most := by
  unfold toNatClamped
  split
  · exact Nat.zero_le most
  · split
    · exact Nat.zero_le most
    · exact le_rfl
  · split
    · exact Nat.zero_le most
    · exact Nat.min_le_right _ _

/-! ## §3. Great natural numbers. -/

/-- **From sixty-three bits on the numbers of binary64 are multiples of 2048.** -/
theorem exists_multiple {x : Float} (hfinite : x.isFinite = true) (hgreat : 2 ^ 63 ≤ value x) :
    ∃ k : ℕ, value x = (2048 * k : ℕ) := by
  obtain ⟨negative, m, e, _, hexact, hshort, _⟩ := exists_parts hfinite
  have hpos : (0 : ℚ) ≤ m * 2 ^ e := mul_nonneg (Nat.cast_nonneg m) (two_zpow_pos e).le
  have hsign : negative = false := by
    by_contra hnegative
    rw [Bool.not_eq_false] at hnegative
    rw [hnegative, if_pos rfl, neg_one_mul] at hexact
    linarith
  rw [hsign, if_neg Bool.false_ne_true, one_mul] at hexact
  have he : 11 ≤ e := by
    by_contra hsmall
    have hpow : (2 : ℚ) ^ e ≤ 2 ^ (10 : ℤ) := zpow_le_zpow_right₀ (by norm_num) (by omega)
    have hmantissa : (m : ℚ) < 2 ^ 53 := by exact_mod_cast hshort
    have hbelow : (m : ℚ) * 2 ^ e < 2 ^ 53 * 2 ^ (10 : ℤ) := calc
      (m : ℚ) * 2 ^ e < 2 ^ 53 * 2 ^ e := mul_lt_mul_of_pos_right hmantissa (two_zpow_pos e)
      _ ≤ 2 ^ 53 * 2 ^ (10 : ℤ) := mul_le_mul_of_nonneg_left hpow (by norm_num)
    norm_num at hbelow
    linarith
  refine ⟨m * 2 ^ (e - 11).toNat, ?_⟩
  have hsplit : (2 : ℚ) ^ e = 2 ^ 11 * 2 ^ (e - 11).toNat := by
    rw [← zpow_natCast 2 (e - 11).toNat, Int.toNat_of_nonneg (by omega), ← zpow_natCast,
      ← zpow_add₀ (by norm_num)]
    congr 1
    norm_num
  rw [hexact, hsplit]
  push_cast
  ring

/-- Every multiple of 2048 up to sixty-four bits is a number of binary64. -/
theorem exists_rate_of_multiple {k : ℕ} (hk : k ≤ 2 ^ 53) :
    ∃ a : Float, isFinite a = true ∧ value a = (2048 * k : ℕ) := by
  rcases Nat.lt_or_eq_of_le hk with hlt | rfl
  · obtain ⟨a, ha, hvalue⟩ := exists_rate k 11 hlt (by norm_num) (by norm_num)
    refine ⟨a, ha, ?_⟩
    rw [hvalue]
    push_cast
    ring
  · obtain ⟨a, ha, hvalue⟩ := exists_rate 16 60 (by norm_num) (by norm_num) (by norm_num)
    refine ⟨a, ha, ?_⟩
    rw [hvalue]
    norm_num

/-- A great natural number that comes back is one of binary64, or the greatest of all. -/
theorem dvd_of_toNatClamped {n : ℕ} (hgreat : signedReach ≤ n) (hword : n < wordCount)
    (hback : toNatClamped (Float.ofInt n) greatestWord = n) : 2048 ∣ n ∨ n = greatestWord := by
  have hrounds : RoundsTo (Float.ofInt n) (n : ℚ) := roundsTo_ofNat n
  unfold signedReach at hgreat
  unfold wordCount at hword
  -- the number lies between two multiples of 2048, and so does what it is rounded to
  obtain ⟨low, hlow, hlow_value⟩ := exists_rate_of_multiple (k := n / 2048) (by omega)
  obtain ⟨high, hhigh, hhigh_value⟩ := exists_rate_of_multiple (k := n / 2048 + 1) (by omega)
  obtain ⟨hfinite, habove, _⟩ := hrounds.between hlow hhigh
    (by rw [hlow_value]; exact_mod_cast (by omega)) (by rw [hhigh_value]; exact_mod_cast (by omega))
  have hbeyond : (2 : ℚ) ^ 63 ≤ value low := by
    rw [hlow_value]
    exact_mod_cast (by omega)
  obtain ⟨k, hvalue⟩ := exists_multiple hfinite (hbeyond.trans habove)
  rw [toNatClamped_of_value hfinite hvalue] at hback
  rcases Nat.le_total (2048 * k) greatestWord with hle | hle
  · rw [Nat.min_eq_left hle] at hback
    exact .inl ⟨k, hback.symm⟩
  · rw [Nat.min_eq_right hle] at hback
    exact .inr hback.symm

/-- **Of the great natural numbers the multiples of 2048 come back**, and the greatest one. -/
theorem toNatClamped_ofInt_iff {n : ℕ} (hgreat : signedReach ≤ n) (hword : n < wordCount) :
    toNatClamped (Float.ofInt n) greatestWord = n ↔ 2048 ∣ n ∨ n = greatestWord := by
  refine ⟨dvd_of_toNatClamped hgreat hword, ?_⟩
  rintro (⟨k, rfl⟩ | rfl)
  · have hrounds : RoundsTo (Float.ofInt (2048 * k : ℕ)) ((2048 * k : ℕ) : ℚ) := roundsTo_ofNat _
    unfold wordCount at hword
    obtain ⟨a, ha, hvalue⟩ := exists_rate_of_multiple (k := k) (by omega)
    obtain ⟨hfinite, hexact⟩ := hrounds.eq_of_value ha hvalue
    rw [toNatClamped_of_value hfinite hexact]
    exact Nat.min_eq_left (Nat.le_pred_of_lt hword)
  · decide +kernel

end Binary64

end RetryControl
