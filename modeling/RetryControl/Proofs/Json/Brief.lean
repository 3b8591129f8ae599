/-
  RetryControl.Proofs.Json.Brief
  ────────────────────────────────
  **NUMBERS OF FEW DIGITS COME BACK.**

  A number that is read has its digits taken in as a natural number, which is
  multiplied by a power of ten or divided by one.  If the natural number has at
  most fifty-three bits and the power is small, then both are numbers of
  binary64, and only the product or the quotient is rounded.  The shortest
  digits of a number round to it, so it is what they are read as.

    • `finite_ofDecimal_one` — small powers of ten are exact,
    • `scaled_of_nears` — digits are read as the number that they round to,
    • `reread_of_isBrief` — a number that is written with few digits comes back.
-/
import RetryControl.Proofs.Binary64.ShortestDigits
import RetryControl.Proofs.Json.Rereading

namespace RetryControl.Binary64

open Float.Model Float.Model.UnpackedFloat RateArithmetic

/-! ## §1. Exact operands. -/

/-- The first powers of ten have at most fifty-three bits besides their factors of two. -/
theorem parts_ofDecimal_one :
    ∀ k < 23, 2 ^ (10 ^ k).log2 ∣ 10 ^ k * 2 ^ 52
      ∧ parts (ofDecimal 1 (k : ℕ))
        = .finite false (10 ^ k * 2 ^ 52 / 2 ^ (10 ^ k).log2) ((10 ^ k).log2 - 52) := by
  decide +kernel

/-- **Small powers of ten are numbers of binary64.** -/
theorem finite_ofDecimal_one {k : ℕ} (hk : k < 23) :
    isFinite (ofDecimal 1 k) = true ∧ value (ofDecimal 1 k) = 10 ^ k := by
  obtain ⟨hdvd, hparts⟩ := parts_ofDecimal_one k hk
  have hfinite : isFinite (ofDecimal 1 k) = true := by
    rw [parts_eq] at hparts
    show (ofDecimal 1 k).toModel.unpack.isFinite = true
    revert hparts
    cases (ofDecimal 1 k).toModel.unpack with
    | notANumber | infinity s => nofun
    | zero s | finite s m e hm => exact fun _ => rfl
  obtain ⟨negative, m, e, hsame, hvalue, _⟩ := exists_parts hfinite
  rw [hparts] at hsame
  injection hsame with hsign hmantissa hexponent
  refine ⟨hfinite, ?_⟩
  rw [hvalue, ← hsign, ← hmantissa, ← hexponent, if_neg Bool.false_ne_true, one_mul,
    Nat.cast_div hdvd (by positivity), zpow_sub₀ two_ne_zero, zpow_natCast]
  push_cast
  field_simp

/-- A natural number of at most fifty-three bits is a number of binary64. -/
theorem finite_toFloat {n : ℕ} (hn : n < 2 ^ 53) :
    isFinite n.toFloat = true ∧ value n.toFloat = n := by
  obtain ⟨a, ha, hvalue⟩ := exists_rate n 0 hn (by norm_num) (by norm_num)
  rw [zpow_zero, mul_one] at hvalue
  exact (roundsTo_ofNat n).eq_of_value ha hvalue

/-! ## §2. Reading. -/

/-- **Digits are read as the number that they round to**, if they are few. -/
theorem scaled_of_nears {n : ℕ} (hn : 0 < n) (hfew : n < 2 ^ 53) {power : ℤ}
    (hpower : -22 ≤ power ∧ power ≤ 22) {x : Float} {m : ℕ} {e : ℤ}
    (hparts : parts x = .finite false m e) (hm : 0 < m) (hnear : Nears m e (n * 10 ^ power)) :
    Json.scaled? 4 n.toFloat power = some x := by
  obtain ⟨hfinite, hvalue⟩ := finite_toFloat hfew
  have hpos : 0 < value n.toFloat := by
    rw [hvalue]
    exact_mod_cast hn
  have hunpack := unpack_of_parts hparts hm
  unfold Json.scaled?
  by_cases hsign : 0 ≤ power
  · obtain ⟨k, rfl⟩ : ∃ k : ℕ, power = k := ⟨power.toNat, by omega⟩
    obtain ⟨hten, htenValue⟩ := finite_ofDecimal_one (k := k) (by omega)
    have hnonzero : ¬(n.toFloat == 0.0) = true := by
      obtain ⟨n', q, hn', hunpackDigits⟩ := unpack_of_pos hfinite hpos
      show ¬(n.toFloat.toModel.unpack.beq _) = true
      rw [hunpackDigits]
      nofun
    have hinfinite : ¬x.isInf = true := by
      show ¬x.toModel.unpack.isInf = true
      rw [hunpack]
      nofun
    have hproduct : n.toFloat * ofDecimal 1 k = x := by
      refine mul_of_nears hfinite hten hpos ?_ hparts hm ?_
      · rw [htenValue]
        positivity
      · rw [hvalue, htenValue]
        exact hnear
    rw [if_pos hsign, if_neg hnonzero, if_pos (by omega), hproduct]
    exact if_neg hinfinite
  · obtain ⟨k, rfl⟩ : ∃ k : ℕ, power = -k := ⟨(-power).toNat, by omega⟩
    obtain ⟨hten, htenValue⟩ := finite_ofDecimal_one (k := k) (by omega)
    have hquotient : n.toFloat / ofDecimal 1 k = x := by
      refine div_of_nears hfinite hten hpos ?_ hparts hm ?_
      · rw [htenValue]
        positivity
      · rw [zpow_neg, zpow_natCast, ← div_eq_mul_inv] at hnear
        rw [hvalue, htenValue]
        exact hnear
    rw [if_neg hsign, if_pos (by omega), neg_neg, hquotient]

/-- What is taken in of a written decimal stands for the decimal. -/
theorem Decimal.rational_significand (d : Decimal) :
    (d.significand.value : ℚ) * 10 ^ d.significand.power = d.rational := by
  unfold Decimal.significand Decimal.rational
  split
  case isTrue => rfl
  case isFalse hwhole =>
    show ((d.digits * 10 ^ (d.exponent + 1).toNat : ℕ) : ℚ) * 10 ^ (-1 : ℤ) = _
    by_cases hzero : d.digits = 0
    · rw [hzero, Nat.zero_mul, Nat.cast_zero, zero_mul, zero_mul]
    · have hexponent : 0 ≤ d.exponent := by
        by_contra hnegative
        exact hwhole ⟨hzero, .inl (not_le.mp hnegative)⟩
      push_cast
      rw [← zpow_natCast, Int.toNat_of_nonneg (by omega), mul_assoc, ← zpow_add₀ (by norm_num),
        add_neg_cancel_right]

/-- A positive number that is written with few digits: as a natural number they have at most
fifty-three bits, and the power of ten is at most the twenty-second one either way. -/
def isBrief (x : Float) : Bool :=
  match parts x with
  | .finite negative mantissa exponent =>
      let written := (shortest .toEven mantissa exponent).significand
      decide (negative = false ∧ 0 < mantissa ∧ written.value < 2 ^ 53
        ∧ -22 ≤ written.power ∧ written.power ≤ 22)
  | _ => false

/-- **NUMBERS OF FEW DIGITS COME BACK.** -/
theorem reread_of_isBrief {x : Float} (hbrief : isBrief x = true) : reread x = .ok x := by
  unfold isBrief at hbrief
  unfold reread
  cases hparts : parts x with
  | nan | infinite negative =>
      rw [hparts] at hbrief
      cases hbrief
  | finite negative m e =>
      rw [hparts] at hbrief
      obtain ⟨rfl, hm, hfew, hpower⟩ := of_decide_eq_true hbrief
      have hfinite : isFinite x = true := by
        show x.toModel.unpack.isFinite = true
        rw [unpack_of_parts hparts hm]
        rfl
      obtain ⟨_, _, _, hsame, _, hshort, _⟩ := exists_parts hfinite
      cases hparts.symm.trans hsame
      have hnear := nears_shortest .toEven (e := e) hm hshort
      rw [← Decimal.rational_significand] at hnear
      have hdigits : 0 < (shortest .toEven m e).significand.value := by
        refine Nat.pos_of_ne_zero fun hzero => ?_
        rw [hzero, Nat.cast_zero, zero_mul] at hnear
        exact lt_irrefl 0 (hnear.pos hm)
      show Json.Significand.toFloat _ false = .ok x
      unfold Json.Significand.toFloat
      rw [scaled_of_nears hdigits hfew hpower hparts hm hnear]
      rfl

end RetryControl.Binary64
