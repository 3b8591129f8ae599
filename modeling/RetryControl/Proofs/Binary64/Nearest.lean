/-
  RetryControl.Proofs.Binary64.Nearest
  ────────────────────────────────
  **THE NUMBERS THAT ROUND TO A BINARY64 NUMBER.**

  Around every binary64 number lies an interval of exact numbers that are
  rounded to it.  It reaches half a unit to either side, but only a quarter of
  one below a power of two, where the numbers lie closer; and its ends belong
  to it if the mantissa is even.  An operation whose exact result lies in the
  interval of a number gives that number.

    • `Nears` — the interval of a number,
    • `Placed.rounded_of_nears` — the model's rounding goes by it,
    • `nearest_mul`, `nearest_div` — so do products and quotients,
    • `mul_of_nears`, `div_of_nears` — and those of packed numbers.
-/
import RetryControl.Proofs.Binary64.Naturals

namespace RetryControl.Binary64

open Float.Model Float.Model.UnpackedFloat RateArithmetic

/-! ## §1. Intervals. -/

/-- How far the interval of `m · 2 ^ e` reaches down, in quarters of a unit. -/
def reachBelow (m : ℕ) (e : ℤ) : ℕ := if m = 2 ^ 52 ∧ -1074 < e then 1 else 2

theorem reachBelow_le (m : ℕ) (e : ℤ) : (reachBelow m e : ℚ) ≤ 2 := by
  unfold reachBelow
  split <;> norm_num

/-- The number lies in the interval of those that are rounded to `m · 2 ^ e`. -/
structure Nears (m : ℕ) (e : ℤ) (v : ℚ) : Prop where
  low : (4 * m - reachBelow m e : ℚ) * 2 ^ e ≤ 4 * v
  high : 4 * v ≤ (4 * m + 2) * 2 ^ e
  /-- The ends belong to even mantissas only. -/
  odd : m % 2 = 1 → (4 * m - reachBelow m e : ℚ) * 2 ^ e < 4 * v ∧ 4 * v < (4 * m + 2) * 2 ^ e

/-- What rounds to a positive number is positive. -/
theorem Nears.pos {m : ℕ} {e : ℤ} {v : ℚ} (h : Nears m e v) (hm : 0 < m) : 0 < v := by
  have hone : (1 : ℚ) ≤ m := by exact_mod_cast hm
  have hreach := reachBelow_le m e
  have hend : 0 < (4 * m - reachBelow m e : ℚ) * 2 ^ e :=
    mul_pos (by linarith) (two_zpow_pos e)
  have hlow := h.low
  linarith

section Place

variable {em : ExtendedMantissa} {t : ℤ} {v : ℚ} {m : ℕ}

/-- In its own place the mantissa is the nearest whole number. -/
theorem Placed.rounded_of_same (h : Placed em t v) (hnear : Nears m t v) :
    em.roundedMantissa = m := by
  have hreach := reachBelow_le m t
  obtain ⟨hlow, hhigh, hodd⟩ := hnear
  rw [← Placed.value_eq v t, ← mul_assoc] at hlow hhigh hodd
  have hpos := two_zpow_pos t
  rw [mul_le_mul_iff_of_pos_right hpos] at hlow hhigh
  rw [mul_lt_mul_iff_of_pos_right hpos, mul_lt_mul_iff_of_pos_right hpos] at hodd
  refine h.halves.rounded_eq_of_near (by linarith) (by linarith) fun hm => ?_
  obtain ⟨hless, hmore⟩ := hodd hm
  exact ⟨by linarith, by linarith⟩

/-- A mantissa at a smaller power of two is all but the next power, and rounding carries. -/
theorem Placed.rounded_of_below (h : Placed em t v) {e : ℤ} (hte : t < e) (hm : 2 ^ 52 ≤ m)
    (hnear : Nears m e v) :
    em.roundedMantissa = 2 ^ 53 ∧ m = 2 ^ 52 ∧ e = t + 1 := by
  obtain ⟨j, hj⟩ : ∃ j : ℕ, e = t + (j + 1) := ⟨(e - t - 1).toNat, by omega⟩
  have hpos := two_zpow_pos t
  have hscale : (2 : ℚ) ^ e = 2 * 2 ^ j * 2 ^ t := by
    rw [hj, zpow_add₀ (by norm_num), zpow_add₀ (by norm_num), zpow_natCast, zpow_one]
    ring
  have hreach := reachBelow_le m e
  have hm' : (2 : ℚ) ^ 52 ≤ m := by exact_mod_cast hm
  -- in units of the smaller power of two
  have hlow : (4 * m - reachBelow m e : ℚ) * (2 * 2 ^ j) ≤ 4 * (v / 2 ^ t) := by
    have hle := hnear.low
    rw [← Placed.value_eq v t, hscale, ← mul_assoc, ← mul_assoc 4] at hle
    exact le_of_mul_le_mul_right hle hpos
  have hless : v / 2 ^ t < 2 ^ 53 := by
    have hmantissa : ((em.mantissa + 1 : ℕ) : ℚ) ≤ (2 ^ 53 : ℕ) :=
      Nat.cast_le.mpr (Nat.succ_le_of_lt h.short)
    push_cast at hmantissa
    exact h.halves.brackets.lt.trans_le hmantissa
  -- two powers below, every mantissa in place is too small for the interval
  have hone : j = 0 := by
    by_contra hmore
    have htwo : (2 : ℚ) ≤ 2 ^ j := by
      calc (2 : ℚ) = 2 ^ 1 := (pow_one 2).symm
        _ ≤ 2 ^ j := pow_le_pow_right₀ (by norm_num) (Nat.pos_of_ne_zero hmore)
    have hmul : (4 * m - reachBelow m e : ℚ) * 4 ≤ (4 * m - reachBelow m e) * (2 * 2 ^ j) :=
      mul_le_mul_of_nonneg_left (by linarith) (by linarith)
    linarith
  rw [hone, pow_zero, mul_one] at hlow
  -- one power below, only the interval of a power of two reaches down to the last of them
  have hleast : m = 2 ^ 52 := by
    have hcast : (m : ℚ) < (2 ^ 52 + 1 : ℕ) := by
      push_cast
      linarith
    have hnat : m < 2 ^ 52 + 1 := Nat.cast_lt.mp hcast
    omega
  have hquarter : reachBelow m e = 1 := if_pos ⟨hleast, h.least.trans_lt hte⟩
  refine ⟨h.halves.rounded_eq_of_near ?_ ?_ fun hodd => ?_, hleast, by omega⟩
  · rw [hquarter, hleast] at hlow
    push_cast at hlow ⊢
    linarith
  · push_cast
    linarith
  · exact absurd hodd (by decide)

/-- A mantissa at a greater power of two is beyond the interval. -/
theorem Placed.not_nears_of_above (h : Placed em t v) {e : ℤ} (hleast : -1074 ≤ e) (het : e < t)
    (hm : m < 2 ^ 53) : ¬Nears m e v := by
  intro hnear
  have hfull : ((2 ^ 52 : ℕ) : ℚ) ≤ em.mantissa := Nat.cast_le.mpr (h.full.resolve_right (by omega))
  have hshort : ((m + 1 : ℕ) : ℚ) ≤ (2 ^ 53 : ℕ) := Nat.cast_le.mpr hm
  push_cast at hfull hshort
  have hpow : 2 * (2 : ℚ) ^ e ≤ 2 ^ t := by
    have hstep : (2 : ℚ) ^ (e + 1) ≤ 2 ^ t := zpow_le_zpow_right₀ (by norm_num) (by omega)
    rwa [zpow_add₀ (by norm_num), zpow_one, mul_comm] at hstep
  have hbeyond : 2 ^ 52 * (2 * (2 : ℚ) ^ e) ≤ v := calc
    2 ^ 52 * (2 * (2 : ℚ) ^ e) ≤ 2 ^ 52 * 2 ^ t := mul_le_mul_of_nonneg_left hpow (by norm_num)
    _ ≤ v / 2 ^ t * 2 ^ t :=
      mul_le_mul_of_nonneg_right (hfull.trans h.halves.brackets.le) (two_zpow_pos t).le
    _ = v := value_eq v t
  have hwithin : (4 * m + 2 : ℚ) * 2 ^ e < 2 ^ 55 * 2 ^ e :=
    mul_lt_mul_of_pos_right (by linarith) (two_zpow_pos e)
  have hhigh := hnear.high
  linarith

/-- **Rounding gives the number in whose interval the exact one lies.** -/
theorem Placed.rounded_of_nears (h : Placed em t v) {e : ℤ} (hshort : m < 2 ^ 53)
    (hleast : -1074 ≤ e) (hfull : 2 ^ 52 ≤ m ∨ e = -1074) (hnear : Nears m e v) :
    (em.roundedMantissa : ℚ) * 2 ^ t = m * 2 ^ e := by
  have hplace := h.least
  rcases lt_trichotomy t e with hbelow | rfl | habove
  · obtain ⟨hrounded, rfl, rfl⟩ := h.rounded_of_below hbelow (hfull.resolve_right (by omega)) hnear
    rw [hrounded, zpow_add₀ (by norm_num)]
    push_cast
    ring
  · rw [h.rounded_of_same hnear]
  · exact absurd hnear (h.not_nears_of_above hleast habove hshort)

end Place

/-! ## §2. Operations. -/

/-- The number is the one in whose interval the exact result lies, if it lies in any. -/
def Nearest (u : UnpackedFloat) (v : ℚ) : Prop :=
  ∀ (m : ℕ) (e : ℤ), m < 2 ^ 53 → -1074 ≤ e → (2 ^ 52 ≤ m ∨ e = -1074) → Nears m e v →
    rational u = m * 2 ^ e

theorem nearest_roundWithAccuracy {n : ℕ} {q : ℤ} {accuracy : Accuracy} {x : ℚ}
    (hfine : Fine n q) (hx : Halves (.ofMantissaAndAccuracy n accuracy) x) :
    Nearest (roundWithAccuracy .binary64 .positive n q accuracy) (x * 2 ^ q) := by
  intro m e hshort hleast hfull hnear
  obtain ⟨em, t, hplaced, hround⟩ := exists_placed .positive hfine hx
  obtain ⟨hle, hfullRounded⟩ := hplaced.rounded_le
  obtain ⟨_, _, hexact⟩ := ofShifted_second .positive hle hplaced.least hfullRounded
  rw [hround, hexact]
  exact hplaced.rounded_of_nears hshort hleast hfull hnear

section Operations

variable {m₁ m₂ : ℕ} {e₁ e₂ : ℤ} {h₁ : 0 < m₁} {h₂ : 0 < m₂}

/-- **Products are the nearest numbers.** -/
theorem nearest_mul (hu₁ : Canonical (.finite .positive m₁ e₁ h₁))
    (hu₂ : Canonical (.finite .positive m₂ e₂ h₂)) :
    Nearest (mul .binary64 (.finite .positive m₁ e₁ h₁) (.finite .positive m₂ e₂ h₂))
      (m₁ * 2 ^ e₁ * (m₂ * 2 ^ e₂)) := by
  have hnearest := nearest_roundWithAccuracy (fine_mul h₁ h₂ hu₁.2.2 hu₂.2.2) (.ofExact (m₁ * m₂))
  rw [zpow_add₀ (by norm_num), Nat.cast_mul, mul_mul_mul_comm] at hnearest
  exact hnearest

/-- **Quotients are the nearest numbers.** -/
theorem nearest_div :
    Nearest (div .binary64 (.finite .positive m₁ e₁ h₁) (.finite .positive m₂ e₂ h₂))
      (m₁ * 2 ^ e₁ / (m₂ * 2 ^ e₂)) := by
  obtain ⟨n, q, accuracy, x, hdiv, hfine, hx, hvalue⟩ := div_finite .positive .positive h₁ h₂
  rw [← hvalue, hdiv]
  exact nearest_roundWithAccuracy hfine hx

end Operations

/-! ## §3. Packed numbers. -/

/-- A canonical number is the only one that stands for its positive number. -/
theorem eq_of_rational {u : UnpackedFloat} (hu : Canonical u) {m : ℕ} {e : ℤ} {hm : 0 < m}
    (hfinite : Canonical (.finite .positive m e hm)) (hvalue : rational u = m * 2 ^ e) :
    u = .finite .positive m e hm := by
  have hpos : (0 : ℚ) < m * 2 ^ e := mul_pos (Nat.cast_pos.mpr hm) (two_zpow_pos e)
  cases u with
  | infinity s | notANumber | zero s => exact absurd hvalue hpos.ne
  | finite s n q hn =>
      have hpos' : (0 : ℚ) < n * 2 ^ q := mul_pos (Nat.cast_pos.mpr hn) (two_zpow_pos q)
      cases s with
      | negative =>
          change -((n : ℚ) * 2 ^ q) = _ at hvalue
          linarith
      | positive =>
          have hsame := then_compare_eq hu.1 hfinite.1 hu.2.1 hfinite.2.1 hu.2.2 hfinite.2.2
          rw [compare_eq_iff_eq.mpr (show (n : ℚ) * 2 ^ q = _ from hvalue)] at hsame
          obtain ⟨he, hm'⟩ := Ordering.then_eq_eq.mp hsame
          obtain rfl := Int.compare_eq_eq.mp he
          obtain rfl := compare_eq_iff_eq.mp hm'
          rfl

/-- Packing again gives the word itself. -/
theorem pack_unpack (v : Float.Model) : Float.Model.pack v.unpack = v := by
  obtain ⟨bits, hvalid⟩ := v
  have hbits := pack_unpack_of_valid hvalid
  unfold Float.Model.pack Float.Model.unpack
  simp only [hbits]

/-- A positive number unpacks to its parts. -/
theorem unpack_of_parts {x : Float} {m : ℕ} {e : ℤ} (hparts : parts x = .finite false m e)
    (hm : 0 < m) : x.toModel.unpack = .finite .positive m e hm := by
  rw [parts_eq] at hparts
  revert hparts
  cases x.toModel.unpack with
  | notANumber | infinity s => nofun
  | zero s =>
      intro hparts
      injection hparts with _ hzero
      omega
  | finite s n q hn =>
      cases s with
      | negative => nofun
      | positive =>
          intro hparts
          cases hparts
          rfl

theorem unpack_of_pos {a : Float} (hfinite : isFinite a = true) (hpos : 0 < value a) :
    ∃ (m : ℕ) (e : ℤ) (hm : 0 < m), a.toModel.unpack = .finite .positive m e hm := by
  obtain ⟨negative, m, e, hparts, hvalue, _⟩ := exists_parts hfinite
  have hnonneg : (0 : ℚ) ≤ m * 2 ^ e := mul_nonneg (Nat.cast_nonneg m) (two_zpow_pos e).le
  cases negative with
  | true =>
      rw [if_pos rfl] at hvalue
      linarith
  | false =>
      rw [if_neg Bool.false_ne_true, one_mul] at hvalue
      have hm : 0 < m := by
        refine Nat.pos_of_ne_zero fun hzero => ?_
        rw [hvalue, hzero, Nat.cast_zero, zero_mul] at hpos
        exact lt_irrefl 0 hpos
      exact ⟨m, e, hm, unpack_of_parts hparts hm⟩

section Packed

variable {a b x : Float} {m : ℕ} {e : ℤ}

/-- A result in whose interval the exact one lies is packed as that number. -/
theorem pack_of_nears {u : UnpackedFloat} {v : ℚ} (hparts : parts x = .finite false m e)
    (hm : 0 < m) (hu : Canonical u) (hnearest : Nearest u v) (hnear : Nears m e v) :
    Float.ofModel (Float.Model.pack u) = x := by
  have hunpack := unpack_of_parts hparts hm
  have hcanonical := canonical x
  rw [hunpack] at hcanonical
  have hvalue := hnearest m e hcanonical.1 hcanonical.2.1 hcanonical.2.2 hnear
  rw [eq_of_rational hu hcanonical hvalue, ← hunpack, pack_unpack]

/-- **A product that lies in the interval of a number is that number.** -/
theorem mul_of_nears (ha : isFinite a = true) (hb : isFinite b = true) (hapos : 0 < value a)
    (hbpos : 0 < value b) (hparts : parts x = .finite false m e) (hm : 0 < m)
    (hnear : Nears m e (value a * value b)) : a * b = x := by
  obtain ⟨m₁, e₁, h₁, hunpack₁⟩ := unpack_of_pos ha hapos
  obtain ⟨m₂, e₂, h₂, hunpack₂⟩ := unpack_of_pos hb hbpos
  have hround := rounded_mul ha hb (canonical a) (canonical b)
  have hu₁ := canonical a
  have hu₂ := canonical b
  change Nears m e (rational a.toModel.unpack * rational b.toModel.unpack) at hnear
  show Float.ofModel (Float.Model.pack (mul .binary64 a.toModel.unpack b.toModel.unpack)) = x
  rw [hunpack₁, hunpack₂] at hround hnear ⊢
  rw [hunpack₁] at hu₁
  rw [hunpack₂] at hu₂
  exact pack_of_nears hparts hm hround.canonical (nearest_mul hu₁ hu₂) hnear

/-- **A quotient that lies in the interval of a number is that number.** -/
theorem div_of_nears (ha : isFinite a = true) (hb : isFinite b = true) (hapos : 0 < value a)
    (hbpos : 0 < value b) (hparts : parts x = .finite false m e) (hm : 0 < m)
    (hnear : Nears m e (value a / value b)) : a / b = x := by
  obtain ⟨m₁, e₁, h₁, hunpack₁⟩ := unpack_of_pos ha hapos
  obtain ⟨m₂, e₂, h₂, hunpack₂⟩ := unpack_of_pos hb hbpos
  have hround := rounded_div ha hb hbpos.ne'
  change Nears m e (rational a.toModel.unpack / rational b.toModel.unpack) at hnear
  show Float.ofModel (Float.Model.pack (div .binary64 a.toModel.unpack b.toModel.unpack)) = x
  rw [hunpack₁, hunpack₂] at hround hnear ⊢
  exact pack_of_nears hparts hm hround.canonical nearest_div hnear

end Packed

end RetryControl.Binary64
