/-
  RetryControl.Proofs.Binary64.Rounding
  ────────────────────────────────
  **ROUNDING NEVER CROSSES A BINARY64 NUMBER.**

  The logical model of `Float` computes with unpacked numbers: a sign, a
  mantissa and a power of two.  An exact result comes as a mantissa that may
  be too long, with a note on how it was cut off; rounding shifts it to the
  grid of fifty-three bits and picks one of its two neighbours there.

    • `OnGrid`, `SameSide` — the numbers of the grid, and a rounded number that
      lies on the same side of all of them as the exact one,
    • `Halves`, `Brackets` — what a mantissa with its two residual bits knows
      about the exact number, kept by every shift (`Halves.shiftRight`),
    • `exists_placed` — the two shifts of the model's rounding,
    • `Rounded` — a canonical number on the same side of the grid,
    • `rounded_roundWithAccuracy` — the model's rounding gives one.

  The grid has no greatest number here: overflow is a matter of packing.
-/
import Mathlib

namespace RetryControl.Binary64

open Float.Model Float.Model.UnpackedFloat

/-! ## §1. The grid. -/

/-- The numbers `n · 2 ^ e` with a mantissa of at most fifty-three bits, from the smallest power of
two on. -/
def OnGrid (g : ℚ) : Prop :=
  ∃ (n : ℤ) (e : ℤ), |n| < 2 ^ 53 ∧ -1074 ≤ e ∧ g = n * 2 ^ e

/-- The two numbers lie on the same side of every number of the grid. -/
def SameSide (exact rounded : ℚ) : Prop :=
  ∀ g, OnGrid g → (g ≤ exact → g ≤ rounded) ∧ (exact ≤ g → rounded ≤ g)

theorem two_zpow_pos (e : ℤ) : (0 : ℚ) < 2 ^ e := zpow_pos (by norm_num) e

theorem OnGrid.neg {g : ℚ} (h : OnGrid g) : OnGrid (-g) := by
  obtain ⟨n, e, hn, he, rfl⟩ := h
  refine ⟨-n, e, ?_, he, ?_⟩
  · rwa [abs_neg]
  · push_cast
    ring

theorem SameSide.refl (v : ℚ) : SameSide v v := fun _ _ => ⟨id, id⟩

theorem SameSide.neg {v w : ℚ} (h : SameSide v w) : SameSide (-v) (-w) := by
  intro g hg
  obtain ⟨hlow, hhigh⟩ := h (-g) hg.neg
  exact ⟨fun hv => le_neg_of_le_neg (hhigh (le_neg_of_le_neg hv)),
    fun hv => neg_le_of_neg_le (hlow (neg_le_of_neg_le hv))⟩

/-- A multiple of a power of two, over any smaller power. -/
theorem mul_two_zpow_of_le {t e : ℤ} (hte : t ≤ e) (n : ℤ) :
    (n : ℚ) * 2 ^ e = ((n * 2 ^ (e - t).toNat : ℤ) : ℚ) * 2 ^ t := by
  have he : (2 : ℚ) ^ e = 2 ^ (e - t).toNat * 2 ^ t := by
    rw [← zpow_natCast, ← zpow_add₀ (by norm_num)]
    congr 1
    omega
  rw [he]
  push_cast
  ring

/-- A number of the grid whose power of two is smaller than another one's is smaller than every full
mantissa there. -/
theorem lt_of_exponent_lt {t e : ℤ} (het : e < t) {n : ℤ} (hn : |n| < 2 ^ 53) {q : ℕ}
    (hq : 2 ^ 52 ≤ q) : (n : ℚ) * 2 ^ e < (q : ℚ) * 2 ^ t := by
  have hn' : (n : ℚ) < 2 ^ 53 := by exact_mod_cast (le_abs_self n).trans_lt hn
  have hq' : (2 : ℚ) ^ 52 ≤ q := by exact_mod_cast hq
  have hpow : (2 : ℚ) ^ 53 * 2 ^ e ≤ 2 ^ 52 * 2 ^ t := by
    have hstep : (2 : ℚ) ^ (e + 1) ≤ 2 ^ t := zpow_le_zpow_right₀ (by norm_num) (by omega)
    rw [zpow_add₀ (by norm_num), zpow_one] at hstep
    linarith
  calc (n : ℚ) * 2 ^ e < 2 ^ 53 * 2 ^ e := mul_lt_mul_of_pos_right hn' (two_zpow_pos e)
    _ ≤ 2 ^ 52 * 2 ^ t := hpow
    _ ≤ q * 2 ^ t := mul_le_mul_of_nonneg_right hq' (two_zpow_pos t).le

/-! ## §2. Mantissas with residual bits. -/

/-- The mantissa is the whole part of the number, and the residual bits are clear exactly if nothing
is left beyond it. -/
structure Brackets (em : ExtendedMantissa) (x : ℚ) : Prop where
  le : (em.mantissa : ℚ) ≤ x
  lt : x < em.mantissa + 1
  /-- The residual bits tell whether anything was cut off. -/
  exact_iff : x = em.mantissa ↔ em.roundBit = false ∧ em.stickyBit = false

/-- The number of half units in a mantissa with its round bit. -/
def halfUnits (em : ExtendedMantissa) : ℕ := 2 * em.mantissa + em.roundBit.toNat

/-- The half units are all those of the number, and the sticky bit is clear exactly if nothing is
left beyond them. -/
structure Halves (em : ExtendedMantissa) (x : ℚ) : Prop where
  le : (halfUnits em : ℚ) ≤ 2 * x
  lt : 2 * x < halfUnits em + 1
  /-- The sticky bit tells whether anything was cut off. -/
  exact_iff : 2 * x = halfUnits em ↔ em.stickyBit = false

namespace Halves

variable {em : ExtendedMantissa} {x : ℚ}

theorem ofExact (m : ℕ) : Halves (.ofMantissaAndAccuracy m .exact) m := by
  have hunits : (halfUnits (.ofMantissaAndAccuracy m .exact) : ℚ) = 2 * m := Nat.cast_mul 2 m
  refine ⟨hunits.le, ?_, iff_of_true hunits.symm rfl⟩
  rw [hunits]
  exact lt_add_one _

/-- What a remainder says about the half units of a quotient. -/
theorem of_remainder {m n q r : ℕ} (round sticky : Bool) (hn : 0 < n) (hsplit : n * q + r = m)
    (hle : n * round.toNat ≤ 2 * r) (hlt : 2 * r < n * round.toNat + n)
    (hexact : 2 * r = n * round.toNat ↔ sticky = false) :
    Halves ⟨q, round, sticky⟩ ((m : ℚ) / n) := by
  have hn' : (0 : ℚ) < n := by exact_mod_cast hn
  have hunits : n * halfUnits ⟨q, round, sticky⟩ = 2 * (n * q) + n * round.toNat := by
    show n * (2 * q + round.toNat) = _
    rw [Nat.mul_add, Nat.mul_left_comm]
  constructor
  case le =>
    rw [← mul_div_assoc, le_div_iff₀ hn', mul_comm _ (n : ℚ)]
    exact_mod_cast show n * halfUnits ⟨q, round, sticky⟩ ≤ 2 * m by omega
  case lt =>
    rw [← mul_div_assoc, div_lt_iff₀ hn', mul_comm _ (n : ℚ), mul_add, mul_one]
    exact_mod_cast show 2 * m < n * halfUnits ⟨q, round, sticky⟩ + n by omega
  case exact_iff =>
    rw [← mul_div_assoc, div_eq_iff hn'.ne', mul_comm _ (n : ℚ), ← hexact]
    exact_mod_cast show 2 * m = n * halfUnits ⟨q, round, sticky⟩ ↔ 2 * r = n * round.toNat by omega

/-- A quotient and what its remainder tells. -/
theorem ofQuotient (m : ℕ) {n : ℕ} (hn : 0 < n) :
    Halves (.ofMantissaAndAccuracy (m / n) (accuracyOfFraction (m % n) n)) ((m : ℚ) / n) := by
  have hsplit := Nat.div_add_mod m n
  have hmod := Nat.mod_lt m hn
  have hnone : n * false.toNat = 0 := rfl
  have hone : n * true.toNat = n := Nat.mul_one n
  unfold accuracyOfFraction
  generalize m / n = q at *
  generalize m % n = r at *
  by_cases hzero : r = 0
  · rw [if_pos hzero]
    exact of_remainder false false hn hsplit (by omega) (by omega)
      (iff_of_true (by omega) rfl)
  rw [if_neg hzero]
  rcases lt_trichotomy (2 * r) n with hlt | heq | hgt
  · rw [compare_lt_iff_lt.mpr hlt]
    exact of_remainder false true hn hsplit (by omega) (by omega)
      (iff_of_false (by omega) Bool.noConfusion)
  · rw [compare_eq_iff_eq.mpr heq]
    exact of_remainder true false hn hsplit (by omega) (by omega)
      (iff_of_true (by omega) rfl)
  · rw [compare_gt_iff_gt.mpr hgt]
    exact of_remainder true true hn hsplit (by omega) (by omega)
      (iff_of_false (by omega) Bool.noConfusion)

/-- Whole units are pairs of half ones. -/
theorem brackets (h : Halves em x) : Brackets em x := by
  have hle := h.le
  have hlt := h.lt
  have hexact := h.exact_iff
  unfold halfUnits at hle hlt hexact
  rcases em with ⟨m, round, sticky⟩
  cases round with
  | false =>
      push_cast [Bool.toNat_false, add_zero] at hle hlt hexact
      refine ⟨by linarith, by linarith, ?_⟩
      rw [and_iff_right rfl, ← hexact, mul_right_inj' two_ne_zero]
  | true =>
      push_cast [Bool.toNat_true] at hle hlt
      refine ⟨by linarith, by linarith, iff_of_false (fun heq => ?_) fun hbits => nomatch hbits.1⟩
      linarith

/-- One shift cuts off one more bit and keeps account of it: the bits that were whole units are half
ones now. -/
theorem shiftRightOne (h : Halves em x) : Halves em.shiftRightOne (x / 2) := by
  obtain ⟨hle, hlt, hexact⟩ := h.brackets
  have hunits : halfUnits em.shiftRightOne = em.mantissa := by
    have hbit : (em.mantissa % 2 != 0).toNat = em.mantissa % 2 := by
      rcases Nat.mod_two_eq_zero_or_one em.mantissa with heven | hodd
      · rw [heven]
        rfl
      · rw [hodd]
        rfl
    show 2 * (em.mantissa / 2) + (em.mantissa % 2 != 0).toNat = _
    rw [hbit]
    exact Nat.div_add_mod em.mantissa 2
  have htwice : 2 * (x / 2) = x := mul_div_cancel₀ x two_ne_zero
  constructor
  case le => rwa [hunits, htwice]
  case lt => rwa [hunits, htwice]
  case exact_iff =>
    rw [hunits, htwice, hexact]
    exact Bool.or_eq_false_iff.symm

theorem shiftRight (h : Halves em x) (k : ℕ) : Halves (em >>> k) (x / 2 ^ k) := by
  show Halves (k.repeat ExtendedMantissa.shiftRightOne em) _
  induction k with
  | zero =>
      rw [pow_zero, div_one]
      exact h
  | succ k ih =>
      rw [pow_succ, ← div_div]
      exact ih.shiftRightOne

/-- **The rounded mantissa is the nearest whole number**, and of two equally near ones the even
one. -/
theorem rounded_eq_of_near (h : Halves em x) {n : ℕ} (hlow : (2 * n : ℚ) - 1 ≤ 2 * x)
    (hhigh : 2 * x ≤ 2 * n + 1)
    (hodd : n % 2 = 1 → (2 * n : ℚ) - 1 < 2 * x ∧ 2 * x < 2 * n + 1) :
    em.roundedMantissa = n := by
  obtain ⟨hle, hlt, hexact⟩ := h
  rcases em with ⟨m, round, sticky⟩
  -- what the halves and the distance from `n` say, in whole numbers
  have hbelow : 2 * n ≤ halfUnits ⟨m, round, sticky⟩ + 1 := by
    have hcast : (2 * n : ℚ) < halfUnits ⟨m, round, sticky⟩ + 2 := by linarith
    have hnat : 2 * n < halfUnits ⟨m, round, sticky⟩ + 2 := by exact_mod_cast hcast
    omega
  have habove : halfUnits ⟨m, round, sticky⟩ ≤ 2 * n + 1 := by
    exact_mod_cast hle.trans hhigh
  cases round with
  | false =>
      change 2 * n ≤ 2 * m + 0 + 1 at hbelow
      change 2 * m + 0 ≤ 2 * n + 1 at habove
      have hrounded : (⟨m, false, sticky⟩ : ExtendedMantissa).roundedMantissa = m := by
        cases sticky <;> rfl
      omega
  | true =>
      change 2 * n ≤ 2 * m + 1 + 1 at hbelow
      change 2 * m + 1 ≤ 2 * n + 1 at habove
      cases sticky with
      | true =>
          -- beyond halfway: up
          have hmore : ((2 * m + 1 : ℕ) : ℚ) < 2 * x :=
            lt_of_le_of_ne hle fun heq => Bool.noConfusion (hexact.mp heq.symm)
          have hcast : ((2 * m + 1 : ℕ) : ℚ) < (2 * n + 1 : ℕ) := by
            push_cast at hmore ⊢
            linarith
          have hnat : 2 * m + 1 < 2 * n + 1 := by exact_mod_cast hcast
          show m + 1 = n
          omega
      | false =>
          -- halfway: to the even neighbour
          have hhalf : 2 * x = ((2 * m + 1 : ℕ) : ℚ) := hexact.mpr rfl
          have heven : n % 2 = 0 := by
            by_contra hnot
            obtain ⟨hless, hmore⟩ := hodd (by omega)
            rw [hhalf] at hless hmore
            have hless' : 2 * n < 2 * m + 1 + 1 := by
              have hcast : (2 * n : ℚ) < (2 * m + 1 : ℕ) + 1 := by linarith
              exact_mod_cast hcast
            have hmore' : 2 * m + 1 < 2 * n + 1 := by exact_mod_cast hmore
            omega
          show m + m % 2 = n
          omega

end Halves

namespace Brackets

variable {em : ExtendedMantissa} {x : ℚ}

/-- The rounded mantissa is the whole part or, if anything was cut off, perhaps the next one. -/
theorem rounded_eq (h : Brackets em x) :
    em.roundedMantissa = em.mantissa
      ∨ (em.roundedMantissa = em.mantissa + 1 ∧ (em.mantissa : ℚ) < x) := by
  have hlt : (em.roundBit = false ∧ em.stickyBit = false → False) → (em.mantissa : ℚ) < x :=
    fun hbits => lt_of_le_of_ne h.le fun heq => hbits (h.exact_iff.mp heq.symm)
  rcases em with ⟨m, round, sticky⟩
  cases round with
  | false =>
      left
      cases sticky <;> rfl
  | true =>
      have hcut : (m : ℚ) < x := hlt fun hbits => nomatch hbits.1
      cases sticky with
      | true => exact .inr ⟨rfl, hcut⟩
      | false =>
          -- halfway: to the even neighbour
          rcases Nat.mod_two_eq_zero_or_one m with heven | hodd
          · exact .inl (congrArg (m + ·) heven)
          · exact .inr ⟨congrArg (m + ·) hodd, hcut⟩

/-- **No whole number lies between a number and its rounded mantissa.** -/
theorem rounded_sameSide (h : Brackets em x) (n : ℤ) :
    ((n : ℚ) ≤ x → n ≤ em.roundedMantissa) ∧ (x ≤ n → em.roundedMantissa ≤ n) := by
  have hle := h.le
  have hlt := h.lt
  constructor
  · intro hn
    have hfloor : n < (em.mantissa : ℤ) + 1 := by exact_mod_cast hn.trans_lt hlt
    rcases h.rounded_eq with heq | ⟨heq, _⟩ <;> omega
  · intro hn
    rcases h.rounded_eq with heq | ⟨heq, hcut⟩
    · have hfloor : (em.mantissa : ℤ) ≤ n := by exact_mod_cast hle.trans hn
      omega
    · have hfloor : (em.mantissa : ℤ) < n := by exact_mod_cast hcut.trans_le hn
      omega

end Brackets

/-! ## §3. Numbers in canonical form. -/

/-- A sign put before a number. -/
def signed : Sign → ℚ → ℚ
  | .negative, x => -x
  | .positive, x => x

/-- The exact number that an unpacked number stands for; infinities and what is no number stand for
nothing, as zeros do. -/
def rational : UnpackedFloat → ℚ
  | .finite s m e _ => signed s (m * 2 ^ e)
  | _ => 0

/-- A mantissa of fifty-three bits, or fewer at the smallest power of two. -/
def Canonical : UnpackedFloat → Prop
  | .finite _ m e _ => m < 2 ^ 53 ∧ -1074 ≤ e ∧ (2 ^ 52 ≤ m ∨ e = -1074)
  | _ => True

theorem SameSide.signed {v w : ℚ} (h : SameSide v w) (s : Sign) :
    SameSide (signed s v) (signed s w) := by
  cases s with
  | negative => exact h.neg
  | positive => exact h

/-- A canonical number lies on the grid. -/
theorem onGrid_rational {u : UnpackedFloat} (hu : Canonical u) : OnGrid (rational u) := by
  have hzero : OnGrid 0 := ⟨0, 0, by norm_num, by norm_num, by norm_num⟩
  cases u with
  | infinity s => exact hzero
  | notANumber => exact hzero
  | zero s => exact hzero
  | finite s m e hm =>
      have hpositive : OnGrid ((m : ℚ) * 2 ^ e) :=
        ⟨m, e, by rw [abs_of_nonneg (Int.natCast_nonneg m)]; exact_mod_cast hu.1, hu.2.1, rfl⟩
      cases s with
      | negative => exact hpositive.neg
      | positive => exact hpositive

/-- A finite number in canonical form that is on the same side of the grid as the exact one. -/
structure Rounded (u : UnpackedFloat) (v : ℚ) : Prop where
  finite : u.isFinite = true
  canonical : Canonical u
  sameSide : SameSide v (rational u)

/-! ## §4. Rounding. -/

/-- The power of two that a number is rounded to. -/
theorem targetExponent_eq (m : ℕ) (e : ℤ) :
    Format.binary64.targetExponent (totalExponent m e) = max ((m.log2 : ℤ) + e - 52) (-1074) := by
  simp only [Format.targetExponent, totalExponent, Format.mantissaBits, Format.minExponent]
  norm_num
  omega

/-- The mantissa has all its bits, or the power of two is small enough, so that rounding only ever
cuts bits off. -/
def Fine (m : ℕ) (e : ℤ) : Prop := 52 ≤ m.log2 ∨ e ≤ -1074

section Shift

variable {m : ℕ} {e : ℤ} {accuracy : Accuracy}

/-- The first shift of a fine mantissa ends at the target. -/
theorem shiftToTargetExponent_eq (hfine : Fine m e) :
    ∃ (k : ℕ) (t : ℤ), shiftToTargetExponent .binary64 m e accuracy
        = (ExtendedMantissa.ofMantissaAndAccuracy m accuracy >>> k, t)
      ∧ t = e + k ∧ t = max ((m.log2 : ℤ) + e - 52) (-1074) := by
  refine ⟨_, _, rfl, rfl, ?_⟩
  rw [targetExponent_eq]
  unfold Fine at hfine
  omega

theorem mantissa_ofMantissaAndAccuracy :
    (ExtendedMantissa.ofMantissaAndAccuracy m accuracy).mantissa = m := by
  rcases accuracy with _ | (_ | _ | _) <;> rfl

theorem mantissa_shiftRight (em : ExtendedMantissa) (k : ℕ) :
    (em >>> k).mantissa = em.mantissa / 2 ^ k := by
  show (k.repeat ExtendedMantissa.shiftRightOne em).mantissa = _
  induction k with
  | zero => exact (Nat.div_one _).symm
  | succ k ih =>
      show (k.repeat ExtendedMantissa.shiftRightOne em).mantissa / 2 = _
      rw [ih, Nat.div_div_eq_div_mul, pow_succ]

/-- The shifted mantissa has at most fifty-three bits, and all of them above the smallest power. -/
theorem shifted_between {k : ℕ} {t : ℤ} (hk : t = e + k)
    (ht : t = max ((m.log2 : ℤ) + e - 52) (-1074)) :
    m / 2 ^ k < 2 ^ 53 ∧ (2 ^ 52 ≤ m / 2 ^ k ∨ t = -1074) := by
  constructor
  · rw [Nat.div_lt_iff_lt_mul (by positivity), ← pow_add]
    exact Nat.lt_log2_self.trans_le (Nat.pow_le_pow_right (by norm_num) (by omega))
  · by_cases hmin : t = -1074
    · exact .inr hmin
    · left
      have hm : m ≠ 0 := by
        rintro rfl
        simp only [Nat.log2_zero] at ht
        omega
      rw [Nat.le_div_iff_mul_le (by positivity), ← pow_add]
      exact (Nat.pow_le_pow_right (by norm_num) (by omega)).trans (Nat.log2_self_le hm)

end Shift

/-- The second shift finds a mantissa of fifty-three bits in place. -/
theorem second_shift_id {r : ℕ} {t : ℤ} (hr : r < 2 ^ 53) (ht : -1074 ≤ t) :
    shiftToTargetExponent .binary64 r t .exact = (⟨r, false, false⟩, t) := by
  have hlog : r.log2 ≤ 52 := by
    by_cases hzero : r = 0
    · rw [hzero, Nat.log2_zero]
      omega
    · have hlt := (Nat.log2_lt hzero).mpr hr
      omega
  have hnone : (Format.binary64.targetExponent (totalExponent r t) - t).toNat = 0 := by
    rw [targetExponent_eq]
    omega
  unfold shiftToTargetExponent shiftToExponent
  dsimp only
  rw [hnone]
  exact Prod.ext rfl (add_zero t)

/-- It takes back the bit that rounding up to a power of two has added. -/
theorem second_shift_carry {t : ℤ} (ht : -1074 ≤ t) :
    shiftToTargetExponent .binary64 (2 ^ 53) t .exact = (⟨2 ^ 52, false, false⟩, t + 1) := by
  have hone : (Format.binary64.targetExponent (totalExponent (2 ^ 53) t) - t).toNat = 1 := by
    rw [targetExponent_eq, Nat.log2_two_pow]
    omega
  unfold shiftToTargetExponent shiftToExponent
  dsimp only
  rw [hone]
  rfl

/-- The number of a mantissa and a power of two. -/
def ofShifted (s : Sign) (last : ExtendedMantissa × ℤ) : UnpackedFloat :=
  if h : last.1.mantissa = 0 then .zero s
  else .finite s last.1.mantissa last.2 (Nat.pos_of_ne_zero h)

/-- The second shift brings a rounded mantissa into canonical form and keeps its value. -/
theorem ofShifted_second (s : Sign) {r : ℕ} {t : ℤ} (hr : r ≤ 2 ^ 53) (ht : -1074 ≤ t)
    (hfull : 2 ^ 52 ≤ r ∨ t = -1074) :
    (ofShifted s (shiftToTargetExponent .binary64 r t .exact)).isFinite = true
      ∧ Canonical (ofShifted s (shiftToTargetExponent .binary64 r t .exact))
      ∧ rational (ofShifted s (shiftToTargetExponent .binary64 r t .exact))
        = signed s (r * 2 ^ t) := by
  rcases Nat.lt_or_eq_of_le hr with hlt | rfl
  · rw [second_shift_id hlt ht]
    unfold ofShifted
    by_cases hzero : r = 0
    · rw [dif_pos hzero, hzero, Nat.cast_zero, zero_mul]
      refine ⟨rfl, trivial, ?_⟩
      cases s <;> simp [rational, signed]
    · rw [dif_neg hzero]
      exact ⟨rfl, ⟨hlt, ht, hfull⟩, rfl⟩
  · rw [second_shift_carry ht]
    unfold ofShifted
    rw [dif_neg (by norm_num)]
    refine ⟨rfl, ⟨by norm_num, by omega, .inl le_rfl⟩, congrArg (signed s) ?_⟩
    show ((2 ^ 52 : ℕ) : ℚ) * 2 ^ (t + 1) = _
    rw [zpow_add₀ (by norm_num)]
    push_cast
    ring

/-- A mantissa at its final power of two, with residual bits that tell where the number lies. -/
structure Placed (em : ExtendedMantissa) (t : ℤ) (v : ℚ) : Prop where
  halves : Halves em (v / 2 ^ t)
  short : em.mantissa < 2 ^ 53
  least : -1074 ≤ t
  full : 2 ^ 52 ≤ em.mantissa ∨ t = -1074

/-- **The model rounds in two shifts**: the first cuts off bits and places the mantissa, the second
takes back the carry of rounding it. -/
theorem exists_placed {m : ℕ} {e : ℤ} {accuracy : Accuracy} (s : Sign) {x : ℚ}
    (hfine : Fine m e) (hx : Halves (.ofMantissaAndAccuracy m accuracy) x) :
    ∃ (em : ExtendedMantissa) (t : ℤ), Placed em t (x * 2 ^ e)
      ∧ roundWithAccuracy .binary64 s m e accuracy
        = ofShifted s (shiftToTargetExponent .binary64 em.roundedMantissa t .exact) := by
  obtain ⟨k, t, hshift, hk, ht⟩ := @shiftToTargetExponent_eq m e accuracy hfine
  obtain ⟨hshort, hfull⟩ := shifted_between hk ht
  have hmantissa : (ExtendedMantissa.ofMantissaAndAccuracy m accuracy >>> k).mantissa
      = m / 2 ^ k := by
    rw [mantissa_shiftRight, mantissa_ofMantissaAndAccuracy]
  have hvalue : x * 2 ^ e / 2 ^ t = x / 2 ^ k := by
    rw [hk, zpow_add₀ (by norm_num), zpow_natCast, mul_comm, mul_div_mul_left _ _
      (two_zpow_pos e).ne']
  refine ⟨ExtendedMantissa.ofMantissaAndAccuracy m accuracy >>> k, t, ?_, ?_⟩
  · constructor
    case halves =>
      rw [hvalue]
      exact hx.shiftRight k
    case short => rwa [hmantissa]
    case least => omega
    case full => rwa [hmantissa]
  · unfold roundWithAccuracy
    rw [hshift]
    rfl

namespace Placed

variable {em : ExtendedMantissa} {t : ℤ} {v : ℚ}

theorem value_eq (v : ℚ) (t : ℤ) : v / 2 ^ t * 2 ^ t = v :=
  div_mul_cancel₀ v (two_zpow_pos t).ne'

/-- A rounded mantissa lies on the same side of the grid as what it brackets: a number of the grid
at a smaller power of two is below both, any other one is a whole number of times the power. -/
theorem sameSide (h : Placed em t v) : SameSide v (em.roundedMantissa * 2 ^ t) := by
  have hpos := two_zpow_pos t
  have hbrackets := h.halves.brackets
  rw [← value_eq v t]
  rintro g ⟨n, e, hn, he, rfl⟩
  rcases le_or_gt t e with hte | het
  · rw [mul_two_zpow_of_le hte, mul_le_mul_iff_of_pos_right hpos, mul_le_mul_iff_of_pos_right hpos,
      mul_le_mul_iff_of_pos_right hpos, mul_le_mul_iff_of_pos_right hpos]
    obtain ⟨hlow, hhigh⟩ := hbrackets.rounded_sameSide (n * 2 ^ (e - t).toNat)
    exact ⟨fun h => by exact_mod_cast hlow h, fun h => by exact_mod_cast hhigh h⟩
  · have hmantissa : 2 ^ 52 ≤ em.mantissa := h.full.resolve_right (by omega)
    have hbelow := lt_of_exponent_lt het hn hmantissa
    have hle := mul_le_mul_of_nonneg_right hbrackets.le hpos.le
    have hround : (em.mantissa : ℚ) ≤ em.roundedMantissa := by
      rcases hbrackets.rounded_eq with heq | ⟨heq, _⟩ <;> exact_mod_cast (by omega)
    have hle' := mul_le_mul_of_nonneg_right hround hpos.le
    exact ⟨fun _ => (hbelow.trans_le hle').le, fun h => absurd (hbelow.trans_le hle) h.not_gt⟩

/-- The rounded mantissa stays in place, or carries to the next power of two. -/
theorem rounded_le (h : Placed em t v) :
    em.roundedMantissa ≤ 2 ^ 53 ∧ (2 ^ 52 ≤ em.roundedMantissa ∨ t = -1074) := by
  have hshort := h.short
  have hfull := h.full
  rcases h.halves.brackets.rounded_eq with heq | ⟨heq, _⟩ <;> omega

end Placed

/-- **The model's rounding gives a number on the same side of the grid.**  The exact number is what
the mantissa and its note stand for, times the power of two. -/
theorem rounded_roundWithAccuracy {m : ℕ} {e : ℤ} {accuracy : Accuracy} (s : Sign) {x : ℚ}
    (hfine : Fine m e) (hx : Halves (.ofMantissaAndAccuracy m accuracy) x) :
    Rounded (roundWithAccuracy .binary64 s m e accuracy) (signed s (x * 2 ^ e)) := by
  obtain ⟨em, t, hplaced, hround⟩ := exists_placed s hfine hx
  obtain ⟨hle, hfull⟩ := hplaced.rounded_le
  obtain ⟨hfinite, hcanonical, hexact⟩ := ofShifted_second s hle hplaced.least hfull
  rw [hround]
  constructor
  case finite => exact hfinite
  case canonical => exact hcanonical
  case sameSide =>
    rw [hexact]
    exact hplaced.sameSide.signed s

end RetryControl.Binary64
