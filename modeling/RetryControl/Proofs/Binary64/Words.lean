/-
  RetryControl.Proofs.Binary64.Words
  ────────────────────────────────
  **WORDS OF SIXTY-FOUR BITS AND THEIR ORDER.**

  A canonical number whose power of two is not too great is kept by packing
  it into a word; any greater one becomes infinite.  Words compare as the
  numbers they stand for.

    • `unpack_pack`, `unpack_pack_overflow` — what packing keeps,
    • `shape_unpack` — every word stands for a canonical number in range,
    • `compare_eq` — canonical numbers compare as exact ones,
    • `pack_sides` — a packed rounded number lies on the same side of every
      word as the exact one, overflow included,
    • `unpack_pack_exact` — what needs no rounding is packed as it is.
-/
import RetryControl.Proofs.Binary64.Operations

namespace RetryControl.Binary64

open Float.Model Float.Model.UnpackedFloat

/-! ## §1. Packing. -/

/-- The power of two is not beyond the greatest one that a word can hold. -/
def InRange : UnpackedFloat → Prop
  | .finite _ _ e _ => e ≤ 971
  | _ => True

/-- The implicit bit put before a mantissa. -/
theorem toNat_implicit (ma : BitVec 52) : (1#1 ++ ma).toNat = 2 ^ 52 + ma.toNat := by
  rw [BitVec.toNat_append, ← Nat.shiftLeft_add_eq_or_of_lt ma.isLt]
  rfl

theorem unpack_infinite (s : Sign) :
    unpack .binary64 (packedInfinity .binary64 s) = .infinity s := by
  cases s <;> rfl

/-- Components of a number with all its bits. -/
theorem unpack_normal (s : Sign) {b : ℕ} (ma : BitVec 52) (hb : 0 < b) (hb' : b < 2047)
    {m : ℕ} (hm : 0 < m) (hmantissa : m = 2 ^ 52 + ma.toNat) :
    unpack .binary64 (packComponents .binary64 s (BitVec.ofNat 11 b) ma)
      = .finite s m ((b : ℤ) - 1075) hm := by
  have hnat : (BitVec.ofNat 11 b).toNat = b := by
    rw [BitVec.toNat_ofNat, Nat.mod_eq_of_lt (by omega)]
  have hinfinite : BitVec.ofNat 11 b ≠ -1#11 := by
    intro h
    have heq := congrArg BitVec.toNat h
    rw [hnat] at heq
    exact absurd heq (by show b ≠ 2047; omega)
  have hzero : BitVec.ofNat 11 b ≠ 0#11 := by
    intro h
    have heq := congrArg BitVec.toNat h
    rw [hnat] at heq
    exact absurd heq (by show b ≠ 0; omega)
  subst hmantissa
  unfold UnpackedFloat.unpack
  simp only [unpackMantissa_packComponents, unpackExponent_packComponents,
    unpackSign_packComponents, Sign.ofBitVec_toBitVec, if_neg hinfinite, if_neg hzero, hnat,
    toNat_implicit]
  congr 1

/-- Components of a number at the smallest power of two that lacks the implicit bit. -/
theorem unpack_subnormal (s : Sign) {m : ℕ} (hm : 0 < m) (hm' : m < 2 ^ 52) :
    unpack .binary64 (packComponents .binary64 s 0#11 (BitVec.ofNat 52 m))
      = .finite s m (-1074) hm := by
  have hnat : (BitVec.ofNat 52 m).toNat = m := by
    rw [BitVec.toNat_ofNat, Nat.mod_eq_of_lt hm']
  have hzero : BitVec.ofNat 52 m ≠ 0#52 := by
    intro h
    have heq := congrArg BitVec.toNat h
    rw [hnat] at heq
    exact absurd heq hm.ne'
  unfold UnpackedFloat.unpack
  simp only [unpackMantissa_packComponents, unpackExponent_packComponents,
    unpackSign_packComponents, Sign.ofBitVec_toBitVec, if_neg (show 0#11 ≠ -1#11 by decide), if_true,
    dif_neg hzero, hnat]
  congr 1

theorem pack_finite (s : Sign) (m : ℕ) (e : ℤ) (hm : 0 < m) :
    pack .binary64 (.finite s m e hm)
      = if 2048 ≤ (e + 1075).toNat + 1 then packedInfinity .binary64 s
        else if m.log2 + 1 = 53 then
          packComponents .binary64 s (BitVec.ofNat 11 (e + 1075).toNat) (BitVec.ofNat 52 m)
        else packComponents .binary64 s 0#11 (BitVec.ofNat 52 m) := by
  have hbias : (e + Format.binary64.exponentBias + 52).toNat = (e + 1075).toNat := by
    show (e + 1023 + 52).toNat = _
    rw [add_assoc]
    rfl
  rw [← hbias]
  rfl

/-- **Packing keeps a canonical number in range.** -/
theorem unpack_pack {u : UnpackedFloat} (hu : Canonical u) (hrange : InRange u) :
    (Float.Model.pack u).unpack = u := by
  cases u with
  | infinity s => exact unpack_infinite s
  | notANumber => exact unpack_packedNaN
  | zero s => exact unpack_packedZero
  | finite s m e hm =>
      obtain ⟨hshort, hmin, hfull⟩ := hu
      have hmax : e ≤ 971 := hrange
      show unpack .binary64 (pack .binary64 (.finite s m e hm)) = _
      rw [pack_finite, if_neg (by omega)]
      by_cases hlong : 2 ^ 52 ≤ m
      · have hlog : m.log2 = 52 := (Nat.log2_eq_iff hm.ne').mpr ⟨hlong, hshort⟩
        have hmantissa : m = 2 ^ 52 + (BitVec.ofNat 52 m).toNat := by
          rw [BitVec.toNat_ofNat]
          omega
        rw [if_pos (by omega), unpack_normal s _ (by omega) (by omega) hm hmantissa]
        congr 1
        omega
      · have hlog : m.log2 < 52 := (Nat.log2_lt hm.ne').mpr (by omega)
        obtain rfl : e = -1074 := hfull.resolve_left hlong
        rw [if_neg (by omega), unpack_subnormal s hm (by omega)]

/-- **Packing makes any greater number infinite.** -/
theorem unpack_pack_overflow (s : Sign) {m : ℕ} {e : ℤ} (hm : 0 < m) (he : 971 < e) :
    (Float.Model.pack (.finite s m e hm)).unpack = .infinity s := by
  show unpack .binary64 (pack .binary64 (.finite s m e hm)) = _
  rw [pack_finite, if_pos (by omega)]
  exact unpack_infinite s

/-- **Every word stands for a canonical number in range.** -/
theorem shape_unpack_word (w : BitVec Format.binary64.numBits) :
    Canonical (unpack .binary64 w) ∧ InRange (unpack .binary64 w) := by
  have hma := (unpackMantissa w).isLt
  have hex := (unpackExponent w).isLt
  unfold UnpackedFloat.unpack
  dsimp only at hma hex ⊢
  split
  · split <;> exact ⟨trivial, trivial⟩
  rename_i hfinite
  split
  -- no implicit bit: the smallest power of two
  · rename_i hzero
    split
    · exact ⟨trivial, trivial⟩
    · have hmin : ((unpackExponent w).toNat : ℤ) - (1023 + 52) + 1 = -1074 := by
        rw [hzero]
        rfl
      exact ⟨⟨hma.trans (by norm_num), hmin.ge, .inr hmin⟩, hmin.trans_le (by norm_num)⟩
  · rename_i hnormal
    have hpos : (unpackExponent w).toNat ≠ 0 := fun h => hnormal (BitVec.eq_of_toNat_eq h)
    have hlt : (unpackExponent w).toNat ≠ 2047 := fun h => hfinite (BitVec.eq_of_toNat_eq h)
    have hmantissa := toNat_implicit (unpackMantissa w)
    have hshort : (1#1 ++ unpackMantissa w).toNat < 2 ^ 53 := by omega
    have hfull : 2 ^ 52 ≤ (1#1 ++ unpackMantissa w).toNat := by omega
    have hmin : -1074 ≤ ((unpackExponent w).toNat : ℤ) - (1023 + 52) := by omega
    have hmax : ((unpackExponent w).toNat : ℤ) - (1023 + 52) ≤ 971 := by omega
    exact ⟨⟨hshort, hmin, .inl hfull⟩, hmax⟩

theorem shape_unpack (v : Float.Model) : Canonical v.unpack ∧ InRange v.unpack :=
  shape_unpack_word v.toBits.toBitVec

/-! ## §2. Order. -/

section Order

variable {m₁ m₂ : ℕ} {e₁ e₂ : ℤ}

/-- Canonical mantissas and powers of two compare as the numbers do: the powers decide, and between
equal powers the mantissas. -/
theorem then_compare_eq (hshort₁ : m₁ < 2 ^ 53) (hshort₂ : m₂ < 2 ^ 53) (hmin₁ : -1074 ≤ e₁)
    (hmin₂ : -1074 ≤ e₂) (hfull₁ : 2 ^ 52 ≤ m₁ ∨ e₁ = -1074) (hfull₂ : 2 ^ 52 ≤ m₂ ∨ e₂ = -1074) :
    (compare e₁ e₂).then (compare m₁ m₂) = compare ((m₁ : ℚ) * 2 ^ e₁) ((m₂ : ℚ) * 2 ^ e₂) := by
  have hnat : ∀ {m : ℕ}, m < 2 ^ 53 → |(m : ℤ)| < 2 ^ 53 := by
    intro m hm
    rw [abs_of_nonneg (Int.natCast_nonneg m)]
    exact_mod_cast hm
  rcases lt_trichotomy e₁ e₂ with hlt | rfl | hgt
  · have hfull : 2 ^ 52 ≤ m₂ := hfull₂.resolve_right (by omega)
    have hless : (m₁ : ℚ) * 2 ^ e₁ < m₂ * 2 ^ e₂ := lt_of_exponent_lt hlt (hnat hshort₁) hfull
    rw [Int.compare_eq_lt.mpr hlt, compare_lt_iff_lt.mpr hless]
    rfl
  · have hpos := two_zpow_pos e₁
    rw [Int.compare_eq_eq.mpr rfl]
    show compare m₁ m₂ = _
    rcases lt_trichotomy m₁ m₂ with hlt | rfl | hgt
    · have hless : (m₁ : ℚ) * 2 ^ e₁ < m₂ * 2 ^ e₁ :=
        mul_lt_mul_of_pos_right (by exact_mod_cast hlt) hpos
      rw [compare_lt_iff_lt.mpr hlt, compare_lt_iff_lt.mpr hless]
    · rw [compare_eq_iff_eq.mpr rfl, compare_eq_iff_eq.mpr rfl]
    · have hmore : (m₂ : ℚ) * 2 ^ e₁ < m₁ * 2 ^ e₁ :=
        mul_lt_mul_of_pos_right (by exact_mod_cast hgt) hpos
      rw [compare_gt_iff_gt.mpr hgt, compare_gt_iff_gt.mpr hmore]
  · have hfull : 2 ^ 52 ≤ m₁ := hfull₁.resolve_right (by omega)
    have hmore : (m₂ : ℚ) * 2 ^ e₂ < m₁ * 2 ^ e₁ := lt_of_exponent_lt hgt (hnat hshort₂) hfull
    rw [Int.compare_eq_gt.mpr hgt, compare_gt_iff_gt.mpr hmore]
    rfl

theorem swap_compare_eq (x y : ℚ) : (compare x y).swap = compare (-x) (-y) := by
  rcases lt_trichotomy x y with hlt | rfl | hgt
  · rw [compare_lt_iff_lt.mpr hlt, compare_gt_iff_gt.mpr (neg_lt_neg hlt)]
    rfl
  · rw [compare_eq_iff_eq.mpr rfl, compare_eq_iff_eq.mpr rfl]
    rfl
  · rw [compare_gt_iff_gt.mpr hgt, compare_lt_iff_lt.mpr (neg_lt_neg hgt)]
    rfl

variable {u₁ u₂ : UnpackedFloat}

/-- **Canonical numbers compare as exact ones.** -/
theorem compare_eq (h₁ : u₁.isFinite = true) (h₂ : u₂.isFinite = true) (hu₁ : Canonical u₁)
    (hu₂ : Canonical u₂) : u₁.compare u₂ = some (compare (rational u₁) (rational u₂)) := by
  have hpos : ∀ {m : ℕ} {e : ℤ}, 0 < m → (0 : ℚ) < m * 2 ^ e := fun hm =>
    mul_pos (by exact_mod_cast hm) (two_zpow_pos _)
  cases u₁ with
  | infinity s => cases h₁
  | notANumber => cases h₁
  | zero s₁ =>
      cases u₂ with
      | infinity s => cases h₂
      | notANumber => cases h₂
      | zero s₂ => exact congrArg some (compare_eq_iff_eq.mpr rfl).symm
      | finite s₂ m₂ e₂ hm₂ =>
          cases s₂ with
          | negative =>
              exact congrArg some (compare_gt_iff_gt.mpr (neg_lt_zero.mpr (hpos hm₂))).symm
          | positive => exact congrArg some (compare_lt_iff_lt.mpr (hpos hm₂)).symm
  | finite s₁ m₁ e₁ hm₁ =>
      cases u₂ with
      | infinity s => cases h₂
      | notANumber => cases h₂
      | zero s₂ =>
          cases s₁ with
          | negative =>
              exact congrArg some (compare_lt_iff_lt.mpr (neg_lt_zero.mpr (hpos hm₁))).symm
          | positive => exact congrArg some (compare_gt_iff_gt.mpr (hpos hm₁)).symm
      | finite s₂ m₂ e₂ hm₂ =>
          obtain ⟨hshort₁, hmin₁, hfull₁⟩ := hu₁
          obtain ⟨hshort₂, hmin₂, hfull₂⟩ := hu₂
          have hsame := then_compare_eq hshort₁ hshort₂ hmin₁ hmin₂ hfull₁ hfull₂
          cases s₁ <;> cases s₂
          · refine congrArg some ?_
            rw [hsame]
            exact swap_compare_eq _ _
          · exact congrArg some (compare_lt_iff_lt.mpr
              ((neg_lt_zero.mpr (hpos hm₁)).trans (hpos hm₂))).symm
          · exact congrArg some (compare_gt_iff_gt.mpr
              ((neg_lt_zero.mpr (hpos hm₂)).trans (hpos hm₁))).symm
          · exact congrArg some hsame

theorem le_iff_rational (h₁ : u₁.isFinite = true) (h₂ : u₂.isFinite = true) (hu₁ : Canonical u₁)
    (hu₂ : Canonical u₂) : u₁.le u₂ = true ↔ rational u₁ ≤ rational u₂ := by
  unfold UnpackedFloat.le
  rw [compare_eq h₁ h₂ hu₁ hu₂]
  show (compare (rational u₁) (rational u₂)).isLE = true ↔ _
  exact Ordering.isLE_iff_ne_gt.trans compare_le_iff_le

theorem lt_iff_rational (h₁ : u₁.isFinite = true) (h₂ : u₂.isFinite = true) (hu₁ : Canonical u₁)
    (hu₂ : Canonical u₂) : u₁.lt u₂ = true ↔ rational u₁ < rational u₂ := by
  unfold UnpackedFloat.lt
  rw [compare_eq h₁ h₂ hu₁ hu₂, beq_iff_eq, Option.some.injEq, compare_lt_iff_lt]

end Order

/-! ## §3. Packed results. -/

section Packed

variable {a u : UnpackedFloat} {v : ℚ}

/-- No number in range reaches the power of two at which packing overflows. -/
theorem abs_rational_lt (ha : Canonical a) (hrange : InRange a) {m : ℕ} {e : ℤ} (hm : 2 ^ 52 ≤ m)
    (he : 971 < e) : |rational a| < m * 2 ^ e := by
  have hpos : (0 : ℚ) < m * 2 ^ e := mul_pos (by exact_mod_cast (by omega)) (two_zpow_pos e)
  have hzero : |(0 : ℚ)| < m * 2 ^ e := by rwa [abs_zero]
  cases a with
  | infinity s => exact hzero
  | notANumber => exact hzero
  | zero s => exact hzero
  | finite s n t hn =>
      have hnat : |(n : ℤ)| < 2 ^ 53 := by
        rw [abs_of_nonneg (Int.natCast_nonneg n)]
        exact_mod_cast ha.1
      have hless : (n : ℚ) * 2 ^ t < m * 2 ^ e := lt_of_exponent_lt (hrange.trans_lt he) hnat hm
      have hnonneg : (0 : ℚ) ≤ n * 2 ^ t := mul_nonneg (Nat.cast_nonneg n) (two_zpow_pos t).le
      have habs : |rational (.finite s n t hn)| = n * 2 ^ t := by
        cases s with
        | negative => exact (abs_neg _).trans (abs_of_nonneg hnonneg)
        | positive => exact abs_of_nonneg hnonneg
      rwa [habs]

/-- **A packed result lies on the same side of every word as the exact one.** Where it overflows, no
word is beyond it. -/
theorem pack_sides (hu : Rounded u v) (hfinite : a.isFinite = true) (ha : Canonical a)
    (hrange : InRange a) :
    (rational a ≤ v → a.le (Float.Model.pack u).unpack = true)
      ∧ (v ≤ rational a → (Float.Model.pack u).unpack.le a = true) := by
  obtain ⟨hlow, hhigh⟩ := hu.sameSide _ (onGrid_rational ha)
  by_cases hinRange : InRange u
  · rw [unpack_pack hu.canonical hinRange, le_iff_rational hfinite hu.finite ha hu.canonical,
      le_iff_rational hu.finite hfinite hu.canonical ha]
    exact ⟨hlow, hhigh⟩
  cases u with
  | infinity s => exact absurd trivial hinRange
  | notANumber => exact absurd trivial hinRange
  | zero s => exact absurd trivial hinRange
  | finite s m e hm =>
      have he : 971 < e := not_le.mp hinRange
      have hlong : 2 ^ 52 ≤ m := hu.canonical.2.2.resolve_right (by omega)
      -- an infinite result is beyond every word, and so is the number that it was rounded from
      have hbeyond := abs_lt.mp (abs_rational_lt ha hrange hlong he)
      rw [unpack_pack_overflow s hm he]
      cases s with
      | positive =>
          refine ⟨fun _ => ?_, fun hv => absurd (hhigh hv) (not_le.mpr hbeyond.2)⟩
          cases a <;> first | rfl | cases hfinite
      | negative =>
          refine ⟨fun hv => absurd (hlow hv) (not_le.mpr hbeyond.1), fun _ => ?_⟩
          cases a <;> first | rfl | cases hfinite

/-- **A result that needs no rounding is packed as it is**, unless its power of two is too great. -/
theorem unpack_pack_exact {m : ℕ} {e : ℤ} (hm : m < 2 ^ 53) (hmin : -1074 ≤ e) (hmax : e ≤ 971)
    (hu : Rounded u (m * 2 ^ e)) :
    (Float.Model.pack u).unpack = u ∧ rational u = m * 2 ^ e := by
  have hnat : |(m : ℤ)| < 2 ^ 53 := by
    rw [abs_of_nonneg (Int.natCast_nonneg m)]
    exact_mod_cast hm
  have hgrid : OnGrid ((m : ℚ) * 2 ^ e) := ⟨m, e, hnat, hmin, rfl⟩
  obtain ⟨hlow, hhigh⟩ := hu.sameSide _ hgrid
  have hexact : rational u = m * 2 ^ e := le_antisymm (hhigh le_rfl) (hlow le_rfl)
  refine ⟨unpack_pack hu.canonical ?_, hexact⟩
  cases u with
  | infinity s => trivial
  | notANumber => trivial
  | zero s => trivial
  | finite s n t hn =>
      by_contra hbeyond
      have ht : 971 < t := not_le.mp hbeyond
      have hlong : 2 ^ 52 ≤ n := hu.canonical.2.2.resolve_right (by omega)
      have hless : (m : ℚ) * 2 ^ e < n * 2 ^ t := lt_of_exponent_lt (hmax.trans_lt ht) hnat hlong
      have hnonneg : (0 : ℚ) ≤ m * 2 ^ e := mul_nonneg (Nat.cast_nonneg m) (two_zpow_pos e).le
      cases s with
      | positive => exact absurd hexact hless.ne'
      | negative =>
          have hneg : -((n : ℚ) * 2 ^ t) = m * 2 ^ e := hexact
          linarith

end Packed

end RetryControl.Binary64
