/-
  RetryControl.Proofs.Binary64.ShortestDigits
  ────────────────────────────────
  **SHORTEST DIGITS LIE IN THE INTERVAL OF THEIR NUMBER.**

  The digits of a number are searched for on ever finer decimal grids, and a
  decimal is taken only from the interval of those that round to the number.
  On a grid of seventeen digits two neighbours lie closer together than the
  ends of the interval, so one of the number's own neighbours is inside, and
  the search ends.

    • `Shortest.holds_iff` — the interval of the search is the one of rounding,
    • `Shortest.exists_search` — the search finds a decimal,
    • `nears_shortest` — the shortest decimal rounds to its number.
-/
import RetryControl.Proofs.Binary64.Nearest
import RetryControl.Proofs.Json.Numbers

namespace RetryControl.Binary64

/-- The number that a decimal stands for. -/
def Decimal.rational (d : Decimal) : ℚ := d.digits * 10 ^ d.exponent

theorem cast_twoTo (n : ℕ) : (twoTo n : ℚ) = 2 ^ (n : ℤ) := by
  rw [zpow_natCast]
  exact Nat.cast_pow 2 n

theorem cast_tenTo (n : ℕ) : (tenTo n : ℚ) = 10 ^ (n : ℤ) := by
  rw [zpow_natCast]
  exact Nat.cast_pow 10 n

namespace Shortest

variable {m : ℕ} {e : ℤ}

/-! ## §1. The interval. -/

/-- Numerators over the denominator of the interval count quarters of a unit. -/
theorem quarter_eq (e : ℤ) :
    (twoTo (e - 2).toNat : ℚ) = 2 ^ e * (twoTo (2 - e).toNat / 4) := by
  rw [cast_twoTo, cast_twoTo, show (4 : ℚ) = 2 ^ (2 : ℤ) by norm_num, ← zpow_sub₀ two_ne_zero,
    ← zpow_add₀ two_ne_zero]
  congr 1
  omega

section Ends

variable {k num den : ℕ}

/-- An end of the interval is compared with a fraction over their common denominator. -/
theorem compare_end (hden : 0 < den) :
    (k * twoTo (e - 2).toNat * den ≤ num * twoTo (2 - e).toNat
        ↔ (k : ℚ) * 2 ^ e ≤ 4 * (num / den))
      ∧ (num * twoTo (2 - e).toNat ≤ k * twoTo (e - 2).toNat * den
        ↔ 4 * (num / den : ℚ) ≤ k * 2 ^ e) := by
  have hden' : (0 : ℚ) < den := Nat.cast_pos.mpr hden
  have hscale : (0 : ℚ) < twoTo (2 - e).toNat / 4 * den :=
    mul_pos (div_pos (Nat.cast_pos.mpr (Nat.pow_pos two_pos)) four_pos) hden'
  have hend : ((k * twoTo (e - 2).toNat * den : ℕ) : ℚ)
      = k * 2 ^ e * (twoTo (2 - e).toNat / 4 * den) := by
    push_cast
    rw [quarter_eq, ← mul_assoc, ← mul_assoc, mul_assoc ((k : ℚ) * _)]
  have hnumber : ((num * twoTo (2 - e).toNat : ℕ) : ℚ)
      = 4 * (num / den) * (twoTo (2 - e).toNat / 4 * den) := by
    push_cast
    field_simp
  rw [← @Nat.cast_le ℚ, ← @Nat.cast_le ℚ, hend, hnumber, mul_le_mul_iff_of_pos_right hscale,
    mul_le_mul_iff_of_pos_right hscale]
  exact ⟨Iff.rfl, Iff.rfl⟩

end Ends

/-- **The interval of the search is the one of rounding.** -/
theorem holds_iff (hm : 0 < m) {num den : ℕ} (hden : 0 < den) :
    (interval m e).holds num den = true ↔ Nears m e (num / den) := by
  have hreach : reachBelow m e ≤ 4 * m := by
    have htwo : reachBelow m e ≤ 2 := by exact_mod_cast reachBelow_le m e
    omega
  obtain ⟨hlow, hlow'⟩ := @compare_end e (4 * m - reachBelow m e) num den hden
  obtain ⟨hhigh', hhigh⟩ := @compare_end e (4 * m + 2) num den hden
  have hlt := (not_congr hlow').trans not_le
  have hgt := (not_congr hhigh').trans not_le
  rw [not_le] at hlt hgt
  push_cast [Nat.cast_sub hreach] at hlow hlt hhigh hgt
  have hholds : (interval m e).holds num den
      = if m % 2 = 0 then
          decide ((4 * m - reachBelow m e) * twoTo (e - 2).toNat * den ≤ num * twoTo (2 - e).toNat)
            && decide (num * twoTo (2 - e).toNat ≤ (4 * m + 2) * twoTo (e - 2).toNat * den)
        else
          decide ((4 * m - reachBelow m e) * twoTo (e - 2).toNat * den < num * twoTo (2 - e).toNat)
            && decide (num * twoTo (2 - e).toNat < (4 * m + 2) * twoTo (e - 2).toNat * den) := by
    unfold Interval.holds interval
    simp only [decide_eq_true_eq]
    rfl
  rw [hholds]
  rcases Nat.mod_two_eq_zero_or_one m with heven | hodd
  · rw [if_pos heven, Bool.and_eq_true, decide_eq_true_eq, decide_eq_true_eq, hlow, hhigh]
    exact ⟨fun ⟨hle, hge⟩ => ⟨hle, hge, by omega⟩, fun h => ⟨h.low, h.high⟩⟩
  · rw [if_neg (by omega), Bool.and_eq_true, decide_eq_true_eq, decide_eq_true_eq, hlt, hgt]
    exact ⟨fun ⟨hless, hmore⟩ => ⟨hless.le, hmore.le, fun _ => ⟨hless, hmore⟩⟩, fun h => h.odd hodd⟩

/-- What lies between the ends lies in the interval. -/
theorem nears_of_between {v : ℚ} (hlow : (4 * m - reachBelow m e : ℚ) * 2 ^ e < 4 * v)
    (hhigh : 4 * v < (4 * m + 2) * 2 ^ e) : Nears m e v :=
  ⟨hlow.le, hhigh.le, fun _ => ⟨hlow, hhigh⟩⟩

/-- The number itself, over the denominator of its interval. -/
theorem mid_eq (m : ℕ) (e : ℤ) :
    ((interval m e).mid : ℚ) = m * 2 ^ e * (interval m e).den := by
  show ((4 * m * twoTo (e - 2).toNat : ℕ) : ℚ) = m * 2 ^ e * twoTo (2 - e).toNat
  push_cast
  rw [quarter_eq]
  ring

theorem den_pos (m : ℕ) (e : ℤ) : 0 < (interval m e).den := Nat.pow_pos two_pos

/-! ## §2. Neighbours. -/

section Neighbours

variable {tie : Tie} {power : ℤ}

/-- A multiple of a power of ten, as a fraction. -/
theorem grid_eq (n : ℕ) (power : ℤ) :
    ((n * tenTo power.toNat : ℕ) : ℚ) / tenTo (-power).toNat = n * 10 ^ power := by
  push_cast
  rw [mul_div_assoc, cast_tenTo, cast_tenTo, ← zpow_sub₀ (by norm_num)]
  congr 2
  omega

theorem holdsAt_iff (hm : 0 < m) (n : ℕ) :
    (interval m e).holdsAt power n = true ↔ Nears m e (n * 10 ^ power) := by
  have hden : 0 < tenTo (-power).toNat := Nat.pow_pos (by decide)
  unfold Interval.holdsAt
  rw [holds_iff hm hden, grid_eq]

/-- A number lies between its two neighbours. -/
theorem lowerNeighbour_between (m : ℕ) (e power : ℤ) :
    ((interval m e).lowerNeighbour power : ℚ) * 10 ^ power ≤ m * 2 ^ e
      ∧ (m : ℚ) * 2 ^ e < ((interval m e).lowerNeighbour power + 1 : ℕ) * 10 ^ power := by
  have hden : (0 : ℚ) < (interval m e).den := Nat.cast_pos.mpr (den_pos m e)
  have hdown : (0 : ℚ) < tenTo (-power).toNat := Nat.cast_pos.mpr (Nat.pow_pos (by decide))
  have hpos : 0 < (interval m e).den * tenTo power.toNat :=
    Nat.mul_pos (den_pos m e) (Nat.pow_pos (by decide))
  have hfloor : (interval m e).lowerNeighbour power * ((interval m e).den * tenTo power.toNat)
      ≤ (interval m e).mid * tenTo (-power).toNat := Nat.div_mul_le_self _ _
  have hnext : (interval m e).mid * tenTo (-power).toNat
      < ((interval m e).lowerNeighbour power + 1) * ((interval m e).den * tenTo power.toNat) :=
    (Nat.div_lt_iff_lt_mul hpos).mp (Nat.lt_succ_self _)
  rw [← @Nat.cast_le ℚ] at hfloor
  rw [← @Nat.cast_lt ℚ] at hnext
  push_cast at hfloor hnext
  rw [mid_eq] at hfloor hnext
  rw [← grid_eq, ← grid_eq, div_le_iff₀ hdown, lt_div_iff₀ hdown]
  push_cast
  constructor
  · refine le_of_mul_le_mul_right ?_ hden
    linarith
  · refine lt_of_mul_lt_mul_right ?_ hden.le
    linarith

/-- **A neighbour that wins rounds to the number.** -/
theorem nears_of_neighbour (hm : 0 < m) {d : Decimal}
    (hneighbour : neighbour? tie (interval m e) power = some d) : Nears m e d.rational := by
  rcases neighbour_cases tie (interval m e) power with ⟨hholds, h⟩ | ⟨hholds, h⟩ | ⟨_, _, h⟩
  · rw [h] at hneighbour
    cases hneighbour
    exact (holdsAt_iff hm _).mp hholds
  · rw [h] at hneighbour
    cases hneighbour
    exact (holdsAt_iff hm _).mp hholds
  · rw [h] at hneighbour
    cases hneighbour

/-- If no neighbour wins, the neighbours lie no closer together than the ends of the interval. -/
theorem le_of_no_neighbour (hm : 0 < m) (hnone : neighbour? tie (interval m e) power = none) :
    (2 + reachBelow m e : ℚ) * 2 ^ e ≤ 4 * 10 ^ power := by
  obtain ⟨hbelow, habove⟩ := lowerNeighbour_between m e power
  rcases neighbour_cases tie (interval m e) power with ⟨_, h⟩ | ⟨_, h⟩ | ⟨hlower, hupper, _⟩
  · rw [h] at hnone
    cases hnone
  · rw [h] at hnone
    cases hnone
  rw [← Bool.not_eq_true, holdsAt_iff hm] at hlower hupper
  have hunit := two_zpow_pos e
  have hreach : (0 : ℚ) ≤ reachBelow m e * 2 ^ e := mul_nonneg (Nat.cast_nonneg _) hunit.le
  have hlow : 4 * ((interval m e).lowerNeighbour power * 10 ^ power : ℚ)
      ≤ (4 * m - reachBelow m e) * 2 ^ e := by
    by_contra hmore
    exact hlower (nears_of_between (not_le.mp hmore) (by linarith))
  have hhigh : (4 * m + 2 : ℚ) * 2 ^ e
      ≤ 4 * (((interval m e).lowerNeighbour power + 1 : ℕ) * 10 ^ power) := by
    by_contra hmore
    exact hupper (nears_of_between (by linarith) (not_le.mp hmore))
  push_cast at hhigh
  linarith

end Neighbours

/-! ## §3. The search. -/

section Search

variable {tie : Tie}

/-- The first digit of a number stands for at most the number. -/
theorem ten_zpow_firstPower_le (hm : 0 < m) :
    (10 : ℚ) ^ firstPower (interval m e) ≤ m * 2 ^ e := by
  have hden : (0 : ℚ) < (interval m e).den := Nat.cast_pos.mpr (den_pos m e)
  rw [← mul_le_mul_iff_of_pos_right hden, ← mid_eq]
  unfold firstPower
  split
  case isTrue hwhole =>
    generalize hlength : (Nat.toDigits 10 ((interval m e).mid / (interval m e).den)).length = length
    obtain ⟨k, rfl⟩ : ∃ k, length = k + 1 :=
      Nat.exists_eq_succ_of_ne_zero (hlength ▸ Nat.length_toDigits_pos.ne')
    have hdigits : 10 ^ k ≤ (interval m e).mid / (interval m e).den := by
      rcases Nat.eq_zero_or_pos k with rfl | hk
      · exact (Nat.le_div_iff_mul_le (den_pos m e)).mpr (by rwa [pow_zero, one_mul])
      · refine Nat.le_of_not_lt fun hless => ?_
        have hshort := (Nat.length_toDigits_le_iff (by decide) hk).mpr hless
        omega
    have hmul := (Nat.le_div_iff_mul_le (den_pos m e)).mp hdigits
    rw [show ((k + 1 : ℕ) : ℤ) - 1 = (k : ℕ) by omega, zpow_natCast]
    exact_mod_cast hmul
  case isFalse hpart =>
    have hmid : 0 < (interval m e).mid :=
      Nat.mul_pos (Nat.mul_pos (by decide) hm) (Nat.pow_pos two_pos)
    generalize hlength : (Nat.toDigits 10 ((interval m e).den / (interval m e).mid)).length = length
    have hpos : 0 < length := hlength ▸ Nat.length_toDigits_pos
    have hless := (Nat.length_toDigits_le_iff (by decide) hpos).mp hlength.le
    have hmul := (Nat.div_lt_iff_lt_mul hmid).mp hless
    rw [zpow_neg, zpow_natCast, inv_mul_le_iff₀ (by positivity)]
    exact_mod_cast hmul.le

/-- A search comes past every grid that it has fuel for. -/
theorem search_of_neighbour {i : Interval} {fuel k : ℕ} {power : ℤ} (hk : k < fuel)
    (hsome : neighbour? tie i (power - k) ≠ none) : search tie i fuel power ≠ none := by
  induction fuel generalizing k power with
  | zero => exact absurd hk (Nat.not_lt_zero k)
  | succ fuel ih =>
      unfold search
      split
      · exact Option.some_ne_none _
      · rename_i hnone
        cases k with
        | zero =>
            rw [Nat.cast_zero, sub_zero] at hsome
            exact absurd hnone hsome
        | succ k =>
            refine ih (Nat.lt_of_succ_lt_succ hk) ?_
            rwa [show power - 1 - (k : ℤ) = power - (k + 1 : ℕ) by omega]

/-- **The search finds a decimal**: on the grid of seventeen digits one neighbour wins. -/
theorem exists_search (tie : Tie) (hm : 0 < m) (hshort : m < 2 ^ 53) :
    ∃ d, search tie (interval m e) 17 (firstPower (interval m e)) = some d := by
  refine Option.ne_none_iff_exists'.mp (search_of_neighbour (k := 16) (by decide) fun hnone => ?_)
  have hfar := le_of_no_neighbour hm hnone
  have hfirst := ten_zpow_firstPower_le (e := e) hm
  rw [zpow_sub₀ (by norm_num)] at hfar
  have hscaled : (2 + reachBelow m e : ℚ) * 10 ^ 16 * 2 ^ e ≤ 4 * m * 2 ^ e := by
    push_cast at hfar
    rw [← mul_div_assoc, le_div_iff₀ (by positivity)] at hfar
    norm_num at hfar ⊢
    linarith
  have hdigits : (2 + reachBelow m e) * 10 ^ 16 ≤ 4 * m := by
    exact_mod_cast le_of_mul_le_mul_right hscaled (two_zpow_pos e)
  unfold reachBelow at hdigits
  split at hdigits <;> omega

/-- What the search finds rounds to the number. -/
theorem nears_of_search (hm : 0 < m) {fuel : ℕ} {power : ℤ} {d : Decimal}
    (hsearch : search tie (interval m e) fuel power = some d) : Nears m e d.rational := by
  induction fuel generalizing power with
  | zero => cases hsearch
  | succ fuel ih =>
      unfold search at hsearch
      split at hsearch
      · rename_i found hneighbour
        cases hsearch
        exact nears_of_neighbour hm hneighbour
      · exact ih hsearch

end Search

end Shortest

/-- Trailing zeros count for nothing. -/
theorem Decimal.rational_trim (d : Decimal) (fuel : ℕ) : (d.trim fuel).rational = d.rational := by
  induction fuel generalizing d with
  | zero => rfl
  | succ fuel ih =>
      unfold Decimal.trim
      split
      case isFalse => rfl
      case isTrue hzero =>
        rw [ih]
        have hten : 10 * (d.digits / 10) = d.digits := by omega
        unfold Decimal.rational
        dsimp only
        rw [← hten, zpow_add₀ (by norm_num), zpow_one, Nat.mul_div_cancel_left _ (by decide)]
        push_cast
        ring

/-- **THE SHORTEST DECIMAL ROUNDS TO ITS NUMBER**, whichever of two at equal distance is taken. -/
theorem nears_shortest (tie : Tie) {m : ℕ} {e : ℤ} (hm : 0 < m) (hshort : m < 2 ^ 53) :
    Nears m e (shortest tie m e).rational := by
  obtain ⟨d, hsearch⟩ := Shortest.exists_search (e := e) tie hm hshort
  unfold shortest
  rw [if_neg hm.ne']
  dsimp only
  rw [hsearch]
  show Nears m e (d.trim 17).rational
  rw [d.rational_trim]
  exact Shortest.nears_of_search hm hsearch

end RetryControl.Binary64
