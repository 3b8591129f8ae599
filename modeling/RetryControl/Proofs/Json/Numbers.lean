/-
  RetryControl.Proofs.Json.Numbers
  ────────────────────────────────
  **WRITTEN NUMBERS AS THEY ARE READ AGAIN.**

  An integer of 64 bits is read as the integer that was written.  Any other
  number is written with its shortest digits and read in two steps: the digits
  are taken in as one natural number, and this is multiplied by a power of
  ten.  Each step is rounded, so the number that comes back need not be the
  one that was written; which one it is depends on the digits alone.

    • `Significand.take_of_lt` — digits that fit 64 bits are all taken in,
    • `scanNumber_natural`, `scanNumber_negative` — integers come back,
    • `Binary64.digits_shortest_le` — shortest digits fit 64 bits,
    • `Decimal.significand` — what is taken in of a written decimal,
    • `scanNumber_body` — and it is, whatever notation it is written in.
-/
import Mathlib
import RetryControl.Json.Read
import RetryControl.Json.Write

namespace RetryControl

/-! ## §1. Digits. -/

theorem isDigit_replicate_zero {n : Nat} : ∀ c ∈ List.replicate n '0', c.isDigit = true := by
  intro c hc
  rw [List.eq_of_mem_replicate hc]
  rfl

theorem isDigit_toDigits {n : Nat} : ∀ c ∈ Nat.toDigits 10 n, c.isDigit = true :=
  fun _ hc => Nat.isDigit_of_mem_toDigits (by decide) (by decide) hc

/-- What follows does not change the first digit. -/
theorem head_append_ne_zero {digits : List Char} (hne : digits ≠ [])
    (hhead : digits.head? ≠ some '0') (more : List Char) : (digits ++ more).head? ≠ some '0' := by
  cases digits with
  | nil => exact absurd rfl hne
  | cons c digits => exact hhead

/-- The digits of a positive number do not start with a zero. -/
theorem head_toDigits_ne_zero {n : Nat} (hn : 0 < n) : (Nat.toDigits 10 n).head? ≠ some '0' := by
  induction n using Nat.strongRecOn with
  | ind n ih =>
      by_cases hsmall : n < 10
      · have hall : ∀ d < 10, 0 < d → [Nat.digitChar d].head? ≠ some '0' := by decide
        rw [Nat.toDigits_of_lt_base hsmall]
        exact hall n hsmall hn
      · rw [Nat.toDigits_of_base_le (by decide) (by omega)]
        exact head_append_ne_zero Nat.toDigits_ne_nil (ih (n / 10) (by omega) (by omega)) _

/-- Digits are read up to what is none. -/
theorem Binary64.spanDigits_append {digits rest : List Char}
    (hdigits : ∀ c ∈ digits, c.isDigit = true) (hrest : ∀ c ∈ rest.head?, ¬c.isDigit = true) :
    spanDigits (digits ++ rest) = (digits, rest) := by
  unfold spanDigits
  rw [List.span_eq_takeWhile_dropWhile, List.takeWhile_append_of_pos hdigits,
    List.dropWhile_append_of_pos hdigits]
  cases rest with
  | nil => simp
  | cons c rest =>
      have hstop := hrest c rfl
      rw [List.takeWhile_cons_of_neg hstop, List.dropWhile_cons_of_neg hstop, List.append_nil]

namespace Json

/-- Further digits only make a number greater. -/
theorem le_ofDigitChars (digits : List Char) (n : Nat) : n ≤ Nat.ofDigitChars 10 digits n := by
  rw [Nat.ofDigitChars_eq_ofDigitChars_zero]
  exact Nat.le_add_right_of_le (Nat.le_mul_of_pos_left n (Nat.pow_pos (by decide)))

/-- Digits of a number that fits 64 bits are all taken in. -/
theorem Significand.take_of_lt (perDigit perExcess : Int) {x : Significand} {digits : List Char}
    (hfits : Nat.ofDigitChars 10 digits x.value < wordCount) :
    x.take perDigit perExcess digits
      = { x with
          value := Nat.ofDigitChars 10 digits x.value
          power := x.power + perDigit * digits.length } := by
  induction digits generalizing x with
  | nil => simp [Significand.take]
  | cons c digits ih =>
      rw [Nat.ofDigitChars_cons] at hfits
      have hnext := Nat.lt_of_le_of_lt (le_ofDigitChars digits _) hfits
      unfold Significand.take
      dsimp only
      rw [if_pos hnext, ih hfits, Nat.ofDigitChars_cons, List.length_cons]
      congr 1
      push_cast
      rw [Int.mul_add]
      omega

/-! ## §2. Scanning a number piece by piece. -/

/-- What stands after a value in a document, or nothing. -/
def Ends (rest : List Char) : Prop := ∀ c ∈ rest.head?, c = ',' ∨ c = ']' ∨ c = '}'

theorem Ends.not_digit {rest : List Char} (hends : Ends rest) :
    ∀ c ∈ rest.head?, ¬c.isDigit = true := by
  intro c hc
  rcases hends c hc with rfl | rfl | rfl <;> decide

/-- Digits in front of the point: no zero but a single one comes first. -/
structure Leading (whole : List Char) : Prop where
  digits : ∀ c ∈ whole, c.isDigit = true
  nonempty : whole ≠ []
  zero : ∀ c rest, whole ≠ '0' :: c :: rest

namespace Leading

variable {whole rest : List Char}

theorem of_head (hdigits : ∀ c ∈ whole, c.isDigit = true) (hnonempty : whole ≠ [])
    (hhead : whole.head? ≠ some '0') : Leading whole := by
  refine ⟨hdigits, hnonempty, ?_⟩
  rintro c rest rfl
  exact hhead rfl

theorem toDigits (n : Nat) : Leading (Nat.toDigits 10 n) := by
  rcases Nat.eq_zero_or_pos n with rfl | hn
  · exact ⟨isDigit_toDigits, Nat.toDigits_ne_nil, by rintro c rest h; cases h⟩
  · exact of_head isDigit_toDigits Nat.toDigits_ne_nil (head_toDigits_ne_zero hn)

/-- Leading digits that fit 64 bits are taken in. -/
theorem scanNumber_append (hwhole : Leading whole) (hrest : ∀ c ∈ rest.head?, ¬c.isDigit = true)
    (hfits : Nat.ofDigitChars 10 whole 0 < wordCount) (negative : Bool) :
    scanNumber negative (whole ++ rest)
      = scanNumber.afterWhole negative ⟨Nat.ofDigitChars 10 whole 0, 0, true⟩ rest := by
  have htake := Significand.take_of_lt 0 1 (x := ⟨0, 0, true⟩) hfits
  rw [Int.zero_mul, Int.add_zero] at htake
  unfold scanNumber
  rw [Binary64.spanDigits_append hwhole.digits hrest]
  split
  · rename_i heq
    cases heq
    exact absurd rfl hwhole.nonempty
  · rename_i heq
    cases heq
    exact absurd rfl (hwhole.zero _ _)
  · rename_i heq
    cases heq
    rw [htake]

end Leading

namespace scanNumber

variable (negative : Bool) {x : Significand} {rest : List Char}

/-- Digits after the point are taken in, and each lowers the power of ten by one. -/
theorem afterWhole_point {fraction : List Char} (hfraction : ∀ c ∈ fraction, c.isDigit = true)
    (hne : fraction ≠ []) (hrest : ∀ c ∈ rest.head?, ¬c.isDigit = true)
    (hfits : Nat.ofDigitChars 10 fraction x.value < wordCount) :
    afterWhole negative x ('.' :: (fraction ++ rest))
      = finish negative
          { x with
            value := Nat.ofDigitChars 10 fraction x.value
            power := x.power - fraction.length } rest := by
  have htake := Significand.take_of_lt (-1) 0 hfits
  rw [Int.neg_one_mul, ← Int.sub_eq_add_neg] at htake
  rw [afterWhole, Binary64.spanDigits_append hfraction hrest]
  split
  · rename_i heq
    cases heq
    exact absurd rfl hne
  · rename_i heq
    cases heq
    rw [htake]

/-- A number that ends after its leading digits is an integer if it fits. -/
theorem afterWhole_of_ends (hends : Ends rest) :
    afterWhole negative x rest = integer negative x rest := by
  unfold afterWhole
  split
  · rename_i tail
    rcases hends '.' rfl with h | h | h <;> cases h
  · rename_i c tail _
    have hother : ¬(c = 'e' ∨ c = 'E') := by
      rcases hends c rfl with rfl | rfl | rfl <;> decide
    exact if_neg hother
  · rfl

/-- A number that ends after its digits has no power of ten. -/
theorem finish_of_ends (hends : Ends rest) :
    finish negative x rest = (x.toFloat negative).map fun f => (.float f, rest) := by
  have hpower : scanOptionalPower rest = .ok (0, rest) := by
    unfold scanOptionalPower
    split
    · rename_i c tail
      have hother : ¬(c = 'e' ∨ c = 'E') := by
        rcases hends c rfl with rfl | rfl | rfl <;> decide
      exact if_neg hother
    · rfl
  unfold finish
  rw [hpower]
  show (Significand.toFloat { x with power := x.power + 0 } negative >>= _) = _
  rw [Int.add_zero]
  cases x.toFloat negative <;> rfl

/-- A power of ten is added to the one that the digits after the point have left. -/
theorem finish_power {s : List Char} {power : Int} (hpower : scanPower s = .ok (power, rest)) :
    finish negative x ('e' :: s)
      = (Significand.toFloat { x with power := x.power + power } negative).map
          fun f => (.float f, rest) := by
  unfold finish
  show ((scanPower s) >>= _) = _
  rw [hpower]
  show (Significand.toFloat { x with power := x.power + power } negative >>= _) = _
  cases Significand.toFloat { x with power := x.power + power } negative <;> rfl

end scanNumber

/-- **Integers of 64 bits come back.** -/
theorem scanNumber_natural {n : Nat} (hn : n < wordCount) {rest : List Char} (hends : Ends rest) :
    scanNumber false (Nat.toDigits 10 n ++ rest) = .ok (.integer n, rest) := by
  have hvalue : Nat.ofDigitChars 10 (Nat.toDigits 10 n) 0 = n := Nat.ofDigitChars_ten_toDigits
  rw [(Leading.toDigits n).scanNumber_append hends.not_digit (by rw [hvalue]; exact hn),
    scanNumber.afterWhole_of_ends _ hends, hvalue]
  rfl

theorem scanNumber_negative {n : Nat} (hpos : 0 < n) (hn : n ≤ signedReach) {rest : List Char}
    (hends : Ends rest) :
    scanNumber true (Nat.toDigits 10 n ++ rest) = .ok (.integer (-n), rest) := by
  have hword : n < wordCount := Nat.lt_of_le_of_lt hn (by decide)
  have hvalue : Nat.ofDigitChars 10 (Nat.toDigits 10 n) 0 = n := Nat.ofDigitChars_ten_toDigits
  rw [(Leading.toDigits n).scanNumber_append hends.not_digit (by rw [hvalue]; exact hword),
    scanNumber.afterWhole_of_ends _ hends, hvalue]
  unfold scanNumber.integer leastInteger
  rw [if_neg (by simp)]
  exact if_pos ⟨rfl, by dsimp only; omega, by dsimp only; omega⟩

end Json

/-! ## §3. Shortest digits. -/

namespace Binary64

namespace Shortest

variable {tie : Tie} {i : Interval}

/-- The lower neighbour of the number on a decimal grid. -/
def Interval.lowerNeighbour (i : Interval) (power : Int) : Nat :=
  i.mid * tenTo (-power).toNat / (i.den * tenTo power.toNat)

/-- The interval holds a number of the grid. -/
def Interval.holdsAt (i : Interval) (power : Int) (n : Nat) : Bool :=
  i.holds (n * tenTo power.toNat) (tenTo (-power).toNat)

/-- **One of the two neighbours wins if the interval holds any of them.** -/
theorem neighbour_cases (tie : Tie) (i : Interval) (power : Int) :
    (i.holdsAt power (i.lowerNeighbour power) = true
        ∧ neighbour? tie i power = some ⟨i.lowerNeighbour power, power⟩)
      ∨ (i.holdsAt power (i.lowerNeighbour power + 1) = true
        ∧ neighbour? tie i power = some ⟨i.lowerNeighbour power + 1, power⟩)
      ∨ (i.holdsAt power (i.lowerNeighbour power) = false
        ∧ i.holdsAt power (i.lowerNeighbour power + 1) = false
        ∧ neighbour? tie i power = none) := by
  unfold neighbour?
  dsimp only
  split
  case isTrue hwins => exact .inl ⟨(Bool.and_eq_true_iff.mp hwins).1, rfl⟩
  case isFalse hloses =>
    right
    split
    case isTrue hupper => exact .inl ⟨hupper, rfl⟩
    case isFalse hupper =>
      have hnone : i.holdsAt power (i.lowerNeighbour power + 1) = false :=
        Bool.eq_false_iff.mpr hupper
      refine .inr ⟨?_, hnone, rfl⟩
      -- without an upper neighbour the lower one loses to none
      by_contra hlower
      rw [Bool.not_eq_false] at hlower
      refine hloses (Bool.and_eq_true_iff.mpr ⟨hlower, Bool.or_eq_true_iff.mpr (.inl ?_)⟩)
      exact congrArg not hnone

/-- On a grid `k` places finer than the first digit of a number it has `k` digits more. -/
theorem lowerNeighbour_le (hden : 0 < i.den) (k : Nat) :
    i.lowerNeighbour (firstPower i - k) ≤ 10 ^ (k + 1) := by
  apply Nat.div_le_of_le_mul
  show i.mid * 10 ^ _ ≤ i.den * 10 ^ _ * 10 ^ (k + 1)
  unfold firstPower
  split
  · generalize hlength : (Nat.toDigits 10 (i.mid / i.den)).length = length
    have hpos : 0 < length := hlength ▸ Nat.length_toDigits_pos
    have hbelow : i.mid / i.den < 10 ^ length :=
      (Nat.length_toDigits_le_iff (by decide) hpos).mp (Nat.le_of_eq hlength)
    have hmid : i.mid ≤ i.den * 10 ^ length := by
      rw [Nat.mul_comm]
      exact Nat.le_of_lt ((Nat.div_lt_iff_lt_mul hden).mp hbelow)
    generalize hdown : (-((length : Int) - 1 - k)).toNat = down
    generalize hup : ((length : Int) - 1 - k).toNat = up
    calc i.mid * 10 ^ down ≤ i.den * 10 ^ length * 10 ^ down := Nat.mul_le_mul_right _ hmid
      _ = i.den * 10 ^ (length + down) := by rw [Nat.mul_assoc, Nat.pow_add]
      _ = i.den * 10 ^ (up + (k + 1)) := by rw [show length + down = up + (k + 1) by omega]
      _ = i.den * 10 ^ up * 10 ^ (k + 1) := by rw [Nat.pow_add, Nat.mul_assoc]
  · rename_i hpart
    generalize hlength : (Nat.toDigits 10 (i.den / i.mid)).length = length
    have hpos : 0 < length := hlength ▸ Nat.length_toDigits_pos
    have hmid : i.mid * 10 ^ (length - 1) ≤ i.den := by
      rcases Nat.eq_zero_or_pos i.mid with hzero | hmid
      · rw [hzero, Nat.zero_mul]
        exact Nat.zero_le _
      · rw [Nat.mul_comm]
        refine (Nat.le_div_iff_mul_le hmid).mp ?_
        rcases Nat.eq_or_lt_of_le hpos with hone | hmore
        · rw [← hone]
          show 1 ≤ i.den / i.mid
          exact (Nat.le_div_iff_mul_le hmid).mpr (by omega)
        · refine Nat.le_of_not_lt fun hbelow => ?_
          have hshort := (Nat.length_toDigits_le_iff (by decide) (by omega)).mpr hbelow
          omega
    rw [show (-(length : Int) - k).toNat = 0 by omega,
      show (-(-(length : Int) - k)).toNat = (length - 1) + (k + 1) by omega, Nat.pow_add,
      ← Nat.mul_assoc, Nat.pow_zero, Nat.mul_one]
    exact Nat.mul_le_mul_right _ hmid

theorem digits_le_of_neighbour (hden : 0 < i.den) {k : Nat} {d : Decimal}
    (hneighbour : neighbour? tie i (firstPower i - k) = some d) : d.digits ≤ 10 ^ (k + 1) + 1 := by
  have hfloor := lowerNeighbour_le hden k
  rcases neighbour_cases tie i (firstPower i - k) with ⟨_, hlower⟩ | ⟨_, hupper⟩ | ⟨_, _, hnone⟩
  · rw [hlower] at hneighbour
    cases hneighbour
    exact Nat.le_succ_of_le hfloor
  · rw [hupper] at hneighbour
    cases hneighbour
    exact Nat.succ_le_succ hfloor
  · rw [hnone] at hneighbour
    cases hneighbour

theorem digits_le_of_search (hden : 0 < i.den) {fuel k : Nat} {d : Decimal}
    (hsearch : search tie i fuel (firstPower i - k) = some d) :
    d.digits ≤ 10 ^ (k + fuel) + 1 := by
  induction fuel generalizing k with
  | zero => cases hsearch
  | succ fuel ih =>
      unfold search at hsearch
      split at hsearch
      · rename_i found hneighbour
        cases hsearch
        refine Nat.le_trans (digits_le_of_neighbour hden hneighbour) (Nat.succ_le_succ ?_)
        exact Nat.pow_le_pow_right (by decide) (by omega)
      · rw [Int.sub_sub] at hsearch
        have hnext := ih (k := k + 1) hsearch
        rw [Nat.add_right_comm] at hnext
        exact hnext

end Shortest

theorem Decimal.digits_trim_le (d : Decimal) (fuel : Nat) : (d.trim fuel).digits ≤ d.digits := by
  induction fuel generalizing d with
  | zero => exact Nat.le_refl _
  | succ fuel ih =>
      unfold Decimal.trim
      split
      · exact Nat.le_trans (ih _) (Nat.div_le_self _ _)
      · exact Nat.le_refl _

/-- **Shortest digits are few**: they stand for at most one more than the seventeenth power of
ten. -/
theorem digits_shortest_le (tie : Tie) (mantissa : Nat) (exponent : Int) :
    (shortest tie mantissa exponent).digits ≤ 10 ^ 17 + 1 := by
  unfold shortest
  split
  · exact Nat.zero_le _
  · refine Nat.le_trans (Decimal.digits_trim_le _ _) ?_
    have hden : 0 < (Shortest.interval mantissa exponent).den := Nat.pow_pos (by decide)
    cases hsearch : Shortest.search tie (Shortest.interval mantissa exponent) 17
        (Shortest.firstPower (Shortest.interval mantissa exponent)) with
    | none => exact Nat.zero_le _
    | some d =>
        rw [← Int.sub_zero (Shortest.firstPower _)] at hsearch
        have hdigits := Shortest.digits_le_of_search (k := 0) hden hsearch
        exact hdigits

/-! ## §4. Written decimals. -/

namespace Decimal

/-- How many digits stand in front of the point, if none of them is written as a power of ten. -/
def place (d : Decimal) : Int :=
  if d.digits = 0 then 1 else ((Nat.toDigits 10 d.digits).length : Int) + d.exponent

/-- A decimal as documents have it, without its sign. -/
def body (d : Decimal) : List Char :=
  if NumberStyle.document.isPositional d.place then
    positional (Nat.toDigits 10 d.digits) d.place NumberStyle.document.keepsPoint
  else scientific (Nat.toDigits 10 d.digits) d.place NumberStyle.document.signsPower

/-- What a reader takes in of a written decimal: its digits and a power of ten.  The zeros that a
whole number in positional notation is filled up with, and the one after its point, are digits
too. -/
def significand (d : Decimal) : Json.Significand :=
  if d.digits ≠ 0 ∧ (d.exponent < 0 ∨ 16 < d.place) then ⟨d.digits, d.exponent, true⟩
  else ⟨d.digits * 10 ^ (d.exponent + 1).toNat, -1, true⟩

end Decimal

end Binary64

namespace Json

open Binary64

variable (negative : Bool) {rest : List Char}

theorem isDigit_append {digits more : List Char} (hdigits : ∀ c ∈ digits, c.isDigit = true)
    (hmore : ∀ c ∈ more, c.isDigit = true) : ∀ c ∈ digits ++ more, c.isDigit = true :=
  fun c hc => (List.mem_append.mp hc).elim (hdigits c) (hmore c)

/-- A whole number, filled up with zeros, with a point and a zero after it. -/
theorem scanNumber_whole {n zeros : Nat} (hzero : n = 0 → zeros = 0)
    (hfits : 10 * (10 ^ zeros * n) < wordCount) (hends : Ends rest) :
    scanNumber negative (Nat.toDigits 10 n ++ List.replicate zeros '0' ++ '.' :: ('0' :: rest))
      = (Significand.toFloat ⟨10 * (10 ^ zeros * n), -1, true⟩ negative).map
          fun f => (.float f, rest) := by
  have hvalue : Nat.ofDigitChars 10 (Nat.toDigits 10 n ++ List.replicate zeros '0') 0
      = 10 ^ zeros * n := by
    rw [Nat.ofDigitChars_append, Nat.ofDigitChars_ten_toDigits, Nat.ofDigitChars_replicate_zero]
  have hleading : Leading (Nat.toDigits 10 n ++ List.replicate zeros '0') := by
    rcases Nat.eq_zero_or_pos n with hn | hn
    · rw [hzero hn, List.replicate_zero, List.append_nil]
      exact .toDigits n
    · refine .of_head (isDigit_append isDigit_toDigits isDigit_replicate_zero)
        (List.append_ne_nil_of_left_ne_nil Nat.toDigits_ne_nil _) ?_
      exact head_append_ne_zero Nat.toDigits_ne_nil (head_toDigits_ne_zero hn) _
  rw [hleading.scanNumber_append (by simp) (by rw [hvalue]; omega), hvalue]
  have hpoint := scanNumber.afterWhole_point negative (x := ⟨10 ^ zeros * n, 0, true⟩)
    (show ∀ c ∈ ['0'], c.isDigit = true by simp) (by simp) hends.not_digit
    (by simpa [Nat.ofDigitChars] using hfits)
  refine hpoint.trans ?_
  rw [scanNumber.finish_of_ends _ hends]
  rfl

/-- A number below one, with zeros after its point. -/
theorem scanNumber_below {n : Nat} (zeros : Nat) (hfits : n < wordCount) (hends : Ends rest) :
    scanNumber negative
        ('0' :: '.' :: (List.replicate zeros '0' ++ Nat.toDigits 10 n ++ rest))
      = (Significand.toFloat ⟨n, -((zeros + (Nat.toDigits 10 n).length : Nat) : Int), true⟩
          negative).map fun f => (.float f, rest) := by
  have hvalue : Nat.ofDigitChars 10 (List.replicate zeros '0' ++ Nat.toDigits 10 n) 0 = n := by
    rw [Nat.ofDigitChars_append, Nat.ofDigitChars_replicate_zero, Nat.mul_zero,
      Nat.ofDigitChars_ten_toDigits]
  have hscan := fun tail htail =>
    @Leading.scanNumber_append _ tail (Leading.toDigits 0) htail (by decide) negative
  have hpoint := scanNumber.afterWhole_point negative (x := ⟨0, 0, true⟩)
    (isDigit_append isDigit_replicate_zero isDigit_toDigits)
    (List.append_ne_nil_of_right_ne_nil _ Nat.toDigits_ne_nil) hends.not_digit
    (by rw [hvalue]; exact hfits)
  rw [hvalue, List.length_append, List.length_replicate, Int.zero_sub] at hpoint
  exact (hscan ('.' :: _) (by simp)).trans (hpoint.trans (scanNumber.finish_of_ends _ hends))

/-- A number with its point among its digits. -/
theorem scanNumber_among {n : Nat} (whole : Nat) (hn : 0 < n) (hfits : n < wordCount)
    (hpos : 0 < whole) (hshort : whole < (Nat.toDigits 10 n).length) (hends : Ends rest) :
    scanNumber negative
        ((Nat.toDigits 10 n).take whole ++ '.' :: ((Nat.toDigits 10 n).drop whole ++ rest))
      = (Significand.toFloat ⟨n, -(((Nat.toDigits 10 n).length - whole : Nat) : Int), true⟩
          negative).map fun f => (.float f, rest) := by
  have hdigits := isDigit_toDigits (n := n)
  have hvalue := Nat.ofDigitChars_ten_toDigits (n := n)
  have hhead := head_toDigits_ne_zero hn
  generalize Nat.toDigits 10 n = digits at *
  rw [← List.take_append_drop whole digits, Nat.ofDigitChars_append] at hvalue
  have hleading : Leading (digits.take whole) := by
    refine .of_head (fun c hc => hdigits c (List.mem_of_mem_take hc)) ?_ ?_
    · rw [← List.length_pos_iff, List.length_take]
      omega
    · rw [List.head?_take, if_neg (by omega)]
      exact hhead
  have hscan := fun tail htail =>
    @Leading.scanNumber_append _ tail hleading htail
      (Nat.lt_of_le_of_lt (le_ofDigitChars (digits.drop whole) _) (by rw [hvalue]; exact hfits))
      negative
  have hfraction : digits.drop whole ≠ [] := by
    rw [← List.length_pos_iff, List.length_drop]
    omega
  have hpoint := scanNumber.afterWhole_point negative
    (x := ⟨Nat.ofDigitChars 10 (digits.take whole) 0, 0, true⟩)
    (fun c hc => hdigits c (List.mem_of_mem_drop hc)) hfraction hends.not_digit
    (by rw [hvalue]; exact hfits)
  rw [hvalue, List.length_drop, Int.zero_sub] at hpoint
  exact (hscan ('.' :: _) (by simp)).trans (hpoint.trans (scanNumber.finish_of_ends _ hends))

/-- Digits after a sign are a power of ten. -/
theorem scanPower_digits {s : List Char} {n : Nat}
    (hsign : Binary64.takeSign s = (negative, Nat.toDigits 10 n ++ rest)) (hends : Ends rest) :
    scanPower s = .ok (if negative then -(n : Int) else n, rest) := by
  unfold scanPower
  rw [hsign]
  dsimp only
  rw [Binary64.spanDigits_append isDigit_toDigits hends.not_digit]
  split
  · rename_i heq
    exact absurd (congrArg Prod.fst heq) Nat.toDigits_ne_nil
  · rename_i heq
    cases heq
    have hvalue : natOfDigits (Nat.toDigits 10 n) = n := Nat.ofDigitChars_ten_toDigits
    rw [hvalue]

/-- A power of ten is written with its sign. -/
theorem scanPower_toString (power : Int) (hends : Ends rest) :
    scanPower ((if 0 ≤ power then ['+'] else []) ++ (toString power).toList ++ rest)
      = .ok (power, rest) := by
  rw [Int.toString_eq_repr, Int.repr_eq_if]
  by_cases hsign : 0 ≤ power
  · rw [if_pos hsign, if_pos hsign, Nat.toList_repr,
      scanPower_digits false (n := power.toNat) rfl hends]
    rw [if_neg Bool.false_ne_true, Int.toNat_of_nonneg hsign]
  · rw [if_neg hsign, if_neg hsign, String.toList_append, Nat.toList_repr,
      scanPower_digits true (n := (-power).toNat) rfl hends]
    rw [if_pos rfl, Int.toNat_of_nonneg (by omega), Int.neg_neg]

/-- The power of ten at the end of scientific notation, and what follows it. -/
def powerText (place : Int) (rest : List Char) : List Char :=
  (if 0 ≤ place - 1 then ['+'] else []) ++ (toString (place - 1)).toList ++ rest

theorem scientific_single (c : Char) (place : Int) (rest : List Char) :
    scientific [c] place true ++ rest = [c] ++ 'e' :: powerText place rest := by
  simp [scientific, powerText]

theorem scientific_cons (c d : Char) (more : List Char) (place : Int) (rest : List Char) :
    scientific (c :: d :: more) place true ++ rest
      = [c] ++ '.' :: (d :: more ++ 'e' :: powerText place rest) := by
  simp [scientific, powerText]

/-- A number in scientific notation. -/
theorem scanNumber_scientific {n : Nat} (hn : 0 < n) (hfits : n < wordCount) (place : Int)
    (hends : Ends rest) :
    scanNumber negative (scientific (Nat.toDigits 10 n) place true ++ rest)
      = (Significand.toFloat ⟨n, place - (Nat.toDigits 10 n).length, true⟩ negative).map
          fun f => (.float f, rest) := by
  have hpower : scanPower (powerText place rest) = .ok (place - 1, rest) :=
    scanPower_toString (place - 1) hends
  have hdigits := isDigit_toDigits (n := n)
  have hvalue := Nat.ofDigitChars_ten_toDigits (n := n)
  have hhead := head_toDigits_ne_zero hn
  have hne := Nat.toDigits_ne_nil (n := n) (b := 10)
  generalize Nat.toDigits 10 n = digits at *
  cases digits with
  | nil => exact absurd rfl hne
  | cons c more =>
      rw [← List.singleton_append, Nat.ofDigitChars_append] at hvalue
      have hleading : Leading [c] := .of_head (by simpa using hdigits c) (by simp) hhead
      have hscan := fun tail htail =>
        @Leading.scanNumber_append _ tail hleading htail
          (Nat.lt_of_le_of_lt (le_ofDigitChars more _) (by rw [hvalue]; exact hfits)) negative
      cases more with
      | nil =>
          rw [scientific_single, hscan _ (by simp)]
          refine (scanNumber.finish_power _ hpower).trans ?_
          rw [show Nat.ofDigitChars 10 [c] 0 = n from hvalue, Int.zero_add]
          rfl
      | cons d more =>
          rw [scientific_cons, hscan _ (by simp),
            scanNumber.afterWhole_point _ (fun e he => hdigits e (List.mem_cons_of_mem c he))
              (by simp) (by simp) (by rw [hvalue]; exact hfits),
            hvalue, scanNumber.finish_power _ hpower]
          have hplace : (0 : Int) - ((d :: more).length : Nat) + (place - 1)
              = place - ((c :: d :: more).length : Nat) := by
            simp only [List.length_cons]
            omega
          rw [hplace]

theorem isPositional_document {place : Int} :
    NumberStyle.document.isPositional place = true ↔ -4 ≤ place ∧ place ≤ 16 := by
  simp [NumberStyle.isPositional, NumberStyle.document]

/-- A decimal whose digits all stand in front of the point. -/
theorem scanNumber_positional_whole {d : Decimal} (hplace : 1 ≤ d.place ∧ d.place ≤ 16)
    (hwhole : d.digits = 0 ∨ 0 ≤ d.exponent) (hends : Ends rest) :
    scanNumber negative (positional (Nat.toDigits 10 d.digits) d.place true ++ rest)
      = (Significand.toFloat ⟨d.digits * 10 ^ (d.exponent + 1).toNat, -1, true⟩ negative).map
          fun f => (.float f, rest) := by
  have hpos := Nat.length_toDigits_pos (b := 10) (n := d.digits)
  have hbelow : d.digits < 10 ^ (Nat.toDigits 10 d.digits).length :=
    (Nat.length_toDigits_le_iff (by decide) hpos).mp (Nat.le_refl _)
  -- the zeros that fill the number up are those of its power of ten, but zero has none
  obtain ⟨zeros, hzero, hlength, hvalue⟩ : ∃ zeros : Nat, (d.digits = 0 → zeros = 0)
      ∧ d.place = ((Nat.toDigits 10 d.digits).length + zeros : Nat)
      ∧ d.digits * 10 ^ (d.exponent + 1).toNat = 10 * (10 ^ zeros * d.digits) := by
    unfold Decimal.place
    rcases Nat.eq_zero_or_pos d.digits with hdigits | hdigits
    · refine ⟨0, fun _ => rfl, ?_, ?_⟩
      · rw [if_pos hdigits, hdigits]
        rfl
      · simp only [hdigits, Nat.zero_mul, Nat.mul_zero]
    · refine ⟨d.exponent.toNat, by omega, by rw [if_neg (by omega)]; omega, ?_⟩
      rw [show (d.exponent + 1).toNat = d.exponent.toNat + 1 by omega, Nat.pow_succ,
        Nat.mul_comm _ 10, Nat.mul_left_comm, Nat.mul_comm d.digits]
  have hfits : 10 * (10 ^ zeros * d.digits) < wordCount := by
    have hscaled : 10 ^ zeros * d.digits < 10 ^ 16 := calc
      10 ^ zeros * d.digits < 10 ^ zeros * 10 ^ (Nat.toDigits 10 d.digits).length :=
        Nat.mul_lt_mul_of_pos_left hbelow (Nat.pow_pos (by decide))
      _ = 10 ^ (zeros + (Nat.toDigits 10 d.digits).length) := (Nat.pow_add ..).symm
      _ ≤ 10 ^ 16 := Nat.pow_le_pow_right (by decide) (by omega)
    exact Nat.lt_of_lt_of_le (Nat.mul_lt_mul_of_pos_left hscaled (by decide)) (by decide)
  have hscan := scanNumber_whole negative hzero hfits hends
  rw [hvalue, hlength]
  unfold positional
  rw [if_neg (by omega)]
  dsimp only
  rw [Int.toNat_natCast, if_pos (Nat.le_add_right _ _), Nat.add_sub_cancel_left, if_pos rfl,
    List.append_assoc]
  exact hscan

/-- **What is taken in of a written decimal.** -/
theorem scanNumber_body {d : Decimal} (hfits : d.digits ≤ 10 ^ 17 + 1) (hends : Ends rest) :
    scanNumber negative (d.body ++ rest)
      = (d.significand.toFloat negative).map fun f => (.float f, rest) := by
  have hword : d.digits < wordCount := Nat.lt_of_le_of_lt hfits (by decide)
  have hlength := Nat.length_toDigits_pos (b := 10) (n := d.digits)
  unfold Decimal.body Decimal.significand
  rcases Nat.eq_zero_or_pos d.digits with hzero | hn
  · have hplace : d.place = 1 := if_pos hzero
    rw [if_pos (isPositional_document.mpr (by omega)), if_neg (fun h => h.1 hzero)]
    exact scanNumber_positional_whole _ (by omega) (.inl hzero) hends
  have hplace : d.place = ((Nat.toDigits 10 d.digits).length : Int) + d.exponent :=
    if_neg (by omega)
  by_cases hpositional : -4 ≤ d.place ∧ d.place ≤ 16
  · rw [if_pos (isPositional_document.mpr hpositional)]
    by_cases hbelow : d.place ≤ 0
    · rw [if_pos ⟨by omega, .inl (by omega)⟩]
      have hscan := scanNumber_below negative (-d.place).toNat hword hends
      rw [show -(((-d.place).toNat + (Nat.toDigits 10 d.digits).length : Nat) : Int) = d.exponent
        by omega] at hscan
      unfold positional
      rw [if_pos hbelow]
      exact hscan
    · by_cases hamong : d.exponent < 0
      · rw [if_pos ⟨by omega, .inl hamong⟩]
        have hscan := scanNumber_among negative d.place.toNat hn hword (by omega) (by omega)
          hends
        rw [show -(((Nat.toDigits 10 d.digits).length - d.place.toNat : Nat) : Int) = d.exponent
          by omega] at hscan
        unfold positional
        rw [if_neg hbelow]
        dsimp only
        rw [if_neg (by omega), List.append_assoc]
        exact hscan
      · rw [if_neg (by omega)]
        exact scanNumber_positional_whole _ (by omega) (.inr (by omega)) hends
  · rw [if_neg (fun h => hpositional (isPositional_document.mp h)), if_pos ⟨by omega, by omega⟩]
    have hscan := scanNumber_scientific negative hn hword d.place hends
    rw [show d.place - (Nat.toDigits 10 d.digits).length = d.exponent by omega] at hscan
    exact hscan

end Json

end RetryControl
