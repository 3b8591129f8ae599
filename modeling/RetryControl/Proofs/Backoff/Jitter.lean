/-
  RetryControl.Proofs.Backoff.Jitter
  ────────────────────────────────
  **A DRAWN WAIT REACHES ITS WHOLE RANGE, AND NEVER LEAVES IT.**

  A number from zero to `n` is picked as the high half of a product of a word
  and `n + 1`.  The high half alone is never above `n`, since no word reaches
  the number of words.  A carry adds one to it; but where the high half is `n`
  already, the product is so close to its own bound that its low half leaves no
  room for a carry.

    • `pickUpTo_le` — the pick is at most `n`, carry or not,
    • `exists_draws` — every number up to `n` is the pick of some words,
    • `pickUpTo_congr` — and it hangs on no other words than those it uses,
    • `jitter_covers_range` — so a wait with jitter can be every whole number of
      nanoseconds up to its ceiling that a word can hold, and nothing else; it
      uses one word or two, and a wait without jitter uses none.
-/
import RetryControl.Proofs.Backoff.Doubling

namespace RetryControl

/-! ## §1. The high half of a product. -/

/-- A product with a word stays a whole factor below the number of words. -/
theorem product_add_le {word : Nat} (hword : word < wordCount) (range : Nat) :
    word * range + range ≤ wordCount * range := by
  rw [← Nat.succ_mul]
  exact Nat.mul_le_mul_right range hword

/-- The high half of a product is below the other factor. -/
theorem high_lt {word range : Nat} (hword : word < wordCount) (hrange : 0 < range) :
    word * range / wordCount < range := by
  apply Nat.div_lt_of_lt_mul
  have hproduct := product_add_le hword range
  omega

/-- **A carry finds room in the high half.**  Were the high half the greatest pick already, the low
half would be too small for a carry by less than the range. -/
theorem high_lt_of_carry {word n carried : Nat} (hword : word < wordCount) (hcarried : carried ≤ n)
    (hcarry : wordCount ≤ word * (n + 1) % wordCount + carried) :
    word * (n + 1) / wordCount < n := by
  have hproduct := product_add_le hword (n + 1)
  have hhalves := Nat.div_add_mod (word * (n + 1)) wordCount
  -- under a high half of `n` the product and what is carried would fill `wordCount * (n + 1)`
  generalize word * (n + 1) = product at *
  unfold wordCount at *
  omega

/-! ## §2. Picks. -/

variable {n : Nat}

/-- **A pick is at most `n`.** -/
theorem pickUpTo_le (n : Nat) (draws : Draws) : (pickUpTo n draws).value ≤ n := by
  have hfirst : (draws 0).toNat < wordCount := (draws 0).toNat_lt
  have hsecond : (draws 1).toNat < wordCount := (draws 1).toNat_lt
  have hpos : 0 < n + 1 := n.succ_pos
  have hhigh := high_lt hfirst hpos
  have hcarried := high_lt hsecond hpos
  unfold pickUpTo
  dsimp only
  split
  · rename_i hall
    show (draws 0).toNat ≤ n
    omega
  · split
    · split
      · rename_i hcarry
        exact high_lt_of_carry hfirst (Nat.le_of_lt_succ hcarried) hcarry
      · exact Nat.le_of_lt_succ hhigh
    · exact Nat.le_of_lt_succ hhigh

/-- A word for every pick: the least one whose product reaches it in the high half. -/
theorem exists_word {k : Nat} (hk : k ≤ n) (hn : n < wordCount) :
    ∃ word, word < wordCount ∧ word * (n + 1) / wordCount = k := by
  have hpos : 0 < n + 1 := n.succ_pos
  have hdivided := Nat.div_add_mod (k * wordCount + n) (n + 1)
  have hrest := Nat.mod_lt (k * wordCount + n) hpos
  rw [Nat.mul_comm (n + 1)] at hdivided
  -- rounding up to a multiple of the range leaves the high half alone: no range is above `wordCount`
  refine ⟨(k * wordCount + n) / (n + 1), ?_, ?_⟩
  · apply Nat.div_lt_of_lt_mul
    unfold wordCount at *
    omega
  · generalize (k * wordCount + n) / (n + 1) * (n + 1) = product at *
    unfold wordCount at *
    omega

/-- **Every number up to `n` is picked by some words.** -/
theorem exists_draws {k : Nat} (hk : k ≤ n) (hn : n < wordCount) :
    ∃ draws, (pickUpTo n draws).value = k := by
  obtain ⟨word, hword, hhigh⟩ := exists_word hk hn
  have hfirst : (UInt64.ofNat word).toNat = word := UInt64.toNat_ofNat_of_lt' hword
  unfold pickUpTo
  dsimp only
  split
  · rename_i hall
    have hk' : k < wordCount := by omega
    exact ⟨fun _ => UInt64.ofNat k, UInt64.toNat_ofNat_of_lt' hk'⟩
  · -- a second word of zero carries nothing
    refine ⟨fun i => if i = 0 then UInt64.ofNat word else 0, ?_⟩
    have hsecond : (0 : UInt64).toNat * (n + 1) / wordCount = 0 := by simp
    have hlow : word * (n + 1) % wordCount < wordCount := Nat.mod_lt _ (by decide)
    simp only [if_pos, Nat.one_ne_zero, if_false, hfirst, hsecond, Nat.add_zero]
    rw [if_neg (Nat.not_le_of_lt hlow)]
    split <;> exact hhigh

/-- A pick hangs on the words that it uses only. -/
theorem pickUpTo_congr {draws draws' : Draws}
    (hsame : ∀ i < (pickUpTo n draws).used, draws' i = draws i) :
    pickUpTo n draws' = pickUpTo n draws := by
  have hfirst : draws' 0 = draws 0 := by
    apply hsame
    rcases used_pickUpTo n draws with hused | hused <;> omega
  unfold pickUpTo at hsame ⊢
  dsimp only at hsame ⊢
  rw [hfirst]
  split
  · rfl
  · rename_i hpart
    rw [if_neg hpart] at hsame
    split
    · rename_i hlow
      rw [if_pos hlow] at hsame
      rw [hsame 1 Nat.one_lt_two]
    · rfl

/-! ## §3. Waits. -/

namespace Backoff

/-- The same backoff with nothing drawn. -/
def withoutJitter : Backoff → Backoff
  | .immediate => .immediate
  | .fixed delay _ => .fixed delay false
  | .exponential base cap _ => .exponential base cap false

/-- The longest wait that is drawn below a ceiling, in nanoseconds: a word holds no more. -/
def longestDraw (ceiling : Duration) : Nat := min ceiling.nanos greatestWord

theorem longestDraw_lt (ceiling : Duration) : longestDraw ceiling < wordCount := by
  unfold longestDraw greatestWord wordCount
  omega

theorem nanos_jittered (ceiling : Duration) (draws : Draws) :
    (jittered ceiling draws).delay.nanos = (pickUpTo (longestDraw ceiling) draws).value := by
  have hpick := pickUpTo_le (longestDraw ceiling) draws
  have hceiling : longestDraw ceiling ≤ longestNanos :=
    (Nat.min_le_left _ _).trans ceiling.nanos_le
  exact Nat.min_eq_left (hpick.trans hceiling)

/-- The wait of the same backoff without jitter is the ceiling. -/
theorem wait_withoutJitter (b : Backoff) {attempt : Count} (hlater : 2 ≤ attempt.toNat)
    (draws : Draws) : b.withoutJitter.wait attempt draws = .ok ⟨b.ceiling attempt, 0⟩ := by
  rw [wait_of_two_le _ hlater draws]
  cases b <;> rfl

theorem wait_jittered {b : Backoff} (hjitter : b.isJittered = true) {attempt : Count}
    (hlater : 2 ≤ attempt.toNat) (draws : Draws) :
    b.wait attempt draws = .ok (jittered (b.ceiling attempt) draws) := by
  rw [wait_of_two_le b hlater draws, if_pos hjitter]

/-- Without jitter, and before the second attempt, nothing is drawn. -/
theorem wait_undrawn {b : Backoff} {attempt : Count}
    (hsteady : b.isJittered = false ∨ attempt.toNat < 2) :
    ∃ result, (∀ draws, b.wait attempt draws = result) ∧ ∀ wait, result = .ok wait → wait.used = 0 := by
  by_cases hlater : 2 ≤ attempt.toNat
  · have hnone : ¬b.isJittered = true := by
      rcases hsteady with hnone | hearly
      · rw [hnone]
        decide
      · omega
    refine ⟨.ok ⟨b.ceiling attempt, 0⟩, fun draws => ?_, ?_⟩
    · rw [wait_of_two_le b hlater draws, if_neg hnone]
    · rintro wait ⟨⟩
      rfl
  · rcases (by omega : attempt.toNat = 0 ∨ attempt.toNat = 1) with hzero | hone
    · obtain rfl : attempt = 0 := UInt32.toNat_inj.mp hzero
      refine ⟨_, b.wait_attempt_zero, ?_⟩
      rintro wait ⟨⟩
    · obtain rfl : attempt = 1 := UInt32.toNat_inj.mp hone
      refine ⟨_, b.wait_attempt_one, ?_⟩
      rintro wait ⟨⟩
      rfl

/-- What holds of the waits before one attempt that are drawn below a ceiling. -/
structure DrawnBelow (b : Backoff) (attempt : Count) (ceiling : Duration) : Prop where
  /-- Every supply of words gives a wait within the range, by its first word or its first two. -/
  within : ∀ draws, ∃ wait, b.wait attempt draws = .ok wait
    ∧ wait.delay.nanos ≤ longestDraw ceiling ∧ (wait.used = 1 ∨ wait.used = 2)
    ∧ ∀ draws' : Draws, (∀ i < wait.used, draws' i = draws i) → b.wait attempt draws' = .ok wait
  /-- Every wait within the range is given by some words. -/
  covers : ∀ d : Duration, d.nanos ≤ longestDraw ceiling →
    ∃ draws wait, b.wait attempt draws = .ok wait ∧ wait.delay = d

/-- **JITTERED WAITS COVER EXACTLY THEIR RANGE.**  From the second attempt on a wait with jitter lies
between zero and the wait of the same backoff without jitter, which is the delay itself if that is
fixed, as far as a word reaches, and each of these waits is drawn by some words.  It takes one word
or two.  Nothing is drawn without jitter, nor before the second attempt. -/
theorem jitter_covers_range (b : Backoff) (attempt : Count) :
    (b.isJittered = true → 2 ≤ attempt.toNat →
        ∃ ceiling, (∀ draws, b.withoutJitter.wait attempt draws = .ok ⟨ceiling, 0⟩)
          ∧ (∀ d, b = .fixed d true → ceiling = d)
          ∧ b.DrawnBelow attempt ceiling)
      ∧ (b.isJittered = false ∨ attempt.toNat < 2 →
        ∃ result, (∀ draws, b.wait attempt draws = result)
          ∧ ∀ wait, result = .ok wait → wait.used = 0) := by
  refine ⟨fun hjitter hlater => ?_, wait_undrawn⟩
  have hwait := wait_jittered hjitter hlater
  refine ⟨b.ceiling attempt, b.wait_withoutJitter hlater, ?fixed, ?_⟩
  case fixed =>
    rintro d rfl
    rfl
  constructor
  case within =>
    intro draws
    refine ⟨_, hwait draws, ?_, used_pickUpTo _ draws, fun draws' hsame => ?_⟩
    · rw [nanos_jittered]
      exact pickUpTo_le _ draws
    · rw [hwait draws']
      unfold jittered at hsame ⊢
      rw [pickUpTo_congr hsame]
  case covers =>
    intro d hd
    obtain ⟨draws, hpick⟩ := exists_draws hd (longestDraw_lt _)
    refine ⟨draws, _, hwait draws, ?_⟩
    apply Duration.ext
    rw [nanos_jittered, hpick]

/-- Of three waits, the middle one: a first word that leaves the low half full, and a second one that
carries. -/
theorem jitter_covers_range_carry :
    let b := Backoff.fixed ⟨2, by decide⟩ true
    let carrying : Draws := fun i => if i = 0 then 6148914691236517205 else 18446744073709551615
    b.isJittered = true ∧ 2 ≤ (2 : Count).toNat
      ∧ b.wait 2 carrying = .ok ⟨⟨1, by decide⟩, 2⟩
      ∧ (∃ ceiling, (∀ draws, b.withoutJitter.wait 2 draws = .ok ⟨ceiling, 0⟩)
        ∧ (∀ d, b = .fixed d true → ceiling = d) ∧ b.DrawnBelow 2 ceiling) := by
  intro b carrying
  have hjitter : b.isJittered = true := rfl
  have hlater : 2 ≤ (2 : Count).toNat := by decide
  exact ⟨hjitter, hlater, by decide, (jitter_covers_range b 2).1 hjitter hlater⟩

end Backoff

end RetryControl
