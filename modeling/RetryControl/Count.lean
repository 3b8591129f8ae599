/-
  RetryControl.Count
  ────────────────────────────────
  **COUNTERS.**

  Attempts, budget units and window sends are 32-bit unsigned numbers.  They
  never wrap: a sum that does not fit is held at the largest counter.  The
  lemmas below say in plain `Nat` arithmetic what each operation computes.
-/

namespace RetryControl

/-- A 32-bit unsigned counter. -/
abbrev Count := UInt32

namespace Count

/-! ## §1. The range of a counter. -/

/-- The largest counter. -/
def maxNat : Nat := 4294967295

/-- Every counter is at most the largest one. -/
theorem toNat_le_maxNat (a : Count) : a.toNat ≤ maxNat := by
  have h := UInt32.toNat_lt a
  simp only [maxNat]
  omega

/-- The counter nearest to a number: numbers beyond the range give the largest counter. -/
def clamp (n : Nat) : Count := UInt32.ofNat (min n maxNat)

@[simp] theorem toNat_clamp (n : Nat) : (clamp n).toNat = min n maxNat := by
  simp only [clamp, UInt32.toNat_ofNat', maxNat]
  omega

@[simp] theorem clamp_toNat (a : Count) : clamp a.toNat = a := by
  apply UInt32.toNat_inj.mp
  rw [toNat_clamp]
  exact Nat.min_eq_left (toNat_le_maxNat a)

/-! ## §2. Saturating and checked arithmetic. -/

/-- The sum of two counters, held at the largest counter. -/
def addSat (a b : Count) : Count := clamp (a.toNat + b.toNat)

@[simp] theorem toNat_addSat (a b : Count) :
    (addSat a b).toNat = min (a.toNat + b.toNat) maxNat := toNat_clamp _

/-- The difference of two counters, held at zero. -/
def subSat (a b : Count) : Count := clamp (a.toNat - b.toNat)

@[simp] theorem toNat_subSat (a b : Count) : (subSat a b).toNat = a.toNat - b.toNat := by
  have h := toNat_le_maxNat a
  simp only [subSat, toNat_clamp]
  omega

/-- The difference of two counters, if it is not negative. -/
def sub? (a b : Count) : Option Count :=
  if b.toNat ≤ a.toNat then some (subSat a b) else none

/-- A difference exists exactly when the amount is covered. -/
theorem sub?_eq_some_iff {a b c : Count} :
    sub? a b = some c ↔ b.toNat ≤ a.toNat ∧ c.toNat = a.toNat - b.toNat := by
  unfold sub?
  split
  · rename_i h
    constructor
    · intro hc
      cases hc
      exact ⟨h, toNat_subSat a b⟩
    · rintro ⟨_, hc⟩
      congr 1
      apply UInt32.toNat_inj.mp
      rw [toNat_subSat, hc]
  · rename_i h
    simp [h]

end Count

end RetryControl
