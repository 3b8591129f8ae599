/-
  RetryControl.Backoff.Uniform
  ────────────────────────────────
  **A UNIFORM PICK FROM RANDOM WORDS.**

  A number from `0` to `n` is picked by multiplying a 64-bit word by the size
  of the range and keeping the high half of the product.  Where the low half
  says that the pick may be too small, a second word decides about a carry,
  so one or two words are used.
-/
import RetryControl.Word

namespace RetryControl

/-- An endless supply of random 64-bit words. -/
abbrev Draws := Nat → UInt64

namespace Draws

/-- The supply after its first `k` words. -/
def skip (draws : Draws) (k : Nat) : Draws := fun i => draws (i + k)

/-- The words of a list over and over again; zeros if the list is empty. -/
def cycle (words : List UInt64) : Draws := fun i => words.getD (i % words.length) 0

end Draws

/-- A picked number and the count of words used for it. -/
structure Pick where
  /-- The picked number. -/
  value : Nat
  /-- How many words the pick used. -/
  used : Nat
  deriving Repr, DecidableEq

/-- A number from `0` to `n`, for `n` below `wordCount`. -/
def pickUpTo (n : Nat) (draws : Draws) : Pick :=
  let range := n + 1
  if range = wordCount then ⟨(draws 0).toNat, 1⟩
  else
    let product := (draws 0).toNat * range
    let high := product / wordCount
    let low := product % wordCount
    -- only then can the part below the low half carry into the high one
    if wordCount - range < low then
      let carries := wordCount ≤ low + (draws 1).toNat * range / wordCount
      ⟨if carries then high + 1 else high, 2⟩
    else ⟨high, 1⟩

/-- A pick uses one word or two. -/
theorem used_pickUpTo (n : Nat) (draws : Draws) :
    (pickUpTo n draws).used = 1 ∨ (pickUpTo n draws).used = 2 := by
  unfold pickUpTo
  dsimp only
  split
  · exact .inl rfl
  · split
    · exact .inr rfl
    · exact .inl rfl

end RetryControl
