/-
  RetryControl.NameMap
  ────────────────────────────────
  **VALUES FILED UNDER NAMES.**

  A finite map from names to values, read through `get?`.  Per-scope state is
  kept in such maps, where a missing entry stands for fresh state.
-/

namespace RetryControl

/-- A finite map from names to values. -/
structure NameMap (α : Type) where
  /-- The entries, at most one for each name. -/
  entries : List (String × α) := []

namespace NameMap

variable {α : Type}

/-! ## §1. Operations. -/

/-- The map without entries. -/
def empty : NameMap α := {}

/-- The value filed under a name. -/
def get? (m : NameMap α) (name : String) : Option α := m.entries.lookup name

/-- The value filed under a name, or the given one if there is none. -/
def getD (m : NameMap α) (name : String) (fresh : α) : α := (m.get? name).getD fresh

/-- The map without the entry of a name. -/
def erase (m : NameMap α) (name : String) : NameMap α :=
  ⟨m.entries.filter (fun e => e.1 != name)⟩

/-- The map with a value filed under a name, in place of any earlier one. -/
def insert (m : NameMap α) (name : String) (a : α) : NameMap α :=
  ⟨(name, a) :: (m.erase name).entries⟩

/-- Something is filed under the name. -/
def contains (m : NameMap α) (name : String) : Bool := (m.get? name).isSome

/-- The number of entries. -/
def size (m : NameMap α) : Nat := m.entries.length

/-! ## §2. What the operations do to `get?`. -/

@[simp] theorem get?_empty (name : String) : (empty : NameMap α).get? name = none := rfl

private theorem lookup_filter_ne (es : List (String × α)) (name other : String) :
    (es.filter (fun e => e.1 != name)).lookup other
      = if other = name then none else es.lookup other := by
  induction es with
  | nil => simp
  | cons e es ih =>
    obtain ⟨k, a⟩ := e
    by_cases hk : k = name
    · subst hk
      rw [List.filter_cons_of_neg (by simp), ih, List.lookup_cons]
      by_cases ho : other = k
      · simp [ho]
      · have hb : (other == k) = false := by simpa using ho
        simp [ho, hb]
    · rw [List.filter_cons_of_pos (by simpa using hk), List.lookup_cons, List.lookup_cons, ih]
      by_cases ho : other = k
      · subst ho
        simp [hk]
      · have hb : (other == k) = false := by simpa using ho
        simp [hb]

@[simp] theorem get?_erase (m : NameMap α) (name other : String) :
    (m.erase name).get? other = if other = name then none else m.get? other :=
  lookup_filter_ne m.entries name other

@[simp] theorem get?_insert (m : NameMap α) (name other : String) (a : α) :
    (m.insert name a).get? other = if other = name then some a else m.get? other := by
  by_cases h : other = name
  · subst h
    simp [insert, get?]
  · have hb : (other == name) = false := by simpa using h
    have he := get?_erase m name other
    simp only [get?, h, if_false] at he
    simp [insert, get?, List.lookup_cons, hb, h, he]

end NameMap

/-! ## §3. Entries in their order. -/

/-- Entries with a value filed under a name, in the place of an earlier one or else at the end. -/
def setEntry {α : Type} (name : String) (a : α) : List (String × α) → List (String × α)
  | [] => [(name, a)]
  | (other, old) :: rest =>
    if name = other then (name, a) :: rest else (other, old) :: setEntry name a rest

theorem lookup_setEntry {α : Type} (name other : String) (a : α) (entries : List (String × α)) :
    (setEntry name a entries).lookup other
      = if other = name then some a else entries.lookup other := by
  induction entries with
  | nil =>
    by_cases ho : other = name
    · simp [setEntry, ho]
    · have hb : (other == name) = false := by simpa using ho
      simp [setEntry, List.lookup_cons, hb, ho]
  | cons e entries ih =>
    obtain ⟨k, old⟩ := e
    by_cases hk : name = k
    · subst hk
      by_cases ho : other = name
      · simp [setEntry, ho]
      · have hb : (other == name) = false := by simpa using ho
        simp [setEntry, List.lookup_cons, hb, ho]
    · by_cases ho : other = k
      · subst ho
        have hn : ¬other = name := fun h => hk h.symm
        simp [setEntry, hk, hn]
      · have hb : (other == k) = false := by simpa using ho
        simp [setEntry, hk, List.lookup_cons, hb, ih]

end RetryControl
