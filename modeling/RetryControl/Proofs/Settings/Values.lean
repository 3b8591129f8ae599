/-
  RetryControl.Proofs.Settings.Values
  ────────────────────────────────
  **SETTINGS AS THE VALUES OF THEIR FIELDS.**

  The table of the layout lists parts, some of which are sections.  Seen as a
  flat list of leaves it is a list of lawful places: what is put into one of
  them is what it holds, nothing else changes, and settings that hold the same
  everywhere are the same.

    • `Leaf`, `Layout.leaves` — every setting with the section it stands in,
    • `Leaf.value_give`, `Leaf.value_give_of_ne`, `RetrySettings.ext_leaves` —
      the three laws, and `exists_of_values` — settings for all values,
    • `RetrySettings.Overlays` — settings that differ from others by given
      values only; a reader of settings is described by the values that it
      lays over what it is given.
-/
import Mathlib.Data.List.Nodup
import Mathlib.Data.List.Pairwise
import RetryControl.Settings.Layout

namespace RetryControl

/-! ## §1. Values. -/

/-- A value of a setting of any kind. -/
inductive SettingValue where
  /-- A counter. -/
  | count (n : Count)
  /-- A number of milliseconds. -/
  | millis (n : UInt64)
  /-- A truth value. -/
  | flag (b : Bool)
  /-- A rate or a factor. -/
  | rate (x : Float)
  /-- A kind of delays. -/
  | kind (k : BackoffKind)
  /-- A list of error types. -/
  | errorTypes (ts : List ErrorType)
  deriving DecidableEq

namespace Setting

/-- The value that settings hold at a setting. -/
def value (s : RetrySettings) : Setting → SettingValue
  | .count slot => .count (slot.get s)
  | .millis slot => .millis (slot.get s)
  | .flag slot => .flag (slot.get s)
  | .rate slot => .rate (slot.get s)
  | .kind slot => .kind (slot.get s)
  | .errorTypes slot => .errorTypes (slot.get s)

/-- The value is of the kind of the setting. -/
def Takes : Setting → SettingValue → Prop
  | .count _, .count _ | .millis _, .millis _ | .flag _, .flag _ | .rate _, .rate _
  | .kind _, .kind _ | .errorTypes _, .errorTypes _ => True
  | _, _ => False

/-- The settings with another value at a setting; a value of another kind changes nothing. -/
def give (v : SettingValue) (s : RetrySettings) : Setting → RetrySettings
  | .count slot => if let .count n := v then slot.put n s else s
  | .millis slot => if let .millis n := v then slot.put n s else s
  | .flag slot => if let .flag b := v then slot.put b s else s
  | .rate slot => if let .rate x := v then slot.put x s else s
  | .kind slot => if let .kind k := v then slot.put k s else s
  | .errorTypes slot => if let .errorTypes ts := v then slot.put ts s else s

end Setting

/-! ## §2. Leaves. -/

/-- A setting and the section that it stands in, if it stands in one. -/
structure Leaf where
  /-- The name of the section. -/
  block? : Option String
  /-- The setting under its name. -/
  field : Field

namespace Leaf

/-- The names on the way to a setting in a document. -/
def path (leaf : Leaf) : List String := leaf.block?.toList ++ [leaf.field.name]

/-- The value that settings hold at a leaf. -/
def value (s : RetrySettings) (leaf : Leaf) : SettingValue := leaf.field.setting.value s

/-- The settings with another value at a leaf. -/
def give (v : SettingValue) (s : RetrySettings) (leaf : Leaf) : RetrySettings :=
  leaf.field.setting.give v s

end Leaf

/-- The leaves of a part. -/
def Part.leaves : Part → List Leaf
  | .field f => [⟨none, f⟩]
  | .block name _ fields => fields.map fun f => ⟨some name, f⟩

/-- Every setting, in the order of the table. -/
def Layout.leaves : List Leaf := Layout.parts.flatMap Part.leaves

namespace Leaf

/-- No two settings have the same place in documents. -/
theorem nodup_path : (Layout.leaves.map path).Nodup := by decide

theorem eq_of_path_eq {a b : Leaf} (ha : a ∈ Layout.leaves) (hb : b ∈ Layout.leaves)
    (hpath : a.path = b.path) : a = b :=
  List.inj_on_of_nodup_map nodup_path ha hb hpath

/-! ## §3. The laws. -/

/-- A leaf holds what it is given. -/
theorem value_give {leaf : Leaf} (hleaf : leaf ∈ Layout.leaves) {v : SettingValue}
    (htakes : leaf.field.setting.Takes v) (s : RetrySettings) : leaf.value (leaf.give v s) = v := by
  have hall : Layout.leaves.Forall fun leaf =>
      ∀ v, leaf.field.setting.Takes v → ∀ s, leaf.value (leaf.give v s) = v := by
    repeat' apply And.intro
    all_goals
      intro v htakes s
      cases v <;> first | rfl | exact htakes.elim
  exact List.forall_iff_forall_mem.mp hall leaf hleaf v htakes s

/-- Two leaves that do not get in each other's way. -/
def Independent (a b : Leaf) : Prop :=
  ∀ v s, b.value (a.give v s) = b.value s ∧ a.value (b.give v s) = a.value s

/-- No two leaves of the table get in each other's way. -/
theorem pairwise_independent : Layout.leaves.Pairwise Independent := by
  -- the last leaf has none after it
  repeat' first | exact List.Pairwise.nil | apply List.Pairwise.cons
  all_goals
    refine List.forall_iff_forall_mem.mp ?_
    repeat' first | exact True.intro | apply And.intro
  all_goals
    intro v s
    cases v <;> exact ⟨rfl, rfl⟩

instance : Std.Symm Independent := ⟨fun _ _ h v s => ⟨(h v s).2, (h v s).1⟩⟩

/-- What a leaf is given leaves the others as they are. -/
theorem value_give_of_ne {a b : Leaf} (ha : a ∈ Layout.leaves) (hb : b ∈ Layout.leaves)
    (hne : a ≠ b) (v : SettingValue) (s : RetrySettings) : b.value (a.give v s) = b.value s :=
  (pairwise_independent.forall ha hb hne v s).1

end Leaf

/-- **Settings that hold the same everywhere are the same.** -/
theorem RetrySettings.ext_leaves {s s' : RetrySettings}
    (hvalues : ∀ leaf ∈ Layout.leaves, leaf.value s = leaf.value s') : s = s' := by
  have hall : Layout.leaves.Forall fun leaf => leaf.value s = leaf.value s' :=
    List.forall_iff_forall_mem.mpr hvalues
  obtain ⟨_, _, ⟨_, _, _⟩, ⟨_, _, _, _⟩, _, ⟨_, _, _, _, _⟩⟩ := s
  obtain ⟨_, _, ⟨_, _, _⟩, ⟨_, _, _, _⟩, _, ⟨_, _, _, _, _⟩⟩ := s'
  obtain ⟨⟨⟩, ⟨⟩, ⟨⟩, ⟨⟩, ⟨⟩, ⟨⟩, ⟨⟩, ⟨⟩, ⟨⟩, ⟨⟩, ⟨⟩, ⟨⟩, ⟨⟩, ⟨⟩, ⟨⟩⟩ := hall
  rfl

/-- **There are settings for all values** that the leaves take. -/
theorem RetrySettings.exists_of_values {value : Leaf → SettingValue}
    (htakes : ∀ leaf ∈ Layout.leaves, leaf.field.setting.Takes (value leaf)) :
    ∃ s : RetrySettings, ∀ leaf ∈ Layout.leaves, leaf.value s = value leaf := by
  have hgiven : ∀ given ⊆ Layout.leaves,
      ∃ s : RetrySettings, ∀ leaf ∈ given, leaf.value s = value leaf := by
    intro given
    induction given with
    | nil => exact fun _ => ⟨{}, nofun⟩
    | cons leaf rest ih =>
        intro hsubset
        obtain ⟨hleaf, hrest⟩ := List.cons_subset.mp hsubset
        obtain ⟨s, hs⟩ := ih hrest
        refine ⟨leaf.give (value leaf) s, fun other hother => ?_⟩
        by_cases hsame : other = leaf
        · rw [hsame]
          exact Leaf.value_give hleaf (htakes leaf hleaf) s
        · have hmem := (List.mem_cons.mp hother).resolve_left hsame
          rw [Leaf.value_give_of_ne hleaf (hrest hmem) (Ne.symm hsame), hs other hmem]
  exact hgiven _ (List.Subset.refl _)

/-! ## §4. Values laid over settings. -/

/-- Values for some of the leaves. -/
abbrev SettingsView := Leaf → Option SettingValue

/-- The second settings hold the values of the view, and where it has none what the first hold. -/
def RetrySettings.Overlays (view : SettingsView) (s s' : RetrySettings) : Prop :=
  ∀ leaf ∈ Layout.leaves, leaf.value s' = (view leaf).getD (leaf.value s)

namespace RetrySettings.Overlays

variable {view later : SettingsView} {s s' s'' : RetrySettings}

/-- Nothing is laid over. -/
theorem refl (s : RetrySettings) : Overlays (fun _ => none) s s := fun _ _ => rfl

/-- Of two views the later one counts where it has a value. -/
theorem trans (hfirst : Overlays view s s') (hsecond : Overlays later s' s'') :
    Overlays (fun leaf => (later leaf).or (view leaf)) s s'' := by
  intro leaf hleaf
  rw [hsecond leaf hleaf, hfirst leaf hleaf]
  exact (Option.getD_or ..).symm

theorem congr (hsame : ∀ leaf ∈ Layout.leaves, view leaf = later leaf)
    (hview : Overlays view s s') : Overlays later s s' := by
  intro leaf hleaf
  rw [← hsame leaf hleaf]
  exact hview leaf hleaf

/-- One leaf is given a value. -/
theorem give {leaf : Leaf} (hleaf : leaf ∈ Layout.leaves) {v : SettingValue}
    (htakes : leaf.field.setting.Takes v) (s : RetrySettings) :
    Overlays (fun other => if other.path = leaf.path then some v else none) s (leaf.give v s) := by
  intro other hother
  dsimp only
  split
  · rename_i hpath
    rw [Leaf.eq_of_path_eq hother hleaf hpath]
    exact Leaf.value_give hleaf htakes s
  · rename_i hpath
    exact Leaf.value_give_of_ne hleaf hother (fun h => hpath (h ▸ rfl)) v s

/-- A view and what it is laid over leave no choice. -/
theorem unique (hfirst : Overlays view s s') (hsecond : Overlays view s s'') : s' = s'' :=
  ext_leaves fun leaf hleaf => (hfirst leaf hleaf).trans (hsecond leaf hleaf).symm

end RetrySettings.Overlays

end RetryControl
