/-
  RetryControl.Proofs.Settings.Reading
  ────────────────────────────────
  **READERS OF DOCUMENTS AS OVERLAYS.**

  The reader of layered trees looks for one setting after another; the reader
  of JSON trees looks at one member after another and finds its setting by
  name.  Where every value is spelled strictly both succeed, and what they do
  is lay the values of the document over the settings that they are given.

    • `Lays` — a reader that succeeds and lays given values over settings, and
      how such readers follow each other,
    • `Node.Sections.lays` — the reader of layered trees,
    • `lays_members` — the reader of JSON trees.
-/
import RetryControl.Proofs.Settings.Layers

namespace RetryControl

/-! ## §1. Readers. -/

/-- Whatever settings the reader is given, it succeeds and lays the values of the view over them. -/
def Lays {ε : Type} (view : SettingsView) (read : RetrySettings → Except ε RetrySettings) : Prop :=
  ∀ s, ∃ s', read s = .ok s' ∧ RetrySettings.Overlays view s s'

namespace Lays

variable {ε ε' : Type} {view later : SettingsView}
  {read next : RetrySettings → Except ε RetrySettings}

/-- A reader that finds nothing. -/
theorem nothing : Lays (fun _ => none) (Except.ok : RetrySettings → Except ε RetrySettings) :=
  fun s => ⟨s, rfl, .refl s⟩

/-- What is read later counts. -/
theorem andThen (hfirst : Lays view read) (hsecond : Lays later next) :
    Lays (fun leaf => (later leaf).or (view leaf)) fun s => read s >>= next := by
  intro s
  obtain ⟨between, hread, hview⟩ := hfirst s
  obtain ⟨after, hnext, hlater⟩ := hsecond between
  refine ⟨after, ?_, hview.trans hlater⟩
  dsimp only
  rw [hread]
  exact hnext

theorem congr (hsame : ∀ leaf ∈ Layout.leaves, view leaf = later leaf) (hview : Lays view read) :
    Lays later read := by
  intro s
  obtain ⟨s', hread, hover⟩ := hview s
  exact ⟨s', hread, hover.congr hsame⟩

/-- Where there are no faults it does not matter how they would be reported. -/
theorem mapError (hview : Lays view read) (f : ε → ε') :
    Lays view fun s => (read s).mapError f := by
  intro s
  obtain ⟨s', hread, hover⟩ := hview s
  refine ⟨s', ?_, hover⟩
  dsimp only
  rw [hread]
  rfl

/-- A reader of one setting. -/
theorem one {leaf : Leaf} (hleaf : leaf ∈ Layout.leaves) {value? : Option SettingValue}
    (hsome : value?.isSome = true) (htakes : ∀ v, value? = some v → leaf.field.setting.Takes v)
    (hread : ∀ v s, value? = some v → read s = .ok (leaf.field.setting.give v s)) :
    Lays (fun other => if other.path = leaf.path then value? else none) read := by
  intro s
  obtain ⟨v, hv⟩ := Option.isSome_iff_exists.mp hsome
  rw [hv]
  exact ⟨_, hread v s hv, .give hleaf (htakes v hv) s⟩

end Lays

/-- The values of a view for some leaves. -/
def SettingsView.within (view : SettingsView) (leaves : List Leaf) : SettingsView :=
  fun leaf => if leaf.path ∈ leaves.map Leaf.path then view leaf else none

/-- **Readers one after another lay the values of all their leaves over settings.** -/
theorem lays_foldlM {ι ε : Type} {view : SettingsView} {leaves : ι → List Leaf}
    {read : RetrySettings → ι → Except ε RetrySettings} {items : List ι}
    (hitems : ∀ item ∈ items, Lays (view.within (leaves item)) fun s => read s item) :
    Lays (view.within (items.flatMap leaves)) fun s => items.foldlM read s := by
  induction items with
  | nil => exact Lays.nothing
  | cons item rest ih =>
      obtain ⟨hitem, hrest⟩ := List.forall_mem_cons.mp hitems
      refine (hitem.andThen (ih hrest)).congr fun leaf _ => ?_
      unfold SettingsView.within
      simp only [List.flatMap_cons, List.map_append, List.mem_append]
      -- a leaf that is read twice is given the same twice
      by_cases hlater : leaf.path ∈ (rest.flatMap leaves).map Leaf.path
      · rw [if_pos hlater, if_pos (Or.inr hlater)]
        split
        · exact Option.or_self
        · exact Option.or_none
      · rw [if_neg hlater, Option.none_or]
        exact if_congr ⟨Or.inl, fun h => h.resolve_right hlater⟩ rfl rfl

/-! ## §2. Layered trees. -/

/-- What a tree is taken to hold for a setting. -/
def Leaf.takenAt? (tree : Node) (leaf : Leaf) : Option SettingValue :=
  (leaf.at? tree).bind leaf.field.setting.taken?

/-- What a tree spells for a setting. -/
def Leaf.spelledAt? (tree : Node) (leaf : Leaf) : Option SettingValue :=
  (leaf.at? tree).bind leaf.field.setting.spelled?

namespace Node

variable {tree : Node}

/-- All that a tree holds for settings can be taken for values of them. -/
def Taken (tree : Node) : Prop :=
  ∀ leaf ∈ Layout.leaves, ∀ node, leaf.at? tree = some node →
    (leaf.field.setting.taken? node).isSome = true

/-- All that a tree holds for settings is spelled for them. -/
def Spelled (tree : Node) : Prop :=
  ∀ leaf ∈ Layout.leaves, ∀ node, leaf.at? tree = some node →
    (leaf.field.setting.spelled? node).isSome = true

/-- The reader of one setting. -/
theorem Taken.lays_leaf (htaken : tree.Taken) {leaf : Leaf} (hleaf : leaf ∈ Layout.leaves)
    (step : Step) :
    Lays (SettingsView.within (Leaf.takenAt? tree) [leaf])
      fun s => readAt step leaf.field.setting.ofNode (leaf.at? tree) s := by
  have hview : ∀ other ∈ Layout.leaves,
      (if other.path = leaf.path then leaf.takenAt? tree else none)
        = SettingsView.within (Leaf.takenAt? tree) [leaf] other := by
    intro other hother
    unfold SettingsView.within
    rw [List.map_singleton]
    simp only [List.mem_singleton]
    split
    · rename_i hpath
      rw [Leaf.eq_of_path_eq hother hleaf hpath]
    · rfl
  refine Lays.congr hview ?_
  unfold Leaf.takenAt?
  cases hfound : leaf.at? tree with
  | none =>
      refine Lays.congr (fun other _ => ?_) Lays.nothing
      exact (ite_self none).symm
  | some node =>
      refine Lays.mapError ?_ _
      exact Lays.one hleaf (htaken leaf hleaf node hfound) (fun v => Setting.takes_of_taken)
        fun v s hv => Setting.ofNode_of_taken hv s

/-- The reader of a part lays what the tree holds for its settings over settings. -/
theorem Sections.lays_part (htree : tree.Sections) (htaken : tree.Taken) {part : Part}
    (hpart : part ∈ Layout.parts) :
    Lays (SettingsView.within (Leaf.takenAt? tree) part.leaves)
      fun s => readAt (.name part.name) part.nodeReader.2 (tree.asTable.2.lookup part.name) s := by
  cases part with
  | field f =>
      have hleaf := Layout.mem_leaves_of_mem_parts hpart (List.mem_singleton_self _)
      have hlays := htaken.lays_leaf hleaf (.name f.name)
      rw [show (⟨none, f⟩ : Leaf).at? tree = tree.asTable.2.lookup f.name from
        Option.bind_fun_some _] at hlays
      exact hlays
  | block name typeName fields =>
      show Lays _ fun s => readAt _ _ (tree.asTable.2.lookup name) s
      have hat : ∀ f : Field, (⟨some name, f⟩ : Leaf).at? tree
          = (tree.asTable.2.lookup name).bind fun node => node.asTable.2.lookup f.name :=
        fun _ => rfl
      cases hsection : tree.asTable.2.lookup name with
      | none =>
          rw [hsection] at hat
          -- without the section there is nothing at any of its leaves
          refine Lays.congr (fun leaf hleaf => ?_) Lays.nothing
          unfold SettingsView.within
          split
          · rename_i hmem
            obtain ⟨other, hother, hpath⟩ := List.mem_map.mp hmem
            cases Leaf.eq_of_path_eq (Layout.mem_leaves_of_mem_parts hpart hother) hleaf hpath
            obtain ⟨f, _, rfl⟩ := List.mem_map.mp hother
            unfold Leaf.takenAt?
            rw [hat]
            rfl
          · rfl
      | some node =>
          rw [hsection] at hat
          obtain ⟨origin, members, rfl⟩ := htree.block hpart node hsection
          refine Lays.mapError ?_ _
          show Lays _ fun s => List.foldlM _ s (fields.map _)
          simp only [List.foldlM_map]
          have hleaves : (Part.block name typeName fields).leaves
              = fields.flatMap fun f => [⟨some name, f⟩] := List.map_eq_flatMap
          rw [hleaves]
          refine lays_foldlM fun f hf => ?_
          have hleaf := Layout.mem_leaves_of_mem_parts hpart
            (List.mem_map_of_mem (f := fun f => (⟨some name, f⟩ : Leaf)) hf)
          have hlays := htaken.lays_leaf hleaf (.name f.name)
          rw [hat] at hlays
          exact hlays

/-- **The reader of layered trees lays what the tree holds over settings.** -/
theorem Sections.lays (htree : tree.Sections) (htaken : tree.Taken) :
    Lays (Leaf.takenAt? tree)
      fun s => readSection Layout.typeName (Layout.parts.map (·.nodeReader)) tree s := by
  have hparts := lays_foldlM fun (part : Part) hpart => htree.lays_part htaken hpart
  obtain ⟨origin, members, rfl⟩ := htree.root
  unfold readSection
  simp only [List.foldlM_map]
  have hnames : ∀ part : Part, part.nodeReader.1 = part.name := fun part => by cases part <;> rfl
  simp only [hnames]
  refine Lays.congr (fun leaf hleaf => ?_) hparts
  exact if_pos (List.mem_map_of_mem hleaf)

/-- What a tree spells it is taken to hold. -/
theorem Spelled.taken_eq (hspelled : tree.Spelled) {leaf : Leaf} (hleaf : leaf ∈ Layout.leaves) :
    leaf.takenAt? tree = leaf.spelledAt? tree := by
  unfold Leaf.takenAt? Leaf.spelledAt?
  cases hfound : leaf.at? tree with
  | none => rfl
  | some node =>
      obtain ⟨v, hv⟩ := Option.isSome_iff_exists.mp (hspelled leaf hleaf node hfound)
      exact (Setting.taken_of_spelled hv).trans hv.symm

theorem Spelled.taken (hspelled : tree.Spelled) : tree.Taken := by
  intro leaf hleaf node hfound
  obtain ⟨v, hv⟩ := Option.isSome_iff_exists.mp (hspelled leaf hleaf node hfound)
  rw [Setting.taken_of_spelled hv]
  rfl

/-- Where all is spelled the reader lays what is spelled over settings. -/
theorem Sections.lays_spelled (htree : tree.Sections) (hspelled : tree.Spelled) :
    Lays (Leaf.spelledAt? tree)
      fun s => readSection Layout.typeName (Layout.parts.map (·.nodeReader)) tree s :=
  (htree.lays hspelled.taken).congr fun _ => hspelled.taken_eq

end Node

/-! ## §3. Members one after another. -/

/-- What one value is found under or else another is spelled as the one or else as the other. -/
theorem Setting.spelled_or {setting : Setting} {node? other? : Option Node}
    (hspelled : ∀ node, node? = some node → (setting.spelled? node).isSome = true) :
    (node?.or other?).bind setting.spelled?
      = (node?.bind setting.spelled?).or (other?.bind setting.spelled?) := by
  cases node? with
  | none => rfl
  | some node =>
      obtain ⟨v, hv⟩ := Option.isSome_iff_exists.mp (hspelled node rfl)
      show setting.spelled? node = (setting.spelled? node).or _
      rw [hv]
      rfl

/-- **Members that are read one after another lay over settings what is found in all of them**, if
what is found later counts. -/
theorem lays_members {ε κ : Type} (found : List (String × Node) → Leaf → Option Node)
    {read : RetrySettings → κ → Except ε RetrySettings} {entries : List (String × Node)}
    {members : List κ} (hnil : ∀ leaf ∈ Layout.leaves, found [] leaf = none)
    (hcons : ∀ entry rest, ∀ leaf ∈ Layout.leaves,
      found (entry :: rest) leaf = (found rest leaf).or (found [entry] leaf))
    (hspelled : ∀ leaf ∈ Layout.leaves, ∀ node, found entries leaf = some node →
      (leaf.field.setting.spelled? node).isSome = true)
    (hmembers : List.Forall₂ (fun entry member =>
      Lays (fun leaf => (found [entry] leaf).bind leaf.field.setting.spelled?)
        fun s => read s member) entries members) :
    Lays (fun leaf => (found entries leaf).bind leaf.field.setting.spelled?)
      fun s => members.foldlM read s := by
  induction hmembers with
  | nil =>
      refine Lays.congr (fun leaf hleaf => ?_) Lays.nothing
      rw [hnil leaf hleaf]
      rfl
  | @cons entry member rest members' hfirst _ ih =>
      -- what the rest gives is what all give, so it is spelled too
      have hrest : ∀ leaf ∈ Layout.leaves, ∀ node, found rest leaf = some node →
          (leaf.field.setting.spelled? node).isSome = true := by
        intro leaf hleaf node hfound
        refine hspelled leaf hleaf node ?_
        rw [hcons entry rest leaf hleaf, hfound]
        rfl
      refine (hfirst.andThen (ih hrest)).congr fun leaf hleaf => ?_
      rw [hcons entry rest leaf hleaf, Setting.spelled_or (hrest leaf hleaf)]

/-- The value beside a name that only one item has. -/
theorem lookup_map_of_nodup {ι β : Type} {name : ι → String} (value : ι → β) {items : List ι}
    (hnodup : (items.map name).Nodup) {item : ι} (hitem : item ∈ items) :
    (items.map fun i => (name i, value i)).lookup (name item) = some (value item) := by
  induction items with
  | nil => cases hitem
  | cons first rest ih =>
      rw [List.map_cons, List.nodup_cons] at hnodup
      rw [List.map_cons, List.lookup_cons]
      rcases List.mem_cons.mp hitem with rfl | hrest
      · rw [beq_self_eq_true]
      · have hother : ¬name item = name first :=
          fun h => hnodup.1 (h ▸ List.mem_map_of_mem hrest)
        rw [beq_eq_false_iff_ne.mpr hother]
        exact ih hnodup.2 hrest

/-! ## §4. JSON trees. -/

namespace Json

/-- Named nodes and named JSON values of the same names, related one by one. -/
def Alongside (related : Json → Node → Prop) :
    List (String × Node) → List (String × Json) → Prop :=
  List.Forall₂ fun entry member => entry.1 = member.1 ∧ related member.2 entry.2

/-- The JSON value is read as the node; if the node is a section, so are its members. -/
structure ReadAs (j : Json) (node : Node) : Prop where
  value : SpelledAs j node
  members : ∀ origin members, node = .table origin members →
    ∃ js, j = .object js ∧ Alongside SpelledAs members js

theorem alongside_content {related : Json → Node → Prop} (hall : ∀ node, related node.content node)
    (members : List (String × Node)) : Alongside related members (Node.contentMembers members) := by
  induction members with
  | nil => exact .nil
  | cons entry rest ih => exact .cons ⟨rfl, hall entry.2⟩ ih

theorem alongside_ofJson {related : Json → Node → Prop} {origin : Option String}
    (hall : ∀ j, related j (Node.ofJson origin j)) (members : List (String × Json)) :
    Alongside related (Node.ofJsonMembers origin members) members := by
  induction members with
  | nil => exact .nil
  | cons member rest ih => exact .cons ⟨rfl, hall member.2⟩ ih

theorem readAs_content (node : Node) : ReadAs node.content node := by
  refine ⟨spelledAs_content node, ?_⟩
  rintro origin members rfl
  exact ⟨_, rfl, alongside_content spelledAs_content members⟩

theorem readAs_ofJson (origin : Option String) (j : Json) : ReadAs j (Node.ofJson origin j) := by
  refine ⟨spelledAs_ofJson origin j, ?_⟩
  intro origin' members htable
  cases j with
  | object js =>
      cases htable
      exact ⟨js, rfl, alongside_ofJson (spelledAs_ofJson origin) js⟩
  | null | bool b | integer n | float x | string s | array items => cases htable

/-- A value for one setting. -/
theorem lays_setting {leaf : Leaf} (hleaf : leaf ∈ Layout.leaves) {j : Json} {node : Node}
    (hread : SpelledAs j node) (hspelled : (leaf.field.setting.spelled? node).isSome = true)
    {name : String} {document : Node} (hentry : ∀ other ∈ Layout.leaves,
      other.findIn? name document = other.findIn? (leaf.entry node).1 (leaf.entry node).2) :
    Lays (fun other => (other.findIn? name document).bind other.field.setting.spelled?)
      fun s => leaf.field.setting.ofJson j s := by
  refine (Lays.one hleaf hspelled (fun _ => Setting.takes_of_spelled)
    fun v s hv => hread _ v s hv).congr fun other hother => ?_
  rw [hentry other hother, Leaf.findIn_entry hleaf hother node]
  split
  · rename_i hpath
    rw [Leaf.eq_of_path_eq hother hleaf hpath]
    rfl
  · rfl

/-- **A value for a part is laid over its settings.** -/
theorem lays_part {part : Part} (hpart : part ∈ Layout.parts) {j : Json} {node : Node}
    (hread : ReadAs j node) (htakes : part.Takes node) :
    Lays (fun leaf => (leaf.findIn? part.name node).bind leaf.field.setting.spelled?)
      fun s => (partReader part).2 j s := by
  cases part with
  | field f =>
      have hleaf := Layout.mem_leaves_of_mem_parts hpart (List.mem_singleton_self _)
      exact lays_setting hleaf hread.value htakes fun _ _ => rfl
  | block name typeName fields =>
      have hspelled := fun leaf (hleaf : leaf ∈ Layout.leaves) node' =>
        @Part.spelled_of_findIn _ hpart node htakes leaf hleaf node'
      obtain ⟨origin, members, rfl, hknown⟩ := htakes
      obtain ⟨js, rfl, halong⟩ := hread.members origin members rfl
      refine lays_members (fun members leaf => leaf.findIn? name (.table origin members))
        ?_ ?_ hspelled ?_
      · intro leaf hleaf
        rw [Leaf.findIn_table hpart origin [] hleaf]
        exact ite_self none
      · intro entry rest leaf hleaf
        simp only [Leaf.findIn_table hpart origin _ hleaf]
        split
        · exact congrArg ((latest? leaf.field.name rest).or ·) Option.none_or.symm
        · rfl
      · have hnodup := Layout.nodup_block hpart
        refine ((List.forall₂_and_left _ _).mpr ⟨hknown, halong⟩).imp ?_
        rintro ⟨_, node⟩ ⟨_, j⟩ ⟨⟨f, hf, rfl, hvalue⟩, rfl, hread⟩
        have hleaf := Layout.mem_leaves_of_mem_parts hpart
          (List.mem_map_of_mem (f := fun f => (⟨some name, f⟩ : Leaf)) hf)
        have hreader : (fieldReaders fields).lookup f.name = some fun j s => f.setting.ofJson j s :=
          lookup_map_of_nodup
            (fun (f : Field) (j : Json) (s : RetrySettings) => f.setting.ofJson j s) hnodup hf
        dsimp only
        rw [hreader]
        refine lays_setting hleaf hread hvalue fun other hother => ?_
        exact (Leaf.findIn_table hpart origin _ hother).trans (Leaf.findIn_table hpart none _ hother).symm

/-- **The reader of JSON trees lays the values of a document over settings.** -/
theorem lays_document {document : List (String × Node)} (hknown : KnownDocument document)
    {members : List (String × Json)} (halong : Alongside ReadAs document members) :
    Lays (fun leaf => (leaf.find? document).bind leaf.field.setting.spelled?)
      fun s => readSection Layout.typeName (Layout.parts.map partReader) (.object members) s := by
  refine lays_members (fun document leaf => leaf.find? document)
    (fun _ _ => rfl) ?_ (fun leaf hleaf _ => hknown.spelled_of_find hleaf) ?_
  · intro entry rest leaf _
    exact congrArg ((leaf.find? rest).or ·) Option.none_or.symm
  · refine ((List.forall₂_and_left _ _).mpr ⟨hknown, halong⟩).imp ?_
    rintro ⟨_, node⟩ ⟨_, j⟩ ⟨⟨part, hpart, rfl, htakes⟩, rfl, hread⟩
    have hnamed : Layout.parts.map partReader
        = Layout.parts.map fun part => (part.name, (partReader part).2) :=
      List.map_congr_left fun part _ => by cases part <;> rfl
    have hreader : (Layout.parts.map partReader).lookup part.name = some (partReader part).2 := by
      rw [hnamed]
      exact lookup_map_of_nodup (fun part => (partReader part).2) Layout.nodup_name hpart
    dsimp only
    rw [hreader]
    exact lays_part hpart hread htakes

end Json

end RetryControl
