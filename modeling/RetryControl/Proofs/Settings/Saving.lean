/-
  RetryControl.Proofs.Settings.Saving
  ────────────────────────────────
  **SETTINGS WRITTEN AS DOCUMENTS.**

  Settings are written part by part and their names are brought into order.
  The order does not matter to who looks for a name, so a document of settings
  has for every setting what was written for it, and as long as delays fit
  numbers with a sign this spells the value that the settings hold.

    • `Json.perm_ofMembers` — bringing members into order only moves them,
    • `RetrySettings.Fits` — no delay is too long to be a number with a sign,
    • `Setting.spelled_toJson` — what is written for one setting,
    • `RetrySettings.saved_nodes`, `saved` — the document of settings.
-/
import RetryControl.Proofs.Settings.Layers

namespace RetryControl

/-! ## §1. Names in order. -/

namespace Json

/-- A member of a new name comes to stand somewhere among the others. -/
theorem perm_insertMember {name : String} (value : Json) {members : List (String × Json)}
    (hnew : name ∉ members.map Prod.fst) :
    (insertMember name value members).Perm ((name, value) :: members) := by
  induction members with
  | nil => exact .refl _
  | cons member rest ih =>
      obtain ⟨other, old⟩ := member
      rw [List.map_cons, List.mem_cons, not_or] at hnew
      unfold insertMember
      rw [if_neg hnew.1]
      split
      · exact .refl _
      · exact ((ih hnew.2).cons _).trans (.swap ..)

theorem perm_foldl_insertMember {members found : List (String × Json)}
    (hnodup : ((found ++ members).map Prod.fst).Nodup) :
    (members.foldl (fun found m => insertMember m.1 m.2 found) found).Perm (found ++ members) := by
  induction members generalizing found with
  | nil =>
      rw [List.append_nil]
      exact .refl _
  | cons member rest ih =>
      -- names stay different while the members move over one by one
      have hmiddle : (found ++ member :: rest).Perm (member :: found ++ rest) := List.perm_middle
      have hcons := (hmiddle.map Prod.fst).nodup_iff.mp hnodup
      have hnew : member.1 ∉ found.map Prod.fst := by
        rw [List.cons_append, List.map_cons, List.nodup_cons, List.map_append] at hcons
        exact fun hmem => hcons.1 (List.mem_append_left _ hmem)
      have hinsert := perm_insertMember member.2 hnew
      have hstep := ih (((hinsert.append_right rest).map Prod.fst).nodup_iff.mpr hcons)
      exact hstep.trans ((hinsert.append_right rest).trans hmiddle.symm)

/-- **An object has the members it was made of**, if their names differ. -/
theorem perm_ofMembers {members : List (String × Json)} (hnodup : (members.map Prod.fst).Nodup) :
    ∃ sorted, ofMembers members = .object sorted ∧ sorted.Perm members :=
  ⟨_, rfl, perm_foldl_insertMember hnodup⟩

end Json

/-! ## §2. Finding what has a name of its own. -/

theorem latest_of_not_mem {α : Type} {name : String} {entries : List (String × α)}
    (hnone : name ∉ entries.map Prod.fst) : latest? name entries = none := by
  cases hlatest : latest? name entries with
  | none => rfl
  | some a => exact absurd (List.mem_map_of_mem (mem_of_latest hlatest)) hnone

theorem latest_of_mem {α : Type} {name : String} {a : α} {entries : List (String × α)}
    (hnodup : (entries.map Prod.fst).Nodup) (hmem : (name, a) ∈ entries) :
    latest? name entries = some a := by
  induction entries with
  | nil => cases hmem
  | cons entry rest ih =>
      obtain ⟨other, b⟩ := entry
      rw [List.map_cons, List.nodup_cons] at hnodup
      rw [latest_cons]
      rcases List.mem_cons.mp hmem with heq | hrest
      · cases heq
        rw [latest_of_not_mem hnodup.1, if_pos rfl]
        rfl
      · rw [ih hnodup.2 hrest]
        rfl

namespace Leaf

theorem find_of_not_mem {leaf : Leaf} {document : List (String × Node)}
    (hnone : leaf.top ∉ document.map Prod.fst) : leaf.find? document = none := by
  induction document with
  | nil => rfl
  | cons entry rest ih =>
      rw [List.map_cons, List.mem_cons, not_or] at hnone
      show (leaf.find? rest).or (leaf.findIn? entry.1 entry.2) = none
      unfold findIn?
      rw [ih hnone.2, if_neg hnone.1]
      rfl

theorem find_of_mem {leaf : Leaf} {node : Node} {document : List (String × Node)}
    (hnodup : (document.map Prod.fst).Nodup) (hmem : (leaf.top, node) ∈ document) :
    leaf.find? document = leaf.within? node := by
  induction document with
  | nil => cases hmem
  | cons entry rest ih =>
      obtain ⟨name, other⟩ := entry
      rw [List.map_cons, List.nodup_cons] at hnodup
      show (leaf.find? rest).or (leaf.findIn? name other) = _
      unfold findIn?
      rcases List.mem_cons.mp hmem with heq | hrest
      · cases heq
        rw [find_of_not_mem hnodup.1, if_pos rfl]
        rfl
      · have hother : leaf.top ≠ name :=
          fun h => hnodup.1 (List.mem_map.mpr ⟨_, hrest, h⟩)
        rw [ih hnodup.2 hrest, if_neg hother]
        exact Option.or_none

end Leaf

/-! ## §3. What is written for one setting. -/

/-- The number of milliseconds has no more than 63 bits. -/
def Setting.Fits (s : RetrySettings) : Setting → Prop
  | .millis slot => (slot.get s).toNat < signedReach
  | _ => True

/-- No delay is too long to be a number with a sign. -/
def RetrySettings.Fits (s : RetrySettings) : Prop :=
  ∀ leaf ∈ Layout.leaves, leaf.field.setting.Fits s

namespace Node

theorem ofJsonItems_eq_map (origin : Option String) (items : List Json) :
    ofJsonItems origin items = items.map (ofJson origin) := by
  induction items with
  | nil => rfl
  | cons item rest ih =>
      rw [List.map_cons, ← ih]
      rfl

theorem ofJsonMembers_eq_map (origin : Option String) (members : List (String × Json)) :
    ofJsonMembers origin members = members.map fun m => (m.1, ofJson origin m.2) := by
  induction members with
  | nil => rfl
  | cons member rest ih =>
      rw [List.map_cons, ← ih]
      rfl

theorem ofJson_natural (origin : Option String) {n : Nat} (hfits : n < signedReach) :
    ofJson origin (.integer n) = .scalar origin (.integer n) := by
  unfold ofJson
  rw [if_pos (Int.ofNat_lt.mpr hfits)]

end Node

namespace Setting

theorem wordOf_kind (k : BackoffKind) (origin : Option String) :
    wordOf? BackoffKind.vocabulary (.scalar origin (.string (BackoffKind.vocabulary.wordOf k)))
      = some k := by
  cases k <;> rfl

theorem wordOf_errorType (t : ErrorType) (origin : Option String) :
    wordOf? ErrorType.vocabulary (.scalar origin (.string (ErrorType.vocabulary.wordOf t)))
      = some t := by
  cases t <;> rfl

theorem mapM_wordOf (ts : List ErrorType) (origin : Option String) :
    (ts.map fun t => Node.ofJson origin (.string (ErrorType.vocabulary.wordOf t))).mapM
      (wordOf? ErrorType.vocabulary) = some ts := by
  induction ts with
  | nil => rfl
  | cons t rest ih =>
      rw [List.map_cons, List.mapM_cons, ih]
      show (wordOf? ErrorType.vocabulary (.scalar origin (.string _))).bind _ = _
      rw [wordOf_errorType]
      rfl

/-- **What is written for a setting spells the value that the settings hold.** -/
theorem spelled_toJson {s : RetrySettings} {setting : Setting} (hfits : setting.Fits s)
    (origin : Option String) :
    setting.spelled? (Node.ofJson origin (setting.toJson s)) = some (setting.value s) := by
  cases setting with
  | count slot =>
      have hmax := Count.toNat_le_maxNat (slot.get s)
      have hreach : (slot.get s).toNat < signedReach := Nat.lt_of_le_of_lt hmax (by decide)
      unfold toJson
      rw [Node.ofJson_natural origin hreach]
      refine countOf_eq_some_iff.mpr ⟨⟨Int.natCast_nonneg _, Int.ofNat_le.mpr hmax⟩, ?_⟩
      rw [Int.toNat_natCast, Count.clamp_toNat]
      rfl
  | millis slot =>
      unfold toJson
      rw [Node.ofJson_natural origin hfits]
      refine millisOf_eq_some_iff.mpr ⟨⟨Int.natCast_nonneg _, Int.ofNat_lt.mpr hfits⟩, ?_⟩
      rw [Int.toNat_natCast, UInt64.ofNat_toNat]
      rfl
  | flag slot => rfl
  | rate slot => rfl
  | kind slot => exact congrArg (Option.map SettingValue.kind) (wordOf_kind _ origin)
  | errorTypes slot =>
      show Option.map _ ((Node.ofJsonItems origin _).mapM _) = _
      rw [Node.ofJsonItems_eq_map, List.map_map]
      exact congrArg (Option.map SettingValue.errorTypes) (mapM_wordOf (slot.get s) origin)

end Setting

/-! ## §4. Documents of settings. -/

/-- The node of an object has the nodes of its members under their names. -/
theorem Node.ofJson_ofMembers (origin : Option String) {members : List (String × Json)}
    (hnodup : (members.map Prod.fst).Nodup) :
    ∃ nodes, ofJson origin (.ofMembers members) = .table origin nodes
      ∧ (nodes.map Prod.fst).Nodup
      ∧ nodes.Perm (members.map fun m => (m.1, ofJson origin m.2)) := by
  obtain ⟨sorted, hsorted, hperm⟩ := Json.perm_ofMembers hnodup
  have hnodes := hperm.map fun m => (m.1, ofJson origin m.2)
  refine ⟨_, ?_, ?_, hnodes⟩
  · rw [hsorted, ← ofJsonMembers_eq_map]
    rfl
  · refine ((hnodes.map Prod.fst).nodup_iff).mpr ?_
    rw [List.map_map]
    exact hnodup

/-- The node of a part as it is written. -/
def Part.saved (origin : Option String) (s : RetrySettings) (part : Part) : Node :=
  Node.ofJson origin (part.toJson s).2

/-- A section as it is written has the nodes of its settings under their names. -/
theorem Part.saved_block (origin : Option String) (s : RetrySettings) {name typeName : String}
    {fields : List Field} (hpart : .block name typeName fields ∈ Layout.parts) :
    ∃ nodes, (Part.block name typeName fields).saved origin s = .table origin nodes
      ∧ (nodes.map Prod.fst).Nodup
      ∧ nodes.Perm (fields.map fun f => (f.name, Node.ofJson origin (f.setting.toJson s))) := by
  have hnodup : ((fields.map fun f => f.toJson s).map Prod.fst).Nodup := by
    rw [List.map_map]
    exact Layout.nodup_block hpart
  obtain ⟨nodes, hsaved, hnames, hnodes⟩ := Node.ofJson_ofMembers origin hnodup
  rw [List.map_map] at hnodes
  exact ⟨nodes, hsaved, hnames, hnodes⟩

/-- What is written for a part is a value for it. -/
theorem Part.takes_saved (origin : Option String) {s : RetrySettings} (hfits : s.Fits) {part : Part}
    (hpart : part ∈ Layout.parts) : part.Takes (part.saved origin s) := by
  cases part with
  | field f =>
      have hleaf := Layout.mem_leaves_of_mem_parts hpart (List.mem_singleton_self _)
      show (f.setting.spelled? (Node.ofJson origin (f.setting.toJson s))).isSome = true
      rw [Setting.spelled_toJson (hfits _ hleaf)]
      rfl
  | block name typeName fields =>
      obtain ⟨nodes, hsaved, _, hnodes⟩ := Part.saved_block origin s hpart
      refine ⟨origin, nodes, hsaved, fun entry hentry => ?_⟩
      obtain ⟨f, hf, rfl⟩ := List.mem_map.mp (hnodes.mem_iff.mp hentry)
      have hleaf := Layout.mem_leaves_of_mem_parts hpart
        (List.mem_map_of_mem (f := fun f => (⟨some name, f⟩ : Leaf)) hf)
      refine ⟨f, hf, rfl, ?_⟩
      rw [Setting.spelled_toJson (hfits _ hleaf)]
      rfl

/-- No setting is written as an object. -/
theorem Setting.not_isTable_toJson (origin : Option String) (s : RetrySettings)
    (setting : Setting) : ¬(Node.ofJson origin (setting.toJson s)).IsTable := by
  rintro ⟨origin', members, htable⟩
  cases setting <;> cases htable

/-- What is written for a part has its shape. -/
theorem Part.shaped_saved (origin : Option String) (s : RetrySettings) {part : Part}
    (hpart : part ∈ Layout.parts) : part.Shaped (part.saved origin s) := by
  cases part with
  | field f => exact Setting.not_isTable_toJson origin s f.setting
  | block name typeName fields =>
      obtain ⟨nodes, hsaved, _, hnodes⟩ := Part.saved_block origin s hpart
      refine ⟨origin, nodes, hsaved, fun entry hentry => ?_⟩
      obtain ⟨f, hf, rfl⟩ := List.mem_map.mp (hnodes.mem_iff.mp hentry)
      exact ⟨f, hf, rfl, Setting.not_isTable_toJson origin s f.setting⟩

/-- It has for each of the settings what is written for that. -/
theorem Part.within_saved (origin : Option String) (s : RetrySettings) {part : Part}
    (hpart : part ∈ Layout.parts) {leaf : Leaf} (hleaf : leaf ∈ part.leaves) :
    leaf.within? (part.saved origin s)
      = some (Node.ofJson origin (leaf.field.setting.toJson s)) := by
  cases part with
  | field f =>
      cases List.mem_singleton.mp hleaf
      rfl
  | block name typeName fields =>
      obtain ⟨f, hf, rfl⟩ := List.mem_map.mp hleaf
      obtain ⟨nodes, hsaved, hnames, hnodes⟩ := Part.saved_block origin s hpart
      rw [hsaved]
      exact latest_of_mem hnames (hnodes.mem_iff.mpr (List.mem_map_of_mem hf))

/-- **A document of settings has its parts as they are written**, and for every setting what is
written for that. -/
theorem RetrySettings.saved_nodes (origin : Option String) (s : RetrySettings) :
    ∃ document, Node.ofJson origin s.toJson = .table origin document
      ∧ (∀ entry ∈ document, ∃ part ∈ Layout.parts, (part.name, part.saved origin s) = entry)
      ∧ ∀ leaf ∈ Layout.leaves,
          leaf.find? document = some (Node.ofJson origin (leaf.field.setting.toJson s)) := by
  have hfst : ∀ part : Part, (part.toJson s).1 = part.name := fun part => by cases part <;> rfl
  have hnodup : ((Layout.parts.map fun part => part.toJson s).map Prod.fst).Nodup := by
    rw [List.map_map]
    simp only [Function.comp_def, hfst]
    exact Layout.nodup_name
  obtain ⟨document, hsaved, hnames, hperm⟩ := Node.ofJson_ofMembers origin hnodup
  have hmem : ∀ entry, entry ∈ document
      ↔ ∃ part ∈ Layout.parts, (part.name, part.saved origin s) = entry := by
    intro entry
    rw [hperm.mem_iff, List.map_map, List.mem_map]
    simp only [Function.comp_def, hfst]
    rfl
  refine ⟨document, hsaved, fun entry => (hmem entry).mp, ?_⟩
  intro leaf hleaf
  obtain ⟨part, hpart, hpart_leaf⟩ := List.mem_flatMap.mp hleaf
  have htop := (Layout.mem_part_leaves_iff hpart hleaf).mpr hpart_leaf
  have hentry : (leaf.top, part.saved origin s) ∈ document :=
    (hmem _).mpr ⟨part, hpart, by rw [htop]⟩
  rw [Leaf.find_of_mem hnames hentry, Part.within_saved origin s hpart hpart_leaf]

/-- **A document of settings is known and spells for every setting the value that they hold**, if
all delays fit. -/
theorem RetrySettings.saved (origin : Option String) {s : RetrySettings} (hfits : s.Fits) :
    ∃ document, Node.ofJson origin s.toJson = .table origin document ∧ KnownDocument document
      ∧ ∀ leaf ∈ Layout.leaves,
          (leaf.find? document).bind leaf.field.setting.spelled? = some (leaf.value s) := by
  obtain ⟨document, hsaved, hparts, hfind⟩ := s.saved_nodes origin
  refine ⟨document, hsaved, fun entry hentry => ?_, fun leaf hleaf => ?_⟩
  · obtain ⟨part, hpart, rfl⟩ := hparts entry hentry
    exact ⟨part, hpart, rfl, Part.takes_saved origin hfits hpart⟩
  · rw [hfind leaf hleaf]
    exact Setting.spelled_toJson (hfits leaf hleaf) origin

end RetryControl
