/-
  RetryControl.Proofs.Settings.Layers
  ────────────────────────────────
  **DOCUMENTS LAID OVER A TREE.**

  A tree of settings is a table with a table for each section.  What is laid
  over it at the place of one setting is found there, and at the places of all
  other settings what was there before; a document or an environment does so
  for one setting after another.

    • `latest?`, `Leaf.find?`, `Leaf.text?` — what a document and an
      environment give a setting, the last one if there are several,
    • `Leaf.at?` — what a tree holds for a setting,
    • `Node.Layered` — what laying values over a tree does, and how one layer
      follows another,
    • `layered_document`, `layered_environment` — a file and an environment of
      known names as layers.
-/
import RetryControl.Proofs.Settings.Variables
import RetryControl.Settings.Load

namespace RetryControl

/-! ## §1. Names. -/

/-- The name in a document under which a setting is found: that of its section or its own. -/
def Leaf.top (leaf : Leaf) : String := leaf.block?.getD leaf.field.name

namespace Layout

/-- Names are written in small letters. -/
theorem lowercase_part {part : Part} (hpart : part ∈ parts) :
    Text.lowercase part.name = part.name := by
  have hall : ∀ part ∈ parts, part.name.toList.all Text.isPlain = true := by decide
  exact Text.lowercase_of_plain (hall part hpart)

theorem lowercase_field {leaf : Leaf} (hleaf : leaf ∈ leaves) :
    Text.lowercase leaf.field.name = leaf.field.name := by
  have hall : ∀ leaf ∈ leaves, leaf.field.name.toList.all Text.isPlain = true := by decide
  exact Text.lowercase_of_plain (hall leaf hleaf)

/-- Names of parts are plain keys. -/
theorem ofKey_part : ∀ part ∈ parts, KeyPath.ofKey part.name = [.name part.name] := by
  decide +kernel

/-- No two parts have one name. -/
theorem nodup_name : (parts.map Part.name).Nodup := by decide

theorem eq_of_name_eq {part other : Part} (hpart : part ∈ parts) (hother : other ∈ parts)
    (hname : part.name = other.name) : part = other :=
  List.inj_on_of_nodup_map nodup_name hpart hother hname

/-- No two settings of a section have one name. -/
theorem nodup_block {name typeName : String} {fields : List Field}
    (hpart : .block name typeName fields ∈ parts) : (fields.map Field.name).Nodup := by
  have hall : ∀ part ∈ parts, (part.leaves.map (·.field.name)).Nodup := by decide
  have hnames := hall _ hpart
  unfold Part.leaves at hnames
  rw [List.map_map] at hnames
  exact hnames

/-- The key of a setting is the path to it. -/
theorem ofKey_key : ∀ leaf ∈ leaves, KeyPath.ofKey leaf.key = leaf.path.map Step.name := by
  decide +kernel

theorem mem_leaves_of_mem_parts {part : Part} (hpart : part ∈ parts) {leaf : Leaf}
    (hleaf : leaf ∈ part.leaves) : leaf ∈ leaves := List.mem_flatMap.mpr ⟨part, hpart, hleaf⟩

/-- **A setting is found under the name of its part**, and no other part has that name. -/
theorem mem_part_leaves_iff {part : Part} (hpart : part ∈ parts) {leaf : Leaf}
    (hleaf : leaf ∈ leaves) : leaf.top = part.name ↔ leaf ∈ part.leaves := by
  have hall : ∀ part ∈ parts, ∀ leaf ∈ leaves,
      leaf.top = part.name ↔ leaf.path ∈ part.leaves.map Leaf.path := by decide
  rw [hall part hpart leaf hleaf, List.mem_map]
  constructor
  · rintro ⟨other, hother, hpath⟩
    exact Leaf.eq_of_path_eq (mem_leaves_of_mem_parts hpart hother) hleaf hpath ▸ hother
  · intro hmem
    exact ⟨leaf, hmem, rfl⟩

end Layout

/-- Settings with one key are the same. -/
theorem Leaf.eq_of_key_eq {a b : Leaf} (ha : a ∈ Layout.leaves) (hb : b ∈ Layout.leaves)
    (hkey : a.key = b.key) : a = b := by
  have hpath : a.path.map Step.name = b.path.map Step.name := by
    rw [← Layout.ofKey_key a ha, ← Layout.ofKey_key b hb, hkey]
  refine Leaf.eq_of_path_eq ha hb (List.map_injective_iff.mpr ?_ hpath)
  intro x y h
  cases h
  rfl

/-! ## §2. What sources give a setting. -/

/-- The value under a name; of values under one name the last one counts. -/
def latest? {α : Type} (name : String) : List (String × α) → Option α
  | [] => none
  | (other, a) :: rest => (latest? name rest).or (if other = name then some a else none)

theorem latest_cons {α : Type} (name other : String) (a : α) (rest : List (String × α)) :
    latest? name ((other, a) :: rest)
      = (latest? name rest).or (if other = name then some a else none) := rfl

theorem mem_of_latest {α : Type} {name : String} {entries : List (String × α)} {a : α}
    (hlatest : latest? name entries = some a) : (name, a) ∈ entries := by
  induction entries with
  | nil => cases hlatest
  | cons entry rest ih =>
      obtain ⟨other, b⟩ := entry
      rcases Option.or_eq_some_iff.mp hlatest with hrest | ⟨_, hfirst⟩
      · exact List.mem_cons_of_mem _ (ih hrest)
      · obtain ⟨rfl, hb⟩ := Option.ite_none_right_eq_some.mp hfirst
        cases hb
        exact List.mem_cons_self

namespace Leaf

/-- What a part of a document gives a setting: itself, or a member of it if the setting stands in a
section. -/
def within? (leaf : Leaf) (node : Node) : Option Node :=
  match leaf.block? with
  | none => some node
  | some _ => latest? leaf.field.name node.asTable.2

/-- What a named value of a document gives a setting. -/
def findIn? (leaf : Leaf) (name : String) (node : Node) : Option Node :=
  if leaf.top = name then leaf.within? node else none

/-- What a document gives a setting; of several values the last one counts. -/
def find? (leaf : Leaf) : List (String × Node) → Option Node
  | [] => none
  | (name, node) :: rest => (leaf.find? rest).or (leaf.findIn? name node)

/-- What the variables of an environment give a setting. -/
def text? (leaf : Leaf) (environment : List (String × String)) : Option String :=
  latest? leaf.key (environment.filterMap fun (name, text) =>
    (Environment.key? name).map fun key => (key, text))

/-- A further variable counts if it comes later or if there is no other. -/
theorem text_cons (leaf : Leaf) (name text : String) (rest : List (String × String)) :
    leaf.text? ((name, text) :: rest) = (leaf.text? rest).or
      (if Environment.key? name = some leaf.key then some text else none) := by
  unfold text?
  rw [List.filterMap_cons]
  dsimp only
  cases Environment.key? name with
  | none => exact Option.or_none.symm
  | some key =>
      rw [Option.map_some]
      dsimp only
      rw [latest_cons]
      exact congrArg _ (if_congr Option.some_inj.symm rfl rfl)

/-- What variables give a setting is the text of one of its key. -/
theorem mem_of_text {leaf : Leaf} {environment : List (String × String)} {text : String}
    (htext : leaf.text? environment = some text) :
    ∃ name, (name, text) ∈ environment ∧ Environment.key? name = some leaf.key := by
  induction environment with
  | nil => cases htext
  | cons given rest ih =>
      rw [text_cons] at htext
      rcases Option.or_eq_some_iff.mp htext with hrest | ⟨_, hfirst⟩
      · obtain ⟨name, hmem, hkey⟩ := ih hrest
        exact ⟨name, List.mem_cons_of_mem _ hmem, hkey⟩
      · obtain ⟨hkey, htext'⟩ := Option.ite_none_right_eq_some.mp hfirst
        cases htext'
        exact ⟨given.1, List.mem_cons_self, hkey⟩

/-- What a tree holds for a setting. -/
def at? (leaf : Leaf) (tree : Node) : Option Node :=
  (tree.asTable.2.lookup leaf.top).bind fun node =>
    match leaf.block? with
    | none => some node
    | some _ => node.asTable.2.lookup leaf.field.name

end Leaf

/-- The members of a section are for its settings. -/
theorem Leaf.findIn_table {name typeName : String} {fields : List Field}
    (hpart : .block name typeName fields ∈ Layout.parts) (origin : Option String)
    (members : List (String × Node)) {leaf : Leaf} (hleaf : leaf ∈ Layout.leaves) :
    leaf.findIn? name (.table origin members)
      = if leaf.top = name then latest? leaf.field.name members else none := by
  unfold Leaf.findIn?
  by_cases htop : leaf.top = name
  · rw [if_pos htop, if_pos htop]
    obtain ⟨f, _, rfl⟩ := List.mem_map.mp ((Layout.mem_part_leaves_iff hpart hleaf).mp htop)
    rfl
  · rw [if_neg htop, if_neg htop]

/-! ## §3. Known documents. -/

/-- The node spells a value for the part: a setting its own, a section those of its settings. -/
def Part.Takes : Part → Node → Prop
  | .field f, node => (f.setting.spelled? node).isSome = true
  | .block _ _ fields, node =>
      ∃ origin members, node = .table origin members ∧
        ∀ entry ∈ members, ∃ f ∈ fields, f.name = entry.1
          ∧ (f.setting.spelled? entry.2).isSome = true

/-- A document of known names with values of their types. -/
def KnownDocument (document : List (String × Node)) : Prop :=
  ∀ entry ∈ document, ∃ part ∈ Layout.parts, part.name = entry.1 ∧ part.Takes entry.2

/-- An environment whose variables for settings have known keys and texts of their types. -/
def KnownEnvironment (environment : List (String × String)) : Prop :=
  ∀ entry ∈ environment, ∀ key, Environment.key? entry.1 = some key →
    ∃ leaf ∈ Layout.leaves, leaf.key = key
      ∧ (leaf.field.setting.ofText? entry.2).isSome = true

instance Part.decidableTakes (part : Part) (node : Node) : Decidable (part.Takes node) :=
  match part, node with
  | .field f, node => inferInstanceAs (Decidable ((f.setting.spelled? node).isSome = true))
  | .block _ _ fields, .table origin members =>
      decidable_of_iff
        (∀ entry ∈ members, ∃ f ∈ fields, f.name = entry.1
          ∧ (f.setting.spelled? entry.2).isSome = true)
        ⟨fun hknown => ⟨origin, members, rfl, hknown⟩, fun ⟨_, _, heq, hknown⟩ => by
          cases heq
          exact hknown⟩
  | .block _ _ _, .scalar _ _ => .isFalse fun ⟨_, _, heq, _⟩ => nomatch heq
  | .block _ _ _, .list _ _ => .isFalse fun ⟨_, _, heq, _⟩ => nomatch heq

instance (document : List (String × Node)) : Decidable (KnownDocument document) :=
  inferInstanceAs (Decidable (∀ entry ∈ document, ∃ part ∈ Layout.parts,
    part.name = entry.1 ∧ part.Takes entry.2))

instance (environment : List (String × String)) : Decidable (KnownEnvironment environment) :=
  inferInstanceAs (Decidable (∀ entry ∈ environment, ∀ key ∈ Environment.key? entry.1,
    ∃ leaf ∈ Layout.leaves, leaf.key = key
      ∧ (leaf.field.setting.ofText? entry.2).isSome = true))

/-- What a part gives a setting is spelled for it. -/
theorem Part.spelled_of_findIn {part : Part} (hpart : part ∈ Layout.parts) {node : Node}
    (htakes : part.Takes node) {leaf : Leaf} (hleaf : leaf ∈ Layout.leaves) {found : Node}
    (hfound : leaf.findIn? part.name node = some found) :
    (leaf.field.setting.spelled? found).isSome = true := by
  obtain ⟨htop, hwithin⟩ := Option.ite_none_right_eq_some.mp hfound
  have hmem := (Layout.mem_part_leaves_iff hpart hleaf).mp htop
  cases part with
  | field f =>
      cases List.mem_singleton.mp hmem
      cases hwithin
      exact htakes
  | block name typeName fields =>
      obtain ⟨f, _, rfl⟩ := List.mem_map.mp hmem
      obtain ⟨origin, members, rfl, hknown⟩ := htakes
      obtain ⟨other, hother, hname, hspelled⟩ := hknown _ (mem_of_latest hwithin)
      -- the member has the name of the setting, so it is its own
      have hsame : (⟨some name, other⟩ : Leaf) = ⟨some name, f⟩ := by
        refine Leaf.eq_of_path_eq (Layout.mem_leaves_of_mem_parts hpart
          (List.mem_map_of_mem hother)) hleaf ?_
        unfold Leaf.path
        exact congrArg (fun n => [name, n]) hname
      cases hsame
      exact hspelled

theorem KnownDocument.spelled_of_find {document : List (String × Node)}
    (hknown : KnownDocument document) {leaf : Leaf} (hleaf : leaf ∈ Layout.leaves) {found : Node}
    (hfound : leaf.find? document = some found) :
    (leaf.field.setting.spelled? found).isSome = true := by
  induction document with
  | nil => cases hfound
  | cons entry rest ih =>
      obtain ⟨hentry, hrest⟩ := List.forall_mem_cons.mp hknown
      rcases Option.or_eq_some_iff.mp hfound with hlater | ⟨_, hfirst⟩
      · exact ih hrest hlater
      · obtain ⟨part, hpart, hname, htakes⟩ := hentry
        rw [← hname] at hfirst
        exact Part.spelled_of_findIn hpart htakes hleaf hfirst

/-! ## §4. Laying values over a table. -/

namespace Node

/-- The node is a table. -/
def IsTable (node : Node) : Prop := ∃ origin members, node = .table origin members

/-- What comes to stand under a name when a node is laid over what stands there: a table is laid
over it member by member. -/
def laidOn : Node → Option Node → Node
  | .table _ members, old => putAll members (old.getD empty)
  | incoming, _ => incoming

theorem laidOn_of_not_table {incoming : Node} (hscalar : ¬incoming.IsTable) (old : Option Node) :
    incoming.laidOn old = incoming := by
  cases incoming with
  | scalar origin value => rfl
  | list origin items => rfl
  | table origin members => exact absurd ⟨origin, members, rfl⟩ hscalar

theorem isTable_put (name : String) (incoming target : Node) :
    (put name incoming target).IsTable := by
  unfold put
  cases incoming <;> exact ⟨_, _, rfl⟩

theorem lookup_put (name : String) (incoming target : Node) (other : String) :
    (put name incoming target).asTable.2.lookup other
      = if other = Text.lowercase name then
          some (incoming.laidOn (target.asTable.2.lookup (Text.lowercase name)))
        else target.asTable.2.lookup other := by
  unfold put
  cases incoming <;> exact lookup_setEntry _ _ _ _

/-- Single values laid over a table: the last one under a name counts, and where there is none what
was there before. -/
theorem lookup_putAll {members : List (String × Node)}
    (hplain : ∀ entry ∈ members, Text.lowercase entry.1 = entry.1 ∧ ¬entry.2.IsTable)
    (target : Node) (other : String) :
    (putAll members target).asTable.2.lookup other
      = (latest? other members).or (target.asTable.2.lookup other) := by
  induction members generalizing target with
  | nil => rfl
  | cons entry rest ih =>
      obtain ⟨name, node⟩ := entry
      obtain ⟨⟨hname, hscalar⟩, hrest⟩ := List.forall_mem_cons.mp hplain
      show (putAll rest (put name node target)).asTable.2.lookup other = _
      -- the first member is laid below all others
      rw [ih hrest, lookup_put, hname, laidOn_of_not_table hscalar, latest_cons, Option.or_assoc]
      by_cases hother : other = name
      · rw [if_pos hother, if_pos hother.symm]
        rfl
      · rw [if_neg hother, if_neg (Ne.symm hother)]
        rfl

theorem isTable_putAll (members : List (String × Node)) {target : Node} (htarget : target.IsTable) :
    (putAll members target).IsTable := by
  induction members generalizing target with
  | nil => exact htarget
  | cons entry rest ih => exact ih (isTable_put _ _ _)

/-! ## §5. Layers of settings. -/

/-- A tree of settings: a table, in which every section that is there is a table. -/
structure Sections (tree : Node) : Prop where
  root : tree.IsTable
  block : ∀ {name typeName : String} {fields : List Field},
    Part.block name typeName fields ∈ Layout.parts →
      ∀ node, tree.asTable.2.lookup name = some node → node.IsTable

/-- The second tree holds what the layer gives a setting, and otherwise what the first one holds. -/
structure Layered (layer : Leaf → Option Node) (before after : Node) : Prop where
  sections : after.Sections
  at_eq : ∀ leaf ∈ Layout.leaves, leaf.at? after = (layer leaf).or (leaf.at? before)

namespace Layered

variable {layer later : Leaf → Option Node} {before between after : Node}

theorem refl (hbefore : before.Sections) : Layered (fun _ => none) before before :=
  ⟨hbefore, fun _ _ => rfl⟩

/-- Of two layers the later one counts where it has a value. -/
theorem trans (hfirst : Layered layer before between) (hsecond : Layered later between after) :
    Layered (fun leaf => (later leaf).or (layer leaf)) before after := by
  refine ⟨hsecond.sections, fun leaf hleaf => ?_⟩
  rw [hsecond.at_eq leaf hleaf, hfirst.at_eq leaf hleaf, Option.or_assoc]

theorem congr (hsame : ∀ leaf ∈ Layout.leaves, layer leaf = later leaf)
    (hlayer : Layered layer before after) : Layered later before after := by
  refine ⟨hlayer.sections, fun leaf hleaf => ?_⟩
  rw [← hsame leaf hleaf]
  exact hlayer.at_eq leaf hleaf

end Layered

/-! ## §6. A part of a document as a layer. -/

theorem isTable_of_putAll {members : List (String × Node)} {old : Option Node}
    (hold : ∀ node, old = some node → node.IsTable) :
    (putAll members (old.getD empty)).IsTable := by
  cases old with
  | none => exact isTable_putAll members ⟨none, [], rfl⟩
  | some node => exact isTable_putAll members (hold node rfl)

/-- What is spelled for a setting is no table. -/
theorem not_isTable_of_spelled {setting : Setting} {node : Node}
    (hspelled : (setting.spelled? node).isSome = true) : ¬node.IsTable := by
  rintro ⟨origin, members, rfl⟩
  rw [Setting.spelled_table] at hspelled
  cases hspelled

end Node

/-- The node has the shape of a value for the part: a single value or a list for a setting, a table
of such under the names of its settings for a section. -/
def Part.Shaped : Part → Node → Prop
  | .field _, node => ¬node.IsTable
  | .block _ _ fields, node =>
      ∃ origin members, node = .table origin members ∧
        ∀ entry ∈ members, ∃ f ∈ fields, f.name = entry.1 ∧ ¬entry.2.IsTable

/-- A document of known names whose values have the shapes of their parts. -/
def ShapedDocument (document : List (String × Node)) : Prop :=
  ∀ entry ∈ document, ∃ part ∈ Layout.parts, part.name = entry.1 ∧ part.Shaped entry.2

/-- What is spelled for a part has its shape. -/
theorem Part.Takes.shaped {part : Part} {node : Node} (htakes : part.Takes node) :
    part.Shaped node := by
  cases part with
  | field f => exact Node.not_isTable_of_spelled htakes
  | block name typeName fields =>
      obtain ⟨origin, members, rfl, hknown⟩ := htakes
      refine ⟨origin, members, rfl, fun entry hentry => ?_⟩
      obtain ⟨f, hf, hname, hspelled⟩ := hknown entry hentry
      exact ⟨f, hf, hname, Node.not_isTable_of_spelled hspelled⟩

theorem KnownDocument.shaped {document : List (String × Node)} (hknown : KnownDocument document) :
    ShapedDocument document := by
  intro entry hentry
  obtain ⟨part, hpart, hname, htakes⟩ := hknown entry hentry
  exact ⟨part, hpart, hname, htakes.shaped⟩

namespace Node

/-- The members of a section are single values under names in small letters. -/
theorem plain_of_shaped {name typeName : String} {fields : List Field}
    (hpart : .block name typeName fields ∈ Layout.parts) {members : List (String × Node)}
    (hshaped : ∀ entry ∈ members, ∃ f ∈ fields, f.name = entry.1 ∧ ¬entry.2.IsTable) :
    ∀ entry ∈ members, Text.lowercase entry.1 = entry.1 ∧ ¬entry.2.IsTable := by
  intro entry hentry
  obtain ⟨f, hf, hname, hplain⟩ := hshaped entry hentry
  refine ⟨?_, hplain⟩
  rw [← hname]
  exact @Layout.lowercase_field ⟨some name, f⟩
    (Layout.mem_leaves_of_mem_parts hpart (List.mem_map_of_mem hf))

/-- **A part of a document laid over a tree is a layer of what it gives the settings.** -/
theorem layered_put {part : Part} (hpart : part ∈ Layout.parts) {node : Node}
    (hshaped : part.Shaped node) {tree : Node} (htree : tree.Sections) :
    Layered (fun leaf => leaf.findIn? part.name node) tree (put part.name node tree) := by
  have hlookup := lookup_put part.name node tree
  rw [Layout.lowercase_part hpart] at hlookup
  refine ⟨⟨isTable_put .., ?sections⟩, ?at_eq⟩
  case sections =>
    intro name typeName fields hblock old hold
    rw [hlookup] at hold
    by_cases hname : name = part.name
    · cases Layout.eq_of_name_eq hblock hpart hname
      rw [if_pos hname] at hold
      cases hold
      obtain ⟨origin, members, rfl, _⟩ := hshaped
      exact isTable_of_putAll fun old hold => htree.block hblock old hold
    · rw [if_neg hname] at hold
      exact htree.block hblock old hold
  case at_eq =>
    intro leaf hleaf
    unfold Leaf.at? Leaf.findIn?
    rw [hlookup]
    by_cases htop : leaf.top = part.name
    · rw [if_pos htop, if_pos htop, htop, Option.bind_some]
      have hmem := (Layout.mem_part_leaves_iff hpart hleaf).mp htop
      cases part with
      | field f =>
          cases List.mem_singleton.mp hmem
          rw [laidOn_of_not_table hshaped]
          rfl
      | block name typeName fields =>
          obtain ⟨f, _, rfl⟩ := List.mem_map.mp hmem
          obtain ⟨origin, members, rfl, hmembers⟩ := hshaped
          -- the section is laid member by member over the one that is there, if there is one
          show (putAll members _).asTable.2.lookup f.name = (latest? f.name members).or _
          rw [lookup_putAll (plain_of_shaped hpart hmembers)]
          refine congrArg ((latest? f.name members).or ·) ?_
          cases tree.asTable.2.lookup (Part.block name typeName fields).name <;> rfl
    · rw [if_neg htop, if_neg htop]
      rfl

/-! ## §7. Documents and environments as layers. -/

/-- **A document of known names is a layer of what it gives the settings.** -/
theorem layered_document {document : List (String × Node)} (hshaped : ShapedDocument document)
    {tree : Node} (htree : tree.Sections) :
    Layered (fun leaf => leaf.find? document) tree (tree.putSource document) := by
  induction document generalizing tree with
  | nil => exact Layered.refl htree
  | cons entry rest ih =>
      obtain ⟨name, node⟩ := entry
      obtain ⟨⟨part, hpart, hname, hvalue⟩, hrest⟩ := List.forall_mem_cons.mp hshaped
      change part.name = name at hname
      subst hname
      have hput := layered_put hpart hvalue htree
      have hstep : tree.putSource ((part.name, node) :: rest)
          = (put part.name node tree).putSource rest := by
        show (putAt node (KeyPath.ofKey part.name) tree).putSource rest = _
        rw [Layout.ofKey_part part hpart]
        rfl
      rw [hstep]
      exact hput.trans (ih hrest hput.sections)

end Node

namespace Leaf

/-- A document that gives one setting a value. -/
def entry (leaf : Leaf) (node : Node) : String × Node :=
  match leaf.block? with
  | none => (leaf.field.name, node)
  | some block => (block, .table none [(leaf.field.name, node)])

/-- A value laid at the end of the path to a setting is a document of one entry. -/
theorem putAt_path (leaf : Leaf) (node tree : Node) :
    Node.putAt node (leaf.path.map Step.name) tree
      = Node.put (leaf.entry node).1 (leaf.entry node).2 tree := by
  obtain ⟨block?, f⟩ := leaf
  cases block? with
  | none => rfl
  | some block =>
      -- on the way to a value a missing section comes to be as the empty value, which counts as the
      -- empty table
      have hempty : ∀ old : Option Node,
          Node.put f.name node (old.getD .nil) = Node.put f.name node (old.getD .empty) := by
        intro old
        cases old with
        | none =>
            unfold Node.put
            rfl
        | some node' => rfl
      show Node.table _ (setEntry _ (Node.put f.name node _) _) = _
      rw [hempty]
      conv => rhs; unfold Node.put
      rfl

/-- That document is one of known names. -/
theorem takes_entry {leaf : Leaf} (hleaf : leaf ∈ Layout.leaves) {node : Node}
    (hspelled : (leaf.field.setting.spelled? node).isSome = true) :
    ∃ part ∈ Layout.parts, part.name = (leaf.entry node).1 ∧ part.Takes (leaf.entry node).2 := by
  obtain ⟨part, hpart, hmem⟩ := List.mem_flatMap.mp hleaf
  refine ⟨part, hpart, ?_⟩
  cases part with
  | field f =>
      cases List.mem_singleton.mp hmem
      exact ⟨rfl, hspelled⟩
  | block name typeName fields =>
      obtain ⟨f, hf, rfl⟩ := List.mem_map.mp hmem
      refine ⟨rfl, _, _, rfl, ?_⟩
      intro member hmember
      cases List.mem_singleton.mp hmember
      exact ⟨f, hf, rfl, hspelled⟩

/-- It gives nothing to any other setting. -/
theorem findIn_entry {leaf other : Leaf} (hleaf : leaf ∈ Layout.leaves)
    (hother : other ∈ Layout.leaves) (node : Node) :
    other.findIn? (leaf.entry node).1 (leaf.entry node).2
      = if other.path = leaf.path then some node else none := by
  obtain ⟨part, hpart, hmem⟩ := List.mem_flatMap.mp hleaf
  have hname : (leaf.entry node).1 = part.name := by
    rw [← (Layout.mem_part_leaves_iff hpart hleaf).mpr hmem]
    unfold entry top
    cases leaf.block? <;> rfl
  unfold findIn?
  rw [hname]
  by_cases htop : other.top = part.name
  · rw [if_pos htop]
    have hother_mem := (Layout.mem_part_leaves_iff hpart hother).mp htop
    cases part with
    | field f =>
        cases List.mem_singleton.mp hmem
        cases List.mem_singleton.mp hother_mem
        rw [if_pos rfl]
        rfl
    | block name typeName fields =>
        obtain ⟨f, _, rfl⟩ := List.mem_map.mp hmem
        obtain ⟨f', _, rfl⟩ := List.mem_map.mp hother_mem
        show (if f.name = f'.name then some node else none) = _
        refine if_congr ?_ rfl rfl
        unfold path
        constructor
        · intro hname
          exact congrArg (fun n => [name, n]) hname.symm
        · intro hpath
          exact (List.cons.inj (List.cons.inj hpath).2).1.symm
  · have hdiffers : other.path ≠ leaf.path := by
      intro hpath
      cases eq_of_path_eq hother hleaf hpath
      exact htop ((Layout.mem_part_leaves_iff hpart hleaf).mpr hmem)
    rw [if_neg htop, if_neg hdiffers]

end Leaf

/-- A variable gives at most one value. -/
theorem Environment.source_cons (name text : String) (rest : List (String × String)) :
    source ((name, text) :: rest)
      = ((key? name).map fun key => (key, node key text)).toList ++ source rest := by
  unfold source
  rw [List.filterMap_cons]
  dsimp only
  cases key? name <;> rfl

namespace Node

/-- A value laid at the end of the path to a setting is a layer of this one value. -/
theorem layered_putAt {leaf : Leaf} (hleaf : leaf ∈ Layout.leaves) {node : Node}
    (hspelled : (leaf.field.setting.spelled? node).isSome = true) {tree : Node}
    (htree : tree.Sections) :
    Layered (fun other => if other.path = leaf.path then some node else none) tree
      (putAt node (leaf.path.map Step.name) tree) := by
  obtain ⟨part, hpart, hname, htakes⟩ := Leaf.takes_entry hleaf hspelled
  rw [Leaf.putAt_path, ← hname]
  refine (layered_put hpart htakes.shaped htree).congr fun other hother => ?_
  rw [hname]
  exact Leaf.findIn_entry hleaf hother node

/-- **An environment of known keys is a layer of the nodes of its texts.** -/
theorem layered_environment {environment : List (String × String)}
    (hknown : KnownEnvironment environment) {tree : Node} (htree : tree.Sections) :
    Layered (fun leaf => (leaf.text? environment).map (Environment.node leaf.key)) tree
      (tree.putSource (Environment.source environment)) := by
  induction environment generalizing tree with
  | nil => exact Layered.refl htree
  | cons given rest ih =>
      obtain ⟨name, text⟩ := given
      obtain ⟨hfirst, hrest⟩ := List.forall_mem_cons.mp hknown
      cases hkey : Environment.key? name with
      | none =>
          -- the variable is for something else
          rw [Environment.source_cons, hkey]
          refine (ih hrest htree).congr fun leaf _ => ?_
          rw [Leaf.text_cons, hkey, if_neg nofun, Option.or_none]
      | some key =>
          rw [Environment.source_cons, hkey]
          obtain ⟨leaf, hleaf, rfl, htext⟩ := hfirst key hkey
          obtain ⟨v, hv⟩ := Option.isSome_iff_exists.mp htext
          have hspelled : (leaf.field.setting.spelled? (Environment.node leaf.key text)).isSome
              = true := by
            rw [leaf.spelled_of_text hleaf hv]
            rfl
          have hput := layered_putAt hleaf hspelled htree
          rw [← Layout.ofKey_key leaf hleaf] at hput
          refine (hput.trans (ih hrest hput.sections)).congr fun other hother => ?_
          rw [Leaf.text_cons, hkey, Option.map_or]
          refine congrArg (((other.text? rest).map (Environment.node other.key)).or ·) ?_
          by_cases hsame : other.path = leaf.path
          · cases Leaf.eq_of_path_eq hother hleaf hsame
            rw [if_pos rfl, if_pos rfl]
            rfl
          · have hdiffers : some leaf.key ≠ some other.key := fun h =>
              hsame (Leaf.eq_of_key_eq hleaf hother (Option.some.inj h) ▸ rfl)
            rw [if_neg hsame, if_neg hdiffers]
            rfl

end Node

end RetryControl
