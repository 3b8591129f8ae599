/-
  RetryControl.Proofs.Settings.Loading
  ────────────────────────────────
  **LOADING LAYER BY LAYER.**

  Of a setting the variable shows through, or else the file, or else the
  default, and no setting gets in the way of another.  Without variables the
  file could as well be read by itself: the defaults that are laid under it are
  those that its reader starts from.

    • `Leaf.given?` — what a file and an environment give a setting,
    • `spelledAt_layered`, `ofNode_layered` — what shows through,
    • `ofJson_known` — a document read by itself,
    • `Leaf.Alters` — files and environments that differ in one setting,
    • `Surroundings.Gives` — what the text of a file gives,
    • `layered_loading` — what loading gives.
-/
import RetryControl.Proofs.Settings.Buildable
import RetryControl.Proofs.Settings.Paths
import RetryControl.Proofs.Settings.Reading
import RetryControl.Proofs.Settings.Saving

namespace RetryControl

/-! ## §1. What the layers give. -/

/-- What the layers over the defaults give a setting: its variable, or else the file. -/
def Leaf.given? (file : List (String × Node)) (environment : List (String × String)) :
    SettingsView := fun leaf =>
  ((leaf.text? environment).bind fun text => leaf.field.setting.ofText? text).or
    ((leaf.find? file).bind leaf.field.setting.spelled?)

/-- The text of a known variable for a setting spells a value of it. -/
theorem KnownEnvironment.isSome_ofText {environment : List (String × String)}
    (hknown : KnownEnvironment environment) {leaf : Leaf} (hleaf : leaf ∈ Layout.leaves)
    {text : String} (htext : leaf.text? environment = some text) :
    (leaf.field.setting.ofText? text).isSome = true := by
  obtain ⟨name, hentry, hkey⟩ := Leaf.mem_of_text htext
  obtain ⟨other, hother, hsame, hspelled⟩ := hknown _ hentry _ hkey
  rw [Leaf.eq_of_key_eq hother hleaf hsame] at hspelled
  exact hspelled

section NoVariables

variable {environment : List (String × String)}
  (hnone : ∀ entry ∈ environment, Environment.key? entry.1 = none)

include hnone

/-- Without variables for settings there is no text for any of them. -/
theorem Leaf.text_of_no_variables (leaf : Leaf) : leaf.text? environment = none := by
  cases htext : leaf.text? environment with
  | none => rfl
  | some text =>
      obtain ⟨name, hentry, hkey⟩ := mem_of_text htext
      rw [hnone _ hentry] at hkey
      cases hkey

theorem known_of_no_variables : KnownEnvironment environment := by
  intro given hgiven key hkey
  rw [hnone given hgiven] at hkey
  cases hkey

/-- Without variables the file alone gives values. -/
theorem Leaf.given_of_no_variables (file : List (String × Node)) (leaf : Leaf) :
    leaf.given? file environment = (leaf.find? file).bind leaf.field.setting.spelled? := by
  unfold given?
  rw [leaf.text_of_no_variables hnone]
  rfl

end NoVariables

/-! ## §2. What shows through. -/

/-- **The defaults of the fields are those of the whole.** -/
theorem RetrySettings.unset_eq : RetrySettings.unset = {} := rfl

/-- The default delays are short. -/
theorem RetrySettings.fits_default : ({} : RetrySettings).Fits := by
  have hall : Layout.leaves.Forall fun leaf => leaf.field.setting.Fits {} := by
    repeat' apply And.intro
    all_goals first | exact trivial | (show UInt64.toNat _ < signedReach; decide)
  exact List.forall_iff_forall_mem.mp hall

/-- The layer of the defaults is a known document with the default values. -/
theorem RetrySettings.known_defaults :
    KnownDocument defaults ∧ ∀ leaf ∈ Layout.leaves,
      (leaf.find? defaults).bind leaf.field.setting.spelled? = some (leaf.value {}) := by
  obtain ⟨document, hsaved, hknown, hvalues⟩ := saved none fits_default
  unfold defaults
  rw [hsaved]
  exact ⟨hknown, hvalues⟩

/-- The tree of all layers. -/
theorem layered_tree {file : List (String × Node)} {environment : List (String × String)}
    (hfile : ShapedDocument file) (henvironment : KnownEnvironment environment) :
    Node.Layered
      (fun leaf => ((leaf.text? environment).map (Environment.node leaf.key)).or
        ((leaf.find? file).or (leaf.find? RetrySettings.defaults)))
      .empty (RetrySettings.layered file (Environment.source environment)) := by
  have hempty : Node.empty.Sections := by
    refine ⟨⟨none, [], rfl⟩, ?_⟩
    intro name typeName fields _ node hnode
    cases hnode
  have hdefaults := Node.layered_document RetrySettings.known_defaults.1.shaped hempty
  have hover := hdefaults.trans (Node.layered_document hfile hdefaults.sections)
  exact hover.trans (Node.layered_environment henvironment hover.sections)

section Layers

variable {file : List (String × Node)} {environment : List (String × String)}
  (hfile : KnownDocument file) (henvironment : KnownEnvironment environment)

include hfile henvironment

/-- **For every setting the tree spells what the layers give it, or else its default.** -/
theorem spelledAt_layered {leaf : Leaf} (hleaf : leaf ∈ Layout.leaves) :
    leaf.spelledAt? (RetrySettings.layered file (Environment.source environment))
      = some ((leaf.given? file environment).getD (leaf.value {})) := by
  have hvariable : ((leaf.text? environment).map (Environment.node leaf.key)).bind
        leaf.field.setting.spelled?
      = (leaf.text? environment).bind fun text => leaf.field.setting.ofText? text := by
    cases htext : leaf.text? environment with
    | none => rfl
    | some text =>
        obtain ⟨v, hv⟩ := Option.isSome_iff_exists.mp (henvironment.isSome_ofText hleaf htext)
        exact (leaf.spelled_of_text hleaf hv).trans hv.symm
  have hspelled : ∀ node, (leaf.text? environment).map (Environment.node leaf.key) = some node →
      (leaf.field.setting.spelled? node).isSome = true := by
    intro node hnode
    obtain ⟨text, htext, rfl⟩ := Option.map_eq_some_iff.mp hnode
    obtain ⟨v, hv⟩ := Option.isSome_iff_exists.mp (henvironment.isSome_ofText hleaf htext)
    rw [leaf.spelled_of_text hleaf hv]
    rfl
  unfold Leaf.spelledAt? Leaf.given?
  -- below the defaults there is nothing, and they have every setting
  rw [(layered_tree hfile.shaped henvironment).at_eq leaf hleaf,
    show leaf.at? Node.empty = none from rfl, Option.or_none, Setting.spelled_or hspelled,
    Setting.spelled_or fun _ => hfile.spelled_of_find hleaf, hvariable,
    RetrySettings.known_defaults.2 leaf hleaf, ← Option.or_assoc, Option.or_some]

/-- **The layers are read as the settings that hold what is given over the defaults.** -/
theorem ofNode_layered :
    ∃ settings, RetrySettings.ofNode
        (RetrySettings.layered file (Environment.source environment)) = .ok settings
      ∧ RetrySettings.Overlays (Leaf.given? file environment) {} settings := by
  have htree := (layered_tree hfile.shaped henvironment).sections
  have hat := fun leaf (hleaf : leaf ∈ Layout.leaves) =>
    spelledAt_layered hfile henvironment hleaf
  have hspelled : (RetrySettings.layered file (Environment.source environment)).Spelled := by
    intro leaf hleaf node hnode
    have hvalue := hat leaf hleaf
    unfold Leaf.spelledAt? at hvalue
    rw [hnode] at hvalue
    exact Option.isSome_of_eq_some hvalue
  obtain ⟨settings, hread, hover⟩ := htree.lays_spelled hspelled RetrySettings.unset
  refine ⟨settings, hread, fun leaf hleaf => ?_⟩
  rw [hover leaf hleaf, hat leaf hleaf]
  rfl

end Layers

/-! ## §3. Documents read by themselves. -/

/-- **A known document is read as the settings that hold its values over the defaults.** -/
theorem RetrySettings.ofJson_known {document : List (String × Node)}
    (hknown : KnownDocument document) {members : List (String × Json)}
    (halong : Json.Alongside Json.ReadAs document members) :
    ∃ settings, RetrySettings.ofJson (.object members) = .ok settings
      ∧ Overlays (fun leaf => (leaf.find? document).bind leaf.field.setting.spelled?) {}
          settings := by
  rw [← unset_eq]
  exact (Json.lays_document hknown halong).mapError SettingsError.unfit unset

/-! ## §4. One setting at a time. -/

namespace Leaf

/-- The variables that are not for the setting. -/
def removedFrom (leaf : Leaf) (environment : List (String × String)) : List (String × String) :=
  environment.filter fun given => Environment.key? given.1 ≠ some leaf.key

/-- A document with a node for the setting, in its section if it stands in one. -/
def setIn (leaf : Leaf) (node : Node) (document : List (String × Node)) : List (String × Node) :=
  match leaf.block? with
  | none => setEntry leaf.field.name node document
  | some block =>
      let (origin, members) := ((document.lookup block).getD .empty).asTable
      setEntry block (.table origin (setEntry leaf.field.name node members)) document

/-- The second file and environment differ from the first in one setting at most: the file gives it
another value, and its variables are others. -/
structure Alters (leaf : Leaf) (file file' : List (String × Node))
    (environment environment' : List (String × String)) : Prop where
  file_eq : file' = file ∨ ∃ node, file' = leaf.setIn node file
  variables_eq : leaf.removedFrom environment' = leaf.removedFrom environment

/-- Variables for one setting are none for another. -/
theorem text_removedFrom {leaf other : Leaf} (hleaf : leaf ∈ Layout.leaves)
    (hother : other ∈ Layout.leaves) (hne : other ≠ leaf) (environment : List (String × String)) :
    other.text? (leaf.removedFrom environment) = other.text? environment := by
  induction environment with
  | nil => rfl
  | cons given rest ih =>
      obtain ⟨name, text⟩ := given
      unfold removedFrom at ih ⊢
      rw [List.filter_cons, text_cons]
      by_cases hkey : Environment.key? name = some leaf.key
      · have hdiffers : some leaf.key ≠ some other.key :=
          fun h => hne (eq_of_key_eq hother hleaf (Option.some.inj h).symm)
        rw [if_neg (by simpa using hkey), ih, hkey, if_neg hdiffers, Option.or_none]
      · rw [if_pos (by simpa using hkey), text_cons, ih]

/-- A node in the place of one that gives a setting the same gives it the same. -/
theorem find_setEntry {leaf : Leaf} {name : String} {node : Node} {document : List (String × Node)}
    (hsame : leaf.findIn? name node = (document.lookup name).bind (leaf.findIn? name)) :
    leaf.find? (setEntry name node document) = leaf.find? document := by
  induction document with
  | nil => exact hsame
  | cons entry rest ih =>
      obtain ⟨other, old⟩ := entry
      unfold setEntry
      rw [List.lookup_cons] at hsame
      by_cases hname : name = other
      · subst hname
        rw [beq_self_eq_true] at hsame
        rw [if_pos rfl]
        exact congrArg (Option.or _) hsame
      · rw [beq_eq_false_iff_ne.mpr hname] at hsame
        rw [if_neg hname]
        exact congrArg (Option.or · _) (ih hsame)

theorem find_setEntry_of_ne {leaf : Leaf} {name : String} (hne : leaf.top ≠ name) (node : Node)
    (document : List (String × Node)) :
    leaf.find? (setEntry name node document) = leaf.find? document := by
  refine find_setEntry ?_
  unfold findIn?
  rw [if_neg hne]
  cases document.lookup name with
  | none => rfl
  | some old => exact (if_neg hne).symm

end Leaf

/-- A value filed under one name is none under another. -/
theorem latest_setEntry_of_ne {α : Type} {name other : String} (hne : other ≠ name) (a : α)
    (entries : List (String × α)) :
    latest? other (setEntry name a entries) = latest? other entries := by
  induction entries with
  | nil =>
      show latest? other [(name, a)] = none
      rw [latest_cons, if_neg (Ne.symm hne)]
      rfl
  | cons entry rest ih =>
      obtain ⟨found, old⟩ := entry
      unfold setEntry
      by_cases hname : name = found
      · subst hname
        rw [if_pos rfl, latest_cons, latest_cons, if_neg (Ne.symm hne), if_neg (Ne.symm hne)]
      · rw [if_neg hname, latest_cons, latest_cons, ih]

namespace Leaf

/-- A value for one setting in a document is none for another. -/
theorem find_setIn {leaf other : Leaf} (hleaf : leaf ∈ Layout.leaves)
    (hother : other ∈ Layout.leaves) (hne : other ≠ leaf) (node : Node)
    (document : List (String × Node)) :
    other.find? (leaf.setIn node document) = other.find? document := by
  obtain ⟨part, hpart, hmem⟩ := List.mem_flatMap.mp hleaf
  have htop := Layout.mem_part_leaves_iff hpart hother
  cases part with
  | field f =>
      cases List.mem_singleton.mp hmem
      exact find_setEntry_of_ne (fun h => hne (List.mem_singleton.mp (htop.mp h))) node document
  | block name typeName fields =>
      obtain ⟨f, _, rfl⟩ := List.mem_map.mp hmem
      by_cases hsection : other.top = name
      · obtain ⟨f', _, rfl⟩ := List.mem_map.mp (htop.mp hsection)
        have hname : f'.name ≠ f.name := by
          intro h
          refine hne (eq_of_path_eq hother hleaf ?_)
          exact congrArg (fun n => [name, n]) h
        refine find_setEntry ?_
        unfold findIn?
        rw [if_pos hsection]
        show latest? f'.name (setEntry f.name node _) = _
        rw [latest_setEntry_of_ne hname]
        cases document.lookup name with
        | none => rfl
        | some old => exact (if_pos hsection).symm
      · exact find_setEntry_of_ne hsection _ document

/-- **What is changed for one setting gives nothing to another.** -/
theorem Alters.given_eq {leaf other : Leaf} {file file' : List (String × Node)}
    {environment environment' : List (String × String)}
    (halters : leaf.Alters file file' environment environment') (hleaf : leaf ∈ Layout.leaves)
    (hother : other ∈ Layout.leaves) (hne : other ≠ leaf) :
    other.given? file' environment' = other.given? file environment := by
  have htext : other.text? environment' = other.text? environment := by
    rw [← text_removedFrom hleaf hother hne, halters.variables_eq,
      text_removedFrom hleaf hother hne]
  have hfind : other.find? file' = other.find? file := by
    rcases halters.file_eq with rfl | ⟨node, rfl⟩
    · rfl
    · exact find_setIn hleaf hother hne node file
  unfold given?
  rw [htext, hfind]

end Leaf

/-! ## §5. Texts of files. -/

namespace Surroundings

/-- What the text of a file gives: without a name nothing, and otherwise what the text of the file to
read says in its format. -/
inductive Gives (around : Surroundings) : Option FileName → List (String × Node) → Prop where
  /-- There is no file to read. -/
  | nothing : Gives around none []
  /-- There is a file to read. -/
  | file {name : FileName} {located : Located} {text : String} {file : List (String × Node)}
      (hlocated : around.locate name = .ok located)
      (htext : around.textAt? located.path = some text)
      (hfile : located.format.source? located.origin text = some file) :
      Gives around (some name) file

variable {around : Surroundings}

/-- **The layer of a file is what its text gives.** -/
theorem Gives.fileLayer_eq {name : Option FileName} {file : List (String × Node)}
    (hgives : around.Gives name file) : around.fileLayer name = .ok file := by
  cases hgives with
  | nothing => rfl
  | file hlocated htext hfile =>
      unfold fileLayer source
      simp only [hlocated, bind, Except.bind, htext, Option.bind, hfile]

/-- A JSON text gives the members of its object, if it is one. -/
theorem source?_json_iff {origin text : String} {file : List (String × Node)} :
    Format.json.source? origin text = some file
      ↔ ∃ members, Json.read text = .ok (.object members)
        ∧ Node.ofJsonMembers (some origin) members = file := by
  unfold Format.source?
  dsimp only
  split
  · rename_i members hread
    rw [hread]
    constructor
    · intro heq
      exact ⟨members, rfl, Option.some.inj heq⟩
    · rintro ⟨_, ⟨⟩, rfl⟩
      rfl
  · rename_i hother
    refine iff_of_false nofun ?_
    rintro ⟨members, hread, _⟩
    exact hother members hread

/-- **A name gives what the text of the file at its path says.** -/
theorem gives_of_stands {name : FileName} {path : List String} {text : String} {format : Format}
    {file : List (String × Node)} (hleads : name.LeadsTo around path)
    (hstands : around.Stands text path) (hclear : around.ClearWay path)
    (hformat : Format.ofName? (path.getLast?.getD "") = some format)
    (hfile : format.source? ("/".intercalate (stepsFrom around.home path)) text = some file) :
    around.Gives (some name) file :=
  .file (locate_of_stands hleads hstands hclear hformat) hstands.textAt_eq hfile

end Surroundings

/-! ## §6. The main result. -/

/-- The settings, if they can be used. -/
def RetrySettings.checked (settings : RetrySettings) : Except SettingsError RetrySettings :=
  settings.validate.map fun _ => settings

theorem RetrySettings.checked_eq_ok_iff {settings checked : RetrySettings} :
    settings.checked = .ok checked ↔ settings.validate = .ok () ∧ checked = settings := by
  unfold RetrySettings.checked
  cases settings.validate with
  | error fault => exact iff_of_false nofun fun h => nomatch h.1
  | ok u =>
      show Except.ok settings = .ok checked ↔ _
      rw [Except.ok.injEq]
      exact ⟨fun h => ⟨rfl, h.symm⟩, fun h => h.2.symm⟩

/-- What the layers are read as is checked. -/
theorem RetrySettings.ofLayers_of_ofNode {file environment : List (String × Node)}
    {settings : RetrySettings} (hread : ofNode (layered file environment) = .ok settings) :
    ofLayers file environment = settings.checked := by
  unfold ofLayers checked
  rw [hread]
  show (settings.validate >>= fun _ => pure settings) = _
  cases settings.validate <;> rfl

namespace Surroundings

variable {around : Surroundings} {name : Option FileName}

theorem load_eq {file : List (String × Node)} (hfile : around.fileLayer name = .ok file) :
    around.load name = RetrySettings.ofLayers file (Environment.source around.environment) := by
  unfold load
  rw [hfile]
  rfl

/-- Known layers are loaded as the settings that hold what is given over the defaults, after they
are checked. -/
theorem load_known {file : List (String × Node)} (hfile : around.fileLayer name = .ok file)
    (hknown : KnownDocument file) (henvironment : KnownEnvironment around.environment) :
    ∃ settings, around.load name = settings.checked
      ∧ RetrySettings.Overlays (Leaf.given? file around.environment) {} settings := by
  obtain ⟨settings, hread, hover⟩ := ofNode_layered hknown henvironment
  refine ⟨settings, ?_, hover⟩
  rw [load_eq hfile, RetrySettings.ofLayers_of_ofNode hread]

/-- **Settings that are loaded pass the check.** -/
theorem validate_of_load {settings : RetrySettings} (hload : around.load name = .ok settings) :
    settings.validate = .ok () := by
  cases hfile : around.fileLayer name with
  | error fault =>
      unfold load at hload
      rw [hfile] at hload
      cases hload
  | ok file =>
      rw [load_eq hfile] at hload
      cases hread : RetrySettings.ofNode
          (RetrySettings.layered file (Environment.source around.environment)) with
      | error fault =>
          unfold RetrySettings.ofLayers at hload
          rw [hread] at hload
          cases hload
      | ok read =>
          rw [RetrySettings.ofLayers_of_ofNode hread] at hload
          obtain ⟨hvalid, rfl⟩ := RetrySettings.checked_eq_ok_iff.mp hload
          exact hvalid

/-- **A file that was named and is not there is reported as missing.** -/
theorem load_missing {missing : FileName} (hmissing : around.find? missing = none) :
    around.load (some missing) = .error (.fileNotFound (missing.text around)) := by
  unfold load fileLayer source locate
  dsimp only
  rw [hmissing]
  rfl

/-- Without variables a known file may as well be read by itself. -/
theorem load_of_no_variables {file : List (String × Node)}
    (hfile : around.fileLayer name = .ok file) (hknown : KnownDocument file)
    (hnone : ∀ given ∈ around.environment, Environment.key? given.1 = none)
    {members : List (String × Json)} (halong : Json.Alongside Json.ReadAs file members) :
    around.load name = RetrySettings.ofJson (.object members) >>= RetrySettings.checked := by
  obtain ⟨settings, hload, hover⟩ := load_known hfile hknown (known_of_no_variables hnone)
  obtain ⟨direct, hread, hdirect⟩ := RetrySettings.ofJson_known hknown halong
  have hsame := hover.congr fun leaf _ => Leaf.given_of_no_variables hnone file leaf
  rw [hload, hread, hsame.unique hdirect]
  rfl

/-- **LAYERS SHOW THROUGH ONE BY ONE.**  A known file and known variables are loaded as the settings
that hold for every setting what the variable gives, or else the text of the file, or else the
default, or as the fault of these settings; a file or a variable for one setting never changes
another; and without variables the file could be read by itself.  The file is the one at the path
that its name spells, from the working directory or from the top of the system.  Whatever there is,
settings that are loaded pass the check, and a missing file is reported. -/
theorem layered_loading (around : Surroundings) (name : Option FileName) :
    (∀ file, around.Gives name file → KnownDocument file →
      KnownEnvironment around.environment →
        ∃ settings, around.load name = settings.checked
          ∧ (∀ fault, settings.validate = .error fault → ∃ reason, fault = .invalid reason)
          ∧ (∀ leaf ∈ Layout.leaves,
              leaf.value settings
                = (leaf.given? file around.environment).getD (leaf.value {}))
          ∧ ∀ (other : Surroundings) (otherName : Option FileName) (file' : _),
              other.Gives otherName file' → KnownDocument file' →
              KnownEnvironment other.environment → ∀ changed ∈ Layout.leaves,
              changed.Alters file file' around.environment other.environment →
              ∃ settings', other.load otherName = settings'.checked
                ∧ ∀ leaf ∈ Layout.leaves, leaf ≠ changed →
                    leaf.value settings' = leaf.value settings)
      ∧ (∀ file, around.Gives name file → KnownDocument file →
          (∀ given ∈ around.environment, Environment.key? given.1 = none) →
            around.load name
                = RetrySettings.ofJson (.object (Node.contentMembers file))
                    >>= RetrySettings.checked
              ∧ ∀ origin members, file = Node.ofJsonMembers origin members →
                  around.load name
                    = RetrySettings.ofJson (.object members) >>= RetrySettings.checked)
      ∧ (∀ (given : FileName) path text format file, given.LeadsTo around path →
          around.Stands text path → around.ClearWay path →
          Format.ofName? (path.getLast?.getD "") = some format →
          format.source? ("/".intercalate (stepsFrom around.home path)) text = some file →
            around.Gives (some given) file)
      ∧ (∀ settings, around.load name = .ok settings → settings.validate = .ok ())
      ∧ (∀ missing, around.find? missing = none →
          around.load (some missing) = .error (.fileNotFound (missing.text around)))
      ∧ ∀ (missing : FileName) path, missing.LeadsTo around path →
          (∀ entry ∈ around.places, ¬path <+: entry.1) →
            around.load (some missing) = .error (.fileNotFound (missing.text around)) := by
  refine ⟨?shown, ?direct, fun _ _ _ _ _ => gives_of_stands, fun settings => validate_of_load,
    fun missing => load_missing, fun missing path hleads hnothing => ?missing⟩
  case shown =>
    intro file hgives hknown henvironment
    obtain ⟨settings, hload, hover⟩ := load_known hgives.fileLayer_eq hknown henvironment
    refine ⟨settings, hload, fun fault => RetrySettings.invalid_of_validate, hover, ?_⟩
    intro other otherName file' hgives' hknown' henvironment' changed hchanged halters
    obtain ⟨settings', hload', hover'⟩ := load_known hgives'.fileLayer_eq hknown' henvironment'
    refine ⟨settings', hload', fun leaf hleaf hne => ?_⟩
    rw [hover' leaf hleaf, hover leaf hleaf, halters.given_eq hchanged hleaf hne]
  case direct =>
    intro file hgives hknown hnone
    refine ⟨load_of_no_variables hgives.fileLayer_eq hknown hnone
      (Json.alongside_content Json.readAs_content file), ?_⟩
    rintro origin members rfl
    exact load_of_no_variables hgives.fileLayer_eq hknown hnone
      (Json.alongside_ofJson (Json.readAs_ofJson origin) members)
  case missing => exact load_missing (find_of_nothing hleads (at_eq_none_iff.mpr hnothing))

/-- A TOML file, named from the working directory and from the top of the system, a JSON file, and
variables of which not all are settings: each setting comes from its uppermost layer. -/
theorem layered_loading_three :
    let toml := "max_attempts = 5\n[backoff]\nkind = \"fixed\"\n"
    let json := "\x7b\"retry_on\": [\"throttling\"], \"budget\": \x7b\"retry_cost\": 3\x7d\x7d"
    let around : Surroundings :=
      { files := [(["retries.toml"], toml), (["more", "retries.json"], json)]
        environment := [("HOME", "/root"), ("RETRIES_BACKOFF__BASE_DELAY_MS", "200")]
        workingDirectory := "/work"
        userDirectory := [".config"] }
    let more := { around with
      environment := ("RETRIES_MAX_ATTEMPTS", "7") :: around.environment }
    let less := { around with environment := [("HOME", "/root")] }
    let bare := { around with files := [], environment := [] }
    around.load (some (.given "retries.toml"))
        = .ok { maxAttempts := 5, backoff := { kind := .fixed, baseDelayMs := 200 } }
      ∧ more.load (some (.given "/work/retries.toml"))
        = .ok { maxAttempts := 7, backoff := { kind := .fixed, baseDelayMs := 200 } }
      ∧ less.load (some (.given "more/./retries.json"))
        = .ok { budget := { retryCost := 3 }, retryOn := [.throttling] }
      ∧ (∃ members, Json.read json = .ok (.object members)
          ∧ less.load (some (.given "more/./retries.json"))
            = RetrySettings.ofJson (.object members) >>= RetrySettings.checked)
      ∧ bare.load none = .ok {} ∧ ({} : RetrySettings).validate = .ok ()
      ∧ around.load (some (.given "retries.json")) = .error (.fileNotFound "retries.json") := by
  intro toml json around more less bare
  let tomlFile := (Format.toml.source? "retries.toml" toml).get (by decide +kernel)
  let jsonFile := (Format.json.source? "more/retries.json" json).get (by decide +kernel)
  have hgiven : around.Gives (some (.given "retries.toml")) tomlFile :=
    (layered_loading around none).2.2.1 _ (around.home ++ ["retries.toml"]) toml .toml tomlFile
      (by decide +kernel) (.below rfl) (by decide +kernel) (by decide +kernel)
      ((congrArg (Format.toml.source? · toml) (by decide +kernel)).trans (Option.some_get _).symm)
  have hmore : more.Gives (some (.given "/work/retries.toml")) tomlFile :=
    (layered_loading more none).2.2.1 _ (more.home ++ ["retries.toml"]) toml .toml tomlFile
      (by decide +kernel) (.below rfl) (by decide +kernel) (by decide +kernel)
      ((congrArg (Format.toml.source? · toml) (by decide +kernel)).trans (Option.some_get _).symm)
  have hless : less.Gives (some (.given "more/./retries.json")) jsonFile :=
    (layered_loading less none).2.2.1 _ (less.home ++ ["more", "retries.json"]) json .json jsonFile
      (by decide +kernel) (.below rfl) (by decide +kernel) (by decide +kernel)
      ((congrArg (Format.json.source? · json) (by decide +kernel)).trans (Option.some_get _).symm)
  have hvalues : ∀ (given : Surroundings) (name : Option FileName) file target,
      given.Gives name file → KnownDocument file → KnownEnvironment given.environment →
      (∀ leaf ∈ Layout.leaves,
        (leaf.given? file given.environment).getD (leaf.value {}) = leaf.value target) →
      target.validate = .ok () → given.load name = .ok target := by
    intro given name file target hgives hknown henvironment htarget hvalid
    obtain ⟨settings, hload, _, hleaves, _⟩ :=
      (layered_loading given name).1 file hgives hknown henvironment
    have hsame : settings = target := RetrySettings.ext_leaves fun leaf hleaf =>
      (hleaves leaf hleaf).trans (htarget leaf hleaf)
    rw [hload, hsame]
    exact RetrySettings.checked_eq_ok_iff.mpr ⟨hvalid, rfl⟩
  have hdefault : bare.load none = .ok {} :=
    hvalues bare none [] {} .nothing (by decide) (by decide) (fun _ _ => rfl) (by decide +kernel)
  have hmissing : around.load (some (.given "retries.json"))
      = .error (.fileNotFound "retries.json") :=
    (layered_loading around none).2.2.2.2.2 _ (around.home ++ ["retries.json"])
      (by decide +kernel) (by decide +kernel)
  obtain ⟨members, hread, hjson⟩ := source?_json_iff.mp
    (show Format.json.source? "more/retries.json" json = some jsonFile from
      (Option.some_get _).symm)
  have hdirect := ((layered_loading less _).2.1 jsonFile hless (by decide +kernel)
    (by decide +kernel)).2 _ members hjson.symm
  refine ⟨hvalues around _ tomlFile _ hgiven (by decide +kernel) (by decide +kernel)
      (by decide +kernel) (by decide +kernel),
    hvalues more _ tomlFile _ hmore (by decide +kernel) (by decide +kernel)
      (by decide +kernel) (by decide +kernel),
    hvalues less _ jsonFile _ hless (by decide +kernel) (by decide +kernel)
      (by decide +kernel) (by decide +kernel), ⟨members, hread, hdirect⟩, hdefault,
    (layered_loading bare none).2.2.2.1 {} hdefault, hmissing⟩

end Surroundings

end RetryControl
