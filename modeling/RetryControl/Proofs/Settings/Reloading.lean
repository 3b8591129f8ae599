/-
  RetryControl.Proofs.Settings.Reloading
  ────────────────────────────────
  **SAVED SETTINGS THAT ARE LOADED.**

  Settings are saved as the text of their document, and a file of that text is
  loaded as every file is: read as a tree, laid over the defaults, and read as
  settings.  What comes back of a setting depends on its own value alone.  A
  rate is read from its shortest digits, in two rounded steps; a number of
  milliseconds with more than sixty-three bits goes through binary64; any
  other value comes back as it is.

    • `SettingValue.reread?`, `SettingValue.kept` — what text and tree make of
      a value, and `SettingValue.Returns` — when that is the value,
    • `SettingValue.Modest` — delays of sixty-three bits and rates of few
      digits, which return,
    • `RetrySettings.reread_written` — the document that is read,
    • `RetrySettings.ofNode_saved` — the settings that are read from the tree,
    • `Surroundings.load_saved` — what is loaded,
    • `saved_settings_return` — which settings come back unchanged.
-/
import RetryControl.Proofs.Json.Brief
import RetryControl.Proofs.Settings.Loading

namespace RetryControl

/-! ## §1. Values that come back. -/

/-- A number of milliseconds as a layered tree keeps it: beyond sixty-three bits as a binary64
number. -/
def keptMillis (n : UInt64) : UInt64 :=
  if n.toNat < signedReach then n
  else .ofNat (Binary64.toNatClamped (Float.ofInt n.toNat) greatestWord)

namespace SettingValue

/-- What is read for a value that was written. -/
def reread? : SettingValue → Option SettingValue
  | .rate x => (Binary64.reread x).toOption.map .rate
  | v => some v

/-- What a layered tree keeps of a value. -/
def kept : SettingValue → SettingValue
  | .millis n => .millis (keptMillis n)
  | v => v

/-- The value comes back: a rate is the number that its shortest digits are read as, and a number of
milliseconds has sixty-three bits, or is a multiple of 2048 or the greatest one. -/
def Returns : SettingValue → Prop
  | .millis n => n.toNat < signedReach ∨ 2048 ∣ n.toNat ∨ n.toNat = greatestWord
  | .rate x => Binary64.reread x = .ok x
  | _ => True

theorem keptMillis_eq_iff {n : UInt64} : keptMillis n = n ↔ (millis n).Returns := by
  show _ ↔ n.toNat < signedReach ∨ 2048 ∣ n.toNat ∨ n.toNat = greatestWord
  have hword : n.toNat < wordCount := n.toNat_lt
  unfold keptMillis
  by_cases hfits : n.toNat < signedReach
  · rw [if_pos hfits]
    exact iff_of_true rfl (.inl hfits)
  · have hback := Binary64.toNatClamped_le (Float.ofInt n.toNat) greatestWord
    have hbound : greatestWord < UInt64.size := by decide
    rw [if_neg hfits, or_iff_right hfits,
      ← Binary64.toNatClamped_ofInt_iff (Nat.le_of_not_lt hfits) hword, ← UInt64.toNat_inj,
      UInt64.toNat_ofNat_of_lt' (Nat.lt_of_le_of_lt hback hbound)]

/-- **A value returns if it is what comes back of it.** -/
theorem returns_iff {v : SettingValue} : v.Returns ↔ v.reread?.map kept = some v := by
  cases v with
  | millis n =>
      show _ ↔ some (millis (keptMillis n)) = some (millis n)
      rw [Option.some.injEq, millis.injEq, keptMillis_eq_iff]
  | rate x =>
      show Binary64.reread x = .ok x ↔ ((Binary64.reread x).toOption.map rate).map kept = _
      cases Binary64.reread x with
      | error fault => exact iff_of_false nofun nofun
      | ok y =>
          show Except.ok y = .ok x ↔ some (rate y) = some (rate x)
          rw [Except.ok.injEq, Option.some.injEq, rate.injEq]
  | count n | flag b | kind k | errorTypes ts => exact iff_of_true trivial rfl

/-- A number of milliseconds of at most sixty-three bits, or a rate of few digits, or what is no
number of either kind. -/
def Modest : SettingValue → Prop
  | .millis n => n.toNat < signedReach
  | .rate x => Binary64.isBrief x = true
  | _ => True

/-- **Modest values return.** -/
theorem Modest.returns {v : SettingValue} (hmodest : v.Modest) : v.Returns := by
  cases v with
  | millis n => exact .inl hmodest
  | rate x => exact Binary64.reread_of_isBrief hmodest
  | count n | flag b | kind k | errorTypes ts => trivial

end SettingValue

/-! ## §2. The document. -/

/-- A part under its name, as it is written. -/
def Part.written (s : RetrySettings) : Part → String × Json
  | .field f => f.toJson s
  | .block name _ fields => (name, .object (fields.map (·.toJson s)))

/-- The document of settings as it is written, in the order of the table. -/
def RetrySettings.written (s : RetrySettings) : Json := .object (Layout.parts.map (·.written s))

/-! ## §3. Reading the document. -/

namespace Setting

/-- A rate is finite. -/
def Finite (s : RetrySettings) : Setting → Prop
  | .rate slot => (slot.get s).isFinite = true
  | _ => True

/-- **A value that comes back is read as what is written for it.** -/
theorem reread_toJson {s s' : RetrySettings} {setting : Setting}
    (hvalue : (setting.value s).reread? = some (setting.value s')) :
    (setting.toJson s).reread = .ok (setting.toJson s') := by
  cases setting with
  | rate slot =>
      obtain ⟨y, hread, heq⟩ := exists_of_map_toOption hvalue
      obtain rfl : slot.get s' = y := SettingValue.rate.inj heq
      show (if (slot.get s).isFinite then (Binary64.reread (slot.get s)).map Json.float else _) = _
      rw [if_pos (Binary64.isFinite_of_reread hread), hread]
      rfl
  | errorTypes slot =>
      have heq : slot.get s = slot.get s' := SettingValue.errorTypes.inj (Option.some.inj hvalue)
      unfold toJson Json.reread
      rw [heq, Json.rereadItems_map fun _ _ => rfl]
      rfl
  | count slot =>
      have heq : slot.get s = slot.get s' := SettingValue.count.inj (Option.some.inj hvalue)
      exact congrArg (fun n : Count => Except.ok (Json.integer n.toNat)) heq
  | millis slot =>
      have heq : slot.get s = slot.get s' := SettingValue.millis.inj (Option.some.inj hvalue)
      exact congrArg (fun n : UInt64 => Except.ok (Json.integer n.toNat)) heq
  | flag slot =>
      have heq : slot.get s = slot.get s' := SettingValue.flag.inj (Option.some.inj hvalue)
      exact congrArg (fun b => Except.ok (Json.bool b)) heq
  | kind slot =>
      have heq : slot.get s = slot.get s' := SettingValue.kind.inj (Option.some.inj hvalue)
      exact congrArg (fun k => Except.ok (Json.string (BackoffKind.vocabulary.wordOf k))) heq

/-- What is read for a setting is of its kind. -/
theorem takes_reread (s : RetrySettings) (setting : Setting) :
    setting.Takes ((setting.value s).reread?.getD (setting.value s)) := by
  cases setting with
  | rate slot =>
      show (Setting.rate slot).Takes (((Binary64.reread (slot.get s)).toOption.map _).getD _)
      cases Binary64.reread (slot.get s) <;> trivial
  | count slot | millis slot | flag slot | kind slot | errorTypes slot => trivial

/-- If what is written for a setting comes back, so does its value. -/
theorem isSome_reread {s : RetrySettings} {setting : Setting} (hfinite : setting.Finite s)
    {j : Json} (hread : (setting.toJson s).reread = .ok j) :
    (setting.value s).reread?.isSome = true := by
  cases setting with
  | rate slot =>
      change (if (slot.get s).isFinite then (Binary64.reread (slot.get s)).map Json.float else _)
        = _ at hread
      rw [if_pos (show (slot.get s).isFinite = true from hfinite)] at hread
      show ((Binary64.reread (slot.get s)).toOption.map SettingValue.rate).isSome = true
      cases hx : Binary64.reread (slot.get s) with
      | error fault =>
          rw [hx] at hread
          cases hread
      | ok y => rfl
  | count slot | millis slot | flag slot | kind slot | errorTypes slot => rfl

/-- What is written for a setting fits a document. -/
theorem fits_toJson (s : RetrySettings) (setting : Setting) {depth : Nat} (hdepth : 1 < depth) :
    (setting.toJson s).Fits depth := by
  have hnatural : ∀ n : Nat, n ≤ greatestWord → (Json.integer n).Fits depth := by
    intro n hn
    refine ⟨?_, Int.ofNat_le.mpr hn⟩
    unfold Json.leastInteger
    omega
  cases setting with
  | count slot =>
      exact hnatural _ (Nat.le_trans (Count.toNat_le_maxNat (slot.get s)) (by decide))
  | millis slot => exact hnatural _ (Nat.le_pred_of_lt (slot.get s).toNat_lt)
  | flag slot | rate slot | kind slot => trivial
  | errorTypes slot =>
      refine ⟨hdepth, Json.fitsItems_of_forall fun item hitem => ?_⟩
      obtain ⟨t, _, rfl⟩ := List.mem_map.mp hitem
      trivial

end Setting

/-- A part is written under its name. -/
theorem Part.written_eq (s : RetrySettings) (part : Part) :
    part.written s = (part.name, (part.written s).2) := by
  cases part <;> rfl

theorem Part.toJson_eq (s : RetrySettings) (part : Part) :
    part.toJson s = (part.name, (part.toJson s).2) := by
  cases part <;> rfl

section Document

variable {s s' : RetrySettings}

/-- A part whose values come back is read as the part of a document. -/
theorem Part.reread_written {part : Part}
    (hvalues : ∀ leaf ∈ part.leaves, (leaf.value s).reread? = some (leaf.value s')) :
    (part.written s).2.reread = .ok (part.toJson s').2 := by
  cases part with
  | field f => exact Setting.reread_toJson (hvalues _ (List.mem_singleton_self _))
  | block name typeName fields =>
      have hfields : ∀ f ∈ fields, (f.setting.toJson s).reread = .ok (f.setting.toJson s') :=
        fun f hf => Setting.reread_toJson (hvalues _ (List.mem_map_of_mem hf))
      have hmembers := @Json.rereadMembers_map _ Field.name _ _ _ hfields
      exact congrArg (Except.map Json.ofMembers) hmembers

/-- **Settings whose values come back are read as the document of what comes back.** -/
theorem RetrySettings.reread_written
    (hvalues : ∀ leaf ∈ Layout.leaves, (leaf.value s).reread? = some (leaf.value s')) :
    s.written.reread = .ok s'.toJson := by
  have hparts : ∀ part ∈ Layout.parts, (part.written s).2.reread = .ok (part.toJson s').2 :=
    fun part hpart => Part.reread_written fun leaf hleaf =>
      hvalues leaf (Layout.mem_leaves_of_mem_parts hpart hleaf)
  have hmembers := @Json.rereadMembers_map _ Part.name _ _ _ hparts
  simp only [← Part.written_eq, ← Part.toJson_eq] at hmembers
  exact congrArg (Except.map Json.ofMembers) hmembers

/-- **If a document of finite rates is read at all, every value comes back.** -/
theorem RetrySettings.isSome_of_reread_written
    (hfinite : ∀ leaf ∈ Layout.leaves, leaf.field.setting.Finite s) {j : Json}
    (hread : s.written.reread = .ok j) :
    ∀ leaf ∈ Layout.leaves, (leaf.value s).reread?.isSome = true := by
  intro leaf hleaf
  obtain ⟨part, hpart, hmem⟩ := List.mem_flatMap.mp hleaf
  obtain ⟨j', hpart_read⟩ := Json.exists_of_reread_object hread _ (List.mem_map_of_mem hpart)
  cases part with
  | field f =>
      cases List.mem_singleton.mp hmem
      exact Setting.isSome_reread (hfinite _ hleaf) hpart_read
  | block name typeName fields =>
      obtain ⟨f, hf, rfl⟩ := List.mem_map.mp hmem
      obtain ⟨j'', hfield⟩ := Json.exists_of_reread_object hpart_read _ (List.mem_map_of_mem hf)
      exact Setting.isSome_reread (hfinite _ hleaf) hfield

/-- What is written for settings fits a document. -/
theorem RetrySettings.fits_written (s : RetrySettings) : s.written.Fits Json.nestingLimit := by
  refine ⟨by decide, Json.fitsMembers_of_forall fun member hmember => ?_⟩
  obtain ⟨part, _, rfl⟩ := List.mem_map.mp hmember
  cases part with
  | field f => exact Setting.fits_toJson s f.setting (by decide)
  | block name typeName fields =>
      refine ⟨by decide, Json.fitsMembers_of_forall fun member hmember => ?_⟩
      obtain ⟨f, _, rfl⟩ := List.mem_map.mp hmember
      exact Setting.fits_toJson s f.setting (by decide)

end Document

/-- Settings that can be used have finite rates. -/
theorem RetrySettings.finite_of_valid {s : RetrySettings} (hvalid : s.validate = .ok ()) :
    ∀ leaf ∈ Layout.leaves, leaf.field.setting.Finite s := by
  have hordered := RateTerms.ordered_of_valid (validate_eq_ok_iff.mp hvalid).2.2.2
  have hall : Layout.leaves.Forall fun leaf => leaf.field.setting.Finite s := by
    refine ⟨trivial, trivial, trivial, trivial, trivial, trivial, trivial, trivial, trivial,
      trivial, hordered.minRate_finite, hordered.maxRate_finite, hordered.decreaseFactor_finite,
      hordered.increaseStep_finite, trivial⟩
  exact List.forall_iff_forall_mem.mp hall

/-! ## §4. The tree. -/

/-- What fits a number with a sign is kept. -/
theorem Setting.kept_of_fits {s : RetrySettings} {setting : Setting} (hfits : setting.Fits s) :
    (setting.value s).kept = setting.value s := by
  cases setting with
  | millis slot => exact congrArg SettingValue.millis (if_pos hfits)
  | count slot | flag slot | rate slot | kind slot | errorTypes slot => rfl

/-- **What a layered tree is taken to hold for a setting that was saved.** -/
theorem Setting.taken_toJson (s : RetrySettings) (setting : Setting) (origin : Option String) :
    setting.taken? (Node.ofJson origin (setting.toJson s)) = some (setting.value s).kept := by
  by_cases hfits : setting.Fits s
  · rw [Setting.taken_of_spelled (Setting.spelled_toJson hfits origin), kept_of_fits hfits]
  · cases setting with
    | millis slot =>
        have hlong : ¬((slot.get s).toNat : Int) < signedReach := fun h => hfits (Int.ofNat_lt.mp h)
        have hkept : keptMillis (slot.get s) = .ofNat
            (Binary64.toNatClamped (Float.ofInt (slot.get s).toNat) greatestWord) := if_neg hfits
        unfold toJson Node.ofJson
        rw [if_neg hlong]
        show some (SettingValue.millis _) = some (SettingValue.millis (keptMillis (slot.get s)))
        rw [hkept]
    | count slot | flag slot | rate slot | kind slot | errorTypes slot =>
        exact absurd trivial hfits

/-- **Saved settings are read from the tree as what it keeps of them.** -/
theorem RetrySettings.ofNode_saved (s : RetrySettings) (origin : Option String)
    {document : List (String × Node)}
    (hsaved : Node.ofJson origin s.toJson = .table origin document)
    {environment : List (String × String)}
    (hnone : ∀ given ∈ environment, Environment.key? given.1 = none) :
    ∃ settings, ofNode (layered document (Environment.source environment)) = .ok settings
      ∧ ∀ leaf ∈ Layout.leaves, leaf.value settings = (leaf.value s).kept := by
  obtain ⟨document', hsaved', hparts, hfind⟩ := s.saved_nodes origin
  obtain rfl : document' = document := (Node.table.inj (hsaved'.symm.trans hsaved)).2
  have hshaped : ShapedDocument document' := by
    intro entry hentry
    obtain ⟨part, hpart, rfl⟩ := hparts entry hentry
    exact ⟨part, hpart, rfl, Part.shaped_saved origin s hpart⟩
  have htree := layered_tree hshaped (known_of_no_variables hnone)
  have hat : ∀ leaf ∈ Layout.leaves,
      leaf.at? (layered document' (Environment.source environment))
        = some (Node.ofJson origin (leaf.field.setting.toJson s)) := by
    intro leaf hleaf
    rw [htree.at_eq leaf hleaf, leaf.text_of_no_variables hnone, hfind leaf hleaf]
    rfl
  have htaken : ∀ leaf ∈ Layout.leaves,
      leaf.takenAt? (layered document' (Environment.source environment))
        = some (leaf.value s).kept := by
    intro leaf hleaf
    unfold Leaf.takenAt?
    rw [hat leaf hleaf]
    exact Setting.taken_toJson s leaf.field.setting origin
  have hall : (layered document' (Environment.source environment)).Taken := by
    intro leaf hleaf node hnode
    rw [hat leaf hleaf] at hnode
    cases hnode
    rw [Setting.taken_toJson]
    rfl
  obtain ⟨settings, hread, hover⟩ := htree.sections.lays hall unset
  refine ⟨settings, hread, fun leaf hleaf => ?_⟩
  rw [hover leaf hleaf, htaken leaf hleaf]
  rfl

/-! ## §5. Files of saved settings. -/

/-- The name is that of a JSON file with the text of the settings, and no variable is for a
setting. -/
structure Surroundings.HoldsSaved (around : Surroundings) (name : FileName) (s : RetrySettings) :
    Prop where
  located : ∃ located, around.locate name = .ok located ∧ located.format = .json
    ∧ around.textAt? located.path = some (Json.write s.written)
  no_variables : ∀ given ∈ around.environment, Environment.key? given.1 = none

namespace Surroundings

variable {around : Surroundings} {name : FileName} {s s' : RetrySettings}

/-- A text that is not read gives nothing. -/
theorem source?_fault {text : String} {fault : Json.Fault} (hread : Json.read text = .error fault)
    (origin : String) : Format.json.source? origin text = none := by
  unfold Format.source?
  rw [hread]

/-- What a JSON file gives is what its text gives. -/
theorem source_of_located {located : Located} (hlocate : around.locate name = .ok located)
    (hformat : located.format = .json) {text : String}
    (htext : around.textAt? located.path = some text) :
    around.source name
      = (Format.json.source? located.origin text).elim (.error .fileMalformed) .ok := by
  unfold source
  simp only [hlocate, htext, hformat, bind, Except.bind, Option.bind]
  cases Format.json.source? located.origin text <;> rfl

/-- The file of settings whose values come back gives the document of what comes back. -/
theorem HoldsSaved.source_eq (hsaved : around.HoldsSaved name s)
    (hvalues : ∀ leaf ∈ Layout.leaves, (leaf.value s).reread? = some (leaf.value s')) :
    ∃ origin document, around.source name = .ok document
      ∧ Node.ofJson origin s'.toJson = .table origin document := by
  obtain ⟨located, hlocate, hformat, htext⟩ := hsaved.located
  have hread := (Json.read_written s.fits_written).trans (RetrySettings.reread_written hvalues)
  refine ⟨some located.origin, _, ?_, rfl⟩
  rw [source_of_located hlocate hformat htext, source?_json_iff.mpr ⟨_, hread, rfl⟩]
  rfl

/-- A file of settings that cannot be read is malformed. -/
theorem load_unread (hsaved : around.HoldsSaved name s) {fault : Json.Fault}
    (hread : s.written.reread = .error fault) :
    around.load (some name) = .error .fileMalformed := by
  obtain ⟨located, hlocate, hformat, htext⟩ := hsaved.located
  have hread' := (Json.read_written s.fits_written).trans hread
  have hsource : around.source name = .error .fileMalformed := by
    rw [source_of_located hlocate hformat htext, source?_fault hread']
    rfl
  unfold load
  show (around.source name >>= _) = _
  rw [hsource]
  rfl

/-- **Settings whose rates can be read come back value by value**, and are checked. -/
theorem load_saved (hsaved : around.HoldsSaved name s)
    (hreread : ∀ leaf ∈ Layout.leaves, (leaf.value s).reread?.isSome = true) :
    ∃ settings, around.load (some name) = settings.checked
      ∧ ∀ leaf ∈ Layout.leaves,
          (leaf.value s).reread?.map SettingValue.kept = some (leaf.value settings) := by
  obtain ⟨between, hbetween⟩ := RetrySettings.exists_of_values
    fun leaf _ => Setting.takes_reread s leaf.field.setting
  have hvalues : ∀ leaf ∈ Layout.leaves, (leaf.value s).reread? = some (leaf.value between) := by
    intro leaf hleaf
    obtain ⟨v, hv⟩ := Option.isSome_iff_exists.mp (hreread leaf hleaf)
    rw [hbetween leaf hleaf]
    show (leaf.value s).reread? = some ((leaf.value s).reread?.getD _)
    rw [hv]
    rfl
  obtain ⟨origin, document, hsource, hdocument⟩ := hsaved.source_eq hvalues
  obtain ⟨settings, hread, hkept⟩ :=
    between.ofNode_saved origin hdocument hsaved.no_variables
  refine ⟨settings, ?_, fun leaf hleaf => ?_⟩
  · rw [load_eq (show around.fileLayer (some name) = .ok document from hsource),
      RetrySettings.ofLayers_of_ofNode hread]
  · rw [hvalues leaf hleaf, hkept leaf hleaf]
    rfl

/-- What comes back unchanged returns value by value. -/
theorem returns_of_load (hsaved : around.HoldsSaved name s) (hvalid : s.validate = .ok ())
    (hload : around.load (some name) = .ok s) : ∀ leaf ∈ Layout.leaves, (leaf.value s).Returns := by
  cases hread : s.written.reread with
  | error fault =>
      rw [load_unread hsaved hread] at hload
      cases hload
  | ok j =>
      have hreread := RetrySettings.isSome_of_reread_written
        (RetrySettings.finite_of_valid hvalid) hread
      obtain ⟨settings, hloaded, hvalues⟩ := load_saved hsaved hreread
      rw [hloaded] at hload
      obtain ⟨_, rfl⟩ := RetrySettings.checked_eq_ok_iff.mp hload
      exact fun leaf hleaf => SettingValue.returns_iff.mpr (hvalues leaf hleaf)

/-- Settings that return value by value come back unchanged. -/
theorem load_of_returns (hsaved : around.HoldsSaved name s) (hvalid : s.validate = .ok ())
    (hreturns : ∀ leaf ∈ Layout.leaves, (leaf.value s).Returns) :
    around.load (some name) = .ok s := by
  have hback := fun leaf hleaf => SettingValue.returns_iff.mp (hreturns leaf hleaf)
  have hreread : ∀ leaf ∈ Layout.leaves, (leaf.value s).reread?.isSome = true :=
    fun leaf hleaf =>
      (Option.isSome_map ..).symm.trans (Option.isSome_of_eq_some (hback leaf hleaf))
  obtain ⟨settings, hloaded, hvalues⟩ := load_saved hsaved hreread
  have hsame : settings = s := RetrySettings.ext_leaves fun leaf hleaf =>
    Option.some.inj ((hvalues leaf hleaf).symm.trans (hback leaf hleaf))
  rw [hloaded, hsame]
  exact RetrySettings.checked_eq_ok_iff.mpr ⟨hvalid, rfl⟩

/-- **SAVED SETTINGS COME BACK.**  A file of settings that can be used is loaded as these very
settings exactly if every value returns: counters, truth values, words and lists always do, a number
of milliseconds if it has sixty-three bits or is a multiple of 2048 or the greatest one, and a rate
if it is what its shortest digits are read as.  Modest values are enough: no more milliseconds than
sixty-three bits hold, and rates of few digits. -/
theorem saved_settings_return (around : Surroundings) (name : FileName) (s : RetrySettings)
    (hsaved : around.HoldsSaved name s) (hvalid : s.validate = .ok ()) :
    (around.load (some name) = .ok s ↔ ∀ leaf ∈ Layout.leaves, (leaf.value s).Returns)
      ∧ ((∀ leaf ∈ Layout.leaves, (leaf.value s).Modest) → around.load (some name) = .ok s) := by
  refine ⟨⟨returns_of_load hsaved hvalid, load_of_returns hsaved hvalid⟩, fun hmodest => ?_⟩
  exact load_of_returns hsaved hvalid fun leaf hleaf => (hmodest leaf hleaf).returns

/-- A working directory with a file of the settings. -/
def holding (s : RetrySettings) : Surroundings :=
  { files := [(["retries.json"], Json.write s.written)]
    workingDirectory := "/work"
    userDirectory := [".config"] }

theorem home_holding (s : RetrySettings) : (holding s).home = ["", "work"] := by
  unfold home holding
  have hsteps : stepsOfPath "/work" = ["", "work"] := by decide +kernel
  simp only [hsteps]
  rfl

/-- The way to the file of the settings is clear. -/
theorem clearWay_holding (s : RetrySettings) :
    (holding s).ClearWay ((holding s).home ++ ["retries.json"]) := by
  have helsewhere : ∀ entry ∈ (["", "work"], Place.directory) :: (topPath, .directory)
        :: commonPlaces.map fun entry => (topPath ++ entry.1, entry.2),
      entry.1 <+: ["", "work", "retries.json"] → entry.2 = .directory := by decide +kernel
  intro entry hentry hprefix
  rcases List.mem_cons.mp hentry with rfl | hentry
  · exact .inl rfl
  · rw [home_holding] at hprefix hentry
    exact .inr (helsewhere entry hentry hprefix)

theorem holdsSaved_holding (s : RetrySettings) :
    (holding s).HoldsSaved (.absolute ["retries.json"]) s := by
  have hstands : (holding s).Stands (Json.write s.written) ((holding s).home ++ ["retries.json"]) :=
    .below rfl
  have hleads : FileName.LeadsTo (holding s) (.absolute ["retries.json"])
      ((holding s).home ++ ["retries.json"]) :=
    ⟨by decide, ⟨_, rfl, by decide⟩, rfl⟩
  have hformat : Format.ofName? (((holding s).home ++ ["retries.json"]).getLast?.getD "")
      = some .json := by
    rw [List.getLast?_concat]
    decide +kernel
  exact ⟨⟨_, locate_of_stands hleads hstands (clearWay_holding s) hformat, rfl,
    hstands.textAt_eq⟩, nofun⟩

/-- Every kind of value, with a list that repeats itself, delays beyond sixty-three bits, and rates
of one digit and of many; and the settings that are taken by default, whose values are modest. -/
theorem saved_settings_return_mixed :
    let s : RetrySettings :=
      { maxAttempts := 7
        backoff := { kind := .fixed, baseDelayMs := 250, maxDelayMs := 9223372036854777856 }
        budget := { retryCost := 2, repayDebitedOnSuccess := true }
        retryOn := [.throttling, .transient, .throttling]
        adaptive :=
          { minRate := 0.1, maxRate := 123456.789, decreaseFactor := 0.3, increaseStep := 1e-7,
            cooldownMs := 18446744073709551615 } }
    let plain : RetrySettings := {}
    s.validate = .ok () ∧ (holding s).load (some (.absolute ["retries.json"])) = .ok s
      ∧ plain.validate = .ok ()
      ∧ (holding plain).load (some (.absolute ["retries.json"])) = .ok plain := by
  intro s plain
  have hvalid : s.validate = .ok () := by decide +kernel
  have hplain : plain.validate = .ok () := by decide +kernel
  have hreturns : Layout.leaves.Forall fun leaf => (leaf.value s).Returns := by
    refine ⟨trivial, trivial, trivial, ?base, ?cap, trivial, trivial, trivial, trivial, trivial,
      ?minRate, ?maxRate, ?factor, ?step, ?cooldown⟩
    case base => exact .inl (by decide)
    case cap => exact .inr (.inl (by decide))
    case minRate => exact (rfl : Binary64.reread 0.1 = .ok 0.1)
    case maxRate => exact (rfl : Binary64.reread 123456.789 = .ok 123456.789)
    case factor => exact (rfl : Binary64.reread 0.3 = .ok 0.3)
    case step => exact (rfl : Binary64.reread 1e-7 = .ok 1e-7)
    case cooldown => exact .inr (.inr (by decide))
  have hmodest : Layout.leaves.Forall fun leaf => (leaf.value plain).Modest := by
    refine ⟨trivial, trivial, trivial, ?base, ?cap, trivial, trivial, trivial, trivial, trivial,
      ?minRate, ?maxRate, ?factor, ?step, ?cooldown⟩
    case base => exact (by decide : 1000 < signedReach)
    case cap => exact (by decide : 20000 < signedReach)
    case minRate => exact (rfl : Binary64.isBrief 0.5 = true)
    case maxRate => exact (rfl : Binary64.isBrief 100.0 = true)
    case factor => exact (rfl : Binary64.isBrief 0.5 = true)
    case step => exact (rfl : Binary64.isBrief 1.0 = true)
    case cooldown => exact (by decide : 1000 < signedReach)
  exact ⟨hvalid,
    (saved_settings_return (holding s) _ s (holdsSaved_holding s) hvalid).1.mpr
      (List.forall_iff_forall_mem.mp hreturns),
    hplain,
    (saved_settings_return (holding plain) _ plain (holdsSaved_holding plain) hplain).2
      (List.forall_iff_forall_mem.mp hmodest)⟩

/-- A delay of sixty-four bits does not come back, nor does a rate just below one. -/
theorem saved_settings_return_fails :
    let long : RetrySettings := { adaptive := { cooldownMs := 9223372036854775809 } }
    let close : RetrySettings := { adaptive := { decreaseFactor := 0.9999999999999999 } }
    (long.validate = .ok () ∧ (holding long).load (some (.absolute ["retries.json"])) ≠ .ok long)
      ∧ close.validate = .ok ()
      ∧ (holding close).load (some (.absolute ["retries.json"])) ≠ .ok close := by
  intro long close
  have hlong : long.validate = .ok () := by decide +kernel
  have hclose : close.validate = .ok () := by decide +kernel
  refine ⟨⟨hlong, fun hload => ?long⟩, hclose, fun hload => ?close⟩
  case long =>
    have hreturns := returns_of_load (holdsSaved_holding long) hlong hload
      Layout.leaves[14] (List.getElem_mem _)
    have hcooldown : 9223372036854775809 < signedReach ∨ 2048 ∣ 9223372036854775809
        ∨ 9223372036854775809 = greatestWord := hreturns
    exact absurd hcooldown (by decide)
  case close =>
    have hreturns := returns_of_load (holdsSaved_holding close) hclose hload
      Layout.leaves[12] (List.getElem_mem _)
    have hfactor : Binary64.reread 0.9999999999999999 = .ok 0.9999999999999999 := hreturns
    have hone : (Binary64.reread 0.9999999999999999).toOption.map Float.toBits
        = some (1 : Float).toBits := by decide +kernel
    rw [hfactor] at hone
    exact absurd hone (by decide +kernel)

end Surroundings

end RetryControl
