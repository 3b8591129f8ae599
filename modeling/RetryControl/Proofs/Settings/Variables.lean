/-
  RetryControl.Proofs.Settings.Variables
  ────────────────────────────────
  **VALUES AS VARIABLES SPELL THEM.**

  A variable holds a text, and what kind of value it spells is found out by
  trying one kind after another.  For the settings this makes no difference:
  no number is a truth value, and the words of the settings are neither.

    • `startsNumber` — how the written form of a number starts; no truth value
      starts so, and no word does,
    • `Setting.ofText?` — the value that a text spells for a setting,
    • `spelled_of_text` — the node that is made of the text spells the same.
-/
import Mathlib.Data.List.TakeDrop
import RetryControl.Proofs.Settings.Spelling

namespace RetryControl

/-! ## §1. Lower case. -/

namespace Text

/-- Lower case never makes a text shorter. -/
theorem length_le_lowerAfter (before s : List Char) : s.length ≤ (lowerAfter before s).length := by
  induction s generalizing before with
  | nil => exact Nat.zero_le _
  | cons c rest ih =>
      have hrest := ih (c :: before)
      unfold lowerAfter
      dsimp only
      rw [List.length_append, List.length_cons]
      split
      · show _ ≤ 2 + _
        omega
      · split
        · show _ ≤ 1 + _
          omega
        · show _ ≤ 1 + _
          omega

/-! ## §2. How numbers start. -/

/-- A character that the written form of a number can start with. -/
def startsNumber (c : Char) : Bool := c.toNat < 0x41 || ['i', 'I', 'n', 'N'].contains c

/-- In lower case a number still starts with none of the letters of truth values. -/
theorem lowerAfter_of_startsNumber {c : Char} (hstarts : startsNumber c = true)
    (before rest : List Char) :
    lowerAfter before (c :: rest) = lowerChar c :: lowerAfter (c :: before) rest
      ∧ lowerChar c ≠ 't' ∧ lowerChar c ≠ 'f' := by
  have hspecial : c ≠ '\u0130' ∧ c ≠ 'Σ' ∧ lowerChar c ≠ 't' ∧ lowerChar c ≠ 'f' := by
    unfold startsNumber at hstarts
    rw [Bool.or_eq_true, decide_eq_true_iff, List.contains_iff_mem] at hstarts
    rcases hstarts with hlow | hletter
    · rw [lowerChar_of_lt hlow]
      refine ⟨?_, ?_, ?_, ?_⟩ <;>
        · rintro rfl
          exact absurd hlow (by decide)
    · have hall : (['i', 'I', 'n', 'N'].all fun c =>
          c ≠ '\u0130' ∧ c ≠ 'Σ' ∧ lowerChar c ≠ 't' ∧ lowerChar c ≠ 'f') = true := by
        decide +kernel
      exact of_decide_eq_true (List.all_eq_true.mp hall c hletter)
  obtain ⟨hdotted, hsigma, hsmall⟩ := hspecial
  refine ⟨?_, hsmall⟩
  conv => lhs; unfold lowerAfter
  dsimp only
  rw [if_neg hdotted, if_neg hsigma]
  rfl

/-- A digit is below the letters. -/
theorem lt_of_digitValue_ten {c : Char} {d : Nat} (hdigit : digitValue? 10 c = some d) :
    c.toNat < 0x41 := by
  have hsmall := lt_of_digitValue? hdigit
  unfold digitValue? at hdigit
  obtain ⟨hvalue, _⟩ := Option.filter_eq_some_iff.mp hdigit
  split at hvalue
  · rename_i hrange
    have hle : c.toNat ≤ '9'.toNat := hrange.2
    exact Nat.lt_of_le_of_lt hle (by decide)
  · split at hvalue
    · cases hvalue
      omega
    · split at hvalue
      · cases hvalue
        omega
      · cases hvalue

/-- A number starts with one of its digits. -/
theorem startsNumber_of_natural {s : List Char} {n : Nat} (hnumber : natural? s = some n) :
    ∃ c rest, s = c :: rest ∧ startsNumber c = true := by
  cases s with
  | nil => cases hnumber
  | cons c rest =>
      refine ⟨c, rest, rfl, ?_⟩
      obtain ⟨m, hfirst, _⟩ := Option.bind_eq_some_iff.mp hnumber
      obtain ⟨d, hdigit, _⟩ := Option.map_eq_some_iff.mp hfirst
      unfold startsNumber
      rw [decide_eq_true (lt_of_digitValue_ten hdigit)]
      rfl

theorem startsNumber_of_integer {s : List Char} {n : Int} (hnumber : integer? s = some n) :
    ∃ c rest, s = c :: rest ∧ startsNumber c = true := by
  unfold integer? at hnumber
  split at hnumber
  · exact ⟨_, _, rfl, rfl⟩
  · exact ⟨_, _, rfl, rfl⟩
  · obtain ⟨m, hnatural, _⟩ := Option.map_eq_some_iff.mp hnumber
    obtain ⟨k, hdigits, _⟩ := Option.bind_eq_some_iff.mp hnatural
    exact startsNumber_of_natural hdigits

/-- The letters that the words for no finite number start with, in either case. -/
theorem startsNumber_of_toLower {c : Char} (hletter : c.toLower = 'i' ∨ c.toLower = 'n') :
    startsNumber c = true := by
  -- capital letters are few enough to be looked at one by one
  by_cases hupper : c.val ≥ 'A'.val ∧ c.val ≤ 'Z'.val
  · have hall : ∀ k < 0x5B, (Char.ofNat k).toLower = 'i' ∨ (Char.ofNat k).toLower = 'n' →
        startsNumber (Char.ofNat k) = true := by decide
    have hchar := hall c.toNat (Nat.lt_succ_of_le hupper.2)
    rw [Char.ofNat_toNat] at hchar
    exact hchar hletter
  · unfold Char.toLower at hletter
    rw [dif_neg hupper] at hletter
    rcases hletter with rfl | rfl <;> rfl

end Text

namespace Binary64

/-- A decimal starts with a digit or with its point. -/
theorem startsNumber_of_unsigned {s : List Char} {x : Float} (hnumber : readUnsigned? s = some x) :
    ∃ c rest, s = c :: rest ∧ Text.startsNumber c = true := by
  cases s with
  | nil => cases hnumber
  | cons c rest =>
      refine ⟨c, rest, rfl, ?_⟩
      by_contra hletter
      have hdigit : ¬c.isDigit = true := by
        intro hdigit
        unfold Char.isDigit at hdigit
        rw [Bool.and_eq_true, decide_eq_true_iff, decide_eq_true_iff] at hdigit
        have hlow : c.toNat < 0x41 := Nat.lt_of_le_of_lt hdigit.2 (by decide)
        unfold Text.startsNumber at hletter
        rw [decide_eq_true hlow] at hletter
        exact hletter rfl
      have hpoint : c ≠ '.' := by
        rintro rfl
        exact hletter rfl
      have hspan : spanDigits (c :: rest) = ([], c :: rest) := by
        unfold spanDigits
        rw [List.span_eq_takeWhile_dropWhile, List.takeWhile_cons_of_neg hdigit,
          List.dropWhile_cons_of_neg hdigit]
      unfold readUnsigned? at hnumber
      rw [hspan] at hnumber
      dsimp only at hnumber
      split at hnumber
      · rename_i heq
        cases heq
        exact hpoint rfl
      · cases hnumber

/-- What has no sign is looked at from its first character on. -/
theorem takeSign_of_ne {c : Char} (hsign : ¬(c = '-' ∨ c = '+')) (rest : List Char) :
    takeSign (c :: rest) = (false, c :: rest) := by
  unfold takeSign
  split
  · rename_i heq
    cases heq
    exact absurd (.inl rfl) hsign
  · rename_i heq
    cases heq
    exact absurd (.inr rfl) hsign
  · rfl

/-- **A text that spells a number starts as numbers do.** -/
theorem startsNumber_of_read {text : String} {x : Float} (hnumber : read? text = some x) :
    ∃ c rest, text.toList = c :: rest ∧ Text.startsNumber c = true := by
  cases htext : text.toList with
  | nil =>
      unfold read? at hnumber
      rw [htext] at hnumber
      cases hnumber
  | cons c rest =>
      refine ⟨c, rest, rfl, ?_⟩
      by_cases hsign : c = '-' ∨ c = '+'
      · rcases hsign with rfl | rfl <;> rfl
      · unfold read? at hnumber
        rw [htext, takeSign_of_ne hsign] at hnumber
        dsimp only at hnumber
        obtain ⟨magnitude, hmagnitude, _⟩ := Option.map_eq_some_iff.mp hnumber
        split at hmagnitude
        · rename_i hword
          refine Text.startsNumber_of_toLower (.inl ?_)
          rcases hword with hword | hword <;> exact (List.cons.inj hword).1
        · split at hmagnitude
          · rename_i hword
            exact Text.startsNumber_of_toLower (.inr (List.cons.inj hword).1)
          · obtain ⟨first, others, heq, hstarts⟩ := startsNumber_of_unsigned hmagnitude
            cases heq
            exact hstarts

end Binary64

namespace Environment

/-! ## §3. Truth values. -/

/-- Nothing that starts as numbers do is a truth value. -/
theorem bool_of_startsNumber {text : String} {c : Char} {rest : List Char}
    (htext : text.toList = c :: rest) (hstarts : Text.startsNumber c = true) :
    bool? text = none := by
  obtain ⟨hlower, htrue, hfalse⟩ := Text.lowerAfter_of_startsNumber hstarts [] rest
  have hfirst : ∀ first word, first ≠ Text.lowerChar c →
      Text.lowercase text ≠ String.ofList (first :: word) := by
    intro first word hne heq
    unfold Text.lowercase at heq
    rw [htext, hlower] at heq
    exact hne (List.cons.inj (String.ofList_injective heq)).1.symm
  unfold bool?
  dsimp only
  rw [if_neg (hfirst 't' ['r', 'u', 'e'] htrue.symm),
    if_neg (hfirst 'f' ['a', 'l', 's', 'e'] hfalse.symm)]

/-- No text of more than five characters is a truth value. -/
theorem bool_of_long {text : String} (hlong : 5 < text.toList.length) : bool? text = none := by
  have hlength : ∀ word : String, word.toList.length ≤ 5 → Text.lowercase text ≠ word := by
    rintro word hword rfl
    unfold Text.lowercase at hword
    rw [String.toList_ofList] at hword
    have := Text.length_le_lowerAfter [] text.toList
    omega
  unfold bool?
  dsimp only
  rw [if_neg (hlength "true" (by decide)), if_neg (hlength "false" (by decide))]

/-! ## §4. The first kind that fits. -/

theorem node_of_bool {key text : String} {b : Bool} (hbool : bool? text = some b) :
    node key text = .scalar origin (.bool b) := by
  unfold node
  rw [hbool]

/-- An integer is no truth value. -/
theorem node_of_integer {key text : String} {n : Int} (hinteger : integer? text = some n) :
    node key text = .scalar origin (.integer n) := by
  obtain ⟨hspelled, _⟩ := Option.filter_eq_some_iff.mp hinteger
  obtain ⟨c, rest, htext, hstarts⟩ := Text.startsNumber_of_integer hspelled
  unfold node
  rw [bool_of_startsNumber htext hstarts, hinteger]

/-- Neither is any other number. -/
theorem node_of_float {key text : String} {x : Float} (hinteger : integer? text = none)
    (hfloat : Binary64.read? text = some x) : node key text = .scalar origin (.float x) := by
  obtain ⟨c, rest, htext, hstarts⟩ := Binary64.startsNumber_of_read hfloat
  unfold node
  rw [bool_of_startsNumber htext hstarts, hinteger, hfloat]

/-- A text that is nothing else. -/
structure IsWord (text : String) : Prop where
  bool_eq : bool? text = none
  integer_eq : integer? text = none
  read_eq : Binary64.read? text = none

theorem IsWord.node_eq {text : String} (hword : IsWord text) (key : String) :
    node key text = if key = listKey then
        .list origin ((items text).map fun item => .scalar origin (.string item))
      else .scalar origin (.string text) := by
  unfold node
  rw [hword.bool_eq, hword.integer_eq, hword.read_eq]

/-- A text of more than five characters that does not start as numbers do. -/
theorem isWord_of_long {text : String} {c : Char} {rest : List Char}
    (htext : text.toList = c :: rest) (hlong : 5 < text.toList.length)
    (hstarts : Text.startsNumber c = false) : IsWord text := by
  have hother : ¬∃ c' rest', text.toList = c' :: rest' ∧ Text.startsNumber c' = true := by
    rintro ⟨c', rest', htext', hstarts'⟩
    rw [htext] at htext'
    cases htext'
    rw [hstarts] at hstarts'
    cases hstarts'
  constructor
  case bool_eq => exact bool_of_long hlong
  case integer_eq =>
    cases hinteger : integer? text with
    | none => rfl
    | some n =>
        exact absurd (Text.startsNumber_of_integer (Option.filter_eq_some_iff.mp hinteger).1) hother
  case read_eq =>
    cases hread : Binary64.read? text with
    | none => rfl
    | some x => exact absurd (Binary64.startsNumber_of_read hread) hother

/-- The kinds of delays are words. -/
theorem isWord_kind {word : String} {k : BackoffKind}
    (hfind : BackoffKind.vocabulary.find? word = some k) : IsWord word := by
  have hall : ∀ word ∈ BackoffKind.vocabulary.words.map Prod.fst, bool? word = none
      ∧ integer? word = none ∧ (Binary64.read? word).isNone = true := by decide +kernel
  obtain ⟨hbool, hinteger, hread⟩ := hall word (Vocabulary.mem_of_find hfind)
  exact ⟨hbool, hinteger, Option.isNone_iff_eq_none.mp hread⟩

/-- Error types with commas between them are no number and no truth value: the first of them shows
it. -/
theorem isWord_errorTypes {text : String} {ts : List ErrorType}
    (hitems : (items text).mapM ErrorType.vocabulary.find? = some ts) : IsWord text := by
  have hall : ∀ word ∈ ErrorType.vocabulary.words.map Prod.fst,
      5 < word.toList.length ∧ Text.startsNumber (word.toList.headD ' ') = false := by
    decide +kernel
  unfold items at hitems
  cases hpieces : text.toList.splitOn ',' with
  | nil => exact absurd hpieces (List.splitOn_ne_nil ',' text.toList)
  | cons piece others =>
      rw [hpieces, List.map_cons, List.mapM_cons] at hitems
      obtain ⟨t, hfind, _⟩ := Option.bind_eq_some_iff.mp hitems
      obtain ⟨hlong, hstarts⟩ := hall _ (Vocabulary.mem_of_find hfind)
      rw [String.toList_ofList] at hlong hstarts
      -- the whole text starts as its first item does
      have htext : ∃ more, text.toList = piece ++ more := by
        rw [← text.toList.intercalate_splitOn ',', hpieces]
        cases others with
        | nil => exact ⟨[], List.intercalate_singleton.trans (List.append_nil _).symm⟩
        | cons other rest => exact ⟨_, List.intercalate_cons_cons.trans (List.append_assoc ..)⟩
      obtain ⟨more, htext⟩ := htext
      cases piece with
      | nil => exact absurd hlong (by decide)
      | cons c rest =>
          refine isWord_of_long (c := c) htext ?_ hstarts
          rw [htext, List.length_append]
          omega

end Environment

/-! ## §5. Settings. -/

/-- The value that a text spells for a setting. -/
def Setting.ofText? (text : String) : Setting → Option SettingValue
  | .count _ => (Environment.integer? text).bind countOf?
  | .millis _ => (Environment.integer? text).bind millisOf?
  | .flag _ => (Environment.bool? text).map .flag
  | .rate _ =>
      match Environment.integer? text with
      | some n => some (.rate (Float.ofInt n))
      | none => (Binary64.read? text).map .rate
  | .kind _ => (BackoffKind.vocabulary.find? text).map .kind
  | .errorTypes _ =>
      ((Environment.items text).mapM ErrorType.vocabulary.find?).map .errorTypes

namespace Leaf

/-- The key of a setting: the names on the way to it with points between them. -/
def key (leaf : Leaf) : String := ".".intercalate leaf.path

/-- The setting is a list. -/
def isList (leaf : Leaf) : Bool :=
  match leaf.field.setting with
  | .errorTypes _ => true
  | _ => false

/-- The one key that lists are expected under is that of the one list. -/
theorem key_eq_listKey_iff :
    ∀ leaf ∈ Layout.leaves, leaf.key = Environment.listKey ↔ leaf.isList = true := by
  decide +kernel

/-- **What a text spells for a setting is what its node spells.** -/
theorem spelled_of_text {leaf : Leaf} (hleaf : leaf ∈ Layout.leaves) {text : String}
    {v : SettingValue} (htext : leaf.field.setting.ofText? text = some v) :
    leaf.field.setting.spelled? (Environment.node leaf.key text) = some v := by
  have hkey := key_eq_listKey_iff leaf hleaf
  unfold isList at hkey
  cases hsetting : leaf.field.setting with
  | count slot =>
      rw [hsetting] at htext
      obtain ⟨n, hinteger, hcount⟩ := Option.bind_eq_some_iff.mp htext
      rw [Environment.node_of_integer hinteger]
      exact hcount
  | millis slot =>
      rw [hsetting] at htext
      obtain ⟨n, hinteger, hmillis⟩ := Option.bind_eq_some_iff.mp htext
      rw [Environment.node_of_integer hinteger]
      exact hmillis
  | flag slot =>
      rw [hsetting] at htext
      obtain ⟨b, hbool, rfl⟩ := Option.map_eq_some_iff.mp htext
      rw [Environment.node_of_bool hbool]
      rfl
  | rate slot =>
      rw [hsetting] at htext
      unfold Setting.ofText? at htext
      dsimp only at htext
      split at htext
      · rename_i n hinteger
        rw [Environment.node_of_integer hinteger]
        exact htext
      · rename_i hinteger
        obtain ⟨x, hfloat, rfl⟩ := Option.map_eq_some_iff.mp htext
        rw [Environment.node_of_float hinteger hfloat]
        rfl
  | kind slot =>
      rw [hsetting] at htext hkey
      obtain ⟨k, hfind, rfl⟩ := Option.map_eq_some_iff.mp htext
      rw [(Environment.isWord_kind hfind).node_eq,
        if_neg fun h => Bool.false_ne_true (hkey.mp h)]
      exact congrArg (Option.map SettingValue.kind) hfind
  | errorTypes slot =>
      rw [hsetting] at htext hkey
      obtain ⟨ts, hitems, rfl⟩ := Option.map_eq_some_iff.mp htext
      rw [(Environment.isWord_errorTypes hitems).node_eq, if_pos (hkey.mpr rfl)]
      show Option.map _ (List.mapM _ (List.map _ _)) = _
      rw [List.mapM_map]
      exact congrArg (Option.map SettingValue.errorTypes) hitems

end Leaf

end RetryControl
