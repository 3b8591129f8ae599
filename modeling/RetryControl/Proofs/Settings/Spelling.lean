/-
  RetryControl.Proofs.Settings.Spelling
  ────────────────────────────────
  **VALUES AS DOCUMENTS SPELL THEM.**

  The readers of trees convert freely, and each in its own way.  A value that
  is spelled strictly, as what the setting holds, is one that they read alike.

    • `Setting.spelled?` — the value that a node spells for a setting,
    • `Setting.taken?`, `taken_of_spelled` — what the reader of layered trees
      takes a node for, which is what the node spells,
    • `Json.spelledAs_ofJson`, `Json.spelledAs_content` — the reader of JSON
      trees takes a JSON value for what its node spells, and the content of a
      node for what that spells.
-/
import Mathlib.Data.List.Forall2
import RetryControl.Proofs.Settings.Values
import RetryControl.Settings.Environment
import RetryControl.Settings.OfNode

namespace RetryControl

/-! ## §1. Strict readings. -/

namespace Setting

/-- A counter, from a number in its range. -/
def countOf? (n : Int) : Option SettingValue :=
  if 0 ≤ n ∧ n ≤ Count.maxNat then some (.count (.clamp n.toNat)) else none

/-- A number of milliseconds, from a number in its range that has 64 bits with its sign. -/
def millisOf? (n : Int) : Option SettingValue :=
  if 0 ≤ n ∧ n < signedReach then some (.millis (UInt64.ofNat n.toNat)) else none

/-- The value of a node that spells a word of a vocabulary. -/
def wordOf? {α : Type} (v : Vocabulary α) : Node → Option α
  | .scalar _ (.string word) => v.find? word
  | _ => none

/-- The value that a node spells for a setting. -/
def spelled? : Setting → Node → Option SettingValue
  | .count _, .scalar _ (.integer n) => countOf? n
  | .millis _, .scalar _ (.integer n) => millisOf? n
  | .flag _, .scalar _ (.bool b) => some (.flag b)
  | .rate _, .scalar _ (.integer n) => some (.rate (Float.ofInt n))
  | .rate _, .scalar _ (.float x) => some (.rate x)
  | .kind _, node => (wordOf? BackoffKind.vocabulary node).map .kind
  | .errorTypes _, .list _ items => (items.mapM (wordOf? ErrorType.vocabulary)).map .errorTypes
  | _, _ => none

theorem countOf_eq_some_iff {n : Int} {v : SettingValue} :
    countOf? n = some v ↔ (0 ≤ n ∧ n ≤ Count.maxNat) ∧ v = .count (.clamp n.toNat) := by
  unfold countOf?
  rw [Option.ite_none_right_eq_some, Option.some.injEq, @eq_comm _ v]

theorem millisOf_eq_some_iff {n : Int} {v : SettingValue} :
    millisOf? n = some v ↔ (0 ≤ n ∧ n < signedReach) ∧ v = .millis (UInt64.ofNat n.toNat) := by
  unfold millisOf?
  rw [Option.ite_none_right_eq_some, Option.some.injEq, @eq_comm _ v]

/-- Settings are not spelled by tables. -/
theorem spelled_table {setting : Setting} {origin : Option String}
    {members : List (String × Node)} : setting.spelled? (.table origin members) = none := by
  cases setting <;> rfl

end Setting

/-! ## §2. Words. -/

namespace Text

/-- A character that is in no run of capital letters stays as it is. -/
theorem lowerChar_of_apart {c : Char}
    (hapart : ∀ r ∈ capitalRuns, c.toNat < r.first ∨ r.last < c.toNat) : lowerChar c = c := by
  have hnone : capitalRuns.find? (·.holds c) = none := by
    refine List.find?_eq_none.mpr fun r hr hholds => ?_
    unfold CapitalRun.holds at hholds
    rw [Bool.and_eq_true, Bool.and_eq_true, decide_eq_true_iff, decide_eq_true_iff] at hholds
    have := hapart r hr
    omega
  unfold lowerChar
  rw [hnone]

/-- Below the capital letters there is nothing to change. -/
theorem lowerChar_of_lt {c : Char} (hlow : c.toNat < 0x41) : lowerChar c = c := by
  have hall : ∀ r ∈ capitalRuns, 0x41 ≤ r.first := by decide +kernel
  exact lowerChar_of_apart fun r hr => .inl (Nat.lt_of_lt_of_le hlow (hall r hr))

/-- A character between the capital letters without and those with accents, such as a small letter
without one. -/
def isPlain (c : Char) : Bool := 0x5B ≤ c.toNat && c.toNat < 0xC0

theorem lowerChar_of_plain {c : Char} (hplain : isPlain c = true) : lowerChar c = c := by
  have hall : ∀ r ∈ capitalRuns, r.last < 0x5B ∨ 0xC0 ≤ r.first := by decide +kernel
  unfold isPlain at hplain
  rw [Bool.and_eq_true, decide_eq_true_iff, decide_eq_true_iff] at hplain
  refine lowerChar_of_apart fun r hr => ?_
  have := hall r hr
  omega

/-- Texts of such characters are in lower case. -/
theorem lowerAfter_of_plain (before : List Char) {s : List Char} (hplain : s.all isPlain = true) :
    lowerAfter before s = s := by
  induction s generalizing before with
  | nil => rfl
  | cons c rest ih =>
      rw [List.all_cons, Bool.and_eq_true] at hplain
      have hspecial : c ≠ '\u0130' ∧ c ≠ 'Σ' := by
        refine ⟨?_, ?_⟩ <;>
          · rintro rfl
            exact absurd hplain.1 (by decide)
      unfold lowerAfter
      dsimp only
      rw [if_neg hspecial.1, if_neg hspecial.2, lowerChar_of_plain hplain.1, ih _ hplain.2]
      rfl

theorem lowercase_of_plain {text : String} (hplain : text.toList.all isPlain = true) :
    lowercase text = text := by
  unfold lowercase
  rw [lowerAfter_of_plain [] hplain, String.ofList_toList]

end Text

/-- Items that can be read one by one can be read as a list. -/
theorem mapM_ok {ι κ α ε : Type} {f : ι → Option α} {g : κ → Except ε α} {items : List ι}
    {others : List κ} {as : List α}
    (hread : List.Forall₂ (fun item other => ∀ a, f item = some a → g other = .ok a) items others)
    (hitems : items.mapM f = some as) : others.mapM g = .ok as := by
  induction hread generalizing as with
  | nil =>
      cases hitems
      rfl
  | cons hhead _ ih =>
      rw [List.mapM_cons] at hitems
      obtain ⟨a, ha, hrest⟩ := Option.bind_eq_some_iff.mp hitems
      obtain ⟨as', has, heq⟩ := Option.bind_eq_some_iff.mp hrest
      cases heq
      rw [List.mapM_cons, hhead a ha, ih has]
      rfl

namespace Vocabulary

variable {α : Type} {v : Vocabulary α}

/-- The words of a vocabulary are written in small letters. -/
def Small (v : Vocabulary α) : Prop := ∀ word ∈ v.words.map Prod.fst, Text.lowercase word = word

theorem mem_of_find {word : String} {a : α} (hfind : v.find? word = some a) :
    word ∈ v.words.map Prod.fst := by
  obtain ⟨before, after, hwords, _⟩ := List.lookup_eq_some_iff.mp hfind
  rw [hwords, List.map_append]
  exact List.mem_append_right _ List.mem_cons_self

/-- A node that spells a word is read as its value. -/
theorem toWord_of_spelled (hsmall : v.Small) {node : Node} {a : α}
    (hspelled : Setting.wordOf? v node = some a) : node.toWord v = .ok a := by
  unfold Setting.wordOf? at hspelled
  split at hspelled
  · rename_i word
    show Node.wordValue v word = _
    unfold Node.wordValue
    rw [hsmall word (mem_of_find hspelled), hspelled]
  · cases hspelled

/-- So is the word itself. -/
theorem read_of_find {word : String} {a : α} (hfind : v.find? word = some a) :
    v.read word = .ok a := by
  unfold read
  rw [hfind]

end Vocabulary

theorem BackoffKind.small : BackoffKind.vocabulary.Small := by
  have hall : ∀ word ∈ vocabulary.words.map Prod.fst, word.toList.all Text.isPlain = true := by
    decide
  exact fun word hword => Text.lowercase_of_plain (hall word hword)

theorem ErrorType.small : ErrorType.vocabulary.Small := by
  have hall : ∀ word ∈ vocabulary.words.map Prod.fst, word.toList.all Text.isPlain = true := by
    decide
  exact fun word hword => Text.lowercase_of_plain (hall word hword)

/-! ## §3. Reading layered trees. -/

namespace Setting

theorem toNatural_integer {n : Int} (hn : 0 ≤ n) (origin : Option String) :
    (Node.scalar origin (.integer n)).toNatural = .ok n.toNat := by
  unfold Node.toNatural
  exact if_pos hn

theorem toCount_integer {n : Int} (hn : 0 ≤ n ∧ n ≤ Count.maxNat) (origin : Option String) :
    (Node.scalar origin (.integer n)).toCount = .ok (.clamp n.toNat) := by
  unfold Node.toCount
  rw [toNatural_integer hn.1]
  exact if_pos (by omega)

/-- The value that the reader of layered trees takes a node for, if it can. -/
def taken? (node : Node) : Setting → Option SettingValue
  | .count _ => node.toCount.toOption.map .count
  | .millis _ => node.toMillis.toOption.map .millis
  | .flag _ => node.toFlag.toOption.map .flag
  | .rate _ => node.toRate.toOption.map .rate
  | .kind _ => (node.toWord BackoffKind.vocabulary).toOption.map .kind
  | .errorTypes _ => (node.toWords ErrorType.vocabulary).toOption.map .errorTypes

theorem exists_of_map_toOption {ε α : Type} {x : Except ε α} {f : α → SettingValue}
    {v : SettingValue} (hvalue : x.toOption.map f = some v) : ∃ a, x = .ok a ∧ v = f a := by
  cases x with
  | error e => cases hvalue
  | ok a =>
      cases hvalue
      exact ⟨a, rfl, rfl⟩

/-- What a node is taken for is of the kind of the setting. -/
theorem takes_of_taken {setting : Setting} {node : Node} {v : SettingValue}
    (htaken : setting.taken? node = some v) : setting.Takes v := by
  cases setting with
  | count slot | millis slot | flag slot | rate slot | kind slot | errorTypes slot =>
      obtain ⟨a, _, rfl⟩ := exists_of_map_toOption htaken
      trivial

/-- **What a node is taken for is what the setting is given.** -/
theorem ofNode_of_taken {setting : Setting} {node : Node} {v : SettingValue}
    (htaken : setting.taken? node = some v) (s : RetrySettings) :
    setting.ofNode node s = .ok (setting.give v s) := by
  unfold ofNode
  cases setting with
  | count slot | millis slot | flag slot | rate slot | kind slot | errorTypes slot =>
      obtain ⟨a, hread, rfl⟩ := exists_of_map_toOption htaken
      dsimp only
      rw [hread]
      rfl

/-- **A node is taken for what it spells.** -/
theorem taken_of_spelled {setting : Setting} {node : Node} {v : SettingValue}
    (hspelled : setting.spelled? node = some v) : setting.taken? node = some v := by
  -- one case for each way of spelling, in the order of the definition
  unfold spelled? at hspelled
  split at hspelled
  · obtain ⟨hfits, rfl⟩ := countOf_eq_some_iff.mp hspelled
    unfold taken?
    rw [toCount_integer hfits]
    rfl
  · obtain ⟨hfits, rfl⟩ := millisOf_eq_some_iff.mp hspelled
    unfold taken? Node.toMillis
    rw [toNatural_integer hfits.1]
    rfl
  · cases hspelled
    rfl
  · cases hspelled
    rfl
  · cases hspelled
    rfl
  · obtain ⟨k, hword, rfl⟩ := Option.map_eq_some_iff.mp hspelled
    unfold taken?
    rw [Vocabulary.toWord_of_spelled BackoffKind.small hword]
    rfl
  · rename_i items
    obtain ⟨ts, hitems, rfl⟩ := Option.map_eq_some_iff.mp hspelled
    unfold taken? Node.toWords
    dsimp only
    have hread : List.Forall₂ (fun node other => ∀ t, wordOf? ErrorType.vocabulary node = some t →
        Node.toWord ErrorType.vocabulary other = .ok t) items items :=
      List.forall₂_same.mpr fun _ _ _ => Vocabulary.toWord_of_spelled ErrorType.small
    rw [mapM_ok hread hitems]
    rfl
  · cases hspelled

/-- What is spelled for a setting is of its kind. -/
theorem takes_of_spelled {setting : Setting} {node : Node} {v : SettingValue}
    (hspelled : setting.spelled? node = some v) : setting.Takes v :=
  takes_of_taken (taken_of_spelled hspelled)

end Setting

/-! ## §4. Reading JSON trees. -/

namespace Node

mutual

/-- The content of a node as a JSON value; the source is left out. -/
def content : Node → Json
  | .scalar _ .nil => .null
  | .scalar _ (.bool b) => .bool b
  | .scalar _ (.integer n) => .integer n
  | .scalar _ (.float x) => .float x
  | .scalar _ (.string s) => .string s
  | .list _ items => .array (contentItems items)
  | .table _ members => .object (contentMembers members)

/-- The contents of the items of a list. -/
def contentItems : List Node → List Json
  | [] => []
  | item :: items => item.content :: contentItems items

/-- The contents of named values. -/
def contentMembers : List (String × Node) → List (String × Json)
  | [] => []
  | (name, node) :: members => (name, node.content) :: contentMembers members

end

end Node

namespace Json

/-- The JSON value is read as the word that the node spells. -/
def WordAs (j : Json) (node : Node) : Prop :=
  ∀ {α : Type} (v : Vocabulary α) (a : α), Setting.wordOf? v node = some a → j.toWord v = .ok a

/-- The JSON value is read, for any setting, as the value that the node spells. -/
def SpelledAs (j : Json) (node : Node) : Prop :=
  ∀ (setting : Setting) (v : SettingValue) (s : RetrySettings),
    setting.spelled? node = some v → setting.ofJson j s = .ok (setting.give v s)

variable {origin : Option String}

theorem wordAs_string (word : String) : WordAs (.string word) (.scalar origin (.string word)) :=
  fun _ _ hfind => Vocabulary.read_of_find hfind

theorem spelledAs_string (word : String) :
    SpelledAs (.string word) (.scalar origin (.string word)) := by
  intro setting v s hspelled
  cases setting with
  | kind slot =>
      obtain ⟨k, hword, rfl⟩ := Option.map_eq_some_iff.mp hspelled
      unfold Setting.ofJson
      dsimp only
      rw [wordAs_string word _ k hword]
      rfl
  | count slot | millis slot | flag slot | rate slot | errorTypes slot => cases hspelled

theorem spelledAs_bool (b : Bool) : SpelledAs (.bool b) (.scalar origin (.bool b)) := by
  intro setting v s hspelled
  cases setting with
  | flag slot =>
      cases hspelled
      rfl
  | count slot | millis slot | rate slot | kind slot | errorTypes slot => cases hspelled

theorem spelledAs_float (x : Float) : SpelledAs (.float x) (.scalar origin (.float x)) := by
  intro setting v s hspelled
  cases setting with
  | rate slot =>
      cases hspelled
      rfl
  | count slot | millis slot | flag slot | kind slot | errorTypes slot => cases hspelled

theorem spelledAs_integer (n : Int) : SpelledAs (.integer n) (.scalar origin (.integer n)) := by
  intro setting v s hspelled
  cases setting with
  | count slot =>
      obtain ⟨hfits, rfl⟩ := Setting.countOf_eq_some_iff.mp hspelled
      unfold Setting.ofJson toCount toNatUpTo
      dsimp only
      rw [if_pos hfits]
      rfl
  | millis slot =>
      obtain ⟨hfits, rfl⟩ := Setting.millisOf_eq_some_iff.mp hspelled
      unfold Setting.ofJson toMillis toNatUpTo
      dsimp only
      -- the reader takes all numbers of 64 bits without a sign, and these have 63
      rw [if_pos (by
        unfold greatestWord wordCount
        unfold signedReach at hfits
        omega)]
      rfl
  | rate slot =>
      cases hspelled
      rfl
  | flag slot | kind slot | errorTypes slot => cases hspelled

/-- A number beyond 64 bits with its sign has become the nearest one that is no integer. -/
theorem spelledAs_largeInteger (n : Int) :
    SpelledAs (.integer n) (.scalar origin (.float (Float.ofInt n))) := by
  intro setting v s hspelled
  cases setting with
  | rate slot =>
      cases hspelled
      rfl
  | count slot | millis slot | flag slot | kind slot | errorTypes slot => cases hspelled

theorem spelledAs_null : SpelledAs .null (.scalar origin .nil) := by
  intro setting v s hspelled
  cases setting <;> cases hspelled

theorem spelledAs_table (j : Json) (members : List (String × Node)) :
    SpelledAs j (.table origin members) := by
  intro setting v s hspelled
  rw [Setting.spelled_table] at hspelled
  cases hspelled

/-- A list is read as its items are. -/
theorem spelledAs_array {js : List Json} {items : List Node}
    (hitems : List.Forall₂ (fun node (j : Json) => j.WordAs node) items js) :
    SpelledAs (.array js) (.list origin items) := by
  intro setting v s hspelled
  cases setting with
  | errorTypes slot =>
      obtain ⟨ts, hwords, rfl⟩ := Option.map_eq_some_iff.mp hspelled
      have hread := hitems.imp fun node j h t => h ErrorType.vocabulary t
      unfold Setting.ofJson toWords
      dsimp only
      rw [mapM_ok hread hwords]
      rfl
  | count slot | millis slot | flag slot | rate slot | kind slot => cases hspelled

/-- The content of a node is read as the node. -/
theorem wordAs_content (node : Node) : WordAs node.content node := by
  intro α v a hword
  unfold Setting.wordOf? at hword
  split at hword
  · exact Vocabulary.read_of_find hword
  · cases hword

/-- **The content of a node is read as what the node spells.** -/
theorem spelledAs_content (node : Node) : SpelledAs node.content node := by
  cases node with
  | scalar origin value =>
      cases value with
      | nil => exact spelledAs_null
      | bool b => exact spelledAs_bool b
      | integer n => exact spelledAs_integer n
      | float x => exact spelledAs_float x
      | string word => exact spelledAs_string word
  | list origin items =>
      refine spelledAs_array ?_
      induction items with
      | nil => exact .nil
      | cons item rest ih => exact .cons (wordAs_content item) ih
  | table origin members => exact spelledAs_table _ members

/-- A JSON value is read as the word that its node spells. -/
theorem wordAs_ofJson (origin : Option String) (j : Json) : WordAs j (Node.ofJson origin j) := by
  intro α v a hword
  cases j with
  | string word => exact Vocabulary.read_of_find hword
  | integer n =>
      unfold Node.ofJson at hword
      split at hword <;> cases hword
  | null | bool b | float x | array items | object members => cases hword

/-- **A JSON value is read as what its node spells.** -/
theorem spelledAs_ofJson (origin : Option String) (j : Json) :
    SpelledAs j (Node.ofJson origin j) := by
  cases j with
  | null => exact spelledAs_null
  | bool b => exact spelledAs_bool b
  | integer n =>
      unfold Node.ofJson
      split
      · exact spelledAs_integer n
      · exact spelledAs_largeInteger n
  | float x => exact spelledAs_float x
  | string word => exact spelledAs_string word
  | array items =>
      refine spelledAs_array ?_
      induction items with
      | nil => exact .nil
      | cons item rest ih => exact .cons (wordAs_ofJson origin item) ih
  | object members => exact spelledAs_table _ _

end Json

end RetryControl
