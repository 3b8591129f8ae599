/-
  RetryControl.Proofs.Json.Rereading
  ────────────────────────────────
  **WRITTEN DOCUMENTS AS THEY ARE READ AGAIN.**

  A document that is written and read again is the same document but for two
  things.  A number that is no integer comes back as what its shortest digits
  are read as, and one that is not finite as the empty value.  And the members
  of an object come back in order of their names, the last one of a name.

    • `Binary64.reread`, `Json.reread` — what comes back, as far as anything
      does: digits can be read as a number beyond all others, which is a fault,
    • `scanStringBody_written` — strings come back as they are,
    • `Json.Fits` — integers of 64 bits, and lists and objects not too deep,
    • `scanValue_written`, `read_written` — reading gives what comes back.
-/
import RetryControl.Proofs.Binary64.Naturals
import RetryControl.Proofs.Json.Numbers

namespace RetryControl

/-! ## §1. Numbers. -/

namespace Binary64

/-- What a finite number is read as when it was written with its shortest digits. -/
def reread (x : Float) : Except Json.Fault Float :=
  match parts x with
  | .finite negative mantissa exponent =>
      (shortest .toEven mantissa exponent).significand.toFloat negative
  | _ => .error .malformed

/-- Only finite numbers are read again. -/
theorem isFinite_of_reread {x y : Float} (hread : reread x = .ok y) : x.isFinite = true := by
  unfold reread at hread
  rw [parts_eq] at hread
  show x.toModel.unpack.isFinite = true
  revert hread
  cases x.toModel.unpack with
  | infinity s | notANumber => nofun
  | zero s | finite s m e hm => exact fun _ => rfl

/-- A written decimal starts with a digit. -/
theorem Decimal.exists_body (d : Decimal) : ∃ c rest, d.body = c :: rest ∧ c.isDigit = true := by
  have hdigits := isDigit_toDigits (n := d.digits)
  have hne := Nat.toDigits_ne_nil (n := d.digits) (b := 10)
  unfold body
  generalize Nat.toDigits 10 d.digits = digits at *
  cases digits with
  | nil => exact absurd rfl hne
  | cons c more =>
      have hfirst := hdigits c List.mem_cons_self
      split
      · unfold positional
        split
        · exact ⟨_, _, rfl, rfl⟩
        · rename_i hplace
          dsimp only
          split
          · exact ⟨c, _, rfl, hfirst⟩
          · obtain ⟨whole, hwhole⟩ : ∃ whole, d.place.toNat = whole + 1 :=
              ⟨d.place.toNat - 1, by omega⟩
            rw [hwhole]
            exact ⟨c, _, rfl, hfirst⟩
      · unfold scientific
        cases more <;> exact ⟨c, _, rfl, hfirst⟩

end Binary64

namespace Json

open Binary64

/-- What a number is written as in a document. -/
theorem toList_text {x : Float} {negative : Bool} {m : Nat} {e : Int}
    (hparts : parts x = .finite negative m e) :
    (text .document x).toList
      = (if negative then ['-'] else []) ++ (shortest .toEven m e).body := by
  unfold text
  rw [hparts]
  exact String.toList_ofList

/-! ## §2. Strings. -/

/-- A control character is written in four digits of a number that stands for no half of a pair. -/
theorem scanNumberedEscape_control {c : Char} (hcontrol : c.toNat < 0x20) (rest : List Char) :
    scanNumberedEscape (fourHexDigits c.toNat ++ rest) = .ok (c, rest) := by
  have hall : ∀ n < 0x20, (fourHexDigits n).foldl (fun n c => n + c.utf8Size) 0 = 4
      ∧ Text.number? 16 (fourHexDigits n) = some n := by decide
  obtain ⟨hsize, hnumber⟩ := hall _ hcontrol
  have hhex : scanHex (fourHexDigits c.toNat ++ rest) = .ok (c.toNat, rest) := by
    have htake : (fourHexDigits c.toNat ++ rest).take 4 = fourHexDigits c.toNat := rfl
    unfold scanHex
    rw [htake, hsize, hnumber]
    rfl
  unfold scanNumberedEscape
  rw [hhex]
  show (if 0xDC00 ≤ c.toNat ∧ c.toNat ≤ 0xDFFF then _
    else if c.toNat < 0xD800 ∨ 0xDBFF < c.toNat then Except.ok (Char.ofNat c.toNat, rest)
    else _) = _
  rw [if_neg (by omega), if_pos (by omega), Char.ofNat_toNat]

/-- A written character is read as that character. -/
theorem scanStringBody_writeChar (c : Char) (fuel : Nat) (rest : List Char) :
    scanStringBody (fuel + 1) (writeChar c ++ rest)
      = (scanStringBody fuel rest).map fun r => (c :: r.1, r.2) := by
  have hmap : ∀ x : Except Fault (List Char × List Char),
      (x >>= fun r => .ok (c :: r.1, r.2)) = x.map fun r => (c :: r.1, r.2) := by
    intro x
    cases x <;> rfl
  rw [← hmap]
  unfold writeChar
  split
  · rename_i hquote
    subst hquote
    rfl
  split
  · rename_i hbackslash
    subst hbackslash
    rfl
  split
  · rename_i hline
    subst hline
    rfl
  split
  · rename_i hreturn
    subst hreturn
    rfl
  split
  · rename_i htab
    subst htab
    rfl
  split
  · rename_i hcontrol
    show (scanNumberedEscape (fourHexDigits c.toNat ++ rest) >>= _) = _
    rw [scanNumberedEscape_control hcontrol]
    rfl
  · rename_i hquote hbackslash _ _ _ hcontrol
    show scanStringBody (fuel + 1) (c :: rest) = _
    conv => lhs; unfold scanStringBody
    rw [if_neg hquote, if_neg hbackslash, if_neg hcontrol]

/-- **A written string is read as that string.** -/
theorem scanStringBody_written {s : List Char} {fuel : Nat} (hfuel : s.length < fuel)
    (rest : List Char) :
    scanStringBody fuel (s.flatMap writeChar ++ '"' :: rest) = .ok (s, rest) := by
  induction s generalizing fuel with
  | nil =>
      cases fuel with
      | zero => exact absurd hfuel (Nat.not_lt_zero _)
      | succ fuel => rfl
  | cons c s ih =>
      cases fuel with
      | zero => exact absurd hfuel (Nat.not_lt_zero _)
      | succ fuel =>
          rw [List.flatMap_cons, List.append_assoc, scanStringBody_writeChar,
            ih (Nat.lt_of_succ_lt_succ hfuel)]
          rfl

theorem length_le_writeChars (s : List Char) : s.length ≤ (s.flatMap writeChar).length := by
  induction s with
  | nil => exact Nat.le_refl 0
  | cons c s ih =>
      have hpos : 0 < (writeChar c).length := by
        unfold writeChar
        repeat' split
        all_goals exact Nat.succ_pos _
      rw [List.flatMap_cons, List.length_append, List.length_cons]
      omega

theorem scanString_written (s : String) (rest : List Char) :
    scanString (s.toList.flatMap writeChar ++ '"' :: rest) = .ok (s, rest) := by
  have hlength := length_le_writeChars s.toList
  unfold scanString
  rw [scanStringBody_written (by rw [List.length_append, List.length_cons]; omega)]
  show Except.ok (String.ofList s.toList, rest) = _
  rw [String.ofList_toList]

/-! ## §3. How values start. -/

/-- A character that a written value starts with. -/
def startsValue (c : Char) : Bool := c.isDigit || ['n', 't', 'f', '"', '-', '[', '{'].contains c

theorem not_isBlank_of_starts {c : Char} (hstarts : startsValue c = true) : ¬isBlank c = true := by
  intro hblank
  unfold isBlank at hblank
  rcases of_decide_eq_true hblank with rfl | rfl | rfl | rfl <;> cases hstarts

/-- There are no blanks in front of a value. -/
theorem skipBlank_of_starts {c : Char} (hstarts : startsValue c = true) (rest : List Char) :
    skipBlank (c :: rest) = c :: rest :=
  List.dropWhile_cons_of_neg (not_isBlank_of_starts hstarts)

theorem exists_write (j : Json) :
    ∃ c rest, (write j).toList = c :: rest ∧ startsValue c = true := by
  have hdigit : ∀ {c : Char}, c.isDigit = true → startsValue c = true := by
    intro c hc
    unfold startsValue
    rw [hc]
    rfl
  cases j with
  | null => exact ⟨'n', _, rfl, rfl⟩
  | bool b => cases b <;> exact ⟨_, _, rfl, rfl⟩
  | integer n =>
      show ∃ c rest, (toString n).toList = _ ∧ _
      rw [Int.toString_eq_repr, Int.repr_eq_if]
      split
      · rw [Nat.toList_repr]
        have hdigits := isDigit_toDigits (n := n.toNat)
        have hne := Nat.toDigits_ne_nil (n := n.toNat) (b := 10)
        generalize Nat.toDigits 10 n.toNat = digits at *
        cases digits with
        | nil => exact absurd rfl hne
        | cons c more => exact ⟨c, more, rfl, hdigit (hdigits c List.mem_cons_self)⟩
      · exact ⟨'-', _, by rw [String.toList_append]; rfl, rfl⟩
  | float x =>
      show ∃ c rest, (if x.isFinite then text .document x else "null").toList = _ ∧ _
      split
      · rename_i hfinite
        obtain ⟨negative, m, e, hparts, _⟩ := exists_parts hfinite
        rw [toList_text hparts]
        cases negative with
        | true => exact ⟨'-', _, rfl, rfl⟩
        | false =>
            obtain ⟨c, more, hbody, hc⟩ := (shortest .toEven m e).exists_body
            exact ⟨c, more, hbody, hdigit hc⟩
      · exact ⟨'n', _, rfl, rfl⟩
  | string s => exact ⟨'"', _, String.toList_ofList, rfl⟩
  | array items =>
      refine ⟨'[', (writeItems items ++ "]").toList, ?_, rfl⟩
      show ("[" ++ writeItems items ++ "]").toList = _
      simp
  | object members =>
      refine ⟨'{', (writeMembers members ++ "\x7d").toList, ?_, rfl⟩
      show ("\x7b" ++ writeMembers members ++ "\x7d").toList = _
      simp

/-- A value that starts with a digit is a number. -/
theorem scanValue_digit {c : Char} (hdigit : c.isDigit = true) (fuel depth : Nat)
    (rest : List Char) :
    scanValue (fuel + 1) depth (c :: rest) = scanNumber false (c :: rest) := by
  have hstarts : startsValue c = true := by
    unfold startsValue
    rw [hdigit]
    rfl
  unfold scanValue
  rw [skipBlank_of_starts hstarts]
  split
  case h_9 heq =>
    cases heq
    exact if_pos hdigit
  -- what other values start with is no digit
  all_goals
    rename_i heq
    cases heq <;> cases hdigit

/-! ## §4. What comes back. -/

mutual

/-- What a value is read as when it was written. -/
def reread : Json → Except Fault Json
  | .null => .ok .null
  | .bool b => .ok (.bool b)
  | .integer n => .ok (.integer n)
  | .float x => if x.isFinite then (Binary64.reread x).map .float else .ok .null
  | .string s => .ok (.string s)
  | .array items => (rereadItems items).map .array
  | .object members => (rereadMembers members).map ofMembers

/-- What the items of a list are read as. -/
def rereadItems : List Json → Except Fault (List Json)
  | [] => .ok []
  | item :: items => do
    let item ← reread item
    let items ← rereadItems items
    .ok (item :: items)

/-- What the members of an object are read as, in the order in which they are written. -/
def rereadMembers : List (String × Json) → Except Fault (List (String × Json))
  | [] => .ok []
  | (name, value) :: members => do
    let value ← reread value
    let members ← rereadMembers members
    .ok ((name, value) :: members)

end

/-- Items that come back one by one. -/
theorem rereadItems_map {ι : Type} {value value' : ι → Json} {items : List ι}
    (hitems : ∀ i ∈ items, reread (value i) = .ok (value' i)) :
    rereadItems (items.map value) = .ok (items.map value') := by
  induction items with
  | nil => rfl
  | cons i rest ih =>
      obtain ⟨hfirst, hrest⟩ := List.forall_mem_cons.mp hitems
      show (reread (value i) >>= fun _ => rereadItems _ >>= _) = _
      rw [hfirst, ih hrest]
      rfl

/-- Members whose values come back. -/
theorem rereadMembers_map {ι : Type} {name : ι → String} {value value' : ι → Json} {items : List ι}
    (hitems : ∀ i ∈ items, reread (value i) = .ok (value' i)) :
    rereadMembers (items.map fun i => (name i, value i))
      = .ok (items.map fun i => (name i, value' i)) := by
  induction items with
  | nil => rfl
  | cons i rest ih =>
      obtain ⟨hfirst, hrest⟩ := List.forall_mem_cons.mp hitems
      show (reread (value i) >>= fun _ => rereadMembers _ >>= _) = _
      rw [hfirst, ih hrest]
      rfl

/-- If members come back, so does each of their values. -/
theorem exists_of_rereadMembers {members results : List (String × Json)}
    (hmembers : rereadMembers members = .ok results) :
    ∀ member ∈ members, ∃ j, reread member.2 = .ok j := by
  induction members generalizing results with
  | nil => nofun
  | cons member rest ih =>
      obtain ⟨name, value⟩ := member
      change (reread value >>= fun _ => rereadMembers rest >>= _) = _ at hmembers
      cases hvalue : reread value with
      | error fault =>
          rw [hvalue] at hmembers
          cases hmembers
      | ok j =>
          cases hrest : rereadMembers rest with
          | error fault =>
              rw [hvalue, hrest] at hmembers
              cases hmembers
          | ok others => exact List.forall_mem_cons.mpr ⟨⟨j, hvalue⟩, ih hrest⟩

theorem exists_of_reread_object {members : List (String × Json)} {j : Json}
    (hobject : reread (.object members) = .ok j) :
    ∀ member ∈ members, ∃ j, reread member.2 = .ok j := by
  unfold reread at hobject
  cases hmembers : rereadMembers members with
  | error fault =>
      rw [hmembers] at hobject
      cases hobject
  | ok results => exact exists_of_rereadMembers hmembers

mutual

/-- The value has integers of 64 bits only, and lists and objects nest less than `depth` deep. -/
def Fits : Nat → Json → Prop
  | _, .integer n => leastInteger ≤ n ∧ n ≤ greatestInteger
  | depth, .array items => 1 < depth ∧ FitsItems (depth - 1) items
  | depth, .object members => 1 < depth ∧ FitsMembers (depth - 1) members
  | _, _ => True

/-- All items fit. -/
def FitsItems : Nat → List Json → Prop
  | _, [] => True
  | depth, item :: items => Fits depth item ∧ FitsItems depth items

/-- All values of members fit. -/
def FitsMembers : Nat → List (String × Json) → Prop
  | _, [] => True
  | depth, member :: members => Fits depth member.2 ∧ FitsMembers depth members

end

theorem fitsItems_of_forall {depth : Nat} {items : List Json}
    (hitems : ∀ item ∈ items, item.Fits depth) : FitsItems depth items := by
  induction items with
  | nil => trivial
  | cons item rest ih =>
      obtain ⟨hfirst, hrest⟩ := List.forall_mem_cons.mp hitems
      exact ⟨hfirst, ih hrest⟩

theorem fitsMembers_of_forall {depth : Nat} {members : List (String × Json)}
    (hmembers : ∀ member ∈ members, member.2.Fits depth) : FitsMembers depth members := by
  induction members with
  | nil => trivial
  | cons member rest ih =>
      obtain ⟨hfirst, hrest⟩ := List.forall_mem_cons.mp hmembers
      exact ⟨hfirst, ih hrest⟩

/-! ## §5. Reading what was written. -/

/-- A word is read to its end. -/
theorem scanWord_append (word rest : List Char) : scanWord word (word ++ rest) = .ok rest := by
  induction word with
  | nil => rfl
  | cons c word ih =>
      show (if c = c then scanWord word (word ++ rest) else _) = _
      rw [if_pos rfl, ih]

/-- Integers of 64 bits are read as they are. -/
theorem scanValue_integer {n : Int} (hfits : leastInteger ≤ n ∧ n ≤ greatestInteger)
    (fuel depth : Nat) {rest : List Char} (hends : Ends rest) :
    scanValue (fuel + 1) depth ((write (.integer n)).toList ++ rest) = .ok (.integer n, rest) := by
  obtain ⟨hleast, hgreatest⟩ := hfits
  unfold leastInteger at hleast
  unfold greatestInteger greatestWord at hgreatest
  have hpos : 0 < wordCount := by decide
  show scanValue (fuel + 1) depth ((toString n).toList ++ rest) = _
  rw [Int.toString_eq_repr, Int.repr_eq_if]
  split
  · rename_i hsign
    have hscan := scanNumber_natural (n := n.toNat) (by omega) hends
    rw [Nat.toList_repr]
    have hdigits := isDigit_toDigits (n := n.toNat)
    have hne := Nat.toDigits_ne_nil (n := n.toNat) (b := 10)
    generalize Nat.toDigits 10 n.toNat = digits at *
    cases digits with
    | nil => exact absurd rfl hne
    | cons c more =>
        rw [List.cons_append] at hscan ⊢
        rw [scanValue_digit (hdigits c List.mem_cons_self), hscan, Int.toNat_of_nonneg hsign]
  · rename_i hsign
    have hscan := scanNumber_negative (n := (-n).toNat) (by omega) (by omega) hends
    rw [String.toList_append, Nat.toList_repr]
    show scanNumber true (Nat.toDigits 10 (-n).toNat ++ rest) = _
    rw [hscan, Int.toNat_of_nonneg (by omega), Int.neg_neg]

/-- Other numbers are read as what comes back of them. -/
theorem scanValue_float (x : Float) (fuel depth : Nat) {rest : List Char} (hends : Ends rest) :
    scanValue (fuel + 1) depth ((write (.float x)).toList ++ rest)
      = (reread (.float x)).map fun j => (j, rest) := by
  unfold reread
  show scanValue _ _ ((if x.isFinite then text .document x else "null").toList ++ rest) = _
  split
  · rename_i hfinite
    obtain ⟨negative, m, e, hparts, _⟩ := exists_parts hfinite
    have hscan := scanNumber_body negative (digits_shortest_le .toEven m e) hends
    have hmap : ∀ f : Except Fault Float, (f.map Json.float).map (fun j => (j, rest))
        = f.map fun f => (Json.float f, rest) := by
      intro f
      cases f <;> rfl
    unfold Binary64.reread
    rw [toList_text hparts, hparts, hmap, ← hscan]
    cases negative with
    | true => rfl
    | false =>
        obtain ⟨c, more, hbody, hc⟩ := (shortest .toEven m e).exists_body
        show scanValue _ _ ((shortest .toEven m e).body ++ rest) = _
        rw [hbody]
        exact scanValue_digit hc fuel depth _
  · exact congrArg (Except.map fun s => (Json.null, s)) (scanWord_append ['u', 'l', 'l'] rest)

/-- Strings are read as they are. -/
theorem scanValue_string (s : String) (fuel depth : Nat) (rest : List Char) :
    scanValue (fuel + 1) depth ((write (.string s)).toList ++ rest) = .ok (.string s, rest) := by
  show scanValue _ _ ((String.ofList ('"' :: s.toList.flatMap writeChar ++ ['"'])).toList ++ rest)
    = _
  rw [String.toList_ofList, List.append_assoc]
  exact congrArg (Except.map fun r => (Json.string r.1, r.2)) (scanString_written s rest)

/-- Written, the value is read as what comes back of it, whatever follows. -/
def ReadsBack (j : Json) : Prop :=
  ∀ (fuel depth : Nat) (rest : List Char), j.Fits depth → Ends rest →
    2 * (write j).toList.length ≤ fuel →
      scanValue fuel depth ((write j).toList ++ rest) = (reread j).map fun j => (j, rest)

theorem ends_comma (rest : List Char) : Ends (',' :: rest) :=
  fun _ hc => .inl (by simpa using hc.symm)

theorem ends_bracket (rest : List Char) : Ends (']' :: rest) :=
  fun _ hc => .inr (.inl (by simpa using hc.symm))

theorem ends_brace (rest : List Char) : Ends ('}' :: rest) :=
  fun _ hc => .inr (.inr (by simpa using hc.symm))

theorem toList_writeItems_cons (item next : Json) (items : List Json) :
    (writeItems (item :: next :: items)).toList
      = (write item).toList ++ ',' :: (writeItems (next :: items)).toList := by
  show (write item ++ "," ++ writeItems (next :: items)).toList = _
  simp

/-- **Items of a list are read one after another.** -/
theorem scanItems_written {items : List Json} (hitems : ∀ item ∈ items, item.ReadsBack)
    (hne : items ≠ []) {fuel depth : Nat} (hfits : FitsItems depth items)
    (hfuel : 2 * (writeItems items).toList.length < fuel) (rest : List Char) :
    scanItems fuel depth ((writeItems items).toList ++ ']' :: rest)
      = (rereadItems items).map fun items => (items, rest) := by
  induction items generalizing fuel with
  | nil => exact absurd rfl hne
  | cons item items ih =>
      obtain ⟨fuel, rfl⟩ : ∃ fuel', fuel = fuel' + 1 := ⟨fuel - 1, by omega⟩
      obtain ⟨hitem, hothers⟩ := List.forall_mem_cons.mp hitems
      unfold rereadItems
      cases items with
      | nil =>
          have hlength : 2 * (write item).toList.length < fuel + 1 := hfuel
          have hscan := hitem fuel depth _ hfits.1 (ends_bracket rest) (by omega)
          show (scanValue fuel depth ((write item).toList ++ ']' :: rest) >>= _) = _
          rw [hscan]
          cases reread item <;> rfl
      | cons next items =>
          rw [toList_writeItems_cons, List.length_append, List.length_cons] at hfuel
          have hscan := fun rest => hitem fuel depth _ hfits.1 (ends_comma rest) (by omega)
          have hrest := @ih hothers (List.cons_ne_nil _ _) fuel hfits.2 (by omega)
          rw [toList_writeItems_cons, List.append_assoc]
          show (scanValue fuel depth ((write item).toList ++ ',' :: _) >>= _) = _
          rw [hscan]
          cases reread item with
          | error fault => rfl
          | ok item =>
              show (scanItems fuel depth (_ ++ ']' :: rest) >>= _)
                = Except.map _ (rereadItems (next :: items) >>= _)
              rw [hrest]
              cases rereadItems (next :: items) <;> rfl

theorem toList_writeMembers_cons (name : String) (value : Json) (next : String × Json)
    (members : List (String × Json)) :
    (writeMembers ((name, value) :: next :: members)).toList
      = (writeMembers [(name, value)]).toList
        ++ ',' :: (writeMembers (next :: members)).toList := by
  show (writeString name ++ ":" ++ write value ++ "," ++ writeMembers (next :: members)).toList
    = (writeString name ++ ":" ++ write value).toList ++ _
  simp

/-- A member is written as its name, a colon and its value. -/
theorem toList_writeMember (name : String) (value : Json) :
    (writeMembers [(name, value)]).toList
      = '"' :: (name.toList.flatMap writeChar ++ '"' :: ':' :: (write value).toList) := by
  show (writeString name ++ ":" ++ write value).toList = _
  simp [writeString]

/-- The name of a member is read as it is, and then comes its value. -/
theorem scanMembers_writeMember (name : String) (value : Json) (fuel depth : Nat)
    (rest : List Char) :
    scanMembers (fuel + 1) depth ((writeMembers [(name, value)]).toList ++ rest)
      = scanValue fuel depth ((write value).toList ++ rest) >>= fun r =>
          match skipBlank r.2 with
          | ',' :: s => (scanMembers fuel depth s).map fun r' => ((name, r.1) :: r'.1, r'.2)
          | '}' :: s => .ok ([(name, r.1)], s)
          | s => .error (.atFront s) := by
  rw [toList_writeMember, List.cons_append, List.append_assoc]
  show (scanString (name.toList.flatMap writeChar ++ '"' :: _) >>= _) = _
  rw [scanString_written]
  rfl

/-- **Members of an object are read one after another.** -/
theorem scanMembers_written {members : List (String × Json)}
    (hmembers : ∀ member ∈ members, member.2.ReadsBack) (hne : members ≠ []) {fuel depth : Nat}
    (hfits : FitsMembers depth members)
    (hfuel : 2 * (writeMembers members).toList.length < fuel) (rest : List Char) :
    scanMembers fuel depth ((writeMembers members).toList ++ '}' :: rest)
      = (rereadMembers members).map fun members => (members, rest) := by
  induction members generalizing fuel with
  | nil => exact absurd rfl hne
  | cons member members ih =>
      obtain ⟨name, value⟩ := member
      obtain ⟨fuel, rfl⟩ : ∃ fuel', fuel = fuel' + 1 := ⟨fuel - 1, by omega⟩
      obtain ⟨hvalue, hothers⟩ := List.forall_mem_cons.mp hmembers
      change value.ReadsBack at hvalue
      have hlength : (write value).toList.length
          < (writeMembers [(name, value)]).toList.length := by
        rw [toList_writeMember]
        simp only [List.length_cons, List.length_append]
        omega
      unfold rereadMembers
      cases members with
      | nil =>
          have hscan := hvalue fuel depth _ hfits.1 (ends_brace rest) (by omega)
          rw [scanMembers_writeMember, hscan]
          cases reread value <;> rfl
      | cons next members =>
          rw [toList_writeMembers_cons, List.length_append, List.length_cons] at hfuel
          have hscan := fun rest => hvalue fuel depth _ hfits.1 (ends_comma rest) (by omega)
          have hrest := @ih hothers (List.cons_ne_nil _ _) fuel hfits.2 (by omega)
          rw [toList_writeMembers_cons, List.append_assoc, scanMembers_writeMember]
          show (scanValue fuel depth ((write value).toList ++ ',' :: _) >>= _) = _
          rw [hscan]
          cases reread value with
          | error fault => rfl
          | ok value =>
              show Except.map _ (scanMembers fuel depth (_ ++ '}' :: rest))
                = Except.map _ (rereadMembers (next :: members) >>= _)
              rw [hrest]
              cases rereadMembers (next :: members) <;> rfl

/-- There is always fuel for a first piece. -/
theorem exists_fuel {j : Json} {fuel : Nat} (hfuel : 2 * (write j).toList.length ≤ fuel) :
    ∃ fuel', fuel = fuel' + 1 := by
  obtain ⟨c, more, hstart, _⟩ := exists_write j
  rw [hstart, List.length_cons] at hfuel
  exact ⟨fuel - 1, by omega⟩

/-- A value that is read at once. -/
theorem readsBack_of {j : Json}
    (hscan : ∀ (fuel depth : Nat) (rest : List Char), j.Fits depth → Ends rest →
      scanValue (fuel + 1) depth ((write j).toList ++ rest)
        = (reread j).map fun j => (j, rest)) : j.ReadsBack := by
  intro fuel depth rest hfits hends hfuel
  obtain ⟨fuel, rfl⟩ := exists_fuel hfuel
  exact hscan fuel depth rest hfits hends

/-- A list is read as its items are. -/
theorem readsBack_array {items : List Json} (hitems : ∀ item ∈ items, item.ReadsBack) :
    (array items).ReadsBack := by
  intro fuel depth rest hfits _ hfuel
  obtain ⟨fuel, rfl⟩ := exists_fuel hfuel
  have htext : (write (.array items)).toList = '[' :: ((writeItems items).toList ++ [']']) := by
    show ("[" ++ writeItems items ++ "]").toList = _
    simp
  rw [htext, List.length_cons, List.length_append, List.length_singleton] at hfuel
  rw [htext, List.cons_append, List.append_assoc]
  show (if depth ≤ 1 then _ else _) = _
  rw [if_neg (Nat.not_le.mpr hfits.1)]
  cases items with
  | nil => rfl
  | cons item items =>
      have hscan := @scanItems_written _ hitems (List.cons_ne_nil _ _) fuel _ hfits.2 (by omega)
      obtain ⟨c, more, hstart, hc⟩ : ∃ c more,
          (writeItems (item :: items)).toList = c :: more ∧ startsValue c = true := by
        obtain ⟨c, more, hstart, hc⟩ := exists_write item
        cases items with
        | nil => exact ⟨c, more, hstart, hc⟩
        | cons next items =>
            rw [toList_writeItems_cons, hstart]
            exact ⟨c, _, rfl, hc⟩
      have hscan := hscan rest
      rw [hstart, List.cons_append] at hscan
      rw [hstart, List.cons_append, List.singleton_append, skipBlank_of_starts hc]
      split
      · rename_i heq
        cases heq
        cases hc
      · rw [hscan]
        show _ = ((rereadItems (item :: items)).map Json.array).map _
        cases rereadItems (item :: items) <;> rfl

/-- An object is read as its members are. -/
theorem readsBack_object {members : List (String × Json)}
    (hmembers : ∀ member ∈ members, member.2.ReadsBack) : (object members).ReadsBack := by
  intro fuel depth rest hfits _ hfuel
  obtain ⟨fuel, rfl⟩ := exists_fuel hfuel
  have htext : (write (.object members)).toList
      = '{' :: ((writeMembers members).toList ++ ['}']) := by
    show ("\x7b" ++ writeMembers members ++ "\x7d").toList = _
    simp
  rw [htext, List.length_cons, List.length_append, List.length_singleton] at hfuel
  rw [htext, List.cons_append, List.append_assoc]
  show (if depth ≤ 1 then _ else _) = _
  rw [if_neg (Nat.not_le.mpr hfits.1)]
  cases members with
  | nil => rfl
  | cons member members =>
      have hscan := @scanMembers_written _ hmembers (List.cons_ne_nil _ _) fuel _ hfits.2 (by omega)
        rest
      obtain ⟨more, hstart⟩ : ∃ more,
          (writeMembers (member :: members)).toList = '"' :: more := by
        cases members with
        | nil => exact ⟨_, toList_writeMember _ _⟩
        | cons next members =>
            rw [toList_writeMembers_cons, toList_writeMember]
            exact ⟨_, rfl⟩
      rw [hstart, List.cons_append] at hscan
      rw [hstart, List.cons_append, List.singleton_append, skipBlank_of_starts rfl]
      show Except.map _ (scanMembers fuel (depth - 1) ('"' :: (more ++ '}' :: rest))) = _
      rw [hscan]
      show _ = ((rereadMembers (member :: members)).map ofMembers).map _
      cases rereadMembers (member :: members) <;> rfl

/-- **A written value is read as what comes back of it.** -/
theorem scanValue_written : ∀ j : Json, j.ReadsBack
  | .null => readsBack_of fun _ _ rest _ _ =>
      congrArg (Except.map fun s => (Json.null, s)) (scanWord_append ['u', 'l', 'l'] rest)
  | .bool true => readsBack_of fun _ _ rest _ _ =>
      congrArg (Except.map fun s => (Json.bool true, s)) (scanWord_append ['r', 'u', 'e'] rest)
  | .bool false => readsBack_of fun _ _ rest _ _ =>
      congrArg (Except.map fun s => (Json.bool false, s))
        (scanWord_append ['a', 'l', 's', 'e'] rest)
  | .integer _ => readsBack_of fun fuel depth _ hfits hends =>
      scanValue_integer hfits fuel depth hends
  | .float x => readsBack_of fun fuel depth _ _ hends => scanValue_float x fuel depth hends
  | .string s => readsBack_of fun fuel depth rest _ _ => scanValue_string s fuel depth rest
  | .array items => readsBack_array fun item _ => scanValue_written item
  | .object members => readsBack_object fun (_, value) hmember =>
      have hsmaller : sizeOf value < 1 + sizeOf members := by
        have hsize := List.sizeOf_lt_of_mem hmember
        simp only [Prod.mk.sizeOf_spec] at hsize
        omega
      scanValue_written value

/-- **A document that is written is read as what comes back of it.** -/
theorem read_written {j : Json} (hfits : j.Fits nestingLimit) : read (write j) = reread j := by
  have hscan := scanValue_written j (2 * (write j).toList.length + 2) nestingLimit [] hfits nofun
    (Nat.le_add_right _ 2)
  rw [List.append_nil] at hscan
  unfold read
  dsimp only
  rw [hscan]
  cases reread j <;> rfl

end Json

end RetryControl
