/-
  RetryControl.Proofs.Settings.Paths
  ────────────────────────────────
  **WHERE THE NAMES OF FILES LEAD.**

  A name that never steps back leads along the path that it spells, from the
  working directory or from the top of the system.  If a file stands at the end
  of that path and nothing but directories on the way, it is the file that is
  read; if nothing stands there, the name leads nowhere.

    • `Surroundings.Stands`, `ClearWay` — a file and the way to it,
    • `FileName.LeadsTo` — the path that a name spells,
    • `step_straight`, `walk_directories`, `walk_eq` — where steps lead,
    • `locate_of_stands` — the file to read for a name,
    • `find_of_nothing` — names of nothing.
-/
import RetryControl.Settings.Files
import Mathlib.Data.List.Infix

namespace RetryControl

/-! ## §1. What stands at a path. -/

/-- Entries whose paths are all moved below a directory are found below it. -/
theorem lookup_map_append {α β : Type} (base : List String) (f : α → β)
    (entries : List (List String × α)) (path : List String) :
    (entries.map fun (p, a) => (base ++ p, f a)).lookup (base ++ path)
      = (entries.lookup path).map f := by
  induction entries with
  | nil => rfl
  | cons entry rest ih =>
      obtain ⟨p, a⟩ := entry
      rw [List.map_cons, List.lookup_cons, List.lookup_cons, ih]
      by_cases hpath : path = p
      · subst hpath
        rw [beq_self_eq_true, beq_self_eq_true]
        rfl
      · rw [beq_eq_false_iff_ne.mpr hpath,
          beq_eq_false_iff_ne.mpr fun h => hpath (List.append_cancel_left h)]

theorem movingSteps_cons (name : String) (steps : List String) :
    movingSteps (name :: steps) = movingSteps [name] ++ movingSteps steps :=
  List.filter_append [name] steps

theorem movingSteps_concat {last : String} (hmoves : last ≠ "" ∧ last ≠ ".")
    (before : List String) : movingSteps (before ++ [last]) = movingSteps before ++ [last] := by
  unfold movingSteps
  rw [List.filter_append, List.filter_singleton, decide_eq_true hmoves]
  rfl

namespace Surroundings

variable {around : Surroundings} {path : List String} {text : String}

/-- A file of the text stands at the path: it is a file below the working directory, or is listed by
its whole path. -/
inductive Stands (around : Surroundings) (text : String) : List String → Prop where
  /-- A file below the working directory. -/
  | below {steps : List String} (hfile : around.files.lookup steps = some text) :
      Stands around text (around.home ++ steps)
  /-- A file anywhere. -/
  | listed {path : List String} (hfile : around.places.lookup path = some (.file text)) :
      Stands around text path

/-- Nothing but directories stands on the way to the path. -/
def ClearWay (around : Surroundings) (path : List String) : Prop :=
  ∀ entry ∈ around.places, entry.1 <+: path → entry.1 = path ∨ entry.2 = .directory

instance (around : Surroundings) (path : List String) : Decidable (around.ClearWay path) :=
  inferInstanceAs (Decidable (∀ entry ∈ around.places,
    entry.1 <+: path → entry.1 = path ∨ entry.2 = .directory))

theorem mem_places_of_lookup {place : Place} (hlookup : around.places.lookup path = some place) :
    (path, place) ∈ around.places := by
  obtain ⟨earlier, later, heq, _⟩ := List.lookup_eq_some_iff.mp hlookup
  rw [heq]
  exact List.mem_append_right _ List.mem_cons_self

theorem Stands.lookup_eq (hstands : around.Stands text path) :
    around.places.lookup path = some (.file text) := by
  cases hstands with
  | below hfile =>
      unfold places
      rw [List.lookup_append, lookup_map_append around.home Place.file, hfile]
      rfl
  | listed hfile => exact hfile

/-- **Nothing is at a path if nothing is listed there or below it.** -/
theorem at_eq_none_iff : around.at? path = none ↔ ∀ entry ∈ around.places, ¬path <+: entry.1 := by
  unfold at?
  rw [Option.or_eq_none_iff, ite_eq_right_iff, List.any_eq_true]
  constructor
  · rintro ⟨_, hnone⟩ entry hentry hprefix
    exact nomatch hnone ⟨entry, hentry, List.isPrefixOf_iff_prefix.mpr hprefix⟩
  · intro hnone
    refine ⟨List.lookup_eq_none_iff.mpr fun entry hentry => ?_, ?_⟩
    · exact bne_iff_ne.mpr fun h => hnone entry hentry (h ▸ List.prefix_rfl)
    · rintro ⟨entry, hentry, hprefix⟩
      exact absurd (List.isPrefixOf_iff_prefix.mp hprefix) (hnone entry hentry)

theorem Stands.at_eq (hstands : around.Stands text path) :
    around.at? path = some (.file text) := by
  unfold at?
  rw [hstands.lookup_eq]
  rfl

theorem Stands.textAt_eq (hstands : around.Stands text path) : around.textAt? path = some text := by
  unfold textAt?
  rw [hstands.at_eq]

/-- **On a clear way to a file there is a directory at every place before its end.** -/
theorem Stands.at_before (hstands : around.Stands text path) (hclear : around.ClearWay path)
    {before : List String} (hbefore : before <+: path) (hne : before ≠ path) :
    around.at? before = some .directory := by
  have hlisted := mem_places_of_lookup hstands.lookup_eq
  have hany : (around.places.any fun entry => before.isPrefixOf entry.1) = true :=
    List.any_eq_true.mpr ⟨_, hlisted, List.isPrefixOf_iff_prefix.mpr hbefore⟩
  unfold at?
  rw [if_pos hany]
  -- it is there for the sake of the file, whether it is listed itself or not
  cases hlookup : around.places.lookup before with
  | none => rfl
  | some place =>
      rcases hclear _ (mem_places_of_lookup hlookup) hbefore with hend | hdirectory
      · exact absurd hend hne
      · rw [show place = .directory from hdirectory]
        rfl

/-! ## §2. Steps. -/

/-- **A step that does not go back leads on by its name**, unless it stays, if something is there. -/
theorem step_straight {name : String} (hstraight : ".." ≠ name)
    (hdirectory : around.at? path = some .directory) :
    around.step? path name
      = if (around.at? (path ++ movingSteps [name])).isSome then some (path ++ movingSteps [name])
        else none := by
  unfold step?
  rw [if_neg (not_not_intro hdirectory)]
  by_cases hmoves : name ≠ "" ∧ name ≠ "."
  · have hmoving : movingSteps [name] = [name] := List.filter_cons_of_pos (decide_eq_true hmoves)
    rw [if_neg (not_or.mpr hmoves), hmoving]
    simp only [if_neg hstraight.symm]
  · have hstays : movingSteps [name] = [] := List.filter_cons_of_neg fun h =>
      hmoves (of_decide_eq_true h)
    rw [if_pos (by rwa [← not_or, not_not] at hmoves), hstays, List.append_nil, hdirectory]
    rfl

theorem walk_cons (start : List String) (name : String) (rest : List String) :
    around.walk? start (name :: rest)
      = (around.step? start name).bind fun next => around.walk? next rest := by
  unfold walk?
  rw [List.foldlM_cons]
  rfl

theorem walk_concat (start before : List String) (last : String) :
    around.walk? start (before ++ [last])
      = (around.walk? start before).bind fun reached => around.step? reached last := by
  unfold walk?
  rw [List.foldlM_append]
  cases before.foldlM around.step? start with
  | none => rfl
  | some reached => exact bind_pure (around.step? reached last)

/-- **Where steps that never go back lead to, if they do.** -/
theorem walk_eq {steps : List String} (hstraight : ".." ∉ steps) {reached : List String}
    (hwalk : around.walk? path steps = some reached) : reached = path ++ movingSteps steps := by
  induction steps generalizing path with
  | nil =>
      cases hwalk
      exact (List.append_nil _).symm
  | cons name rest ih =>
      obtain ⟨hname, hrest⟩ := List.ne_and_not_mem_of_not_mem_cons hstraight
      rw [walk_cons] at hwalk
      obtain ⟨next, hstep, hwalk⟩ := Option.bind_eq_some_iff.mp hwalk
      have hdirectory : around.at? path = some .directory := by
        by_contra hother
        unfold step? at hstep
        rw [if_pos hother] at hstep
        cases hstep
      rw [step_straight hname hdirectory] at hstep
      split at hstep
      · cases hstep
        rw [ih hrest hwalk, movingSteps_cons name rest, List.append_assoc]
      · cases hstep

/-- **Through directories steps that never go back lead on to the end.** -/
theorem walk_directories {steps : List String} (hstraight : ".." ∉ steps)
    (hdirectories : ∀ before, path <+: before → before <+: path ++ movingSteps steps →
      around.at? before = some .directory) :
    around.walk? path steps = some (path ++ movingSteps steps) := by
  induction steps generalizing path with
  | nil => exact congrArg some (List.append_nil path).symm
  | cons name rest ih =>
      obtain ⟨hname, hrest⟩ := List.ne_and_not_mem_of_not_mem_cons hstraight
      have hdirectory := hdirectories path List.prefix_rfl (List.prefix_append _ _)
      rw [movingSteps_cons, ← List.append_assoc] at hdirectories ⊢
      have hnext := hdirectories _ (List.prefix_append _ _) (List.prefix_append _ _)
      rw [walk_cons, step_straight hname hdirectory, hnext]
      exact ih hrest fun before hbefore =>
        hdirectories before ((List.prefix_append _ _).trans hbefore)

end Surroundings

/-! ## §3. Names that spell a path. -/

/-- The name spells the path: it never steps back, and ends with a step that leads on. -/
structure FileName.LeadsTo (around : Surroundings) (name : FileName) (path : List String) :
    Prop where
  straight : ".." ∉ name.steps
  ends : ∃ last, name.steps.getLast? = some last ∧ last ≠ "" ∧ last ≠ "."
  path_eq : name.start around ++ movingSteps name.steps = path

instance (around : Surroundings) (name : FileName) (path : List String) :
    Decidable (name.LeadsTo around path) :=
  decidable_of_iff
    (".." ∉ name.steps ∧ (∃ last ∈ name.steps.getLast?, last ≠ "" ∧ last ≠ ".")
      ∧ name.start around ++ movingSteps name.steps = path)
    ⟨fun ⟨hstraight, hends, hpath⟩ => ⟨hstraight, hends, hpath⟩,
      fun h => ⟨h.straight, h.ends, h.path_eq⟩⟩

namespace FileName.LeadsTo

variable {around : Surroundings} {name : FileName} {path : List String}

theorem name_ne (hleads : name.LeadsTo around path) : name ≠ .given "" := by
  rintro rfl
  obtain ⟨last, hlast, hne, _⟩ := hleads.ends
  exact hne (Option.some.inj hlast).symm

/-- The name leads up to the last directory, and on by one step. -/
theorem exists_last (hleads : name.LeadsTo around path) :
    ∃ before last, name.steps = before ++ [last] ∧ ".." ∉ before ∧ ".." ≠ last
      ∧ movingSteps [last] = [last]
      ∧ path = (name.start around ++ movingSteps before) ++ [last] := by
  obtain ⟨last, hlast, hmoves⟩ := hleads.ends
  obtain ⟨before, hsteps⟩ := List.getLast?_eq_some_iff.mp hlast
  have hstraight := hleads.straight
  rw [hsteps, List.mem_append, List.mem_singleton] at hstraight
  obtain ⟨hbefore, hback⟩ := not_or.mp hstraight
  refine ⟨before, last, hsteps, hbefore, hback, movingSteps_concat hmoves [], ?_⟩
  rw [← hleads.path_eq, hsteps, movingSteps_concat hmoves, List.append_assoc]

end FileName.LeadsTo

namespace Surroundings

variable {around : Surroundings} {name : FileName} {path : List String}

theorem find_of_leads (hleads : name.LeadsTo around path) :
    around.find? name = around.walk? (name.start around) name.steps :=
  if_neg hleads.name_ne

/-- **A name leads to the file at the end of a clear way.** -/
theorem find_of_stands (hleads : name.LeadsTo around path) {text : String}
    (hstands : around.Stands text path) (hclear : around.ClearWay path) :
    around.find? name = some path := by
  obtain ⟨before, last, hsteps, hstraight, hlast, hmoving, hpath⟩ := hleads.exists_last
  have hbefore : ∀ reached, reached <+: name.start around ++ movingSteps before →
      around.at? reached = some .directory := by
    intro reached hreached
    -- the path is one step longer
    have hshort := hreached.length_le
    refine hstands.at_before hclear (hreached.trans (hpath ▸ List.prefix_append _ _)) ?_
    rintro rfl
    rw [hpath, List.length_append] at hshort
    exact absurd hshort (Nat.not_succ_le_self _)
  rw [find_of_leads hleads, hsteps, walk_concat,
    walk_directories hstraight fun reached _ => hbefore reached]
  show around.step? _ last = _
  rw [step_straight hlast (hbefore _ List.prefix_rfl), hmoving, ← hpath, hstands.at_eq]
  rfl

/-- **A name leads nowhere if nothing stands at the path that it spells.** -/
theorem find_of_nothing (hleads : name.LeadsTo around path) (hnothing : around.at? path = none) :
    around.find? name = none := by
  obtain ⟨before, last, hsteps, hstraight, hlast, hmoving, hpath⟩ := hleads.exists_last
  rw [find_of_leads hleads, hsteps, walk_concat]
  cases hwalk : around.walk? (name.start around) before with
  | none => rfl
  | some reached =>
      -- the last step would lead to the path itself
      have hend : path = reached ++ [last] := by rw [hpath, walk_eq hstraight hwalk]
      show around.step? reached last = none
      by_cases hdirectory : around.at? reached = some .directory
      · rw [step_straight hlast hdirectory, hmoving, ← hend, hnothing]
        rfl
      · exact if_pos hdirectory

/-- **The file to read for a name is the one at the path that it spells.** -/
theorem locate_of_stands (hleads : name.LeadsTo around path) {text : String}
    (hstands : around.Stands text path) (hclear : around.ClearWay path) {format : Format}
    (hformat : Format.ofName? (path.getLast?.getD "") = some format) :
    around.locate name = .ok ⟨stepsFrom around.home path, path, format⟩ := by
  have hshown : around.shown name (movingSteps name.steps) = stepsFrom around.home path :=
    congrArg (stepsFrom around.home) hleads.path_eq
  unfold locate
  simp only [find_of_stands hleads hstands hclear, hstands.textAt_eq, hformat, hshown,
    Option.isSome_some, if_true]

end Surroundings

end RetryControl
