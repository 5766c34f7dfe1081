/-
The grammar of the index text.

Which texts spell an index, which index they spell, and what is reported of the
others, said of the lines of the text and of the marks in them.

* `Significant`, `Spells`, `WellFormed`: the trimmed lines that say something, the
  assignment that a line spells, and the lines whose value is of its type too.
* `Reports`: the fault that is reported of a line that is not well formed.
* `checkLine`, `parse_eq`: a text is read by checking its significant lines in
  order and inserting what they spell.
* `mapM_checkLine_eq_error_iff`: the first line among all of a text that is not well
  formed, by its number.
* `Assignment.Renderable`, `spells_spelling`, `parse_spellings`: the assignments that
  can be written on a line, and texts of such lines.
* `Grammatical`, `grammatical_parse`: the grammar, for all texts, and the way back
  from assignments to their text.
-/
import Activation.Index.Text
import Activation.Proofs.Index.Views

namespace Activation

variable {line : List Char} {number : Nat} {a b : Assignment} {fault : IndexFault}

/-! ### Lines -/

/-- A trimmed line that says something: it is not empty and opens no comment. -/
def Significant (line : List Char) : Prop :=
  line ≠ [] ∧ line.head? ≠ some '#' ∧ line.head? ≠ some '!'

instance : DecidablePred Significant := fun line =>
  inferInstanceAs (Decidable (line ≠ [] ∧ line.head? ≠ some '#' ∧ line.head? ≠ some '!'))

/-- A trimmed line spells an assignment: in front of its first `=` stands the key, trimmed, the last `.`
of which parts the id from the name, and behind it the value. -/
def Spells (line : List Char) (a : Assignment) : Prop :=
  ∃ key value, line = key ++ '=' :: value ∧ '=' ∉ key ∧
    Text.trim key = a.id.toList ++ '.' :: a.name.toList ∧ '.' ∉ a.name.toList ∧
    a.id ≠ "" ∧ a.name ≠ "" ∧ Text.trim value = a.value.toList

/-- A trimmed line is well formed: it spells an assignment whose value is of the type that its attribute
calls for. -/
def WellFormed (line : List Char) : Prop :=
  ∃ a, Spells line a ∧ a.WellTyped

/-- What is reported of a trimmed line that is not well formed: its number, when it spells no assignment,
and otherwise its key. -/
inductive Reports (number : Nat) (line : List Char) : IndexFault → Prop
  | shape {fault : IndexFault} (hline : ¬ ∃ a, Spells line a)
      (hfault : fault = .malformedLine number (String.ofList line))
      (hsource : fault.source = s!"line {number}") : Reports number line fault
  | value {fault : IndexFault} {a : Assignment} (hspells : Spells line a) (htyped : ¬ a.WellTyped)
      (hfault : fault = if a.name = "Priority" then .notInteger a.id a.name a.value
        else .notBoolean a.id a.name a.value)
      (hsource : fault.source = s!"{a.id}.{a.name}") : Reports number line fault

lemma isSignificant_iff : isSignificant line = true ↔ Significant line := by
  cases line with
  | nil => simp [isSignificant, Significant]
  | cons c line => simp [isSignificant, Significant]

/-- The assignment that is read off a line is the one that it spells. -/
lemma assignment?_eq_some_iff : assignment? line = some a ↔ Spells line a := by
  simp only [assignment?, Option.bind_eq_bind, Option.bind_eq_some_iff, Prod.exists,
    Text.splitFirst_eq_some_iff, Text.splitLast_eq_some_iff, Option.ite_none_left_eq_some,
    Option.some.injEq, not_or, Spells]
  constructor
  · rintro ⟨key, value, ⟨hline, hkey⟩, id, name, ⟨htrim, hname⟩, ⟨hid_ne, hname_ne⟩, rfl⟩
    exact ⟨key, value, hline, hkey, by simpa using htrim, by simpa using hname, by simpa using hid_ne,
      by simpa using hname_ne, by simp⟩
  · rintro ⟨key, value, hline, hkey, htrim, hname, hid_ne, hname_ne, hvalue⟩
    exact ⟨key, value, ⟨hline, hkey⟩, _, _, ⟨htrim, hname⟩, ⟨by simpa using hid_ne,
      by simpa using hname_ne⟩, by simp [hvalue]⟩

/-! ### Checks -/

/-- An assignment, unless its value is not of the type that its attribute calls for. -/
def Assignment.check (a : Assignment) : Except IndexFault Assignment :=
  (OrderingFacts.neutral.assign a).map fun _ => a

lemma check_eq_ok_iff : a.check = .ok b ↔ a.WellTyped ∧ a = b := by
  rw [Assignment.check, map_eq_ok_iff, ← OrderingFacts.exists_assign_iff .neutral a]
  simp

lemma check_eq_error_iff : a.check = .error fault ↔ ¬ a.WellTyped ∧ fault = a.fault := by
  rw [Assignment.check, map_eq_error_iff, ← OrderingFacts.exists_assign_iff .neutral a]
  constructor
  · intro h
    exact ⟨by simp [h], OrderingFacts.eq_fault_of_assign h⟩
  · rintro ⟨hrefused, rfl⟩
    cases hassign : OrderingFacts.neutral.assign a with
    | ok next => exact absurd ⟨next, hassign⟩ hrefused
    | error fault => rw [OrderingFacts.eq_fault_of_assign hassign]

/-- The assignment that a numbered significant line spells, unless it is not well formed. -/
def checkLine (line : List Char × Nat) : Except IndexFault Assignment :=
  match assignment? line.1 with
  | none => .error (.malformedLine line.2 (String.ofList line.1))
  | some a => a.check

lemma checkLine_eq_ok_iff :
    checkLine (line, number) = .ok a ↔ Spells line a ∧ a.WellTyped := by
  rw [checkLine, ← assignment?_eq_some_iff]
  cases hline : assignment? line with
  | none => simp
  | some b =>
      simp only [check_eq_ok_iff, Option.some.injEq]
      constructor
      · rintro ⟨htyped, rfl⟩
        exact ⟨rfl, htyped⟩
      · rintro ⟨rfl, htyped⟩
        exact ⟨htyped, rfl⟩

lemma exists_checkLine_eq_ok_iff :
    (∃ a, checkLine (line, number) = .ok a) ↔ WellFormed line := by
  simp only [checkLine_eq_ok_iff, WellFormed]

lemma checkLine_eq_error_iff :
    checkLine (line, number) = .error fault ↔ Reports number line fault := by
  rw [checkLine]
  constructor
  · intro h
    cases hline : assignment? line with
    | none =>
        simp only [hline] at h
        obtain rfl := Except.error.inj h
        refine .shape ?_ rfl rfl
        rintro ⟨a, hspells⟩
        rw [assignment?_eq_some_iff.mpr hspells] at hline
        cases hline
    | some a =>
        simp only [hline] at h
        obtain ⟨htyped, rfl⟩ := check_eq_error_iff.mp h
        refine .value (assignment?_eq_some_iff.mp hline) htyped rfl ?_
        rw [Assignment.fault]
        split_ifs <;> rfl
  · rintro (⟨hline, rfl, -⟩ | ⟨hspells, htyped, hfault, -⟩)
    · cases hline' : assignment? line with
      | none => rfl
      | some a => exact absurd ⟨a, assignment?_eq_some_iff.mp hline'⟩ hline
    · rw [assignment?_eq_some_iff.mpr hspells]
      exact check_eq_error_iff.mpr ⟨htyped, hfault⟩

namespace Index

variable {index : Index} {contents : String}

/-- An insertion is a check, whatever the index holds, and a step that does not fail. -/
lemma insert_eq_check (index : Index) (a : Assignment) :
    (index.insert a).1.map (fun _ => (index.insert a).2) =
      a.check.map fun a => (index.insert a).2 := by
  rcases index.insert_cases a with ⟨htyped, facts, -, hinsert⟩ | ⟨hrefused, hinsert⟩
  · have haccepted : (index.insert a).1 = .ok () := congrArg Prod.fst hinsert
    rw [check_eq_ok_iff.mpr ⟨htyped, rfl⟩, haccepted]
    rfl
  · rw [check_eq_error_iff.mpr ⟨hrefused, rfl⟩, hinsert]
    rfl

lemma insertAll_eq (index : Index) (assignments : List Assignment) :
    index.insertAll assignments = (assignments.mapM Assignment.check).map index.afterEach := by
  simp only [insertAll, insert_eq_check]
  exact foldlM_eq Assignment.check (fun index a => (index.insert a).2) assignments index

/-- Assignments are inserted in order when all of them are accepted. -/
lemma insertAll_eq_ok_iff {assignments : List Assignment} {final : Index} :
    index.insertAll assignments = .ok final ↔
      (∀ a ∈ assignments, a.WellTyped) ∧ index.afterEach assignments = final := by
  rw [insertAll_eq, map_eq_ok_iff]
  simp only [mapM_eq_ok_iff, check_eq_ok_iff, List.forall₂_and_left, List.forall₂_eq_eq_eq]
  constructor
  · rintro ⟨_, ⟨htyped, rfl⟩, hfinal⟩
    exact ⟨htyped, hfinal⟩
  · rintro ⟨htyped, hfinal⟩
    exact ⟨assignments, ⟨htyped, rfl⟩, hfinal⟩

lemma insertLine_eq (index : Index) (line : List Char × Nat) :
    index.insertLine line = (checkLine line).map fun a => (index.insert a).2 := by
  rw [insertLine, checkLine]
  cases assignment? line.1 with
  | none => rfl
  | some a =>
      simp only [← insert_eq_check]
      rcases index.insert_cases a with ⟨-, facts, -, hinsert⟩ | ⟨-, hinsert⟩ <;>
        rw [hinsert] <;> rfl

/-- **A text is read** by checking its significant lines in order, and inserting what they spell. -/
lemma parse_eq (contents : String) :
    parse contents = ((significantLines contents).mapM checkLine).map empty.afterEach := by
  have hstep : insertLine = fun index line => (checkLine line).map fun a => (index.insert a).2 :=
    funext fun index => funext fun line => insertLine_eq index line
  rw [parse, hstep]
  exact foldlM_eq checkLine (fun index a => (index.insert a).2) (significantLines contents) empty

end Index

/-! ### Significant lines -/

/-- The trimmed significant ones among some lines, numbered from a number on. -/
def significantAmong (lines : List (List Char)) (number : Nat) : List (List Char × Nat) :=
  ((lines.map Text.trim).zipIdx number).filter fun line => isSignificant line.1

lemma significantAmong_append (front back : List (List Char)) (number : Nat) :
    significantAmong (front ++ back) number =
      significantAmong front number ++ significantAmong back (number + front.length) := by
  rw [significantAmong, List.map_append, List.zipIdx_append, List.filter_append, List.length_map]
  rfl

lemma significantAmong_cons_of_significant (h : Significant (Text.trim line))
    (lines : List (List Char)) (number : Nat) :
    significantAmong (line :: lines) number =
      (Text.trim line, number) :: significantAmong lines (number + 1) := by
  rw [significantAmong, List.map_cons, List.zipIdx_cons]
  exact List.filter_cons_of_pos (isSignificant_iff.mpr h)

lemma map_fst_significantAmong (lines : List (List Char)) (number : Nat) :
    (significantAmong lines number).map Prod.fst =
      (lines.map Text.trim).filter Significant := by
  have hsignificant : (fun line : List Char => decide (Significant line)) = isSignificant :=
    funext fun line => Bool.eq_iff_iff.mpr (by rw [decide_eq_true_eq, isSignificant_iff])
  have hfilter := List.filter_map (f := Prod.fst) (p := isSignificant)
    (l := (lines.map Text.trim).zipIdx number)
  rw [hsignificant, significantAmong]
  rw [List.zipIdx_map_fst] at hfilter
  exact hfilter.symm

lemma forall_significantAmong_iff {lines : List (List Char)} {p : List Char → Prop} :
    (∀ line ∈ significantAmong lines number, p line.1) ↔
      ∀ line ∈ lines, Significant (Text.trim line) → p (Text.trim line) := by
  have hfst : (∀ line ∈ significantAmong lines number, p line.1) ↔
      ∀ line ∈ (significantAmong lines number).map Prod.fst, p line := by
    rw [List.forall_mem_map]
  rw [hfst, map_fst_significantAmong]
  simp only [List.mem_filter, List.mem_map, decide_eq_true_eq]
  grind

/-- Where a significant line stands, there are lines in front of it, whose number it follows. -/
lemma exists_of_significantAmong_eq {lines : List (List Char)} {front back : List (List Char × Nat)}
    {numbered : List Char × Nat}
    (h : significantAmong lines number = front ++ numbered :: back) :
    ∃ before line behind, lines = before ++ line :: behind ∧
      front = significantAmong before number ∧ Significant (Text.trim line) ∧
      numbered = (Text.trim line, number + before.length) := by
  obtain ⟨head, tail, hzip, hfront, htail⟩ := List.filter_eq_append_iff.mp h
  obtain ⟨skipped, rest, htail, hskipped, hnumbered, -⟩ := List.filter_eq_cons_iff.mp htail
  rw [htail, ← List.append_assoc] at hzip
  obtain ⟨before', line', hlines, hbefore, hline⟩ := List.zipIdx_eq_append_iff.mp hzip
  obtain ⟨trimmed, behind', rfl, rfl, -⟩ := List.zipIdx_eq_cons_iff.mp hline.symm
  obtain ⟨before, rest', rfl, rfl, hrest⟩ := List.map_eq_append_iff.mp hlines
  obtain ⟨line, behind, rfl, rfl, -⟩ := List.map_eq_cons_iff.mp hrest
  refine ⟨before, line, behind, rfl, ?_, isSignificant_iff.mp hnumbered, by rw [List.length_map]⟩
  rw [significantAmong, ← hbefore, List.filter_append, hfront,
    List.filter_eq_nil_iff.mpr hskipped, List.append_nil]

/-- The first line that is not well formed, and what is reported of it. -/
lemma mapM_checkLine_eq_error_iff {lines : List (List Char)} :
    (significantAmong lines number).mapM checkLine = .error fault ↔
      ∃ before line behind, lines = before ++ line :: behind ∧
        (∀ earlier ∈ before, Significant (Text.trim earlier) → WellFormed (Text.trim earlier)) ∧
        Significant (Text.trim line) ∧
        Reports (number + before.length) (Text.trim line) fault := by
  have hchecked : ∀ front : List (List Char × Nat), (∀ line ∈ front, ∃ a, checkLine line = .ok a) ↔
      ∀ line ∈ front, WellFormed line.1 := fun front =>
    forall₂_congr fun line _ => exists_checkLine_eq_ok_iff
  simp only [mapM_eq_error_iff, hchecked]
  constructor
  · rintro ⟨front, numbered, back, hlines, hfront, hfault⟩
    obtain ⟨before, line, behind, rfl, rfl, hline, rfl⟩ := exists_of_significantAmong_eq hlines
    exact ⟨before, line, behind, rfl, forall_significantAmong_iff.mp hfront, hline,
      checkLine_eq_error_iff.mp hfault⟩
  · rintro ⟨before, line, behind, rfl, hbefore, hline, hfault⟩
    have hlines : significantAmong (before ++ line :: behind) number =
        significantAmong before number ++ (Text.trim line, number + before.length) ::
          significantAmong behind (number + before.length + 1) := by
      rw [significantAmong_append, significantAmong_cons_of_significant hline]
    exact ⟨_, _, _, hlines, forall_significantAmong_iff.mpr hbefore,
      checkLine_eq_error_iff.mpr hfault⟩

/-! ### Assignments on lines -/

namespace Assignment

/-- An assignment that can be written on a line: neither its key nor its value runs into a mark or loses
a blank. -/
structure Renderable (a : Assignment) : Prop where
  id_ne : a.id ≠ ""
  id_marks : '=' ∉ a.id.toList ∧ '\n' ∉ a.id.toList
  id_head : a.id.toList.head? ≠ some '#' ∧ a.id.toList.head? ≠ some '!'
  id_trimmed : Text.LeftTrimmed a.id.toList
  name_ne : a.name ≠ ""
  name_marks : '.' ∉ a.name.toList ∧ '=' ∉ a.name.toList ∧ '\n' ∉ a.name.toList
  name_trimmed : Text.RightTrimmed a.name.toList
  value_marks : '\n' ∉ a.value.toList
  value_trimmed : Text.LeftTrimmed a.value.toList ∧ Text.RightTrimmed a.value.toList

/-- The line that spells an assignment. -/
def spelling (a : Assignment) : String := a.id ++ "." ++ a.name ++ "=" ++ a.value

lemma toList_spelling (a : Assignment) :
    a.spelling.toList = (a.id.toList ++ '.' :: a.name.toList) ++ '=' :: a.value.toList := by
  simp [spelling]

namespace Renderable

lemma id_toList_ne (h : a.Renderable) : a.id.toList ≠ [] := by
  simpa using h.id_ne

/-- The key of such an assignment has no blank ends. -/
lemma trim_key (h : a.Renderable) :
    Text.trim (a.id.toList ++ '.' :: a.name.toList) = a.id.toList ++ '.' :: a.name.toList :=
  Text.trim_eq_self (h.id_trimmed.append h.id_toList_ne _)
    ((h.name_trimmed.cons (by decide)).append (List.cons_ne_nil _ _) _)

lemma rightTrimmed_spelling (h : a.Renderable) : Text.RightTrimmed a.spelling.toList := by
  rw [toList_spelling]
  exact (h.value_trimmed.2.cons (by decide)).append (List.cons_ne_nil _ _) _

lemma trim_spelling (h : a.Renderable) : Text.trim a.spelling.toList = a.spelling.toList := by
  refine Text.trim_eq_self ?_ h.rightTrimmed_spelling
  rw [toList_spelling, List.append_assoc]
  exact h.id_trimmed.append h.id_toList_ne _

lemma significant_spelling (h : a.Renderable) : Significant a.spelling.toList := by
  have hhead : a.spelling.toList.head? = a.id.toList.head? := by
    rw [toList_spelling, List.append_assoc, List.head?_append_of_ne_nil _ h.id_toList_ne]
  refine ⟨?_, by rw [hhead]; exact h.id_head.1, by rw [hhead]; exact h.id_head.2⟩
  rw [toList_spelling]
  simp

lemma not_mem_spelling (h : a.Renderable) : '\n' ∉ a.spelling.toList := by
  rw [toList_spelling]
  simp [h.id_marks.2, h.name_marks.2.2, h.value_marks]

/-- **The line of an assignment** spells it. -/
lemma spells_spelling (h : a.Renderable) : Spells a.spelling.toList a := by
  refine ⟨_, _, toList_spelling a, ?_, h.trim_key, h.name_marks.1, h.id_ne, h.name_ne,
    Text.trim_eq_self h.value_trimmed.1 h.value_trimmed.2⟩
  simp [h.id_marks.1, h.name_marks.2.1]

end Renderable

end Assignment

/-- The lines of assignments are read as the assignments. -/
lemma mapM_checkLine_spelling {assignments : List Assignment}
    (h : ∀ a ∈ assignments, a.Renderable) (number : Nat) :
    (significantAmong (assignments.map fun a => a.spelling.toList) number).mapM checkLine =
      assignments.mapM Assignment.check := by
  induction assignments generalizing number with
  | nil => rfl
  | cons a assignments ih =>
      obtain ⟨ha, hassignments⟩ := List.forall_mem_cons.mp h
      have hsignificant : Significant (Text.trim a.spelling.toList) :=
        ha.trim_spelling.symm ▸ ha.significant_spelling
      have hcheck : checkLine (a.spelling.toList, number) = a.check := by
        rw [checkLine, assignment?_eq_some_iff.mpr ha.spells_spelling]
      rw [List.map_cons, significantAmong_cons_of_significant hsignificant, ha.trim_spelling,
        List.mapM_cons, List.mapM_cons, hcheck, ih hassignments]

/-- Lines of assignments, each ended in one way, and a last one that need not be. -/
lemma lines_spellings {assignments : List Assignment} (h : ∀ a ∈ assignments, a.Renderable)
    {ending : String} (hending : ending ∈ ["\n", "\r\n"]) {rest : List Char} (hrest : '\n' ∉ rest) :
    Text.lines ((assignments.flatMap fun a => a.spelling.toList ++ ending.toList) ++ rest) =
      (assignments.map fun a => a.spelling.toList) ++ [rest].filter (· ≠ []) := by
  obtain ⟨carriage, hcarriage, hended⟩ : ∃ carriage : List Char,
      ending.toList = carriage ++ ['\n'] ∧ (carriage = [] ∨ carriage = ['\r']) := by
    rcases List.mem_pair.mp hending with rfl | rfl
    · exact ⟨[], rfl, .inl rfl⟩
    · exact ⟨['\r'], rfl, .inr rfl⟩
  have hpieces : ∀ piece ∈ assignments.map (fun a => a.spelling.toList ++ carriage), '\n' ∉ piece := by
    intro piece hpiece
    obtain ⟨a, ha, rfl⟩ := List.mem_map.mp hpiece
    rcases hended with rfl | rfl <;> simp [(h a ha).not_mem_spelling]
  have hlines := Text.lines_flatMap hpieces hrest
  rw [List.flatMap_map] at hlines
  simp only [List.append_assoc] at hlines
  rw [hcarriage, hlines, List.map_map]
  congr 1
  refine List.map_congr_left fun a ha => ?_
  rcases hended with rfl | rfl
  · rw [Function.comp_apply, List.append_nil]
    exact Text.dropReturn_of_rightTrimmed (h a ha).rightTrimmed_spelling
  · exact Text.dropReturn_concat a.spelling.toList

/-- Texts between separators are those texts but the last, each with a separator behind it, and the
last one. -/
lemma intercalate_concat (ending : List Char) (pieces : List (List Char)) (last : List Char) :
    ending.intercalate (pieces ++ [last]) =
      pieces.flatMap (fun piece => piece ++ ending) ++ last := by
  induction pieces with
  | nil => exact List.intercalate_singleton
  | cons piece pieces ih =>
      rw [List.flatMap_cons, List.append_assoc, ← ih]
      cases pieces with
      | nil => exact List.intercalate_cons_cons
      | cons second pieces => exact List.intercalate_cons_cons

/-! ### The grammar -/

namespace Index

variable {assignments : List Assignment} {contents ending : String}

lemma significantLines_eq (contents : String) :
    significantLines contents = significantAmong (Text.lines contents.toList) 1 := rfl

/-- A text whose lines are those of assignments is read as the assignments are inserted. -/
lemma parse_of_lines (h : ∀ a ∈ assignments, a.Renderable)
    (hlines : Text.lines contents.toList = assignments.map fun a => a.spelling.toList) :
    parse contents = empty.insertAll assignments := by
  rw [parse_eq, significantLines_eq, hlines, mapM_checkLine_spelling h, insertAll_eq]

/-- Assignments written each on a line of its own, with an ending behind every line or between them. -/
lemma parse_spellings (h : ∀ a ∈ assignments, a.Renderable) (hending : ending ∈ ["\n", "\r\n"]) :
    parse (String.join (assignments.map fun a => a.spelling ++ ending)) =
        empty.insertAll assignments ∧
      parse (ending.intercalate (assignments.map Assignment.spelling)) =
        empty.insertAll assignments := by
  constructor
  · refine parse_of_lines h ?_
    have hlines := lines_spellings h hending (List.not_mem_nil (a := '\n'))
    rw [List.append_nil] at hlines
    rw [String.toList_join, List.flatMap_map]
    simp only [String.toList_append, hlines]
    simp
  · refine parse_of_lines h ?_
    rw [String.toList_intercalate]
    rcases List.eq_nil_or_concat assignments with rfl | ⟨front, last, rfl⟩
    · rfl
    · obtain ⟨hfront, hlast⟩ := List.forall_mem_append.mp (List.concat_eq_append ▸ h)
      rw [List.forall_mem_singleton] at hlast
      have hlines := lines_spellings hfront hending hlast.not_mem_spelling
      rw [List.concat_eq_append, List.map_append, List.map_append, List.map_singleton,
        List.map_singleton, intercalate_concat, List.map_map, List.flatMap_map]
      simp only [Function.comp_apply, hlines]
      simp [hlast.significant_spelling.1]

/-- The grammar of a text: it spells an index when all its significant lines are well formed, namely the
index behind the insertion of what these spell in order; and of any other text the first line that is
not well formed is reported. -/
structure Grammatical (contents : String) : Prop where
  succeeds : (∃ index, parse contents = .ok index) ↔
    ∀ line ∈ Text.lines contents.toList,
      Significant (Text.trim line) → WellFormed (Text.trim line)
  spelled : ∀ index, parse contents = .ok index →
    ∃ assignments,
      List.Forall₂ Spells
        (((Text.lines contents.toList).map Text.trim).filter Significant) assignments ∧
      empty.insertAll assignments = .ok index
  fails : ∀ fault, parse contents = .error fault ↔
    ∃ before line behind, Text.lines contents.toList = before ++ line :: behind ∧
      (∀ earlier ∈ before, Significant (Text.trim earlier) → WellFormed (Text.trim earlier)) ∧
      Significant (Text.trim line) ∧ Reports (1 + before.length) (Text.trim line) fault

lemma spelled_of_parse {index : Index} (h : parse contents = .ok index) :
    ∃ assignments,
      List.Forall₂ Spells
        (((Text.lines contents.toList).map Text.trim).filter Significant) assignments ∧
      empty.insertAll assignments = .ok index := by
  rw [parse_eq, map_eq_ok_iff] at h
  obtain ⟨assignments, hassignments, hindex⟩ := h
  have hlines : List.Forall₂ (fun a (line : List Char × Nat) => a.WellTyped ∧ Spells line.1 a)
      assignments (significantLines contents) :=
    (mapM_eq_ok_iff.mp hassignments).flip.imp fun a line hline =>
      (checkLine_eq_ok_iff.mp hline).symm
  obtain ⟨htyped, hspells⟩ := (List.forall₂_and_left _ _).mp hlines
  refine ⟨assignments, ?_, insertAll_eq_ok_iff.mpr ⟨htyped, hindex⟩⟩
  rw [← map_fst_significantAmong _ 1, List.forall₂_map_left_iff]
  exact hspells.flip

/-- **The grammar of index texts**, and the way back: assignments that can be written on a line each are
read as they are inserted, which succeeds when their values are of their types. -/
theorem grammatical_parse :
    (∀ contents, Grammatical contents) ∧
      ∀ assignments : List Assignment, (∀ a ∈ assignments, a.Renderable) →
        (∀ ending ∈ ["\n", "\r\n"],
          parse (String.join (assignments.map fun a => a.spelling ++ ending)) =
              empty.insertAll assignments ∧
            parse (ending.intercalate (assignments.map Assignment.spelling)) =
              empty.insertAll assignments) ∧
        ((∃ index, empty.insertAll assignments = .ok index) ↔
          ∀ a ∈ assignments, a.WellTyped) := by
  refine ⟨fun contents => ⟨?_, fun index => spelled_of_parse, fun fault => ?_⟩,
    fun assignments h => ⟨fun ending hending => parse_spellings h hending, ?_⟩⟩
  · rw [parse_eq, exists_map_eq_ok_iff, exists_mapM_eq_ok_iff, significantLines_eq,
      ← forall_significantAmong_iff]
    exact forall₂_congr fun line _ => exists_checkLine_eq_ok_iff
  · rw [parse_eq, map_eq_error_iff, significantLines_eq, mapM_checkLine_eq_error_iff]
  · simp only [insertAll_eq_ok_iff, exists_and_left, exists_eq', and_true]

/-- Assignments with marks of the grammar in places where they are none. -/
def marked : List Assignment :=
  [⟨"app.web !", "Priority", "-2147483648"⟩, ⟨"a. b", " On#", "k=v.w, x"⟩, ⟨"é", "AfterAll", "TRUE"⟩,
    ⟨"é", "Before", ""⟩]

/-- They are read back from lines that end in a carriage return and a line feed. -/
theorem grammatical_parse_marked :
    (∀ a ∈ marked, a.Renderable) ∧ (∀ a ∈ marked, a.WellTyped) ∧
      ∃ index, parse ("\r\n".intercalate (marked.map Assignment.spelling)) = .ok index ∧
        empty.insertAll marked = .ok index := by
  have hrenderable : ∀ a ∈ marked, a.Renderable := by
    simp only [marked, List.forall_mem_cons, List.not_mem_nil, false_implies, implies_true, and_true]
    refine ⟨?_, ?_, ?_, ?_⟩ <;> constructor <;> decide
  have htyped : ∀ a ∈ marked, a.WellTyped := by decide
  obtain ⟨hread, hinserted⟩ := grammatical_parse.2 marked hrenderable
  obtain ⟨index, hindex⟩ := hinserted.mpr htyped
  exact ⟨hrenderable, htyped, index, by rw [(hread "\r\n" (by simp)).2, hindex], hindex⟩

end Index

end Activation
