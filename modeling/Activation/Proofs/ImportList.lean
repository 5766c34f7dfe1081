/-
The grammar of import lists.

An import list names a module on a line, between blanks and in front of a comment. Which
ids it lists can be said line by line, so that texts joined by a line feed list what each of
them lists.

* `Listable`: the ids that can stand on a line.
* `ImportList.Says`: what a line without its ending says: an id or nothing.
* `ImportList.Lists`: what a text says, its lines ended in either of two ways and the last one
  not at all.
* `lineIds`, `importList_eq`: an import list is read piece by piece between line feeds.
* `lists_iff`: a text lists the ids that are read from it, and no others.
* `importListLaws`: joined texts, the ids that are read, and the way back from ids to a text.
-/
import Activation.Proofs.Text
import Activation.Registry

namespace Activation

variable {line cs front back content comment : List Char} {ids : List ModuleId} {id : ModuleId}

/-- An id that can stand on a line of an import list: it runs into no comment or other line, and loses
no blank. -/
structure Listable (id : ModuleId) : Prop where
  ne : id ≠ ""
  marks : '#' ∉ id.toList ∧ '\n' ∉ id.toList
  trimmed : Text.LeftTrimmed id.toList ∧ Text.RightTrimmed id.toList

namespace ImportList

open Text (AllBlank)

/-- A comment starts with a `#`, if it is not left out. -/
def IsComment (comment : List Char) : Prop := ∀ c ∈ comment.head?, c = '#'

/-- What a line says, its ending apart: an id between blanks or nothing, and a comment behind. -/
inductive Says : List Char → List ModuleId → Prop
  | id {front back comment : List Char} {id : ModuleId} (hid : Listable id)
      (hfront : AllBlank front) (hback : AllBlank back) (hcomment : IsComment comment) :
      Says (front ++ id.toList ++ back ++ comment) [id]
  | nothing {blanks comment : List Char} (hblanks : AllBlank blanks)
      (hcomment : IsComment comment) : Says (blanks ++ comment) []

/-- What a text says: its lines end in a line feed, which may follow a carriage return, but for the last
one. -/
inductive Lists : List Char → List ModuleId → Prop
  | last {line : List Char} {ids : List ModuleId} (hline : '\n' ∉ line) (hsaid : Says line ids) :
      Lists line ids
  | next {line ending rest : List Char} {ids more : List ModuleId} (hline : '\n' ∉ line)
      (hsaid : Says line ids) (hending : ending = ['\n'] ∨ ending = ['\r', '\n'])
      (hrest : Lists rest more) : Lists (line ++ ending ++ rest) (ids ++ more)

/-! ### Lines -/

/-- The id on a line, or none. -/
def lineIds (line : List Char) : List ModuleId :=
  if importLine line = [] then [] else [String.ofList (importLine line)]

/-- In front of a comment a line is read to its end. -/
lemma importLine_append (hcontent : '#' ∉ content) (hcomment : IsComment comment) :
    importLine (content ++ comment) = Text.trim content := by
  have hall : ∀ c ∈ content, decide (c ≠ '#') = true := fun c hc =>
    decide_eq_true fun heq => hcontent (heq ▸ hc)
  rw [importLine, List.takeWhile_append_of_pos hall]
  cases comment with
  | nil => rw [List.takeWhile_nil, List.append_nil]
  | cons c comment =>
      obtain rfl : c = '#' := hcomment c rfl
      rw [List.takeWhile_cons_of_neg (by simp), List.append_nil]

/-- A line is something to read and a comment. -/
lemma exists_comment (line : List Char) :
    ∃ content comment, line = content ++ comment ∧ '#' ∉ content ∧ IsComment comment := by
  refine ⟨line.takeWhile (· ≠ '#'), line.dropWhile (· ≠ '#'),
    List.takeWhile_append_dropWhile.symm, fun hmem => ?_, fun c hc => ?_⟩
  · simpa using List.mem_takeWhile_imp hmem
  · have hhead := List.head?_dropWhile_not (fun c => decide (c ≠ '#')) line
    rw [Option.mem_def.mp hc] at hhead
    simpa using hhead

/-- A line says what is read from it. -/
lemma Says.lineIds_eq (h : Says line ids) : lineIds line = ids := by
  have hmark : Text.isBlank '#' = false := by decide
  cases h with
  | @id front back comment id hid hfront hback hcomment =>
      have hplain : '#' ∉ front ++ id.toList ++ back := by
        simp [hfront.not_mem hmark, hid.marks.1, hback.not_mem hmark]
      have hread : importLine (front ++ id.toList ++ back ++ comment) = id.toList := by
        rw [importLine_append hplain hcomment,
          Text.trim_of_padded hfront hback hid.trimmed.1 hid.trimmed.2]
      rw [lineIds, hread, if_neg (String.toList_eq_nil_iff.not.mpr hid.ne), String.ofList_toList]
  | @nothing blanks comment hblanks hcomment =>
      have hread : importLine (blanks ++ comment) = [] := by
        rw [importLine_append (hblanks.not_mem hmark) hcomment, Text.trim_eq_nil_iff]
        exact hblanks
      rw [lineIds, hread, if_pos rfl]

/-- What is read from a line is said by it. -/
lemma says_lineIds (hline : '\n' ∉ line) : Says line (lineIds line) := by
  obtain ⟨content, comment, rfl, hcontent, hcomment⟩ := exists_comment line
  obtain ⟨front, back, hfront, hback, hpadded⟩ := Text.exists_padding content
  rw [lineIds, importLine_append hcontent hcomment]
  split
  · rename_i hempty
    exact .nothing (Text.trim_eq_nil_iff.mp hempty) hcomment
  · rename_i hne
    have hmem : ∀ c ∈ Text.trim content, c ∈ content := fun c hc => by
      rw [hpadded]
      simp [hc]
    have hid : Listable (String.ofList (Text.trim content)) := by
      refine ⟨String.ofList_eq_empty_iff.not.mpr hne, ?_, ?_⟩ <;> rw [String.toList_ofList]
      · exact ⟨fun hmark => hcontent (hmem '#' hmark),
          fun hmark => hline (List.mem_append_left _ (hmem '\n' hmark))⟩
      · exact ⟨Text.leftTrimmed_trim content, Text.rightTrimmed_trim content⟩
    have hsaid := Says.id hid hfront hback hcomment
    rwa [String.toList_ofList, ← hpadded] at hsaid

/-- A carriage return at the end of a line is a blank like others, or part of a comment. -/
lemma lineIds_concat_return (line : List Char) : lineIds (line ++ ['\r']) = lineIds line := by
  have hread : importLine (line ++ ['\r']) = importLine line := by
    obtain ⟨content, comment, rfl, hcontent, hcomment⟩ := exists_comment line
    rw [importLine_append hcontent hcomment, List.append_assoc]
    cases comment with
    | nil =>
        have hreturn : AllBlank ['\r'] := List.forall_mem_singleton.mpr (by decide)
        have hplain : '#' ∉ content ++ ['\r'] := by simp [hcontent]
        rw [List.nil_append, ← List.append_nil (content ++ ['\r']), importLine_append hplain hcomment]
        exact Text.trim_padded (List.forall_mem_nil _) hreturn content
    | cons c comment => exact importLine_append hcontent hcomment
  rw [lineIds, lineIds, hread]

lemma lineIds_dropReturn (line : List Char) : lineIds (Text.dropReturn line) = lineIds line := by
  rw [Text.dropReturn]
  split
  · rename_i hlast
    obtain ⟨front, rfl⟩ := List.getLast?_eq_some_iff.mp hlast
    rw [List.dropLast_concat, lineIds_concat_return]
  · rfl

/-! ### Texts -/

/-- **An import list** is read piece by piece between line feeds. -/
lemma importList_eq (contents : String) :
    importList contents = (Text.split '\n' contents.toList).flatMap lineIds := by
  have hlines : ∀ lines : List (List Char),
      ((lines.map importLine).filter (· ≠ [])).map String.ofList = lines.flatMap lineIds :=
    Text.map_ofList_filter_map importLine
  obtain ⟨front, last, hpieces⟩ := (List.eq_nil_or_concat (Text.split '\n' contents.toList)).resolve_left
    (Text.split_ne_nil '\n' contents.toList)
  have hlast : ([last].filter (· ≠ [])).flatMap lineIds = [last].flatMap lineIds := by
    by_cases hempty : last = []
    · rw [hempty]
      rfl
    · simp [hempty]
  rw [importList, hlines, Text.lines]
  simp only [hpieces, List.concat_eq_append, List.dropLast_concat, List.getLast?_concat,
    Option.toList_some, List.flatMap_append, List.flatMap_map, lineIds_dropReturn, hlast]

/-- A line feed between two texts separates what they list. -/
lemma importList_append (a b : String) :
    importList (a ++ "\n" ++ b) = importList a ++ importList b := by
  have hjoined : (a ++ "\n" ++ b).toList = a.toList ++ '\n' :: b.toList := by simp
  simp only [importList_eq, hjoined, Text.split_append, List.flatMap_append]

/-- What a text says is read from it. -/
lemma Lists.eq_flatMap (h : Lists cs ids) : (Text.split '\n' cs).flatMap lineIds = ids := by
  induction h with
  | last hline hsaid =>
      rw [Text.split_of_not_mem hline, List.flatMap_singleton, hsaid.lineIds_eq]
  | @next line ending rest ids more hline hsaid hending hrest ih =>
      obtain ⟨piece, hpiece, hread, hjoined⟩ : ∃ piece, '\n' ∉ piece ∧ lineIds piece = ids ∧
          line ++ ending ++ rest = piece ++ '\n' :: rest := by
        rcases hending with rfl | rfl
        · exact ⟨line, hline, hsaid.lineIds_eq, by simp⟩
        · refine ⟨line ++ ['\r'], by simp [hline], ?_, by simp⟩
          rw [lineIds_concat_return, hsaid.lineIds_eq]
      rw [hjoined, Text.split_append, Text.split_of_not_mem hpiece, List.flatMap_append, ih,
        List.flatMap_singleton, hread]

/-- What is read from a text is said by it. -/
lemma lists_flatMap (cs : List Char) : Lists cs ((Text.split '\n' cs).flatMap lineIds) := by
  induction cs using Text.pieces_induction '\n' with
  | last line hline =>
      rw [Text.split_of_not_mem hline, List.flatMap_singleton]
      exact .last hline (says_lineIds hline)
  | next line rest hline ih =>
      have hnext := Lists.next hline (says_lineIds hline) (.inl rfl) ih
      rw [List.append_assoc, List.singleton_append] at hnext
      rwa [Text.split_append, Text.split_of_not_mem hline, List.flatMap_append,
        List.flatMap_singleton]

/-- **A text lists the ids that are read from it**, and no others. -/
theorem lists_iff {contents : String} : Lists contents.toList ids ↔ importList contents = ids := by
  rw [importList_eq]
  exact ⟨Lists.eq_flatMap, fun h => h ▸ lists_flatMap contents.toList⟩

lemma Says.listable (h : Says line ids) : ∀ id ∈ ids, Listable id := by
  cases h with
  | id hid => exact List.forall_mem_singleton.mpr hid
  | nothing => exact List.forall_mem_nil _

lemma Lists.listable (h : Lists cs ids) : ∀ id ∈ ids, Listable id := by
  induction h with
  | last _ hsaid => exact hsaid.listable
  | next _ hsaid _ _ ih => exact List.forall_mem_append.mpr ⟨hsaid.listable, ih⟩

/-- Ids written each on a line of its own. -/
lemma lists_intercalate {ending : List Char} (hending : ending = ['\n'] ∨ ending = ['\r', '\n'])
    (h : ∀ id ∈ ids, Listable id) : Lists (ending.intercalate (ids.map String.toList)) ids := by
  have hnil : AllBlank [] := List.forall_mem_nil _
  have hnone : IsComment [] := fun c hc => (Option.not_mem_none c hc).elim
  induction ids with
  | nil => exact .last List.not_mem_nil (.nothing hnil hnone)
  | cons id ids ih =>
      obtain ⟨hid, hids⟩ := List.forall_mem_cons.mp h
      have hsaid : Says id.toList [id] := by
        simpa using Says.id hid hnil hnil hnone
      cases ids with
      | nil =>
          rw [List.map_singleton, List.intercalate_singleton]
          exact .last hid.marks.2 hsaid
      | cons second ids =>
          rw [List.map_cons, List.map_cons, List.intercalate_cons_cons]
          exact .next hid.marks.2 hsaid hending (ih hids)

/-! ### The laws -/

/-- What import lists list. -/
structure ImportListLaws : Prop where
  /-- Texts joined by a line feed list what each of them lists. -/
  joined : ∀ a b, importList (a ++ "\n" ++ b) = importList a ++ importList b
  /-- The ids of a text come to be candidates behind the others, and nothing else comes to exist. -/
  imported : ∀ (registry : Registry) contents,
    (registry.withImports contents).candidates = registry.candidates ++ importList contents ∧
      ∀ id, (registry.withImports contents).isResolvable id = true ↔
        registry.isResolvable id = true ∨ id ∈ importList contents
  registered : ∀ (registry : Registry) a b,
    (registry.withImports a).withImports b = registry.withImports (a ++ "\n" ++ b)
  /-- Only ids that can stand on a line are listed. -/
  listable : ∀ contents, ∀ id ∈ importList contents, Listable id
  /-- The ids listed are those that the lines say, whatever blanks, comments and endings they have. -/
  read : ∀ contents ids, importList contents = ids ↔ Lists contents.toList ids
  /-- Such ids on lines of their own are read back. -/
  written : ∀ ending ∈ ["\n", "\r\n"], ∀ ids : List ModuleId, (∀ id ∈ ids, Listable id) →
    importList (ending.intercalate ids) = ids
  rewritten : ∀ contents, importList ("\n".intercalate (importList contents)) = importList contents

/-- **Import lists** are read line by line, whatever stands around the ids. -/
theorem importListLaws : ImportListLaws := by
  have hlistable : ∀ contents, ∀ id ∈ importList contents, Listable id := fun contents =>
    (lists_iff.mpr rfl).listable
  have hwritten : ∀ ending ∈ ["\n", "\r\n"], ∀ ids : List ModuleId, (∀ id ∈ ids, Listable id) →
      importList (ending.intercalate ids) = ids := by
    intro ending hending ids hids
    rw [← lists_iff, String.toList_intercalate]
    refine lists_intercalate ?_ hids
    rcases List.mem_pair.mp hending with rfl | rfl
    · exact .inl rfl
    · exact .inr rfl
  exact {
    joined := importList_append
    imported := fun registry contents =>
      ⟨registry.candidates_withImports contents, fun _ => Registry.isResolvable_withImports_iff⟩
    registered := by
      intro registry a b
      rw [Registry.withImports, Registry.withImports, Registry.withImports, importList_append,
        List.append_assoc]
    listable := hlistable
    read := fun contents ids => lists_iff.symm
    written := hwritten
    rewritten := fun contents =>
      hwritten "\n" List.mem_cons_self (importList contents) (hlistable contents) }

/-- A comment empties a line, and a carriage return ends the last one. -/
example : importList "#x\r\n a b\t#y\n\r\n#\n\u3000é\r" = ["a b", "é"] := by decide +kernel

end ImportList

end Activation
