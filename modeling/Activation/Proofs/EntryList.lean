/-
The grammar of comma-separated lists.

A value that lists names, such as the modules that another one comes before, has them between
commas. What it lists can be said piece by piece, so that texts joined by a comma list what each
of them lists, and neither blanks around a piece nor empty pieces count.

* `IsEntry`: the entries that can stand between separators.
* `Carries`: what a piece between separators carries: an entry or nothing.
* `Enlists`: what a text lists, piece by piece.
* `IsGap`, `Enlists.divided`: separators and blanks, which divide what stands on either side.
* `pieceEntries`, `parts_eq`: a list is read piece by piece.
* `enlists_iff`: a text lists the parts that are read from it, and no others.
* `entryListLaws`: joined texts, the entries that are read, and the way back from entries to a
  text.
-/
import Activation.Environment
import Activation.Proofs.Text

namespace Activation

namespace Property

open Text (AllBlank)

variable {sep : Char} {piece front back gap cs ds : List Char} {list more : List String}
  {text : String}

/-- An entry that can stand between separators: it is not cut by one, and loses no blank. -/
structure IsEntry (sep : Char) (entry : String) : Prop where
  ne : entry ≠ ""
  uncut : sep ∉ entry.toList
  trimmed : Text.LeftTrimmed entry.toList ∧ Text.RightTrimmed entry.toList

/-- What a piece between separators carries: an entry between blanks, or nothing. -/
inductive Carries (sep : Char) : List Char → List String → Prop
  | entry {front back : List Char} {entry : String} (hentry : IsEntry sep entry)
      (hfront : AllBlank front) (hback : AllBlank back) :
      Carries sep (front ++ entry.toList ++ back) [entry]
  | nothing {blanks : List Char} (hblanks : AllBlank blanks) : Carries sep blanks []

/-- What a text lists: separators stand between its pieces, and each of these carries an entry or
nothing. -/
inductive Enlists (sep : Char) : List Char → List String → Prop
  | last {piece : List Char} {list : List String} (hpiece : Carries sep piece list) :
      Enlists sep piece list
  | next {piece rest : List Char} {list more : List String} (hpiece : Carries sep piece list)
      (hrest : Enlists sep rest more) : Enlists sep (piece ++ sep :: rest) (list ++ more)

/-- What may stand between two entries: a separator, and with it any blanks and other separators. -/
structure IsGap (sep : Char) (gap : List Char) : Prop where
  divides : sep ∈ gap
  empty : ∀ c ∈ gap, c = sep ∨ Text.isBlank c = true

/-! ### Pieces -/

/-- The entry in a piece, or none. -/
def pieceEntries (piece : List Char) : List String :=
  if Text.trim piece = [] then [] else [String.ofList (Text.trim piece)]

/-- **A list** is read piece by piece between separators. -/
lemma parts_eq (sep : Char) (text : String) :
    parts sep text = (Text.split sep text.toList).flatMap pieceEntries :=
  Text.map_ofList_filter_map Text.trim (Text.split sep text.toList)

/-- A piece does not hold the separator, unless that is a blank. -/
lemma Carries.not_mem (hsep : Text.isBlank sep = false) (h : Carries sep piece list) :
    sep ∉ piece := by
  cases h with
  | entry hentry hfront hback =>
      simp [hfront.not_mem hsep, hentry.uncut, hback.not_mem hsep]
  | nothing hblanks => exact hblanks.not_mem hsep

/-- What a piece carries is read from it. -/
lemma Carries.pieceEntries_eq (h : Carries sep piece list) : pieceEntries piece = list := by
  cases h with
  | entry hentry hfront hback =>
      rw [pieceEntries, Text.trim_of_padded hfront hback hentry.trimmed.1 hentry.trimmed.2,
        if_neg (String.toList_eq_nil_iff.not.mpr hentry.ne), String.ofList_toList]
  | nothing hblanks => rw [pieceEntries, if_pos (Text.trim_eq_nil_iff.mpr hblanks)]

/-- What is read from a piece is carried by it. -/
lemma carries_pieceEntries (hpiece : sep ∉ piece) : Carries sep piece (pieceEntries piece) := by
  rw [pieceEntries]
  split
  · rename_i hempty
    exact .nothing (Text.trim_eq_nil_iff.mp hempty)
  · rename_i hne
    obtain ⟨front, back, hfront, hback, hpadded⟩ := Text.exists_padding piece
    have huncut : sep ∉ Text.trim piece := fun hmem => hpiece (by rw [hpadded]; simp [hmem])
    have hentry : IsEntry sep (String.ofList (Text.trim piece)) := by
      refine ⟨String.ofList_eq_empty_iff.not.mpr hne, ?_, ?_⟩ <;> rw [String.toList_ofList]
      · exact huncut
      · exact ⟨Text.leftTrimmed_trim piece, Text.rightTrimmed_trim piece⟩
    have hcarried := Carries.entry hentry hfront hback
    rwa [String.toList_ofList, ← hpadded] at hcarried

lemma Carries.isEntry (h : Carries sep piece list) : ∀ entry ∈ list, IsEntry sep entry := by
  cases h with
  | entry hentry => exact List.forall_mem_singleton.mpr hentry
  | nothing => exact List.forall_mem_nil _

/-! ### Texts -/

/-- What a text lists is read from it. -/
lemma Enlists.eq_flatMap (hsep : Text.isBlank sep = false) (h : Enlists sep cs list) :
    (Text.split sep cs).flatMap pieceEntries = list := by
  induction h with
  | last hpiece =>
      rw [Text.split_of_not_mem (hpiece.not_mem hsep), List.flatMap_singleton,
        hpiece.pieceEntries_eq]
  | next hpiece hrest ih =>
      rw [Text.split_append, Text.split_of_not_mem (hpiece.not_mem hsep), List.flatMap_append, ih,
        List.flatMap_singleton, hpiece.pieceEntries_eq]

/-- What is read from a text is listed by it. -/
lemma enlists_flatMap (sep : Char) (cs : List Char) :
    Enlists sep cs ((Text.split sep cs).flatMap pieceEntries) := by
  induction cs using Text.pieces_induction sep with
  | last piece hpiece =>
      rw [Text.split_of_not_mem hpiece, List.flatMap_singleton]
      exact .last (carries_pieceEntries hpiece)
  | next piece rest hpiece ih =>
      rw [Text.split_append, Text.split_of_not_mem hpiece, List.flatMap_append,
        List.flatMap_singleton]
      exact .next (carries_pieceEntries hpiece) ih

/-- **A text lists the parts that are read from it**, and no others. -/
theorem enlists_iff (hsep : Text.isBlank sep = false) :
    Enlists sep text.toList list ↔ parts sep text = list := by
  rw [parts_eq]
  exact ⟨Enlists.eq_flatMap hsep, fun h => h ▸ enlists_flatMap sep text.toList⟩

lemma Enlists.isEntry (h : Enlists sep cs list) : ∀ entry ∈ list, IsEntry sep entry := by
  induction h with
  | last hpiece => exact hpiece.isEntry
  | next hpiece _ ih => exact List.forall_mem_append.mpr ⟨hpiece.isEntry, ih⟩

/-! ### Gaps -/

/-- Blanks around a piece do not count. -/
lemma Carries.padded (h : Carries sep piece list) (hfront : AllBlank front)
    (hback : AllBlank back) : Carries sep (front ++ piece ++ back) list := by
  cases h with
  | @entry left right entry hentry hleft hright =>
      have hcarried := Carries.entry hentry (List.forall_mem_append.mpr ⟨hfront, hleft⟩)
        (List.forall_mem_append.mpr ⟨hright, hback⟩)
      simpa only [List.append_assoc] using hcarried
  | nothing hblanks =>
      exact .nothing (List.forall_mem_append.mpr
        ⟨List.forall_mem_append.mpr ⟨hfront, hblanks⟩, hback⟩)

/-- Blanks around a text do not count. -/
lemma Enlists.padded (h : Enlists sep cs list) (hfront : AllBlank front) (hback : AllBlank back) :
    Enlists sep (front ++ cs ++ back) list := by
  have hnil : AllBlank [] := List.forall_mem_nil _
  induction h generalizing front with
  | last hpiece => exact .last (hpiece.padded hfront hback)
  | next hpiece _ ih =>
      have hnext := Enlists.next (hpiece.padded hfront hnil) (ih hnil)
      simpa only [List.append_nil, List.nil_append, List.append_assoc, List.cons_append] using hnext

/-- A separator between two texts divides what they list. -/
lemma Enlists.joined (h : Enlists sep cs list) (h' : Enlists sep ds more) :
    Enlists sep (cs ++ sep :: ds) (list ++ more) := by
  induction h with
  | last hpiece => exact .next hpiece h'
  | next hpiece _ ih =>
      have hnext := Enlists.next hpiece ih
      simpa only [List.append_assoc, List.cons_append] using hnext

/-- Of separators and blanks, what is left without separators is blank. -/
lemma allBlank_of_not_mem (hpiece : sep ∉ piece)
    (hgap : ∀ c ∈ piece, c = sep ∨ Text.isBlank c = true) : AllBlank piece :=
  fun c hc => (hgap c hc).resolve_left fun heq => hpiece (heq ▸ hc)

/-- Separators and blanks in front of a text list nothing. -/
lemma Enlists.behind (h : Enlists sep cs list) (hgap : ∀ c ∈ gap, c = sep ∨ Text.isBlank c = true) :
    Enlists sep (gap ++ cs) list := by
  -- Along the pieces of the gap: each is empty, and the last one runs into the text.
  induction gap using Text.pieces_induction sep with
  | last piece hpiece =>
      have hpadded := h.padded (allBlank_of_not_mem hpiece hgap) (List.forall_mem_nil _)
      rwa [List.append_nil] at hpadded
  | next piece rest hpiece ih =>
      obtain ⟨hfront, hrest⟩ := List.forall_mem_append.mp hgap
      have hempty : Carries sep piece [] := .nothing (allBlank_of_not_mem hpiece hfront)
      rw [List.append_assoc, List.cons_append]
      exact .next hempty (ih (List.forall_mem_cons.mp hrest).2)

/-- **A gap** between two texts divides what they list. -/
lemma Enlists.divided (hgap : IsGap sep gap) (h : Enlists sep cs list) (h' : Enlists sep ds more) :
    Enlists sep (cs ++ gap ++ ds) (list ++ more) := by
  obtain ⟨front, rest, rfl, hfront⟩ := List.eq_append_cons_of_mem hgap.divides
  obtain ⟨hleft, hright⟩ := List.forall_mem_append.mp hgap.empty
  have hpadded := h.padded (List.forall_mem_nil _) (allBlank_of_not_mem hfront hleft)
  have hjoined := hpadded.joined (h'.behind (List.forall_mem_cons.mp hright).2)
  simpa only [List.nil_append, List.append_assoc, List.cons_append] using hjoined

/-- Entries with a gap between each two of them. -/
lemma enlists_intercalate (hgap : IsGap sep gap) (h : ∀ entry ∈ list, IsEntry sep entry) :
    Enlists sep (gap.intercalate (list.map String.toList)) list := by
  have hnil : AllBlank [] := List.forall_mem_nil _
  induction list with
  | nil => exact .last (.nothing hnil)
  | cons entry list ih =>
      obtain ⟨hentry, hlist⟩ := List.forall_mem_cons.mp h
      have hcarried : Carries sep entry.toList [entry] := by
        simpa using Carries.entry hentry hnil hnil
      cases list with
      | nil =>
          rw [List.map_singleton, List.intercalate_singleton]
          exact .last hcarried
      | cons second list =>
          rw [List.map_cons, List.map_cons, List.intercalate_cons_cons]
          exact .divided hgap (.last hcarried) (ih hlist)

/-! ### The laws -/

/-- How comma-separated lists are put together and read. -/
structure EntryListLaws : Prop where
  /-- Texts joined by a comma list what each of them lists, also with blanks and more commas between
  them. -/
  joined : ∀ a b, entries (a ++ "," ++ b) = entries a ++ entries b
  divided : ∀ a gap b : String, IsGap ',' gap.toList →
    entries (a ++ gap ++ b) = entries a ++ entries b
  /-- Only entries that can stand between commas are listed, by a text and by a property. -/
  isEntry : ∀ value, ∀ entry ∈ entries value, IsEntry ',' entry
  ofProperty : ∀ (environment : Environment) key, ∀ entry ∈ environment.entries key,
    IsEntry ',' entry
  /-- The entries listed are those that the pieces carry, whatever blanks and empty pieces there
  are. -/
  read : ∀ value list, entries value = list ↔ Enlists ',' value.toList list
  /-- Such entries are read back, whatever divides them. -/
  written : ∀ gap : String, IsGap ',' gap.toList → ∀ list : List String,
    (∀ entry ∈ list, IsEntry ',' entry) → entries (gap.intercalate list) = list
  rewritten : ∀ value, entries (",".intercalate (entries value)) = entries value

/-- **Comma-separated lists** are read piece by piece, whatever stands around the entries. -/
theorem entryListLaws : EntryListLaws := by
  have hread : ∀ value list, entries value = list ↔ Enlists ',' value.toList list :=
    fun value list => (enlists_iff (by decide)).symm
  have hentry : ∀ value, ∀ entry ∈ entries value, IsEntry ',' entry :=
    fun value => ((hread value (entries value)).mp rfl).isEntry
  have hdivided : ∀ a gap b : String, IsGap ',' gap.toList →
      entries (a ++ gap ++ b) = entries a ++ entries b := by
    intro a gap b hgap
    rw [hread, String.toList_append, String.toList_append]
    exact .divided hgap ((hread a (entries a)).mp rfl) ((hread b (entries b)).mp rfl)
  have hwritten : ∀ gap : String, IsGap ',' gap.toList → ∀ list : List String,
      (∀ entry ∈ list, IsEntry ',' entry) → entries (gap.intercalate list) = list := by
    intro gap hgap list hlist
    rw [hread, String.toList_intercalate]
    exact enlists_intercalate hgap hlist
  have hcomma : IsGap ',' ",".toList := ⟨by simp, by simp⟩
  exact {
    joined := fun a b => hdivided a "," b hcomma
    divided := hdivided
    isEntry := hentry
    ofProperty := by
      intro environment key entry hmem
      rw [Environment.entries] at hmem
      cases hvalue : environment.property key with
      | none => simp [hvalue] at hmem
      | some value =>
          rw [hvalue] at hmem
          exact hentry value entry hmem
    read := hread
    written := hwritten
    rewritten := fun value => hwritten "," hcomma (entries value) (hentry value) }

/-- Empty pieces and blanks of any kind do not count, and blanks within an entry do. -/
example : entries " a,\u3000,b\u00a0c\n,,\td" = ["a", "b\u00a0c", "d"] := by decide +kernel

end Property

end Activation
