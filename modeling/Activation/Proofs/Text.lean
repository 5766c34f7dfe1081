/-
What a text is made of.

Reading a text means to cut it, to trim the pieces and to read numbers and flags
off them. Each of these readings is told here by the text that it undoes.

* `LeftTrimmed`, `RightTrimmed`, `trim_eq_self`, `trim_trim`: texts without blank
  ends, which trimming makes and leaves alone.
* `AllBlank`, `exists_padding`, `trim_padded`: blanks, which trimming takes off and which
  do not count around a text.
* `splitFirst_eq_some_iff`, `splitLast_eq_some_iff`: the two sides of a separator.
* `pieces_induction`, `IsPiece`, `mem_split_iff`: the pieces between separators.
* `split_flatMap`, `lines_flatMap`: texts put together of pieces that end in one mark.
* `IsDecimal`, `IsInt32`, `int32?_eq_some_iff`: the decimal notation of a number, and
  the integers of 32 bits.
* `Property.IsPart`, `mem_parts_iff`, `parts_append`: the parts of a list.
* `Property.IsFlag`, `boolean?_eq_some_iff`: the words for the two Booleans.
-/
import Mathlib.Data.List.Basic
import Mathlib.Data.List.Induction
import Mathlib.Data.List.TakeWhile
import Mathlib.Data.Nat.Digits.Defs
import Mathlib.Tactic.Lemma
import Activation.Property
import Activation.Text.Decimal

namespace Activation

namespace Text

variable {cs before after : List Char} {sep : Char}

/-! ### Blank ends -/

/-- The text does not start with a blank. -/
def LeftTrimmed (cs : List Char) : Prop := ∀ c ∈ cs.head?, isBlank c = false

/-- The text does not end with a blank. -/
def RightTrimmed (cs : List Char) : Prop := ∀ c ∈ cs.getLast?, isBlank c = false

-- The instances are named: a search may also come upon the one that tries all characters.
instance : DecidablePred LeftTrimmed := fun cs => Option.decidableForallMem cs.head?

instance : DecidablePred RightTrimmed := fun cs => Option.decidableForallMem cs.getLast?

lemma rightTrimmed_iff : RightTrimmed cs ↔ LeftTrimmed cs.reverse := by
  rw [RightTrimmed, LeftTrimmed, List.head?_reverse]

lemma leftTrimmed_trimLeft (cs : List Char) : LeftTrimmed (trimLeft cs) := by
  intro c hc
  have hhead := List.head?_dropWhile_not isBlank cs
  rw [trimLeft, Option.mem_def] at hc
  rwa [hc] at hhead

lemma trimLeft_eq_self (h : LeftTrimmed cs) : trimLeft cs = cs := by
  cases cs with
  | nil => rfl
  | cons c cs => rw [trimLeft, List.dropWhile_cons_of_neg (by simp [h c rfl])]

lemma trimRight_eq_self (h : RightTrimmed cs) : trimRight cs = cs := by
  have hreverse : cs.reverse.dropWhile isBlank = cs.reverse :=
    trimLeft_eq_self (rightTrimmed_iff.mp h)
  rw [trimRight, hreverse, List.reverse_reverse]

lemma rightTrimmed_trimRight (cs : List Char) : RightTrimmed (trimRight cs) := by
  rw [rightTrimmed_iff, trimRight, List.reverse_reverse]
  exact leftTrimmed_trimLeft cs.reverse

lemma trimRight_prefix (cs : List Char) : trimRight cs <+: cs := by
  rw [trimRight, ← List.reverse_suffix, List.reverse_reverse]
  exact List.dropWhile_suffix isBlank

/-- Trimming at the end leaves the start as it is. -/
lemma LeftTrimmed.trimRight (h : LeftTrimmed cs) : LeftTrimmed (trimRight cs) := by
  intro c hc
  obtain ⟨rest, hrest⟩ := trimRight_prefix cs
  refine h c ?_
  rw [← hrest, List.head?_append, Option.mem_def.mp hc]
  rfl

lemma leftTrimmed_trim (cs : List Char) : LeftTrimmed (trim cs) :=
  (leftTrimmed_trimLeft cs).trimRight

lemma rightTrimmed_trim (cs : List Char) : RightTrimmed (trim cs) :=
  rightTrimmed_trimRight (trimLeft cs)

/-- A text without blank ends is left as it is. -/
lemma trim_eq_self (hleft : LeftTrimmed cs) (hright : RightTrimmed cs) : trim cs = cs := by
  rw [trim, trimLeft_eq_self hleft, trimRight_eq_self hright]

@[simp] lemma trim_trim (cs : List Char) : trim (trim cs) = trim cs :=
  trim_eq_self (leftTrimmed_trim cs) (rightTrimmed_trim cs)

lemma LeftTrimmed.append (h : LeftTrimmed before) (hne : before ≠ []) (after : List Char) :
    LeftTrimmed (before ++ after) := by
  intro c hc
  rw [List.head?_append_of_ne_nil _ hne] at hc
  exact h c hc

lemma RightTrimmed.append (h : RightTrimmed after) (hne : after ≠ []) (before : List Char) :
    RightTrimmed (before ++ after) := by
  intro c hc
  rw [List.getLast?_append_of_ne_nil _ hne] at hc
  exact h c hc

lemma RightTrimmed.cons {c : Char} (h : RightTrimmed cs) (hc : isBlank c = false) :
    RightTrimmed (c :: cs) := by
  cases cs with
  | nil =>
      intro last hlast
      rwa [← Option.some.inj hlast]
  | cons d cs => exact h.append (List.cons_ne_nil d cs) [c]

/-- The text has no character that is not blank. -/
def AllBlank (cs : List Char) : Prop := ∀ c ∈ cs, isBlank c = true

lemma AllBlank.not_mem {mark : Char} (h : AllBlank cs) (hmark : isBlank mark = false) :
    mark ∉ cs := by
  intro hmem
  rw [h mark hmem] at hmark
  cases hmark

/-- Trimming at the end takes blanks off. -/
lemma exists_trimRight_append (cs : List Char) :
    ∃ back, AllBlank back ∧ cs = trimRight cs ++ back := by
  refine ⟨(cs.reverse.takeWhile isBlank).reverse,
    fun c hc => List.mem_takeWhile_imp (List.mem_reverse.mp hc), ?_⟩
  rw [trimRight, ← List.reverse_append, List.takeWhile_append_dropWhile, List.reverse_reverse]

/-- Trimming takes blanks off either end. -/
lemma exists_padding (cs : List Char) :
    ∃ front back, AllBlank front ∧ AllBlank back ∧ cs = front ++ trim cs ++ back := by
  have hfront : cs.takeWhile isBlank ++ trimLeft cs = cs := List.takeWhile_append_dropWhile
  obtain ⟨back, hback, hleft⟩ := exists_trimRight_append (trimLeft cs)
  refine ⟨cs.takeWhile isBlank, back, fun c hc => List.mem_takeWhile_imp hc, hback, ?_⟩
  rw [List.append_assoc, trim, ← hleft, hfront]

lemma trimLeft_append (h : AllBlank before) (cs : List Char) :
    trimLeft (before ++ cs) = trimLeft cs :=
  List.dropWhile_append_of_pos h

lemma trimRight_append (cs : List Char) (h : AllBlank after) :
    trimRight (cs ++ after) = trimRight cs := by
  rw [trimRight, trimRight, List.reverse_append,
    List.dropWhile_append_of_pos fun c hc => h c (List.mem_reverse.mp hc)]

/-- What stands between blanks is what trimming leaves, if it has no blank ends itself. -/
lemma trim_of_padded (hbefore : AllBlank before) (hafter : AllBlank after) (hleft : LeftTrimmed cs)
    (hright : RightTrimmed cs) : trim (before ++ cs ++ after) = cs := by
  rw [trim, List.append_assoc, trimLeft_append hbefore]
  cases cs with
  | nil =>
      have hempty : trimLeft after = [] := List.dropWhile_eq_nil_iff.mpr hafter
      rw [List.nil_append, hempty]
      rfl
  | cons c cs =>
      rw [trimLeft_eq_self (hleft.append (List.cons_ne_nil c cs) after), trimRight_append _ hafter,
        trimRight_eq_self hright]

/-- Blanks around a text do not count. -/
lemma trim_padded (hbefore : AllBlank before) (hafter : AllBlank after) (cs : List Char) :
    trim (before ++ cs ++ after) = trim cs := by
  obtain ⟨front, back, hfront, hback, hcs⟩ := exists_padding cs
  have hall : before ++ cs ++ after = (before ++ front) ++ trim cs ++ (back ++ after) := by
    conv_lhs => rw [hcs]
    simp only [List.append_assoc]
  rw [hall]
  exact trim_of_padded (List.forall_mem_append.mpr ⟨hbefore, hfront⟩)
    (List.forall_mem_append.mpr ⟨hback, hafter⟩) (leftTrimmed_trim cs) (rightTrimmed_trim cs)

lemma trim_trimRight (cs : List Char) : trim (trimRight cs) = trim cs := by
  obtain ⟨back, hback, hcs⟩ := exists_trimRight_append cs
  have hpadded := trim_padded (List.forall_mem_nil _) hback (trimRight cs)
  rwa [List.nil_append, ← hcs, eq_comm] at hpadded

lemma trim_eq_nil_iff : trim cs = [] ↔ AllBlank cs := by
  constructor
  · intro h
    obtain ⟨front, back, hfront, hback, hcs⟩ := exists_padding cs
    rw [h, List.append_nil] at hcs
    exact hcs ▸ List.forall_mem_append.mpr ⟨hfront, hback⟩
  · intro h
    calc trim cs = trim (cs ++ [] ++ []) := by rw [List.append_nil, List.append_nil]
      _ = trim [] := trim_padded h (List.forall_mem_nil _) []

/-! ### The sides of a separator -/

lemma splitFirst_cons_self (sep : Char) (cs : List Char) :
    splitFirst sep (sep :: cs) = some ([], cs) := by
  simp [splitFirst]

lemma splitFirst_cons_of_ne {c : Char} (h : c ≠ sep) (cs : List Char) :
    splitFirst sep (c :: cs) =
      (splitFirst sep cs).map fun sides => (c :: sides.1, sides.2) := by
  rw [splitFirst, splitFirst, List.dropWhile_cons_of_pos (by simpa using h),
    List.takeWhile_cons_of_pos (by simpa using h)]
  cases cs.dropWhile (· ≠ sep) <;> rfl

/-- The first occurrence is the one that has none in front of it. -/
lemma splitFirst_eq_some_iff :
    splitFirst sep cs = some (before, after) ↔ cs = before ++ sep :: after ∧ sep ∉ before := by
  induction cs generalizing before with
  | nil => simp [splitFirst]
  | cons c cs ih =>
      by_cases hc : c = sep
      · subst hc
        rw [splitFirst_cons_self]
        cases before with
        | nil => simp
        | cons b before => simp +contextual
      · rw [splitFirst_cons_of_ne hc, Option.map_eq_some_iff]
        constructor
        · rintro ⟨⟨front, rest⟩, hsides, heq⟩
          obtain ⟨rfl, rfl⟩ := Prod.mk.inj heq
          obtain ⟨rfl, hfront⟩ := ih.mp hsides
          exact ⟨rfl, by simp [Ne.symm hc, hfront]⟩
        · rintro ⟨heq, hbefore⟩
          cases before with
          | nil => exact absurd (List.cons.inj heq).1 hc
          | cons b before =>
              obtain ⟨rfl, rfl⟩ := List.cons.inj heq
              exact ⟨(before, after), ih.mpr ⟨rfl, fun hmem => hbefore (.tail _ hmem)⟩, rfl⟩

/-- A text has one first occurrence of a separator. -/
lemma sides_unique {before' after' : List Char} (h : cs = before ++ sep :: after)
    (hbefore : sep ∉ before) (h' : cs = before' ++ sep :: after') (hbefore' : sep ∉ before') :
    before = before' ∧ after = after' := by
  have hsides := (splitFirst_eq_some_iff.mpr ⟨h, hbefore⟩).symm.trans
    (splitFirst_eq_some_iff.mpr ⟨h', hbefore'⟩)
  exact Prod.mk.inj (Option.some.inj hsides)

lemma splitFirst_eq_none_iff : splitFirst sep cs = none ↔ sep ∉ cs := by
  rw [Option.eq_none_iff_forall_ne_some]
  constructor
  · intro h hmem
    obtain ⟨before, after, hcs, hbefore⟩ := List.eq_append_cons_of_mem hmem
    exact h (before, after) (splitFirst_eq_some_iff.mpr ⟨hcs, hbefore⟩)
  · rintro hsep ⟨before, after⟩ h
    obtain ⟨rfl, -⟩ := splitFirst_eq_some_iff.mp h
    exact hsep (List.mem_append_right _ List.mem_cons_self)

/-- The last occurrence is the one that has none behind it. -/
lemma splitLast_eq_some_iff :
    splitLast sep cs = some (before, after) ↔ cs = before ++ sep :: after ∧ sep ∉ after := by
  rw [splitLast, Option.map_eq_some_iff]
  constructor
  · rintro ⟨⟨front, rest⟩, hsides, heq⟩
    obtain ⟨rfl, rfl⟩ := Prod.mk.inj heq
    obtain ⟨hcs, hfront⟩ := splitFirst_eq_some_iff.mp hsides
    exact ⟨by simpa using congrArg List.reverse hcs, by simpa using hfront⟩
  · rintro ⟨rfl, hafter⟩
    refine ⟨(after.reverse, before.reverse), splitFirst_eq_some_iff.mpr ⟨by simp, ?_⟩, by simp⟩
    simpa using hafter

/-! ### The pieces between separators -/

/-- Induction along the pieces of a text: it is one piece, or a piece stands in front of the first
separator. -/
@[elab_as_elim]
lemma pieces_induction {motive : List Char → Prop} (sep : Char)
    (last : ∀ piece, sep ∉ piece → motive piece)
    (next : ∀ piece rest, sep ∉ piece → motive rest → motive (piece ++ sep :: rest))
    (cs : List Char) : motive cs := by
  induction hlength : cs.length using Nat.strong_induction_on generalizing cs with
  | _ n ih =>
      by_cases hsep : sep ∈ cs
      · obtain ⟨piece, rest, rfl, hpiece⟩ := List.eq_append_cons_of_mem hsep
        have hrest : rest.length < n := by
          rw [← hlength, List.length_append, List.length_cons]
          omega
        exact next piece rest hpiece (ih rest.length hrest rest rfl)
      · exact last cs hsep

/-- A text without the separator is one piece. -/
lemma split_of_not_mem (h : sep ∉ cs) : split sep cs = [cs] := by
  induction cs with
  | nil => rfl
  | cons c cs ih =>
      have hc : c ≠ sep := fun heq => h (heq ▸ List.mem_cons_self)
      rw [split, if_neg hc, ih fun hmem => h (List.mem_cons_of_mem c hmem)]

/-- A piece of a text: it has no separator, and reaches to one or to the end of the text on either
side. -/
def IsPiece (sep : Char) (cs piece : List Char) : Prop :=
  sep ∉ piece ∧ ∃ before after, cs = before ++ piece ++ after ∧
    (before = [] ∨ before.getLast? = some sep) ∧ (after = [] ∨ after.head? = some sep)

lemma isPiece_of_mem_split {piece : List Char} (h : piece ∈ split sep cs) :
    IsPiece sep cs piece := by
  refine ⟨not_mem_of_mem_split h, ?_⟩
  induction cs using pieces_induction sep with
  | last cs hcs =>
      rw [split_of_not_mem hcs, List.mem_singleton] at h
      exact ⟨[], [], by simp [h], .inl rfl, .inl rfl⟩
  | next front back hfront ih =>
      rw [split_append, split_of_not_mem hfront, List.singleton_append, List.mem_cons] at h
      rcases h with rfl | h
      · exact ⟨[], sep :: back, rfl, .inl rfl, .inr rfl⟩
      · obtain ⟨before, after, rfl, hbefore, hafter⟩ := ih h
        refine ⟨front ++ sep :: before, after, by simp, .inr ?_, hafter⟩
        rcases hbefore with rfl | hbefore
        · exact List.getLast?_concat
        · rw [List.getLast?_append_of_ne_nil _ (List.cons_ne_nil sep before),
            List.getLast?_cons, hbefore]
          rfl

lemma mem_split_iff {piece : List Char} : piece ∈ split sep cs ↔ IsPiece sep cs piece := by
  refine ⟨isPiece_of_mem_split, ?_⟩
  rintro ⟨hpiece, before, after, rfl, hbefore, hafter⟩
  have hback : piece ∈ split sep (piece ++ after) := by
    rcases hafter with rfl | hafter
    · rw [List.append_nil, split_of_not_mem hpiece]
      exact List.mem_singleton_self piece
    · obtain ⟨rest, rfl⟩ := List.head?_eq_some_iff.mp hafter
      rw [split_append, split_of_not_mem hpiece]
      exact List.mem_append_left _ (List.mem_singleton_self piece)
  rw [List.append_assoc]
  rcases hbefore with rfl | hbefore
  · exact hback
  · obtain ⟨front, rfl⟩ := List.getLast?_eq_some_iff.mp hbefore
    rw [List.append_assoc, List.singleton_append, split_append]
    exact List.mem_append_right _ hback

/-- Texts are read from pieces one by one, and empty ones are left out. -/
lemma map_ofList_filter_map (read : List Char → List Char) (pieces : List (List Char)) :
    ((pieces.map read).filter (· ≠ [])).map String.ofList =
      pieces.flatMap fun piece => if read piece = [] then [] else [String.ofList (read piece)] := by
  induction pieces with
  | nil => rfl
  | cons piece pieces ih =>
      rw [List.map_cons, List.flatMap_cons, ← ih]
      by_cases hpiece : read piece = [] <;> simp [hpiece]

/-! ### Lines -/

/-- Texts that each end with a separator are the pieces of what they make up, with an empty one behind
them. -/
lemma split_flatMap {pieces : List (List Char)} (h : ∀ piece ∈ pieces, sep ∉ piece)
    (cs : List Char) :
    split sep (pieces.flatMap (fun piece => piece ++ [sep]) ++ cs) = pieces ++ split sep cs := by
  induction pieces with
  | nil => rfl
  | cons piece pieces ih =>
      obtain ⟨hpiece, hpieces⟩ := List.forall_mem_cons.mp h
      rw [List.flatMap_cons, List.append_assoc, List.append_assoc, List.singleton_append,
        split_append, split_of_not_mem hpiece, ih hpieces]
      rfl

/-- The lines of a text in which each of them ends with a line feed, but for what stands behind the last
line feed. -/
lemma lines_flatMap {pieces : List (List Char)} (h : ∀ piece ∈ pieces, '\n' ∉ piece)
    {rest : List Char} (hrest : '\n' ∉ rest) :
    lines (pieces.flatMap (fun piece => piece ++ ['\n']) ++ rest) =
      pieces.map dropReturn ++ [rest].filter (· ≠ []) := by
  rw [lines, split_flatMap h, split_of_not_mem hrest, List.dropLast_concat, List.getLast?_concat]
  rfl

@[simp] lemma dropReturn_concat (line : List Char) : dropReturn (line ++ ['\r']) = line := by
  rw [dropReturn, List.getLast?_concat, if_pos rfl, List.dropLast_concat]

lemma dropReturn_of_rightTrimmed {line : List Char} (h : RightTrimmed line) :
    dropReturn line = line := by
  rw [dropReturn, if_neg]
  intro hlast
  have hblank := h '\r' hlast
  exact absurd hblank (by decide)

/-! ### Decimal numbers -/

/-- Digits that spell a number. -/
def IsDecimal (digits : List Char) (n : Nat) : Prop :=
  digits ≠ [] ∧ (∀ c ∈ digits, '0' ≤ c ∧ c ≤ '9') ∧
    n = Nat.ofDigits 10 (digits.reverse.map fun c => c.toNat - '0'.toNat)

/-- Digits with an optional sign in front that spell an integer of 32 bits. -/
def IsInt32 (cs : List Char) (n : Int) : Prop :=
  (∃ sign digits m, cs = sign ++ digits ∧ IsDecimal digits m ∧
      ((sign = [] ∨ sign = ['+']) ∧ n = m ∨ sign = ['-'] ∧ n = -m)) ∧
    -2147483648 ≤ n ∧ n < 2147483648

lemma digit?_eq_some_iff {c : Char} {d : Nat} :
    digit? c = some d ↔ ('0' ≤ c ∧ c ≤ '9') ∧ d = c.toNat - '0'.toNat := by
  rw [digit?]
  split <;> simp_all [eq_comm]

/-- The digits are read from the front, the value growing tenfold with each of them. -/
lemma foldlM_digit?_eq_some_iff {digits : List Char} {n : Nat} :
    digits.foldlM (fun value c => (digit? c).map (10 * value + ·)) 0 = some n ↔
      (∀ c ∈ digits, '0' ≤ c ∧ c ≤ '9') ∧
        n = Nat.ofDigits 10 (digits.reverse.map fun c => c.toNat - '0'.toNat) := by
  induction digits using List.reverseRecOn generalizing n with
  | nil => simp [eq_comm]
  | append_singleton digits c ih =>
      have hconcat : Nat.ofDigits 10 ((digits ++ [c]).reverse.map fun c => c.toNat - '0'.toNat) =
          10 * Nat.ofDigits 10 (digits.reverse.map fun c => c.toNat - '0'.toNat) +
            (c.toNat - '0'.toNat) := by
        rw [List.reverse_append, List.reverse_singleton, List.singleton_append, List.map_cons,
          Nat.ofDigits_cons, Nat.add_comm]
      rw [List.foldlM_append, hconcat, List.forall_mem_append, List.forall_mem_singleton]
      simp only [List.foldlM_cons, List.foldlM_nil, bind_pure]
      constructor
      · intro h
        obtain ⟨value, hvalue, hlast⟩ := Option.bind_eq_some_iff.mp h
        obtain ⟨hdigits, rfl⟩ := ih.mp hvalue
        obtain ⟨d, hd, rfl⟩ := Option.map_eq_some_iff.mp hlast
        obtain ⟨hc, rfl⟩ := digit?_eq_some_iff.mp hd
        exact ⟨⟨hdigits, hc⟩, rfl⟩
      · rintro ⟨⟨hdigits, hc⟩, rfl⟩
        rw [ih.mpr ⟨hdigits, rfl⟩]
        simp [digit?_eq_some_iff.mpr ⟨hc, rfl⟩]

lemma natural?_eq_some_iff {digits : List Char} {n : Nat} :
    natural? digits = some n ↔ IsDecimal digits n := by
  rw [natural?, IsDecimal]
  split
  · simp [*]
  · rw [foldlM_digit?_eq_some_iff]
    simp [*]

/-- A digit is no sign. -/
lemma IsDecimal.ne_sign {c : Char} {digits : List Char} {n : Nat}
    (h : IsDecimal (c :: digits) n) : c ≠ '+' ∧ c ≠ '-' := by
  have hc := h.2.1 c List.mem_cons_self
  constructor <;> (rintro rfl; exact absurd hc (by decide))

lemma natural?_map_eq_some_iff {digits : List Char} {n : Int} :
    ((natural? digits).map fun value => (value : Int)) = some n ↔
      ∃ m, IsDecimal digits m ∧ n = m := by
  simp only [← natural?_eq_some_iff]
  cases natural? digits <;> simp [eq_comm]

lemma natural?_map_neg_eq_some_iff {digits : List Char} {n : Int} :
    ((natural? digits).map fun value => -(value : Int)) = some n ↔
      ∃ m, IsDecimal digits m ∧ n = -m := by
  simp only [← natural?_eq_some_iff]
  cases natural? digits <;> simp [eq_comm]

/-- An integer is spelled by digits with an optional sign in front. -/
lemma integer?_eq_some_iff {n : Int} :
    integer? cs = some n ↔ ∃ sign digits m, cs = sign ++ digits ∧ IsDecimal digits m ∧
      ((sign = [] ∨ sign = ['+']) ∧ n = m ∨ sign = ['-'] ∧ n = -m) := by
  rw [integer?.eq_def]
  split
  case h_1 digits =>
    rw [natural?_map_eq_some_iff]
    constructor
    · rintro ⟨m, hm, rfl⟩
      exact ⟨['+'], digits, m, rfl, hm, .inl ⟨.inr rfl, rfl⟩⟩
    · rintro ⟨sign, digits', m, hcs, hm, ⟨rfl | rfl, rfl⟩ | ⟨rfl, rfl⟩⟩
      · obtain rfl : '+' :: digits = digits' := hcs
        exact absurd rfl hm.ne_sign.1
      · exact ⟨m, (List.cons.inj hcs).2 ▸ hm, rfl⟩
      · exact absurd (List.cons.inj hcs).1 (by decide)
  case h_2 digits =>
    rw [natural?_map_neg_eq_some_iff]
    constructor
    · rintro ⟨m, hm, rfl⟩
      exact ⟨['-'], digits, m, rfl, hm, .inr ⟨rfl, rfl⟩⟩
    · rintro ⟨sign, digits', m, hcs, hm, ⟨rfl | rfl, rfl⟩ | ⟨rfl, rfl⟩⟩
      · obtain rfl : '-' :: digits = digits' := hcs
        exact absurd rfl hm.ne_sign.2
      · exact absurd (List.cons.inj hcs).1 (by decide)
      · exact ⟨m, (List.cons.inj hcs).2 ▸ hm, rfl⟩
  case h_3 hplus hminus =>
    rw [natural?_map_eq_some_iff]
    constructor
    · rintro ⟨m, hm, rfl⟩
      exact ⟨[], cs, m, rfl, hm, .inl ⟨.inl rfl, rfl⟩⟩
    · rintro ⟨sign, digits', m, hcs, hm, ⟨rfl | rfl, rfl⟩ | ⟨rfl, rfl⟩⟩
      · exact ⟨m, hcs ▸ hm, rfl⟩
      · exact absurd hcs (hplus digits')
      · exact absurd hcs (hminus digits')

lemma int32?_eq_some_iff {n : Int} : int32? cs = some n ↔ IsInt32 cs n := by
  rw [int32?, Option.filter_eq_some_iff, integer?_eq_some_iff, IsInt32]
  simp

end Text

namespace Property

/-- A part of a text between separators: a piece without its blank ends, unless nothing is left. -/
def IsPart (sep : Char) (text part : String) : Prop :=
  part ≠ "" ∧ ∃ piece, Text.IsPiece sep text.toList piece ∧ part.toList = Text.trim piece

lemma mem_parts_iff {sep : Char} {text part : String} :
    part ∈ parts sep text ↔ IsPart sep text part := by
  simp only [parts, List.mem_map, List.mem_filter, decide_eq_true_eq, IsPart, Text.mem_split_iff]
  constructor
  · rintro ⟨_, ⟨⟨piece, hpiece, rfl⟩, hne⟩, rfl⟩
    exact ⟨by simpa using hne, piece, hpiece, String.toList_ofList⟩
  · rintro ⟨hne, piece, hpiece, hpart⟩
    refine ⟨Text.trim piece, ⟨⟨piece, hpiece, rfl⟩, ?_⟩, ?_⟩
    · rwa [← hpart, ne_eq, String.toList_eq_nil_iff]
    · rw [← hpart, String.ofList_toList]

/-- A text without the separator is one part, unless it is blank. -/
lemma isPart_iff_of_not_mem {sep : Char} {text part : String} (h : sep ∉ text.toList) :
    IsPart sep text part ↔ part ≠ "" ∧ part.toList = Text.trim text.toList := by
  rw [IsPart]
  simp only [← Text.mem_split_iff, Text.split_of_not_mem h, List.mem_singleton, exists_eq_left]

/-- A separator between two texts separates their parts. -/
lemma parts_append {sep : Char} {first second text : String}
    (h : text.toList = first.toList ++ sep :: second.toList) :
    parts sep text = parts sep first ++ parts sep second := by
  simp only [parts, h, Text.split_append, List.map_append, List.filter_append]

/-- The value is `true` or `false`, in any case of the ASCII letters and between blanks. -/
def IsFlag (value : String) (flag : Bool) : Prop :=
  Text.lower (Text.trim value.toList) = (if flag then "true" else "false").toList

lemma boolean?_eq_some_iff {value : String} {flag : Bool} :
    boolean? value = some flag ↔ IsFlag value flag := by
  rw [boolean?, IsFlag]
  generalize Text.lower (Text.trim value.toList) = word
  by_cases htrue : word = "true".toList
  · rw [if_pos htrue, htrue]
    cases flag <;> decide
  · rw [if_neg htrue]
    by_cases hfalse : word = "false".toList
    · rw [if_pos hfalse, hfalse]
      cases flag <;> decide
    · rw [if_neg hfalse]
      cases flag
      · exact ⟨fun h => (by cases h), fun h => absurd h hfalse⟩
      · exact ⟨fun h => (by cases h), fun h => absurd h htrue⟩

lemma boolean?_eq_none_iff {value : String} :
    boolean? value = none ↔ ∀ flag, ¬ IsFlag value flag := by
  simp only [Option.eq_none_iff_forall_ne_some, ne_eq, boolean?_eq_some_iff]

end Property

end Activation
