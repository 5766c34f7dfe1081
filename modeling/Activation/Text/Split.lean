/-
Cutting a text at a separator and into lines.

* `split`: the pieces between the occurrences of a separator, at least one.
* `splitFirst`, `splitLast`: the two sides of the first and of the last
  occurrence, if there is one.
* `after?`: what follows an opening.
* `lines`: the lines of a text; a line ends with a line feed, which may follow
  a carriage return, and the last one may be unterminated.
* `cutBehind`: a list cut behind every occurrence of a mark.
* `split_append`: cutting a joined text gives the pieces of both parts.
-/

namespace Activation.Text

/-- The pieces between the occurrences of `sep`: one more than there are occurrences. -/
def split (sep : Char) : List Char → List (List Char)
  | [] => [[]]
  | c :: cs =>
    if c = sep then [] :: split sep cs
    else match split sep cs with
      | [] => [[c]]
      | piece :: pieces => (c :: piece) :: pieces

/-- The two sides of the first occurrence of `sep`. -/
def splitFirst (sep : Char) (cs : List Char) : Option (List Char × List Char) :=
  match cs.dropWhile (· ≠ sep) with
  | [] => none
  | _ :: after => some (cs.takeWhile (· ≠ sep), after)

/-- The two sides of the last occurrence of `sep`. -/
def splitLast (sep : Char) (cs : List Char) : Option (List Char × List Char) :=
  (splitFirst sep cs.reverse).map fun sides => (sides.2.reverse, sides.1.reverse)

/-- What follows `opening` in a text that starts with it. -/
def after? : List Char → List Char → Option (List Char)
  | [], cs => some cs
  | _ :: _, [] => none
  | o :: opening, c :: cs => if o = c then after? opening cs else none

/-- A line without the carriage return before its line feed. -/
def dropReturn (line : List Char) : List Char :=
  if line.getLast? = some '\r' then line.dropLast else line

/-- The lines of a text; the piece after the last line feed is a line only when it is not
empty, and it keeps a final carriage return. -/
def lines (cs : List Char) : List (List Char) :=
  let pieces := split '\n' cs
  pieces.dropLast.map dropReturn ++ pieces.getLast?.toList.filter (· ≠ [])

/-- A list cut behind every occurrence of a mark; no part is empty. -/
def cutBehind {α : Type} [DecidableEq α] (mark : α) : List α → List (List α)
  | [] => []
  | a :: as =>
    if a = mark then [a] :: cutBehind mark as
    else match cutBehind mark as with
      | [] => [[a]]
      | part :: parts => (a :: part) :: parts

/-! ### Basic facts -/

/-- The opening and what follows it make up the text. -/
theorem after?_eq_some_iff {opening cs rest : List Char} :
    after? opening cs = some rest ↔ cs = opening ++ rest := by
  induction opening generalizing cs with
  | nil => simp [after?]
  | cons o opening ih =>
    cases cs with
    | nil => simp [after?]
    | cons c cs =>
      by_cases h : o = c
      · simp [after?, h, ih]
      · simp [after?, h, Ne.symm h]

/-- Cutting loses nothing. -/
theorem flatten_cutBehind {α : Type} [DecidableEq α] (mark : α) (as : List α) :
    (cutBehind mark as).flatten = as := by
  induction as with
  | nil => rfl
  | cons a as ih =>
    simp only [cutBehind]
    split
    · simp [ih]
    · split
      · rename_i h
        rw [h] at ih
        rw [← ih]
        rfl
      · rename_i part parts h
        rw [h] at ih
        rw [← ih]
        rfl

theorem split_ne_nil (sep : Char) (cs : List Char) : split sep cs ≠ [] := by
  cases cs with
  | nil => simp [split]
  | cons c cs =>
    simp only [split]
    split
    · simp
    · split <;> simp

/-- A separator between two texts separates their pieces. -/
theorem split_append (sep : Char) (a b : List Char) :
    split sep (a ++ sep :: b) = split sep a ++ split sep b := by
  induction a with
  | nil => simp [split]
  | cons c a ih =>
    simp only [List.cons_append, split, ih]
    split
    · rfl
    · cases h : split sep a with
      | nil => exact absurd h (split_ne_nil sep a)
      | cons piece pieces => rfl

/-- No piece holds the separator. -/
theorem not_mem_of_mem_split {sep : Char} {cs piece : List Char} (h : piece ∈ split sep cs) :
    sep ∉ piece := by
  induction cs generalizing piece with
  | nil =>
    simp only [split, List.mem_singleton] at h
    simp [h]
  | cons c cs ih =>
    simp only [split] at h
    split at h
    · rcases List.mem_cons.mp h with rfl | h
      · simp
      · exact ih h
    · rename_i hc
      split at h
      · rename_i hs
        exact absurd hs (split_ne_nil sep cs)
      · rename_i first rest hs
        rcases List.mem_cons.mp h with rfl | h
        · have := ih (hs ▸ List.mem_cons_self)
          simp only [List.mem_cons, not_or]
          exact ⟨fun e => hc e.symm, this⟩
        · exact ih (hs ▸ List.mem_cons_of_mem first h)

end Activation.Text
