/-
Reading text from the front.

A scanner takes some of the characters before it or fails, and an alternative
starts again where the failed one started.

* `Scanner`: the type, with its sequencing and alternatives.
* `take?`, `takeWhile`, `word`, `ended`: characters, runs, given words, the end.
* `attempt`, `many`, `separated`, `spelling`: options, repetitions, lists, and
  the characters that a scanner takes.
-/

namespace Activation.Toml

/-- Takes characters from the front of a text or fails. -/
abbrev Scanner := StateT (List Char) Option

namespace Scanner

variable {α β : Type}

/-- One character of a class. -/
def take? (class? : Char → Bool) : Scanner Char := fun text =>
  match text with
  | [] => none
  | c :: rest => if class? c then some (c, rest) else none

/-- The character `c`. -/
def char (c : Char) : Scanner Unit := do
  let _ ← take? (· == c)

/-- The longest run of characters of a class, possibly empty. -/
def takeWhile (class? : Char → Bool) : Scanner (List Char) := fun text =>
  some (text.takeWhile class?, text.dropWhile class?)

/-- The longest run of characters of a class, at least one. -/
def takeWhile1 (class? : Char → Bool) : Scanner (List Char) := do
  let run ← takeWhile class?
  if run.isEmpty then failure else return run

/-- Exactly `count` characters of a class. -/
def takeCount (count : Nat) (class? : Char → Bool) : Scanner (List Char) := fun text =>
  let run := text.take count
  if run.length = count ∧ run.all class? then some (run, text.drop count) else none

/-- The characters of a word. -/
def word (text : String) : Scanner Unit :=
  text.toList.forM char

/-- Succeeds at the end of the text. -/
def ended : Scanner Unit := fun text =>
  if text.isEmpty then some ((), []) else none

/-- The next character, which is not taken. -/
def peek? : Scanner (Option Char) := fun text =>
  some (text.head?, text)

/-- What a scanner reads, if it does not fail. -/
def attempt (scanner : Scanner α) : Scanner (Option α) := fun text =>
  match scanner text with
  | some (a, rest) => some (some a, rest)
  | none => some (none, text)

/-- What a scanner reads again and again, at most once for each character of `bound`. -/
def manyWithin (scanner : Scanner α) : List Char → Scanner (List α)
  | [] => return []
  | _ :: bound => fun text =>
    match scanner text with
    | none => some ([], text)
    | some (a, rest) =>
      (manyWithin scanner bound rest).map fun found => (a :: found.1, found.2)

/-- What a scanner that takes at least one character each time reads until it fails. -/
def many (scanner : Scanner α) : Scanner (List α) := fun text =>
  manyWithin scanner text text

/-- One or more items with separators between them. -/
def separated (item : Scanner α) (separator : Scanner Unit) : Scanner (List α) := do
  let first ← item
  let rest ← many do
    separator
    item
  return first :: rest

/-- The characters that a scanner takes. -/
def spelling (scanner : Scanner α) : Scanner (List Char) := fun text =>
  match scanner text with
  | none => none
  | some (_, rest) => some (text.take (text.length - rest.length), rest)

end Scanner

end Activation.Toml
