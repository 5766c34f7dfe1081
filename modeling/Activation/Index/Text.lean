/-
The text of a metadata index.

An index is written one assignment to a line, `<id>.<Attribute>=<value>`. The
key ends at the first `=`, and the last `.` of the key separates the attribute,
so that ids may hold dots. Blank lines and lines that start with `#` or `!` say
nothing.

* `isSignificant`, `assignment?`: whether a trimmed line says anything, and what.
* `Index.parse`: the index a text spells; the first bad line in text order is
  reported, a line without the form by its number, a value of the wrong type by
  its key.
-/
import Activation.Index

namespace Activation

/-- Whether a trimmed line is neither empty nor a comment. -/
def isSignificant (line : List Char) : Bool :=
  match line with
  | [] => false
  | c :: _ => c ≠ '#' && c ≠ '!'

/-- The assignment a trimmed line spells. -/
def assignment? (line : List Char) : Option Assignment := do
  let (key, value) ← Text.splitFirst '=' line
  let (id, name) ← Text.splitLast '.' (Text.trim key)
  if id = [] ∨ name = [] then none
  else some ⟨String.ofList id, String.ofList name, String.ofList (Text.trim value)⟩

/-- The trimmed significant lines of a text with their numbers, counted from one over all lines. -/
def significantLines (contents : String) : List (List Char × Nat) :=
  (((Text.lines contents.toList).map Text.trim).zipIdx 1).filter fun line => isSignificant line.1

namespace Index

/-- The index after one significant line. -/
def insertLine (index : Index) (line : List Char × Nat) : Except IndexFault Index :=
  match assignment? line.1 with
  | none => .error (.malformedLine line.2 (String.ofList line.1))
  | some a =>
    match index.insert a with
    | (.error fault, _) => .error fault
    | (.ok (), inserted) => .ok inserted

/-- The index a text spells. -/
def parse (contents : String) : Except IndexFault Index :=
  (significantLines contents).foldlM insertLine .empty

end Index

end Activation
