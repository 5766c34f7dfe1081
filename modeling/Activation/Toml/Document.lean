/-
TOML documents.

* `value`: a string, number, Boolean, date, array or table in braces. Brackets
  and braces nest to a limited depth.
* `Statement`, `statements`: the lines of a document that say something.
* `parse`: the tree of a document, none when the text is no document.
-/
import Activation.Toml.Datetime
import Activation.Toml.Node

namespace Activation.Toml

open Scanner

/-- The depth to which brackets and braces nest, and the number of parts of a key. -/
def depthLimit : Nat := 79

/-- A word with a meaning of its own. -/
def boolean : Scanner Bool :=
  (do word "true"; return true) <|> (do word "false"; return false)

/-- A value without parts. -/
def scalar : Scanner Node :=
  (do return .string (← anyString)) <|>
  (do return .datetime (← datetime)) <|>
  (do return .float (← float)) <|>
  (do return .integer (← integer)) <|>
  (do return .boolean (← boolean))

/-! ### Keys -/

/-- A letter, digit, `_` or `-` of ASCII. -/
def isBareKey (c : Char) : Bool :=
  c.isAlphanum || c == '_' || c == '-'

/-- One part of a key. -/
def keyPart : Scanner String :=
  basicString <|> literalString <|> (do return String.ofList (← takeWhile1 isBareKey))

/-- A key: the parts before the last dot, and the last part. -/
def key : Scanner (List String × String) := do
  let parts ← separated (do blanks; let part ← keyPart; blanks; return part) (char '.')
  match parts.getLast? with
  | none => failure
  | some last => if parts.length ≤ depthLimit then return (parts.dropLast, last) else failure

/-! ### Values -/

/-- Blanks, newlines and comments between the parts of an array. -/
def arraySpace : Scanner Unit := do
  blanks
  let _ ← many do
    let _ ← attempt comment
    newline
    blanks

/-- An array, given what its elements are. -/
def array (element : Scanner Node) : Scanner Node := do
  char '['
  let elements ← attempt do
    let elements ← separated (do arraySpace; let node ← element; arraySpace; return node) (char ',')
    let _ ← attempt (char ',')
    return elements
  arraySpace
  char ']'
  return .array (elements.getD [])

/-- A key and its value in braces. -/
def bracedPair (element : Scanner Node) : Scanner ((List String × String) × Node) := do
  let name ← key
  char '='
  blanks
  let node ← element
  blanks
  return (name, node)

/-- A table in braces, given what its values are; it stands on one line and has no final comma. -/
def bracedTable (element : Scanner Node) : Scanner Node := do
  char '{'
  let pairs ← attempt (separated (bracedPair element) (char ','))
  blanks
  char '}'
  let entries ← (pairs.getD []).foldlM (fun entries pair =>
    (Node.addKey pair.1.1 pair.1.2 pair.2 entries : Scanner Entries)) []
  return .table .braces entries

/-- A value in which brackets and braces nest at most `depth` deep. -/
def value : Nat → Scanner Node
  | 0 => scalar
  | depth + 1 => scalar <|> array (value depth) <|> bracedTable (value depth)

/-! ### Statements -/

/-- A line that says something. -/
inductive Statement where
  /-- The header of a table. -/
  | table (path : List String) (key : String)
  /-- The header of an element of an array of tables. -/
  | element (path : List String) (key : String)
  /-- A value for a key of the table of the last header. -/
  | pair (path : List String) (key : String) (value : Node)

/-- The end of a line, with blanks and a comment before it. -/
def lineEnd : Scanner Unit := do
  blanks
  let _ ← attempt comment
  newline <|> ended

/-- The header of an element of an array of tables. -/
def elementHeader : Scanner Statement := do
  word "[["
  let (path, name) ← key
  word "]]"
  return .element path name

/-- The header of a table. -/
def tableHeader : Scanner Statement := do
  char '['
  let (path, name) ← key
  char ']'
  return .table path name

/-- A key and its value. -/
def pair : Scanner Statement := do
  let (path, name) ← key
  char '='
  blanks
  return .pair path name (← value depthLimit)

/-- A line with a statement. -/
def statementLine : Scanner (Option Statement) := do
  blanks
  let statement ← elementHeader <|> tableHeader <|> pair
  lineEnd
  return some statement

/-- A line that is blank or a comment. -/
def emptyLine : Scanner (Option Statement) := do
  blanks
  let _ ← attempt comment
  newline
  return none

/-- The statements of a text. -/
def statements : Scanner (List Statement) := do
  let _ ← attempt (char '\ufeff')
  let found ← many (emptyLine <|> statementLine)
  blanks
  let _ ← attempt comment
  ended
  return found.filterMap id

/-! ### Trees -/

/-- A document in the making: its entries, and the path of the table of the last header. -/
structure Draft where
  entries : Entries
  current : List String

/-- The document with one more statement. -/
def Draft.add (draft : Draft) : Statement → Option Draft
  | .table path name =>
    (Node.openTable path name draft.entries).map (Draft.mk · (path ++ [name]))
  | .element path name =>
    (Node.openElement path name draft.entries).map (Draft.mk · (path ++ [name]))
  | .pair path name node =>
    (Node.within (Node.addKey path name node) draft.current draft.entries).map
      (Draft.mk · draft.current)

/-- The entries of the document a text spells. -/
def parse (text : String) : Option Entries := do
  let (found, _) ← statements text.toList
  let draft ← found.foldlM Draft.add ⟨[], []⟩
  return draft.entries

end Activation.Toml
