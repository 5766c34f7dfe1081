/-
TOML strings, blanks and comments.

* `blanks`, `newline`, `comment`: what stands between the parts of a document.
* `basicString`, `literalString`: strings on one line, with and without escapes.
* `basicBlock`, `literalBlock`: strings of several lines between triple quotes;
  a newline after the opening quotes is dropped, every other newline is a line
  feed, and up to two quotes may stand before the closing ones.
-/
import Activation.Toml.Scanner

namespace Activation.Toml

open Scanner

/-- The quotation mark. -/
def quote : Char := '\x22'

/-- The apostrophe. -/
def apostrophe : Char := '\x27'

/-- The backslash. -/
def backslash : Char := '\x5c'

/-- A space or a tab. -/
def isSpace (c : Char) : Bool := c == ' ' || c == '\t'

/-- A tab or a character that is no control character. -/
def isPlain (c : Char) : Bool := c == '\t' || (0x20 ≤ c.toNat && c.toNat ≠ 0x7F)

/-- A character that stands for itself between quotation marks. -/
def isBasic (c : Char) : Bool := isPlain c && c != quote && c != backslash

/-- A character that can stand between apostrophes. -/
def isLiteral (c : Char) : Bool := isPlain c && c != apostrophe

/-- Spaces and tabs, if any. -/
def blanks : Scanner Unit := do
  let _ ← takeWhile isSpace

/-- A line feed, or a carriage return and a line feed. -/
def newline : Scanner Unit :=
  char '\n' <|> word "\r\n"

/-- A `#` and the rest of its line. -/
def comment : Scanner Unit := do
  char '#'
  let _ ← takeWhile isPlain

/-! ### Escapes -/

/-- The value of a hexadecimal digit. -/
def hexDigit? (c : Char) : Option Nat :=
  if '0' ≤ c ∧ c ≤ '9' then some (c.toNat - '0'.toNat)
  else if 'a' ≤ c ∧ c ≤ 'f' then some (c.toNat - 'a'.toNat + 10)
  else if 'A' ≤ c ∧ c ≤ 'F' then some (c.toNat - 'A'.toNat + 10)
  else none

/-- The value of digits in a base, each digit read by `digit?`. -/
def digitsValue (base : Nat) (digit? : Char → Option Nat) (digits : List Char) : Nat :=
  digits.foldl (fun value c => base * value + (digit? c).getD 0) 0

/-- The character with the code that `count` hexadecimal digits spell. -/
def codedChar (count : Nat) : Scanner Char := do
  let digits ← takeCount count fun c => (hexDigit? c).isSome
  let code := digitsValue 16 hexDigit? digits
  if code.isValidChar then return Char.ofNat code else failure

/-- The character that an escape stands for. -/
def escape : Scanner Char := do
  char backslash
  let c ← take? fun _ => true
  if c == 'b' then return '\x08'
  else if c == 't' then return '\t'
  else if c == 'n' then return '\n'
  else if c == 'f' then return '\x0c'
  else if c == 'r' then return '\r'
  else if c == quote || c == backslash then return c
  else if c == 'u' then codedChar 4
  else if c == 'U' then codedChar 8
  else failure

/-- A backslash at the end of a line with all blanks and newlines behind it, which stand for
nothing. -/
def lineContinuation : Scanner Unit := do
  char backslash
  blanks
  newline
  let _ ← many ((do let _ ← take? isSpace) <|> newline)

/-! ### Strings -/

/-- A string between quotation marks. -/
def basicString : Scanner String := do
  char quote
  let text ← many (take? isBasic <|> escape)
  char quote
  return String.ofList text

/-- A string between apostrophes. -/
def literalString : Scanner String := do
  char apostrophe
  let text ← takeWhile isLiteral
  char apostrophe
  return String.ofList text

/-- One or two quotes that do not belong to the end of a block. -/
def innerQuotes (mark : Char) : Scanner (List Char) := fun text =>
  let run := text.takeWhile (· == mark)
  let rest := text.dropWhile (· == mark)
  if (run.length = 1 ∨ run.length = 2) ∧ rest ≠ [] then some (run, rest) else none

/-- The end of a block: three quotes, with one or two before them that belong to the text. -/
def closingQuotes (mark : Char) : Scanner (List Char) := fun text =>
  let run := text.takeWhile (· == mark)
  if run.length < 3 then none
  else
    let inner := min (run.length - 3) 2
    some (run.take inner, text.drop (inner + 3))

/-- A string of several lines, given what its text is made of. -/
def block (mark : Char) (content : Scanner (List Char)) : Scanner String := do
  char mark
  char mark
  char mark
  let _ ← attempt newline
  let text ← many (content <|> innerQuotes mark)
  let last ← closingQuotes mark
  return String.ofList (text.flatten ++ last)

/-- A newline as part of a text. -/
def lineFeed : Scanner (List Char) := do
  newline
  return ['\n']

/-- A string of several lines with escapes. -/
def basicBlock : Scanner String :=
  block quote
    (takeWhile1 isBasic <|> (do lineContinuation; return []) <|> (do return [← escape]) <|> lineFeed)

/-- A string of several lines without escapes. -/
def literalBlock : Scanner String :=
  block apostrophe (takeWhile1 isLiteral <|> lineFeed)

/-- A string in any of its four forms. -/
def anyString : Scanner String :=
  basicBlock <|> basicString <|> literalBlock <|> literalString

end Activation.Toml
