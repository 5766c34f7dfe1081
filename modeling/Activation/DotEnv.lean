/-
Variables from a `.env` text.

A text of lines `KEY=value` adds to the variables of a process. A value may be
quoted, and an open quotation goes on over the next lines; `$NAME` and
`${NAME}` stand for variables. A variable that is set already is kept, and the
first bad line ends the reading.

* `Lexing`, `logicalLines`: the lines, where a quotation may hold line feeds and
  a `#` behind a blank starts a comment.
* `Reading`, `value?`: the value a text spells.
* `assignment?`: the key and the value of a line.
* `Variables.extend`: the variables after a text was read.
-/
import Activation.Environment.Source
import Activation.Text.WordChar

namespace Activation.DotEnv

/-! ### Lines -/

/-- What a character is read in: plain text, a quotation, or just behind a blank or a backslash. -/
inductive Lexing where
  | plain
  | blank
  | escape
  | strong
  | strongEscape
  | weak
  | weakEscape
deriving DecidableEq, Inhabited

/-- What follows a character of plain text that is no blank. -/
def Lexing.afterMark (c : Char) : Lexing :=
  if c = '\x5c' then .escape
  else if c = '\x22' then .weak
  else if c = '\x27' then .strong
  else .plain

/-- What follows a character. -/
def Lexing.next (c : Char) : Lexing → Lexing
  | .plain => if Text.isBlank c && c ≠ '\n' && c ≠ '\r' then .blank else .afterMark c
  | .blank => .afterMark c
  | .escape => .plain
  | .strong => if c = '\x5c' then .strongEscape else if c = '\x27' then .plain else .strong
  | .strongEscape => .strong
  | .weak => if c = '\x5c' then .weakEscape else if c = '\x22' then .plain else .weak
  | .weakEscape => .weak

/-- A line up to a comment, and what it ends in; a line with a comment ends in none. -/
def lex (state : Lexing) : List Char → List Char × Option Lexing
  | [] => ([], some state)
  | c :: cs =>
    if state = .blank ∧ c = '#' then ([], none)
    else
      let rest := lex (state.next c) cs
      (c :: rest.1, rest.2)

/-- Whether the first character that is no blank is a `#`. -/
def isComment (line : List Char) : Bool :=
  (Text.trimLeft line).head? == some '#'

/-- A line without its end. -/
def dropEnd (line : List Char) : List Char :=
  if line.getLast? = some '\n' then Text.dropReturn line.dropLast else line

/-- The lines of a text cut behind line feeds, where `started` was read before; a line that is
not complete at the end is none. -/
def logicalLines (started : List Char) (state : Lexing) :
    List (List Char) → List (Option (List Char))
  | [] => if state = .plain then [] else [none]
  | line :: lines =>
    if isComment (started ++ line) then logicalLines [] .plain lines
    else
      let (kept, ending) := lex state line
      match ending with
      | none => some (started ++ kept) :: logicalLines [] .plain lines
      | some .plain => some (dropEnd (started ++ line)) :: logicalLines [] .plain lines
      | some unfinished => logicalLines (started ++ line) unfinished lines

/-! ### Values -/

/-- The part of a value that a character belongs to. -/
inductive Part where
  /-- The text itself, inside or outside quotation marks. -/
  | text
  /-- Just behind a backslash. -/
  | escape
  /-- Between apostrophes. -/
  | strong
  /-- A name behind a dollar sign. -/
  | name (chars : List Char)
  /-- A name between braces. -/
  | braced (chars : List Char)
  /-- Behind the value, where only blanks and a comment may stand. -/
  | behind
  /-- A comment. -/
  | comment
deriving DecidableEq, Inhabited

/-- A value in the making. -/
structure Reading where
  part : Part
  /-- Whether a quotation mark is open. -/
  quoted : Bool
  text : List Char
deriving DecidableEq, Inhabited

namespace Reading

/-- The value before its first character. -/
def start : Reading := ⟨.text, false, []⟩

/-- The reading with characters added to the text, in a part. -/
def push (reading : Reading) (chars : List Char) (part : Part) : Reading :=
  { reading with part, text := reading.text ++ chars }

/-- What a name stands for among the variables, nothing if it finds none. -/
def substitute (vars : Variables) (name : List Char) : List Char :=
  ((vars.value? (String.ofList name)).getD "").toList

/-- The reading after a character of the text itself. -/
def nextText (reading : Reading) (c : Char) : Reading :=
  if c = '$' then { reading with part := .name [] }
  else if c = '\x5c' then { reading with part := .escape }
  else if c = '\x22' then { reading with quoted := !reading.quoted }
  else if reading.quoted then reading.push [c] .text
  else if c = '\x27' then { reading with part := .strong }
  else if c = ' ' ∨ c = '\t' then { reading with part := .behind }
  else reading.push [c] .text

/-- The reading after one more character. -/
def next (vars : Variables) (reading : Reading) (c : Char) : Option Reading :=
  match reading.part with
  | .text => some (reading.nextText c)
  | .escape =>
    if c ∈ ['\x5c', '\x27', '\x22', '$', ' '] then some (reading.push [c] .text)
    else if c = 'n' then some (reading.push ['\n'] .text)
    else none
  | .strong =>
    some (if c = '\x27' then { reading with part := .text } else reading.push [c] .strong)
  | .name chars =>
    if Text.isWordChar c then some { reading with part := .name (chars ++ [c]) }
    else if c = '\x7b' ∧ chars = [] then some { reading with part := .braced [] }
    else
      let value := substitute vars chars
      if c = '$' then some (reading.push value (.name []))
      else some (reading.push (value ++ [c]) .text)
  | .braced chars =>
    if c = '\x7d' then some (reading.push (substitute vars chars) .text)
    else some { reading with part := .braced (chars ++ [c]) }
  | .behind =>
    if c = ' ' ∨ c = '\t' then some reading
    else if c = '#' then some { reading with part := .comment }
    else none
  | .comment => some reading

/-- The value at the end of the line, where no quotation and no brace may be open. -/
def finish (vars : Variables) (reading : Reading) : Option (List Char) :=
  if reading.quoted then none
  else match reading.part with
    | .strong => none
    | .braced _ => none
    | .name chars => some (reading.text ++ substitute vars chars)
    | _ => some reading.text

end Reading

/-- The value a text spells under variables. -/
def value? (vars : Variables) (text : List Char) : Option (List Char) := do
  let reading ← text.foldlM (Reading.next vars) .start
  reading.finish vars

/-! ### Assignments -/

/-- The key at the start of a text, and the text behind it. -/
def key? (text : List Char) : Option (List Char × List Char) :=
  match text with
  | [] => none
  | c :: _ =>
    if c.isAlpha || c = '_' then
      let isKeyChar (c : Char) := c.isAlphanum || c = '_' || c = '.'
      some (text.takeWhile isKeyChar, text.dropWhile isKeyChar)
    else none

/-- The text behind an equals sign. -/
def behindEquals? : List Char → Option (List Char)
  | '=' :: rest => some rest
  | _ => none

/-- The key at the start of a line, and the text behind its equals sign; the word `export` may
stand before the key, and is the key where an equals sign follows it. -/
def keyed? (line : List Char) : Option (List Char × List Char) := do
  let (key, rest) ← key? line
  let rest := Text.trimLeft rest
  match behindEquals? rest with
  | some rest => return (key, rest)
  | none =>
    if key = "export".toList then
      let (key, rest) ← key? rest
      let rest ← behindEquals? (Text.trimLeft rest)
      return (key, rest)
    else none

/-- Whether nothing or only a comment is left of a line. -/
def isIdle (line : List Char) : Bool :=
  line.isEmpty || line.head? == some '#'

/-- The key and the value of a line that is not idle. -/
def assignment? (vars : Variables) (line : List Char) : Option (String × String) := do
  let (key, rest) ← keyed? line
  let rest := Text.trimLeft rest
  let value ← if isIdle rest then some [] else value? vars rest
  return (String.ofList key, String.ofList value)

/-- The variables after lines, up to the first that is bad. -/
def extendByLines (vars : Variables) : List (Option (List Char)) → Variables
  | [] => vars
  | none :: _ => vars
  | some line :: lines =>
    let line := Text.trim line
    if isIdle line then extendByLines vars lines
    else match assignment? vars line with
      | none => vars
      | some (key, value) => extendByLines (vars.setNew key value) lines

/-- The text without a mark of the byte order at its start. -/
def dropMark (text : List Char) : List Char :=
  match text with
  | '\ufeff' :: rest => rest
  | _ => text

end DotEnv

/-- The variables after a `.env` text was read. -/
def Variables.extend (vars : Variables) (contents : String) : Variables :=
  DotEnv.extendByLines vars
    (DotEnv.logicalLines [] .plain (Text.cutBehind '\n' (DotEnv.dropMark contents.toList)))

end Activation
