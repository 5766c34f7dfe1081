/-
JSON texts made of strings, arrays and objects.

* `Json`: the values.
* `Json.escapedChar`, `Json.string`: strings, in which only quotation marks,
  backslashes and the control characters below the space are escaped.
* `Json.render`: a value over several lines, each level two spaces further in,
  with an empty array or object on one line.
-/

namespace Activation.Text

/-- A value of a JSON text. -/
inductive Json where
  | text (value : String)
  | array (elements : List Json)
  /-- Members in the order they are written. -/
  | object (members : List (String × Json))

namespace Json

instance : Inhabited Json := ⟨.array []⟩

/-- A character of a string: as it is, by a letter behind a backslash, or by its code in four
hexadecimal digits. -/
def escapedChar (c : Char) : String :=
  if c = '\x22' then "\\\""
  else if c = '\x5c' then "\\\\"
  else if c = '\x08' then "\\b"
  else if c = '\x0c' then "\\f"
  else if c = '\n' then "\\n"
  else if c = '\r' then "\\r"
  else if c = '\t' then "\\t"
  else if c.toNat < 0x10 then "\\u000" ++ String.ofList (Nat.toDigits 16 c.toNat)
  else if c.toNat < 0x20 then "\\u00" ++ String.ofList (Nat.toDigits 16 c.toNat)
  else c.toString

/-- A string between quotation marks. -/
def string (value : String) : String :=
  "\"" ++ String.join (value.toList.map escapedChar) ++ "\""

/-- The start of a line at a level. -/
def indent (level : Nat) : String :=
  "\n" ++ String.ofList (List.replicate (2 * level) ' ')

/-- Parts between brackets, each on a line of its own one level further in. -/
def bracketed (opening closing : String) (level : Nat) (parts : List String) : String :=
  if parts.isEmpty then opening ++ closing
  else
    opening ++ ",".intercalate (parts.map (indent (level + 1) ++ ·)) ++ indent level ++ closing

mutual

/-- A value whose first line starts at a level. -/
def renderAt (level : Nat) : Json → String
  | .text value => string value
  | .array elements => bracketed "[" "]" level (renderElements (level + 1) elements)
  | .object members => bracketed "\x7b" "\x7d" level (renderMembers (level + 1) members)

/-- The elements of an array. -/
def renderElements (level : Nat) : List Json → List String
  | [] => []
  | element :: elements => renderAt level element :: renderElements level elements

/-- The members of an object with their names. -/
def renderMembers (level : Nat) : List (String × Json) → List String
  | [] => []
  | (name, value) :: members =>
    (string name ++ ": " ++ renderAt level value) :: renderMembers level members

end

/-- A value over several lines. -/
def render (value : Json) : String := renderAt 0 value

/-- An array of strings. -/
def texts (values : List String) : Json := .array (values.map .text)

end Json

end Activation.Text
