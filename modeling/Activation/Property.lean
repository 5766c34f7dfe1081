/-
Typed readings of a property value.

* `Property.boolean?`: `true` or `false` in any case, blank ends ignored.
* `Property.boolean`: the same with a failure that names the property.
* `Property.entries`: the parts of a comma-separated list, trimmed, empty ones
  left out.
-/
import Activation.Error
import Activation.Text.Blank
import Activation.Text.Caseless
import Activation.Text.Split

namespace Activation.Property

/-- The Boolean that a value spells, in any case and between blanks. -/
def boolean? (value : String) : Option Bool :=
  let word := Text.lower (Text.trim value.toList)
  if word = "true".toList then some true
  else if word = "false".toList then some false
  else none

/-- The Boolean that the value of a property spells. -/
def boolean (key value : String) : Except ResolveError Bool :=
  match boolean? value with
  | some flag => .ok flag
  | none => .error (.invalidProperty key value)

/-- The trimmed parts of a text between separators, without the empty ones. -/
def parts (separator : Char) (value : String) : List String :=
  (((Text.split separator value.toList).map Text.trim).filter (· ≠ [])).map String.ofList

/-- The entries of a comma-separated list. -/
def entries (value : String) : List String :=
  parts ',' value

end Activation.Property
