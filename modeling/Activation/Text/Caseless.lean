/-
Letter case.

Names and Boolean words are compared without regard to the case of the ASCII
letters; every other character stands for itself.

* `lower`, `upper`: a text with its ASCII letters in one case.
* `sameCaseless`: equality up to the case of ASCII letters.
-/

namespace Activation.Text

/-- The text with `A` to `Z` in lower case. -/
def lower (cs : List Char) : List Char :=
  cs.map Char.toLower

/-- Equality up to the case of ASCII letters. -/
def sameCaseless (a b : List Char) : Bool :=
  lower a == lower b

end Activation.Text
