/-
Blank characters and trimming.

Every value that a person writes into an index, a list or a property is
trimmed before it is read, and blank means the Unicode property `White_Space`,
not the ASCII blanks alone.

* `blankRanges`, `isBlank`: the 25 characters of the property.
* `trimLeft`, `trimRight`, `trim`: a text without its blank ends.
* `isBlank_of_isWhitespace`: the core library's white space is blank.
-/

namespace Activation.Text

/-- The ranges of the characters with the Unicode property `White_Space`. -/
def blankRanges : List (Nat × Nat) :=
  [(0x09, 0x0D), (0x20, 0x20), (0x85, 0x85), (0xA0, 0xA0), (0x1680, 0x1680),
   (0x2000, 0x200A), (0x2028, 0x2029), (0x202F, 0x202F), (0x205F, 0x205F), (0x3000, 0x3000)]

/-- A blank is a character of one of the `blankRanges`. -/
def isBlank (c : Char) : Bool :=
  blankRanges.any fun range => range.1 ≤ c.toNat && c.toNat ≤ range.2

/-- The text from its first character that is not blank. -/
def trimLeft (cs : List Char) : List Char :=
  cs.dropWhile isBlank

/-- The text up to its last character that is not blank. -/
def trimRight (cs : List Char) : List Char :=
  (cs.reverse.dropWhile isBlank).reverse

/-- The text without its blank ends. -/
def trim (cs : List Char) : List Char :=
  trimRight (trimLeft cs)

/-! ### Basic facts -/

/-- The core library's white space is blank. -/
theorem isBlank_of_isWhitespace {c : Char} (h : c.isWhitespace) : isBlank c := by
  simp only [Char.isWhitespace, Bool.or_eq_true, decide_eq_true_eq] at h
  rcases h with ((rfl | rfl) | rfl) | rfl <;> decide

end Activation.Text
