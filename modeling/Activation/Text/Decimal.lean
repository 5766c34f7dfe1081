/-
Decimal numbers in text.

* `digit?`, `natural?`: a digit, and one or more digits, of ASCII only.
* `integer?`: digits with an optional sign in front.
* `int32?`: an integer that fits 32 bits; blanks, underscores and other digits
  are refused.
-/

namespace Activation.Text

/-- The value of an ASCII digit. -/
def digit? (c : Char) : Option Nat :=
  if '0' ≤ c ∧ c ≤ '9' then some (c.toNat - '0'.toNat) else none

/-- The value of one or more ASCII digits. -/
def natural? (cs : List Char) : Option Nat :=
  if cs = [] then none
  else cs.foldlM (fun value c => (digit? c).map (10 * value + ·)) 0

/-- The value of one or more ASCII digits with an optional sign in front. -/
def integer? : List Char → Option Int
  | '+' :: cs => (natural? cs).map fun value => (value : Int)
  | '-' :: cs => (natural? cs).map fun value => -(value : Int)
  | cs => (natural? cs).map fun value => (value : Int)

/-- An integer of 32 bits: between `-2 ^ 31` and `2 ^ 31 - 1`. -/
def int32? (cs : List Char) : Option Int :=
  (integer? cs).filter fun value => -2147483648 ≤ value && value < 2147483648

end Activation.Text
