/-
TOML numbers.

* `integer`: decimal digits with an optional sign, or hexadecimal, octal and
  binary ones behind their mark; single underscores may stand between digits,
  and the value must fit 64 bits.
* `float`: digits with a fraction, an exponent or both, or a named value. Only
  the spelling is kept, and a positive number too large for a binary float of
  double precision is refused.
-/
import Activation.Text.Decimal
import Activation.Toml.Quoted

namespace Activation.Toml

open Scanner

/-- One or more digits of a class with single underscores between them, which are left out. -/
def digits (class? : Char → Bool) : Scanner (List Char) := do
  let first ← take? class?
  let rest ← many (take? class? <|> (do char '_'; take? class?))
  return first :: rest

/-- Whether a character is an ASCII digit. -/
def isDigit (c : Char) : Bool := (Text.digit? c).isSome

/-- A sign, if there is one: whether the number is negative. -/
def sign : Scanner Bool := do
  match ← attempt (take? fun c => c == '+' || c == '-') with
  | some c => return c == '-'
  | none => return false

/-- Decimal digits without a leading zero, or a single zero. -/
def wholeDigits : Scanner (List Char) := do
  match ← peek? with
  | some '0' => do
    char '0'
    return ['0']
  | _ => digits isDigit

/-- The number that decimal digits spell. -/
def decimalValue (ds : List Char) : Nat := digitsValue 10 Text.digit? ds

/-- Whether an integer fits 64 bits. -/
def fits64 (value : Int) : Bool :=
  -9223372036854775808 ≤ value && value < 9223372036854775808

/-- A decimal integer. -/
def decimalInteger : Scanner Int := do
  let negative ← sign
  let magnitude := decimalValue (← wholeDigits)
  let value : Int := if negative then -(magnitude : Int) else magnitude
  if fits64 value then return value else failure

/-- An integer in another base behind its mark. -/
def markedInteger (mark : String) (base : Nat) : Scanner Int := do
  word mark
  let ds ← digits fun c =>
    match hexDigit? c with
    | some digit => digit < base
    | none => false
  let value : Int := (digitsValue base hexDigit? ds : Nat)
  if fits64 value then return value else failure

/-- An integer. -/
def integer : Scanner Int :=
  markedInteger "0x" 16 <|> markedInteger "0o" 8 <|> markedInteger "0b" 2 <|> decimalInteger

/-- The fraction of a float: its digits. -/
def fraction : Scanner (List Char) := do
  char '.'
  digits isDigit

/-- The exponent of a float. -/
def exponent : Scanner Int := do
  let _ ← take? fun c => c == 'e' || c == 'E'
  let negative ← sign
  let magnitude := decimalValue (← digits isDigit)
  return if negative then -(magnitude : Int) else magnitude

/-- The least number that the nearest binary float of double precision cannot hold. -/
def overflowLimit : Nat := Nat.pow 2 1024 - Nat.pow 2 970

/-- Whether the decimal number `ds` with its point moved by `power` places is below the
`overflowLimit`. -/
def isFinite (ds : List Char) (power : Int) : Bool :=
  let magnitude := decimalValue ds
  if magnitude = 0 then true
  else if 400 < power then false
  else if 0 ≤ power then magnitude * Nat.pow 10 power.toNat < overflowLimit
  else if (ds.length : Int) < -power then true
  else magnitude < overflowLimit * Nat.pow 10 (-power).toNat

/-- A float in digits. -/
def decimalFloat : Scanner Unit := do
  let negative ← sign
  let whole ← wholeDigits
  let part ← attempt fraction
  let power ← attempt exponent
  if part.isNone && power.isNone then failure
  let part := part.getD []
  if negative || isFinite (whole ++ part) (power.getD 0 - part.length) then return ()
  else failure

/-- A float by name. -/
def namedFloat : Scanner Unit := do
  let _ ← sign
  word "inf" <|> word "nan"

/-- A float, by its spelling. -/
def float : Scanner String := do
  return String.ofList (← spelling (decimalFloat <|> namedFloat))

end Activation.Toml
