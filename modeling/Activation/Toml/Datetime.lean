/-
TOML dates and times.

* `datetime`: a date, a time of day, or a date and a time with an optional
  offset from universal time, in its one normal spelling: `T` before the time,
  a fraction of at most nine places without final zeros, `Z` for an offset
  written so, and every other offset as signed hours and minutes.
-/
import Activation.Toml.Number

namespace Activation.Toml

open Scanner

/-- A number of exactly `count` digits within bounds. -/
def fixedNumber (count low high : Nat) : Scanner Nat := do
  let value := decimalValue (← takeCount count isDigit)
  if low ≤ value ∧ value ≤ high then return value else failure

/-- A number with leading zeros up to a width. -/
def padded (width value : Nat) : String :=
  let text := toString value
  String.ofList (List.replicate (width - text.length) '0') ++ text

/-- The number of days in a month. -/
def monthLength (year month : Nat) : Nat :=
  if month = 2 then
    if year % 4 = 0 ∧ (year % 100 ≠ 0 ∨ year % 400 = 0) then 29 else 28
  else if month = 4 ∨ month = 6 ∨ month = 9 ∨ month = 11 then 30
  else 31

/-- A day of the calendar. -/
def date : Scanner String := do
  let year ← fixedNumber 4 0 9999
  char '-'
  let month ← fixedNumber 2 1 12
  char '-'
  let day ← fixedNumber 2 1 (monthLength year month)
  return padded 4 year ++ "-" ++ padded 2 month ++ "-" ++ padded 2 day

/-- The places of a fraction of a second, nine at most and without final zeros. -/
def secondFraction : Scanner String := do
  char '.'
  let places ← takeWhile1 isDigit
  let kept := ((places.take 9).reverse.dropWhile (· == '0')).reverse
  return if kept.isEmpty then "" else "." ++ String.ofList kept

/-- A time of day. -/
def timeOfDay : Scanner String := do
  let hour ← fixedNumber 2 0 23
  char ':'
  let minute ← fixedNumber 2 0 59
  char ':'
  let second ← fixedNumber 2 0 60
  let part ← attempt secondFraction
  return padded 2 hour ++ ":" ++ padded 2 minute ++ ":" ++ padded 2 second ++ part.getD ""

/-- An offset from universal time. -/
def offset : Scanner String :=
  (do
    let _ ← take? fun c => c == 'Z' || c == 'z'
    return "Z") <|>
  (do
    let negative := (← take? fun c => c == '+' || c == '-') == '-'
    let hour ← fixedNumber 2 0 23
    char ':'
    let minute ← fixedNumber 2 0 59
    let mark := if negative && (hour != 0 || minute != 0) then "-" else "+"
    return mark ++ padded 2 hour ++ ":" ++ padded 2 minute)

/-- A time behind a date. -/
def timeBehindDate : Scanner String := do
  let _ ← take? fun c => c == 'T' || c == 't' || c == ' '
  let time ← timeOfDay
  let zone ← attempt offset
  return "T" ++ time ++ zone.getD ""

/-- A date, a date with a time, or a time. -/
def datetime : Scanner String :=
  (do
    let day ← date
    let time ← attempt timeBehindDate
    return day ++ time.getD "") <|> timeOfDay

end Activation.Toml
