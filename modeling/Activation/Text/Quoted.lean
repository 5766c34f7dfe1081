/-
Names between quotation marks.

A list of names is written so that it stays on one line and shows what it
holds: quotation marks, backslashes and characters that are hidden are escaped.

* `quotedChar`, `quoted`: a character and a name as they are written.
* `quotedList`: names between brackets.
* `lineFeed_not_mem_quotedList`: whatever the names hold, they stay on one line.
-/
import Activation.Text.Shown

namespace Activation.Text

/-- A character inside quotation marks: as it is, by a letter behind a backslash, or by its code
between braces. -/
def quotedChar (c : Char) : String :=
  if c = '\x00' then "\\0"
  else if c = '\t' then "\\t"
  else if c = '\n' then "\\n"
  else if c = '\r' then "\\r"
  else if c = '\x5c' then "\\\\"
  else if c = '\x22' then "\\\""
  else if isShown c then c.toString
  else "\\u\x7b" ++ String.ofList (Nat.toDigits 16 c.toNat) ++ "\x7d"

/-- A name between quotation marks. -/
def quoted (name : String) : String :=
  "\"" ++ String.join (name.toList.map quotedChar) ++ "\""

/-- Names between brackets, each between quotation marks. -/
def quotedList (names : List String) : String :=
  "[" ++ ", ".intercalate (names.map quoted) ++ "]"

/-! ### One line -/

theorem lineFeed_not_mem_toDigits (n : Nat) : '\n' ∉ Nat.toDigits 16 n := by
  have hdigit : ∀ d < 16, '\n' ≠ Nat.digitChar d := by decide
  induction n using Nat.strongRecOn with
  | ind n ih =>
    rw [Nat.toDigits_eq_if (by decide)]
    split
    · rename_i hsmall
      exact fun h => hdigit n hsmall (List.mem_singleton.mp h)
    · rename_i hlarge
      rw [List.mem_append, List.mem_singleton]
      rintro (h | h)
      · exact ih (n / 16) (by omega) h
      · exact hdigit (n % 16) (by omega) h

theorem lineFeed_not_mem_quotedChar (c : Char) : '\n' ∉ (quotedChar c).toList := by
  by_cases hfeed : '\n' = c
  · subst hfeed
    decide
  · have hdigits := lineFeed_not_mem_toDigits c.toNat
    unfold quotedChar
    repeat' split
    all_goals simp [hdigits, hfeed]

theorem lineFeed_not_mem_quoted (name : String) : '\n' ∉ (quoted name).toList := by
  simp [quoted, lineFeed_not_mem_quotedChar]

theorem lineFeed_not_mem_intercalate {names : List String}
    (h : ∀ name ∈ names, '\n' ∉ name.toList) : '\n' ∉ (", ".intercalate names).toList := by
  induction names with
  | nil => simp
  | cons name names ih =>
    obtain ⟨hname, hnames⟩ := List.forall_mem_cons.mp h
    cases names with
    | nil => simpa using hname
    | cons second names => simpa [String.intercalate_cons_of_ne_nil, hname] using ih hnames

/-- **A list of names stays on one line.** -/
theorem lineFeed_not_mem_quotedList (names : List String) :
    '\n' ∉ (quotedList names).toList := by
  have hnames : ∀ name ∈ names.map quoted, '\n' ∉ name.toList := by
    simp [lineFeed_not_mem_quoted]
  rw [quotedList, String.toList_append, String.toList_append, List.mem_append, List.mem_append]
  rintro ((h | h) | h)
  · exact absurd h (by decide)
  · exact lineFeed_not_mem_intercalate hnames h
  · exact absurd h (by decide)

end Activation.Text
