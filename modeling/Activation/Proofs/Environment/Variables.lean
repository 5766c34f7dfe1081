/-
What is found among the variables of a process.

A key finds the variable of its own name, or else the one of the name that it is
mapped to. Texts that cannot name a variable find none.

* `Variables.Sets`, `value?_eq_some_iff`: the variable of a name, and its value.
* `isVariableKey_iff`, `relaxed`: the texts that can name a variable, and what becomes
  of a character of a key in the name that the key is mapped to.
* `variableName_variableName`, `variableKey_variableName`: such a name is mapped to
  itself, and can name a variable when its key can.
* `Variables.Answers`, `property_eq_some_iff`: the variable that a key finds.
-/
import Mathlib.Data.List.Basic
import Mathlib.Tactic.Lemma
import Activation.Environment.Source

namespace Activation

/-! ### Variables -/

namespace Variables

variable {vars : Variables} {key name value : String}

/-- The variable of a name has a value: the first text that sets the name sets it to the value. -/
def Sets (vars : Variables) (name value : String) : Prop :=
  ∃ before behind, vars.settings = before ++ setting name value :: behind ∧
    ∀ earlier ∈ before, ∀ other, earlier ≠ setting name other

/-- What a key finds among variables, unless no variable can have its name: the variable of that very
name, and if there is none, the one of the name that the key maps to. -/
def Answers (vars : Variables) (key value : String) : Prop :=
  (key ≠ "" ∧ '=' ∉ key.toList ∧ '\x00' ∉ key.toList) ∧
    (vars.Sets key value ∨ (∀ other, ¬ vars.Sets key other) ∧ vars.Sets (variableName key) value)

lemma after?_setting_iff {text rest : List Char} :
    Text.after? (name.toList ++ ['=']) text = some rest ↔
      text = setting name (String.ofList rest) := by
  rw [Text.after?_eq_some_iff, setting, String.toList_ofList, List.append_assoc,
    List.singleton_append]

lemma value?_eq_some_iff (hname : name ≠ "") :
    vars.value? name = some value ↔ vars.Sets name value := by
  have hnone : ∀ text : List Char, Text.after? (name.toList ++ ['=']) text = none ↔
      ∀ other, text ≠ setting name other := by
    intro text
    rw [Option.eq_none_iff_forall_ne_some]
    simp only [ne_eq, after?_setting_iff]
    exact ⟨fun h other heq => h other.toList (by rwa [String.ofList_toList]),
      fun h rest => h (String.ofList rest)⟩
  rw [value?, if_neg hname, Option.map_eq_some_iff, Sets]
  simp only [List.findSome?_eq_some_iff, hnone, after?_setting_iff]
  constructor
  · rintro ⟨rest, ⟨before, text, behind, hsettings, rfl, hbefore⟩, rfl⟩
    exact ⟨before, behind, hsettings, hbefore⟩
  · rintro ⟨before, behind, hsettings, hbefore⟩
    exact ⟨value.toList, ⟨before, _, behind, hsettings, by rw [String.ofList_toList], hbefore⟩,
      String.ofList_toList⟩

end Variables

/-! ### Names of variables -/

/-- A character of a key as it stands in the name of a variable. -/
def relaxed (c : Char) : Char :=
  if c = '.' ∨ c = '-' then '_' else c.toUpper

lemma toList_variableName (key : String) :
    (variableName key).toList = key.toList.map relaxed := by
  rw [variableName, String.toList_ofList]
  rfl

lemma toUpper_cases (c : Char) : c.toUpper = c ∨ 'A' ≤ c.toUpper ∧ c.toUpper ≤ 'Z' := by
  unfold Char.toUpper
  split
  · rename_i h
    right
    simp only [Char.le_def, UInt32.le_iff_toNat_le, UInt32.toNat_add] at h ⊢
    have ha : 'a'.val.toNat = 97 := rfl
    have hz : 'z'.val.toNat = 122 := rfl
    have hA : 'A'.val.toNat = 65 := rfl
    have hZ : 'Z'.val.toNat = 90 := rfl
    have hdistance : ('A'.val - 'a'.val).toNat = 4294967264 := rfl
    omega
  · exact .inl rfl

lemma toUpper_eq_self {c : Char} (h : c ≤ 'Z') : c.toUpper = c := by
  unfold Char.toUpper
  split
  · rename_i hc
    exact absurd (Char.le_trans hc.1 h) (by decide)
  · rfl

lemma toUpper_toUpper (c : Char) : c.toUpper.toUpper = c.toUpper := by
  rcases toUpper_cases c with hself | ⟨-, hletter⟩
  · rw [hself, hself]
  · exact toUpper_eq_self hletter

/-- What is no capital letter comes from itself. -/
lemma eq_of_toUpper_eq {c mark : Char} (hmark : ¬ ('A' ≤ mark ∧ mark ≤ 'Z')) (h : c.toUpper = mark) :
    c = mark := by
  rcases toUpper_cases c with hself | hletter
  · exact hself.symm.trans h
  · exact absurd (h ▸ hletter) hmark

lemma relaxed_relaxed (c : Char) : relaxed (relaxed c) = relaxed c := by
  by_cases h : c = '.' ∨ c = '-'
  · have hunder : relaxed c = '_' := if_pos h
    rw [hunder]
    rfl
  · have hupper : relaxed c = c.toUpper := if_neg h
    have hmark : ¬ (c.toUpper = '.' ∨ c.toUpper = '-') := fun hmark =>
      h (hmark.imp (eq_of_toUpper_eq (by decide)) (eq_of_toUpper_eq (by decide)))
    rw [hupper, relaxed, if_neg hmark, toUpper_toUpper]

lemma eq_of_relaxed_eq {c mark : Char} (hunder : mark ≠ '_')
    (hletter : ¬ ('A' ≤ mark ∧ mark ≤ 'Z')) (h : relaxed c = mark) : c = mark := by
  rw [relaxed] at h
  split at h
  · exact absurd h.symm hunder
  · exact eq_of_toUpper_eq hletter h

lemma variableName_ne {key : String} (h : key ≠ "") : variableName key ≠ "" := by
  intro hname
  rw [variableName, String.ofList_eq_empty_iff, List.map_eq_nil_iff,
    String.toList_eq_nil_iff] at hname
  exact h hname

/-- A name that a key is mapped to is mapped to itself. -/
lemma variableName_variableName (key : String) :
    variableName (variableName key) = variableName key := by
  rw [← String.toList_inj, toList_variableName, toList_variableName, List.map_map]
  exact List.map_congr_left fun c _ => relaxed_relaxed c

/-- A mark that no name has unless its key has it. -/
lemma not_mem_variableName {key : String} {mark : Char} (hunder : mark ≠ '_')
    (hletter : ¬ ('A' ≤ mark ∧ mark ≤ 'Z')) (h : mark ∉ key.toList) :
    mark ∉ (variableName key).toList := by
  rw [toList_variableName, List.mem_map]
  rintro ⟨c, hc, hmark⟩
  exact h (eq_of_relaxed_eq hunder hletter hmark ▸ hc)

/-- A key that can name a variable is mapped to a name that can. -/
lemma variableKey_variableName {key : String}
    (h : key ≠ "" ∧ '=' ∉ key.toList ∧ '\x00' ∉ key.toList) :
    variableName key ≠ "" ∧ '=' ∉ (variableName key).toList ∧
      '\x00' ∉ (variableName key).toList :=
  ⟨variableName_ne h.1, not_mem_variableName (by decide) (by decide) h.2.1,
    not_mem_variableName (by decide) (by decide) h.2.2⟩

/-- What makes a text the key of a variable. -/
lemma isVariableKey_iff {key : String} :
    isVariableKey key = true ↔ key ≠ "" ∧ '=' ∉ key.toList ∧ '\x00' ∉ key.toList := by
  rw [isVariableKey, Bool.and_eq_true, decide_eq_true_eq, Bool.not_eq_true', List.any_eq_false]
  refine and_congr_right fun _ => ?_
  simp only [Bool.or_eq_true, decide_eq_true_eq, not_or]
  exact ⟨fun h => ⟨fun hmem => (h _ hmem).1 rfl, fun hmem => (h _ hmem).2 rfl⟩,
    fun h c hc => ⟨fun heq => h.1 (heq ▸ hc), fun heq => h.2 (heq ▸ hc)⟩⟩

namespace Variables

variable {vars : Variables} {key value : String}

/-- What a key finds among variables. -/
lemma property_eq_some_iff : vars.property key = some value ↔ vars.Answers key value := by
  rw [property, Answers]
  by_cases hkey : isVariableKey key = true
  · rw [if_pos hkey, and_iff_right (isVariableKey_iff.mp hkey)]
    have hne : key ≠ "" := (isVariableKey_iff.mp hkey).1
    simp only [← value?_eq_some_iff hne, ← value?_eq_some_iff (variableName_ne hne)]
    cases vars.value? key <;> simp
  · rw [if_neg hkey]
    exact ⟨fun h => (by cases h), fun h => absurd (isVariableKey_iff.mpr h.1) hkey⟩

end Variables

end Activation
