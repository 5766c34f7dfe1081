/-
The properties of a run.

Overrides on the command line go before the variables of the process, and these
before the table of the configuration. Only the variables are found by relaxed names.

* `CommandLine.Sets`, `property?_eq_some_iff`, `property?_eq_none_iff`: the arguments
  that set a property, and those that are refused.
* `CommandLine.LastSets`, `find?_overrides_iff`: of the arguments that set one property
  the last counts.
* `property_properties`: the three layers one behind the other.
* `RunProperties`, `runProperties_of_accepted`: what every key is answered, and which
  arguments and names are good for it.
-/
import Activation.CommandLine
import Activation.Config
import Activation.Proofs.Environment.Layers

namespace Activation

/-! ### Overrides -/

namespace CommandLine

variable {arg key value : String} {args : List String} {overrides : List (String × String)}

/-- An argument `key=value` sets a property: it is cut at its first equals sign, and the blank ends of
both sides are left out. -/
def Sets (arg key value : String) : Prop :=
  ∃ left right, arg.toList = left ++ '=' :: right ∧ '=' ∉ left ∧
    key.toList = Text.trim left ∧ value.toList = Text.trim right

/-- The last of the arguments that set a property sets it to this value. -/
def LastSets (args : List String) (key value : String) : Prop :=
  ∃ before arg behind, args = before ++ arg :: behind ∧ Sets arg key value ∧
    ∀ later ∈ behind, ∀ other, ¬ Sets later key other

lemma property?_eq_some_iff :
    property? arg = some (key, value) ↔ key ≠ "" ∧ Sets arg key value := by
  simp only [property?, Option.bind_eq_bind, Option.bind_eq_some_iff, Prod.exists,
    Text.splitFirst_eq_some_iff, Option.ite_none_left_eq_some, Option.some.injEq, Prod.mk.injEq, Sets]
  constructor
  · rintro ⟨left, right, ⟨harg, hleft⟩, hne, rfl, rfl⟩
    exact ⟨fun hempty => hne (String.ofList_eq_empty_iff.mp hempty), left, right, harg, hleft,
      String.toList_ofList, String.toList_ofList⟩
  · rintro ⟨hne, left, right, harg, hleft, hkey, hvalue⟩
    refine ⟨left, right, ⟨harg, hleft⟩, ?_, ?_, ?_⟩
    · rwa [← hkey, String.toList_eq_nil_iff]
    · rw [← hkey, String.ofList_toList]
    · rw [← hvalue, String.ofList_toList]

/-- An argument is refused when it has no equals sign, or only blanks in front of the first. -/
lemma property?_eq_none_iff :
    property? arg = none ↔ '=' ∉ arg.toList ∨
      ∃ left right, arg.toList = left ++ '=' :: right ∧ '=' ∉ left ∧ Text.AllBlank left := by
  simp only [property?, Option.bind_eq_bind, Option.bind_eq_none_iff, Prod.forall,
    Text.splitFirst_eq_some_iff, ite_eq_left_iff, reduceCtorEq, imp_false, not_not,
    Text.trim_eq_nil_iff]
  constructor
  · intro h
    by_cases hmem : '=' ∈ arg.toList
    · obtain ⟨left, right, harg, hleft⟩ := List.eq_append_cons_of_mem hmem
      exact .inr ⟨left, right, harg, hleft, h left right ⟨harg, hleft⟩⟩
    · exact .inl hmem
  · rintro (hnone | ⟨left', right', harg', hleft', hblank⟩) left right ⟨harg, hleft⟩
    · exact absurd (by simp [harg]) hnone
    · rwa [(Text.sides_unique harg hleft harg' hleft').1]

/-- An argument sets one property to one value. -/
lemma Sets.unique {key' value' : String} (h : Sets arg key value) (h' : Sets arg key' value') :
    key = key' ∧ value = value' := by
  obtain ⟨left, right, harg, hleft, hkey, hvalue⟩ := h
  obtain ⟨left', right', harg', hleft', hkey', hvalue'⟩ := h'
  obtain ⟨rfl, rfl⟩ := Text.sides_unique harg hleft harg' hleft'
  exact ⟨String.toList_inj.mp (hkey.trans hkey'.symm),
    String.toList_inj.mp (hvalue.trans hvalue'.symm)⟩

/-- Accepted arguments make the pairs that they are read as. -/
lemma map_property?_of_mapM (h : args.mapM property? = some overrides) :
    args.map property? = overrides.map some := by
  induction args generalizing overrides with
  | nil =>
      cases h
      rfl
  | cons arg args ih =>
      rw [List.mapM_cons] at h
      obtain ⟨pair, hpair, htail⟩ := Option.bind_eq_some_iff.mp h
      obtain ⟨pairs, hpairs, hcons⟩ := Option.bind_eq_some_iff.mp htail
      cases hcons
      rw [List.map_cons, List.map_cons, hpair, ih hpairs]

/-- **Of accepted arguments** the last that sets a property counts. -/
lemma find?_overrides_iff (h : args.mapM property? = some overrides) :
    (Table.ofList overrides).find? key = some value ↔ LastSets args key value := by
  replace h := map_property?_of_mapM h
  rw [Table.find?_ofList_eq_some_iff]
  constructor
  · rintro ⟨before, behind, rfl, hbehind⟩
    rw [List.map_append, List.map_cons] at h
    obtain ⟨front, rest, rfl, hfront, hrest⟩ := List.map_eq_append_iff.mp h
    obtain ⟨arg, back, rfl, harg, hback⟩ := List.map_eq_cons_iff.mp hrest
    refine ⟨front, arg, back, rfl, (property?_eq_some_iff.mp harg).2, ?_⟩
    intro later hlater other hsets
    obtain ⟨pair, hpair, hread⟩ := List.mem_map.mp (hback ▸ List.mem_map_of_mem hlater)
    have hlast := hsets.unique (property?_eq_some_iff.mp hread.symm).2
    exact hbehind pair hpair hlast.1.symm
  · rintro ⟨front, arg, back, rfl, hsets, hback⟩
    rw [List.map_append, List.map_cons] at h
    obtain ⟨before, rest, rfl, hbefore, hrest⟩ := List.map_eq_append_iff.mp h.symm
    obtain ⟨pair, behind, rfl, hpair, hbehind⟩ := List.map_eq_cons_iff.mp hrest
    obtain ⟨rfl, rfl⟩ := hsets.unique (property?_eq_some_iff.mp hpair.symm).2
    refine ⟨before, behind, rfl, fun later hlater heq => ?_⟩
    obtain ⟨arg', harg', hread⟩ := List.mem_map.mp (hbehind ▸ List.mem_map_of_mem hlater)
    have hlast := (property?_eq_some_iff.mp hread).2
    exact hback arg' harg' later.2 (heq ▸ hlast)

end CommandLine

/-! ### The layers of a run -/

namespace Config

variable {args : List String} {overrides : List (String × String)}

/-- A key is looked up among the overrides, then among the variables, then in the table of the
configuration. -/
lemma property_properties (config : Config) (overrides : List (String × String))
    (supply : IdentitySupply) (vars : Variables) (key : String) :
    ((config.properties overrides supply).1.environment vars).property key =
      ((Table.ofList overrides).find? key).or
        ((vars.property key).or (config.environment.find? key)) := by
  have hlayers : ∃ outer first second third,
      (config.properties overrides supply).1 = .layered outer [.map first (.ofList overrides),
        .process second, .map third (.ofList config.environment.entries)] :=
    ⟨_, _, _, _, rfl⟩
  obtain ⟨outer, first, second, third, hlayers⟩ := hlayers
  rw [hlayers, Table.ofList_entries, PropertySource.environment]
  simp only [PropertySource.property_layered, PropertySource.firstProperty_cons,
    PropertySource.property_map, PropertySource.property_process, PropertySource.firstProperty_nil,
    Option.or_none]

/-- What the environment of a run answers, in terms of the arguments that override properties. -/
structure RunProperties (args : List String) (overrides : List (String × String)) : Prop where
  /-- The last argument that sets a key goes before the variables, and these before the table. -/
  answers : ∀ (config : Config) supply vars key value,
    ((config.properties overrides supply).1.environment vars).property key = some value ↔
      CommandLine.LastSets args key value ∨
      (∀ other, ¬ CommandLine.LastSets args key other) ∧
        (vars.Answers key value ∨
          (∀ other, ¬ vars.Answers key other) ∧ (key, value) ∈ config.environment.entries)
  /-- An argument is refused when it names no property. -/
  refused : ∀ arg, CommandLine.property? arg = none ↔ '=' ∉ arg.toList ∨
    ∃ left right, arg.toList = left ++ '=' :: right ∧ '=' ∉ left ∧ Text.AllBlank left
  /-- Names of variables are mapped to themselves, and keys of variables to names of variables. -/
  relaxed : ∀ key, variableName (variableName key) = variableName key
  named : ∀ key, key ≠ "" ∧ '=' ∉ key.toList ∧ '\x00' ∉ key.toList →
    variableName key ≠ "" ∧ '=' ∉ (variableName key).toList ∧
      '\x00' ∉ (variableName key).toList

/-- **The environment of a run** answers every key from the first of its three layers that has a value
for it. -/
theorem runProperties_of_accepted (h : args.mapM CommandLine.property? = some overrides) :
    RunProperties args overrides where
  answers config supply vars key value := by
    simp only [property_properties, Option.or_eq_some_iff, Option.eq_none_iff_forall_ne_some,
      ne_eq, CommandLine.find?_overrides_iff h, Variables.property_eq_some_iff,
      Table.find?_eq_some_iff]
  refused arg := CommandLine.property?_eq_none_iff
  relaxed := variableName_variableName
  named key := variableKey_variableName

/-- A configuration with a table in which some keys are no names of variables. -/
def tabled : Config :=
  { standard with
    environment := .ofList [("k", "t"), ("", "bare"), ("a=b", "cut"), ("g.h", "t"), ("rest", "t")] }

/-- A property set twice and one set to nothing, among variables with exact and with relaxed names. -/
theorem runProperties_of_accepted_repeated :
    let args := ["k = first", " k=second = x ", "e.f="]
    let overrides := [("k", "first"), ("k", "second = x"), ("e.f", "")]
    let vars : Variables := .ofPairs [("a", "b=v"), ("g.h", "exact"), ("G_H", "relaxed"),
      ("E_F", "hidden"), ("I_J", "relaxed")]
    let environment := (tabled.properties overrides .initial).1.environment vars
    args.mapM CommandLine.property? = some overrides ∧ RunProperties args overrides ∧
      ["k", "e.f", "g.h", "i-j", "a=b", "", "rest", "none"].map environment.property =
        [some "second = x", some "", some "exact", some "relaxed", some "cut", some "bare",
          some "t", none] ∧
      CommandLine.property? "no value" = none ∧ CommandLine.property? " =v" = none := by
  intro args overrides vars environment
  have haccepted : args.mapM CommandLine.property? = some overrides := by decide +kernel
  exact ⟨haccepted, runProperties_of_accepted haccepted, by decide +kernel, by decide +kernel,
    by decide +kernel⟩

end Config

end Activation
