/-
Conditions on properties.

A module lists its conditions between semicolons and passes when each of them holds.
A condition `key=value` holds when the property is that value, a condition `key` when
the property is set to anything but `false`.

* `Accepts`, `accepts_iff`: a module with a list of conditions passes when each part
  of the list holds.
* `PlainKey`: the keys that a condition can name.
* `accepts_equation_iff`, `accepts_name_iff`: the two forms of a condition, with any
  blanks about the key and the value.
* `ConditionLaws`, `conditionLaws_onProperty`: the conjunction of lists, the two forms,
  and what one form says of the other.
-/
import Activation.Proofs.Filter
import Activation.Proofs.Text

namespace Activation

namespace Condition

/-- Some module with the conditions passes the filter on properties. -/
def Accepts (environment : Environment) (conditions : String) : Prop :=
  ∃ index id, Index.attribute? index id "ConditionalOnProperty" = some conditions ∧
    (onProperty environment).judge [some id] index = .ok [true]

/-- A key that a condition can name: not empty, without blank ends, and without the marks that
conditions are cut at. -/
structure PlainKey (key : String) : Prop where
  ne : key ≠ ""
  trimmed : Text.trim key.toList = key.toList
  semicolon : ';' ∉ key.toList
  equals : '=' ∉ key.toList

variable {environment : Environment} {conditions key value : String}
  {before behind front back : List Char}

/-! ### Lists of conditions -/

lemma answer_onProperty {index : Index} {id : ModuleId}
    (h : index.attribute? id "ConditionalOnProperty" = some conditions) :
    (onProperty environment).answer index (some id) =
      .ok ((Property.parts ';' conditions).all (propertyHolds environment)) := by
  rw [Filter.answer, onProperty, Filter.ask_ofPredicate, h]

lemma judge_singleton_iff {index : Index} {id : ModuleId} {passes : Bool} :
    (onProperty environment).judge [some id] index = .ok [passes] ↔
      (onProperty environment).answer index (some id) = .ok passes := by
  rw [(Filter.judgesAlone_onProperty environment).judge_eq, mapM_eq_ok_iff, List.forall₂_cons,
    and_iff_left .nil]

/-- A module passes when each of its conditions holds. -/
lemma accepts_iff : Accepts environment conditions ↔
    ∀ part, Property.IsPart ';' conditions part → propertyHolds environment part = true := by
  have hall : (∀ part, Property.IsPart ';' conditions part →
      propertyHolds environment part = true) ↔
      (Property.parts ';' conditions).all (propertyHolds environment) = true := by
    simp only [List.all_eq_true, Property.mem_parts_iff]
  rw [hall]
  constructor
  · rintro ⟨index, id, hindex, hjudge⟩
    rw [judge_singleton_iff, answer_onProperty hindex] at hjudge
    exact Except.ok.inj hjudge
  · intro hholds
    have hindex : (Index.record .empty ⟨"m", "ConditionalOnProperty", conditions⟩).attribute? "m"
        "ConditionalOnProperty" = some conditions := by
      simp [Index.attribute?, Index.attributes?, Index.record]
    refine ⟨_, "m", hindex, ?_⟩
    rw [judge_singleton_iff, answer_onProperty hindex, hholds]

/-- The filter has an answer for every slot: a module passes when it has no conditions, or when they
are accepted. -/
lemma exists_answer_iff (environment : Environment) (index : Index) (slot : Option ModuleId) :
    ∃ passes, (onProperty environment).answer index slot = .ok passes ∧
      (passes = true ↔ ∀ id, slot = some id → ∀ conditions,
        index.attribute? id "ConditionalOnProperty" = some conditions →
        Accepts environment conditions) := by
  cases slot with
  | none => exact ⟨true, rfl, by simp⟩
  | some id =>
      simp only [Option.some.injEq, forall_eq']
      cases hconditions : index.attribute? id "ConditionalOnProperty" with
      | none =>
          refine ⟨true, ?_, by simp⟩
          rw [Filter.answer, onProperty, Filter.ask_ofPredicate, hconditions]
      | some conditions =>
          refine ⟨_, answer_onProperty hconditions, ?_⟩
          simp only [Option.some.injEq, forall_eq', accepts_iff, List.all_eq_true,
            Property.mem_parts_iff]

/-! ### Single conditions -/

lemma PlainKey.toList_ne (h : PlainKey key) : key.toList ≠ [] :=
  fun hnil => h.ne (String.toList_eq_nil_iff.mp hnil)

lemma PlainKey.leftTrimmed (h : PlainKey key) : Text.LeftTrimmed key.toList :=
  h.trimmed ▸ Text.leftTrimmed_trim key.toList

lemma PlainKey.rightTrimmed (h : PlainKey key) : Text.RightTrimmed key.toList :=
  h.trimmed ▸ Text.rightTrimmed_trim key.toList

/-- A text without semicolons is one condition. -/
lemma accepts_iff_of_not_mem (hsemicolon : ';' ∉ conditions.toList)
    (hne : Text.trim conditions.toList ≠ []) :
    Accepts environment conditions ↔
      propertyHolds environment (String.ofList (Text.trim conditions.toList)) = true := by
  have hpart : ∀ part, Property.IsPart ';' conditions part ↔
      part = String.ofList (Text.trim conditions.toList) := by
    intro part
    rw [Property.isPart_iff_of_not_mem hsemicolon]
    constructor
    · rintro ⟨-, hpart⟩
      rw [← hpart, String.ofList_toList]
    · rintro rfl
      exact ⟨fun hempty => hne (String.ofList_eq_empty_iff.mp hempty), String.toList_ofList⟩
  simp only [accepts_iff, hpart, forall_eq]

/-- What stands behind a plain key and an equals sign is compared with the property. -/
lemma propertyHolds_equation (hkey : PlainKey key) (hbehind : Text.AllBlank behind)
    (right : List Char) :
    propertyHolds environment (String.ofList (key.toList ++ behind ++ '=' :: right)) = true ↔
      ∃ actual, environment.property key = some actual ∧
        Text.lower (Text.trim actual.toList) = Text.lower (Text.trim right) := by
  have hsides : Text.splitFirst '=' (key.toList ++ behind ++ '=' :: right) =
      some (key.toList ++ behind, right) :=
    Text.splitFirst_eq_some_iff.mpr ⟨rfl, fun hmem => (List.mem_append.mp hmem).elim hkey.equals
      (hbehind.not_mem (by decide))⟩
  have htrim : Text.trim (key.toList ++ behind) = key.toList := by
    have hpadded := Text.trim_of_padded (List.forall_mem_nil _) hbehind hkey.leftTrimmed
      hkey.rightTrimmed
    rwa [List.nil_append] at hpadded
  rw [propertyHolds, String.toList_ofList, hsides]
  simp only [htrim, String.ofList_toList]
  cases environment.property key with
  | none => simp
  | some actual => simp [Text.sameCaseless]

/-- A plain key alone asks for any value but `false`. -/
lemma propertyHolds_name (hkey : PlainKey key) :
    propertyHolds environment key = true ↔
      ∃ actual, environment.property key = some actual ∧
        Text.lower (Text.trim actual.toList) ≠ "false".toList := by
  have hlower : Text.lower "false".toList = "false".toList := by decide
  rw [propertyHolds, Text.splitFirst_eq_none_iff.mpr hkey.equals]
  cases environment.property key with
  | none => simp
  | some actual =>
      have hsame : Text.sameCaseless (Text.trim actual.toList) "false".toList = true ↔
          Text.lower (Text.trim actual.toList) = "false".toList := by
        rw [Text.sameCaseless, beq_iff_eq, hlower]
      simp only [Bool.not_eq_true', ← Bool.not_eq_true, hsame, Option.some.injEq, exists_eq_left',
        ne_eq]

/-- Trimming a condition with a value leaves its key in front. -/
lemma trim_equation (hkey : PlainKey key) (hbefore : Text.AllBlank before)
    (behind right : List Char) :
    Text.trim (before ++ key.toList ++ behind ++ '=' :: right) =
      key.toList ++ behind ++ '=' :: Text.trimRight right := by
  obtain ⟨back, hback, hright⟩ := Text.exists_trimRight_append right
  have hpadded : before ++ key.toList ++ behind ++ '=' :: right =
      before ++ (key.toList ++ behind ++ '=' :: Text.trimRight right) ++ back := by
    conv_lhs => rw [hright]
    simp only [List.append_assoc, List.cons_append]
  rw [hpadded]
  refine Text.trim_of_padded hbefore hback ?_ ?_
  · rw [List.append_assoc]
    exact hkey.leftTrimmed.append hkey.toList_ne _
  · exact ((Text.rightTrimmed_trimRight right).cons (by decide)).append (List.cons_ne_nil _ _) _

/-- **A condition with a value** holds when the property is that value, up to the case of letters and
to blanks. -/
lemma accepts_equation_iff (hkey : PlainKey key) (hvalue : ';' ∉ value.toList)
    (hbefore : Text.AllBlank before) (hbehind : Text.AllBlank behind)
    (hfront : Text.AllBlank front) (hback : Text.AllBlank back) :
    Accepts environment (String.ofList
        (before ++ key.toList ++ behind ++ '=' :: (front ++ value.toList ++ back))) ↔
      ∃ actual, environment.property key = some actual ∧
        Text.lower (Text.trim actual.toList) = Text.lower (Text.trim value.toList) := by
  have hblank : Text.isBlank ';' = false := by decide
  have htrim := trim_equation hkey hbefore behind (front ++ value.toList ++ back)
  have hright : Text.trim (Text.trimRight (front ++ value.toList ++ back)) =
      Text.trim value.toList := by
    rw [Text.trim_trimRight, Text.trim_padded hfront hback]
  rw [accepts_iff_of_not_mem, String.toList_ofList, htrim, propertyHolds_equation hkey hbehind,
    hright]
  · rw [String.toList_ofList]
    simp only [List.mem_append, List.mem_cons, not_or]
    exact ⟨⟨⟨hbefore.not_mem hblank, hkey.semicolon⟩,
      hbehind.not_mem hblank⟩, by decide,
      ⟨hfront.not_mem hblank, hvalue⟩, hback.not_mem hblank⟩
  · rw [String.toList_ofList, htrim]
    simp

/-- **A condition without a value** holds when the property is set to anything but `false`. -/
lemma accepts_name_iff (hkey : PlainKey key) (hbefore : Text.AllBlank before)
    (hbehind : Text.AllBlank behind) :
    Accepts environment (String.ofList (before ++ key.toList ++ behind)) ↔
      ∃ actual, environment.property key = some actual ∧
        Text.lower (Text.trim actual.toList) ≠ "false".toList := by
  have hblank : Text.isBlank ';' = false := by decide
  have htrim : Text.trim (before ++ key.toList ++ behind) = key.toList := by
    rw [Text.trim_padded hbefore hbehind, hkey.trimmed]
  rw [accepts_iff_of_not_mem, String.toList_ofList, htrim, String.ofList_toList,
    propertyHolds_name hkey]
  · rw [String.toList_ofList]
    simp only [List.mem_append, not_or]
    exact ⟨⟨hbefore.not_mem hblank, hkey.semicolon⟩,
      hbehind.not_mem hblank⟩
  · rw [String.toList_ofList, htrim]
    exact hkey.toList_ne

/-! ### The laws -/

/-- What the filter on properties accepts. -/
structure ConditionLaws (environment : Environment) : Prop where
  /-- Every slot is answered: an empty one and a module without conditions pass, and any other passes
  when its conditions are accepted. -/
  judged : ∀ index slots, ∃ answers, (onProperty environment).judge slots index = .ok answers ∧
    List.Forall₂ (fun slot passes => passes = true ↔ ∀ id, slot = some id → ∀ conditions,
      index.attribute? id "ConditionalOnProperty" = some conditions →
      Accepts environment conditions) slots answers
  /-- Two lists joined are accepted when both are. -/
  joined : ∀ first second, Accepts environment (first ++ ";" ++ second) ↔
    Accepts environment first ∧ Accepts environment second
  /-- Order, repetition and empty parts do not matter. -/
  parts : ∀ first second,
    (∀ part, Property.IsPart ';' first part ↔ Property.IsPart ';' second part) →
    (Accepts environment first ↔ Accepts environment second)
  blank : ∀ conditions, (∀ part, ¬ Property.IsPart ';' conditions part) →
    Accepts environment conditions
  /-- A value is compared with the property. -/
  equation : ∀ key value : String, PlainKey key → ';' ∉ value.toList →
    ∀ before behind front back,
    Text.AllBlank before → Text.AllBlank behind → Text.AllBlank front → Text.AllBlank back →
    (Accepts environment (String.ofList
        (before ++ key.toList ++ behind ++ '=' :: (front ++ value.toList ++ back))) ↔
      ∃ actual, environment.property key = some actual ∧
        Text.lower (Text.trim actual.toList) = Text.lower (Text.trim value.toList))
  /-- Of the key alone and the key with `false`, one is accepted when the property is set. -/
  complement : ∀ key actual, PlainKey key → environment.property key = some actual →
    (Accepts environment key ↔ ¬ Accepts environment (key ++ "=false"))
  unset : ∀ key, PlainKey key → environment.property key = none →
    ¬ Accepts environment key ∧ ¬ Accepts environment (key ++ "=false")

/-- **The filter on properties** takes the conjunction of its conditions, and reads each of them as
one of two forms. -/
theorem conditionLaws_onProperty (environment : Environment) : ConditionLaws environment := by
  have hnil : Text.AllBlank [] := List.forall_mem_nil _
  have hname : ∀ {key}, PlainKey key → (Accepts environment key ↔
      ∃ actual, environment.property key = some actual ∧
        Text.lower (Text.trim actual.toList) ≠ "false".toList) := by
    intro key hkey
    rw [← accepts_name_iff hkey hnil hnil, List.nil_append, List.append_nil, String.ofList_toList]
  have hfalse : ∀ {key}, PlainKey key → (Accepts environment (key ++ "=false") ↔
      ∃ actual, environment.property key = some actual ∧
        Text.lower (Text.trim actual.toList) = "false".toList) := by
    intro key hkey
    have hform : key ++ "=false" = String.ofList
        ([] ++ key.toList ++ [] ++ '=' :: ([] ++ "false".toList ++ [])) := by
      rw [← String.toList_inj, String.toList_ofList, String.toList_append]
      simp
    have hread : Text.lower (Text.trim "false".toList) = "false".toList := by decide
    rw [hform, accepts_equation_iff hkey (by decide) hnil hnil hnil hnil, hread]
  exact {
    judged := by
      intro index slots
      rw [(Filter.judgesAlone_onProperty environment).judge_eq]
      obtain ⟨answers, hanswers⟩ := exists_mapM_eq_ok_iff.mpr fun slot (_ : slot ∈ slots) =>
        (exists_answer_iff environment index slot).imp fun _ => And.left
      refine ⟨answers, hanswers, ?_⟩
      refine (mapM_eq_ok_iff.mp hanswers).imp fun slot passes hpasses => ?_
      obtain ⟨passes', hpasses', hiff⟩ := exists_answer_iff environment index slot
      rw [hpasses] at hpasses'
      exact Except.ok.inj hpasses' ▸ hiff
    joined := by
      intro first second
      have hjoined : (first ++ ";" ++ second).toList = first.toList ++ ';' :: second.toList := by
        simp
      simp only [accepts_iff, ← Property.mem_parts_iff, Property.parts_append hjoined,
        List.mem_append, or_imp, forall_and]
    parts := by
      intro first second h
      simp only [accepts_iff, h]
    blank := by
      intro conditions h
      rw [accepts_iff]
      exact fun part hpart => absurd hpart (h part)
    equation := fun key value hkey hvalue before behind front back hbefore hbehind hfront hback =>
      accepts_equation_iff hkey hvalue hbefore hbehind hfront hback
    complement := by
      intro key actual hkey hset
      rw [hname hkey, hfalse hkey]
      simp [hset]
    unset := by
      intro key hkey hunset
      rw [hname hkey, hfalse hkey]
      simp [hunset] }

end Condition

end Activation
