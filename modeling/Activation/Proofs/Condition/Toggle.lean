/-
Toggles of modules.

A module that names a toggle passes or not by the first level at which the toggle is
set: the property of the toggle itself, the general switch, and the module's own
default. A toggle that is set nowhere is on.

* `Level`, `toggleLevels`, `FirstSet`: the levels of a toggle, and the first of them
  that is set.
* `AgreeDownToSet.firstSet?_eq`: no level below the first that is set counts.
* `Ruling`, `ruled_eq_iff`, `isEnabled_eq`: what levels come to, and a toggle with them.
* `SlotRuling`, `answer_eq_iff`: what the filter on toggles answers for a slot.
* `RulesByLevels`, `rulesByLevels_onEnabled`: what it answers for a row of slots.
-/
import Activation.Proofs.Environment.Layers
import Activation.Proofs.Filter

namespace Activation

namespace Condition

/-! ### Levels -/

/-- A level at which a toggle may be set: whose it is when it is a module's, under which key it is
set, and to what. -/
structure Level where
  owner : String
  key : String
  value? : Option String

/-- The complaint about a value at a level. -/
def Level.refusal (level : Level) (value : String) : String :=
  level.owner ++ (ResolveError.invalidProperty level.key value).message

/-- What a value at a level says. -/
def Level.reading (level : Level) (value : String) : Except String Bool :=
  (Property.boolean level.key value).mapError fun cause => level.owner ++ cause.message

/-- The levels of the toggle that a module names, the highest first. -/
def toggleLevels (environment : Environment) (toggles : Toggles) (index : Index) (id : ModuleId)
    (name : String) : List Level :=
  let own := toggles.stem ++ "." ++ String.ofList (Text.lower (Text.trim name.toList)) ++ ".enabled"
  [⟨"", own, environment.property own⟩,
    ⟨"", toggles.defaultKey, environment.property toggles.defaultKey⟩,
    ⟨id ++ ": ", "EnabledByDefault", index.attribute? id "EnabledByDefault"⟩]

/-- The first of the levels that is set, and what it is set to. -/
def FirstSet (levels : List Level) (level : Level) (value : String) : Prop :=
  ∃ above below, levels = above ++ level :: below ∧ (∀ higher ∈ above, higher.value? = none) ∧
    level.value? = some value

/-- Two rows of levels are the same down to a level that is set, or altogether. -/
def AgreeDownToSet (levels others : List Level) : Prop :=
  levels = others ∨ ∃ shared below below', levels = shared ++ below ∧ others = shared ++ below' ∧
    ∃ level ∈ shared, level.value? ≠ none

/-- What levels come to: the first that is set decides, and it has to be set to a Boolean. -/
inductive Ruling (levels : List Level) : Except String Bool → Prop
  | set {level : Level} {value : String} {flag : Bool} (h : FirstSet levels level value)
      (hflag : Property.IsFlag value flag) : Ruling levels (.ok flag)
  | unset (h : ∀ level ∈ levels, level.value? = none) : Ruling levels (.ok true)
  | spoilt {level : Level} {value : String} (h : FirstSet levels level value)
      (hnone : ∀ flag, ¬ Property.IsFlag value flag) : Ruling levels (.error (level.refusal value))

variable {levels others : List Level} {level : Level} {value : String}
  {result other : Except String Bool}

/-- The first of the levels that is set, with its value. -/
def firstSet? (levels : List Level) : Option (Level × String) :=
  levels.findSome? fun level => level.value?.map (Prod.mk level)

lemma firstSet?_eq_some_iff :
    firstSet? levels = some (level, value) ↔ FirstSet levels level value := by
  simp only [firstSet?, List.findSome?_eq_some_iff, Option.map_eq_some_iff, Option.map_eq_none_iff,
    Prod.mk.injEq, FirstSet]
  constructor
  · rintro ⟨above, _, below, hlevels, ⟨_, hset, rfl, rfl⟩, habove⟩
    exact ⟨above, below, hlevels, habove, hset⟩
  · rintro ⟨above, below, hlevels, habove, hset⟩
    exact ⟨above, level, below, hlevels, ⟨value, hset, rfl, rfl⟩, habove⟩

lemma firstSet?_eq_none_iff :
    firstSet? levels = none ↔ ∀ level ∈ levels, level.value? = none := by
  simp only [firstSet?, List.findSome?_eq_none_iff, Option.map_eq_none_iff]

/-- Below a level that is set there may stand anything. -/
lemma AgreeDownToSet.firstSet?_eq (h : AgreeDownToSet levels others) :
    firstSet? levels = firstSet? others := by
  obtain rfl | ⟨shared, below, below', rfl, rfl, level, hlevel, hset⟩ := h
  · rfl
  · have hsome : (firstSet? shared).isSome = true := by
      rw [Option.isSome_iff_ne_none, ne_eq, firstSet?_eq_none_iff]
      exact fun hnone => hset (hnone level hlevel)
    obtain ⟨first, hfirst⟩ := Option.isSome_iff_exists.mp hsome
    rw [firstSet?] at hfirst
    rw [firstSet?, firstSet?, List.findSome?_append, List.findSome?_append, hfirst]
    rfl

/-! ### Rulings -/

lemma Level.reading_of_flag {flag : Bool} (level : Level) (h : Property.IsFlag value flag) :
    level.reading value = .ok flag := by
  rw [reading, Property.boolean, Property.boolean?_eq_some_iff.mpr h]
  rfl

lemma Level.reading_of_not_flag (level : Level) (h : ∀ flag, ¬ Property.IsFlag value flag) :
    level.reading value = .error (level.refusal value) := by
  rw [reading, Property.boolean, Property.boolean?_eq_none_iff.mpr h]
  rfl

/-- What levels come to, worked out. -/
def ruled (levels : List Level) : Except String Bool :=
  (firstSet? levels).elim (.ok true) fun first => first.1.reading first.2

lemma ruled_eq_iff : ruled levels = result ↔ Ruling levels result := by
  constructor
  · rintro rfl
    rw [ruled]
    cases hfirst : firstSet? levels with
    | none => exact .unset (firstSet?_eq_none_iff.mp hfirst)
    | some first =>
        have hset := firstSet?_eq_some_iff.mp hfirst
        rw [Option.elim_some]
        by_cases hflag : ∃ flag, Property.IsFlag first.2 flag
        · obtain ⟨flag, hflag⟩ := hflag
          rw [first.1.reading_of_flag hflag]
          exact .set hset hflag
        · rw [not_exists] at hflag
          rw [first.1.reading_of_not_flag hflag]
          exact .spoilt hset hflag
  · intro h
    cases h with
    | set hset hflag =>
        rw [ruled, firstSet?_eq_some_iff.mpr hset]
        exact Level.reading_of_flag _ hflag
    | unset hunset => rw [ruled, firstSet?_eq_none_iff.mpr hunset]; rfl
    | spoilt hset hnone =>
        rw [ruled, firstSet?_eq_some_iff.mpr hset]
        exact Level.reading_of_not_flag _ hnone

/-- Levels fail over the first that is set, and only over that. -/
lemma exists_ruling_error_iff :
    (∃ detail, Ruling levels (.error detail)) ↔
      ∃ level value, FirstSet levels level value ∧ ∀ flag, ¬ Property.IsFlag value flag := by
  constructor
  · rintro ⟨_, h⟩
    cases h with
    | spoilt hset hnone => exact ⟨_, _, hset, hnone⟩
  · rintro ⟨level, value, hset, hnone⟩
    exact ⟨_, .spoilt hset hnone⟩

/-- A toggle comes to what its levels do. -/
lemma isEnabled_eq (environment : Environment) (toggles : Toggles) (index : Index) (id : ModuleId)
    (name : String) :
    isEnabled environment toggles index id (String.ofList (Text.trim name.toList)) =
      ruled (toggleLevels environment toggles index id name) := by
  rw [isEnabled, toggleKey, String.toList_ofList, ruled, toggleLevels]
  generalize toggles.stem ++ "." ++ String.ofList (Text.lower (Text.trim name.toList)) ++ ".enabled" =
    own
  cases hown : environment.property own with
  | some value =>
      rw [Environment.boolean_of_property hown]
      simp only [firstSet?, List.findSome?_cons, Option.map_some, Option.elim_some, Level.reading]
      cases Property.boolean own value <;> simp [Except.map, Except.mapError]
  | none =>
      rw [(Environment.lacks_of_property hown).boolean]
      cases hgeneral : environment.property toggles.defaultKey with
      | some value =>
          rw [Environment.boolean_of_property hgeneral]
          simp only [firstSet?, List.findSome?_cons, Option.map_some, Option.map_none,
            Option.elim_some, Level.reading]
          cases Property.boolean toggles.defaultKey value <;> simp [Except.map, Except.mapError]
      | none =>
          rw [(Environment.lacks_of_property hgeneral).boolean, enabledByDefault]
          cases index.attribute? id "EnabledByDefault" with
          | none => rfl
          | some value =>
              simp only [firstSet?, List.findSome?_cons, Option.map_some, Option.map_none,
                Option.elim_some, Level.reading]
              cases Property.boolean "EnabledByDefault" value <;> rfl

/-! ### Slots -/

/-- What the filter on toggles makes of a slot: an empty one and a module without a toggle pass, and
otherwise the levels of the toggle rule. -/
inductive SlotRuling (environment : Environment) (toggles : Toggles) (index : Index) :
    Option ModuleId → Except String Bool → Prop
  | removed : SlotRuling environment toggles index none (.ok true)
  | free {id : ModuleId} (h : index.attribute? id "ConditionalOnEnabled" = none) :
      SlotRuling environment toggles index (some id) (.ok true)
  | toggled {id : ModuleId} {name : String} {result : Except String Bool}
      (h : index.attribute? id "ConditionalOnEnabled" = some name)
      (hruling : Ruling (toggleLevels environment toggles index id name) result) :
      SlotRuling environment toggles index (some id) result

variable {environment : Environment} {toggles : Toggles} {index : Index}
  {slots : List (Option ModuleId)} {slot : Option ModuleId}

lemma answer_eq_iff :
    (onEnabled environment toggles).answer index slot = result ↔
      SlotRuling environment toggles index slot result := by
  cases slot with
  | none =>
      rw [Filter.answer]
      exact ⟨fun h => h ▸ .removed, fun h => by cases h; rfl⟩
  | some id =>
      rw [Filter.answer, onEnabled, Filter.ask_ofPredicate]
      cases hname : index.attribute? id "ConditionalOnEnabled" with
      | none =>
          refine ⟨fun h => h ▸ .free hname, fun h => ?_⟩
          cases h with
          | free => rfl
          | toggled h => rw [hname] at h; cases h
      | some name =>
          simp only [isEnabled_eq, ruled_eq_iff]
          refine ⟨.toggled hname, fun h => ?_⟩
          cases h with
          | free h => rw [hname] at h; cases h
          | toggled h hruling =>
              rw [hname] at h
              cases h
              exact hruling

lemma exists_slotRuling_error_iff :
    (∃ detail, SlotRuling environment toggles index slot (.error detail)) ↔
      ∃ id name level value, slot = some id ∧
        index.attribute? id "ConditionalOnEnabled" = some name ∧
        FirstSet (toggleLevels environment toggles index id name) level value ∧
        ∀ flag, ¬ Property.IsFlag value flag := by
  constructor
  · rintro ⟨detail, h⟩
    cases h with
    | toggled hname hruling =>
        obtain ⟨level, value, hset, hnone⟩ := exists_ruling_error_iff.mp ⟨detail, hruling⟩
        exact ⟨_, _, level, value, rfl, hname, hset, hnone⟩
  · rintro ⟨id, name, level, value, rfl, hname, hset, hnone⟩
    exact ⟨_, .toggled hname (.spoilt hset hnone)⟩

/-- Where another environment and another index agree down to the level that is set, a slot is
answered as before. -/
lemma answer_congr {environment' : Environment} {index' : Index}
    (h : ∀ id, slot = some id → index'.attribute? id "ConditionalOnEnabled" =
        index.attribute? id "ConditionalOnEnabled" ∧
      ∀ name, index.attribute? id "ConditionalOnEnabled" = some name →
        AgreeDownToSet (toggleLevels environment toggles index id name)
          (toggleLevels environment' toggles index' id name)) :
    (onEnabled environment' toggles).answer index' slot =
      (onEnabled environment toggles).answer index slot := by
  rw [answer_eq_iff]
  cases slot with
  | none => exact .removed
  | some id =>
      obtain ⟨hattribute, hlevels⟩ := h id rfl
      cases hname : index.attribute? id "ConditionalOnEnabled" with
      | none =>
          rw [answer_eq_iff.mpr (.free hname)]
          exact .free (hattribute.trans hname)
      | some name =>
          have hruling := ruled_eq_iff.mp
            (rfl : ruled (toggleLevels environment toggles index id name) = _)
          rw [answer_eq_iff.mpr (.toggled hname hruling)]
          refine .toggled (hattribute.trans hname) (ruled_eq_iff.mp ?_)
          rw [ruled, ruled, (hlevels name hname).firstSet?_eq]

/-- What the filter on toggles makes of a row of slots, in terms of the levels of each toggle. -/
structure RulesByLevels (environment : Environment) (toggles : Toggles) (index : Index)
    (slots : List (Option ModuleId)) : Prop where
  /-- The answers are those for each slot alone. -/
  answers : ∀ answers, (onEnabled environment toggles).judge slots index = .ok answers ↔
    List.Forall₂ (fun slot passes => SlotRuling environment toggles index slot (.ok passes)) slots
      answers
  /-- It fails over a live slot at which the first level that is set is no Boolean. -/
  fails_iff : (∃ detail, (onEnabled environment toggles).judge slots index = .error detail) ↔
    ∃ id name level value, some id ∈ slots ∧
      index.attribute? id "ConditionalOnEnabled" = some name ∧
      FirstSet (toggleLevels environment toggles index id name) level value ∧
      ∀ flag, ¬ Property.IsFlag value flag
  /-- Of several such slots the first is complained about. -/
  complains : ∀ detail, (onEnabled environment toggles).judge slots index = .error detail ↔
    ∃ before slot behind, slots = before ++ slot :: behind ∧
      (∀ earlier ∈ before, ∃ passes,
        SlotRuling environment toggles index earlier (.ok passes)) ∧
      SlotRuling environment toggles index slot (.error detail)
  /-- What stands below a level that is set is never looked at. -/
  below : ∀ environment' index',
    (∀ id, some id ∈ slots → index'.attribute? id "ConditionalOnEnabled" =
        index.attribute? id "ConditionalOnEnabled" ∧
      ∀ name, index.attribute? id "ConditionalOnEnabled" = some name →
        AgreeDownToSet (toggleLevels environment toggles index id name)
          (toggleLevels environment' toggles index' id name)) →
    (onEnabled environment' toggles).judge slots index' =
      (onEnabled environment toggles).judge slots index

/-- **The filter on toggles** decides each module by the first level at which its toggle is set. -/
theorem rulesByLevels_onEnabled (environment : Environment) (toggles : Toggles) (index : Index)
    (slots : List (Option ModuleId)) : RulesByLevels environment toggles index slots where
  answers answers := by
    simp only [(Filter.judgesAlone_onEnabled environment toggles).judge_eq, mapM_eq_ok_iff,
      answer_eq_iff]
  fails_iff := by
    rw [(Filter.judgesAlone_onEnabled environment toggles).judge_eq]
    constructor
    · rintro ⟨detail, h⟩
      obtain ⟨before, slot, behind, rfl, -, hslot⟩ := mapM_eq_error_iff.mp h
      obtain ⟨id, name, level, value, rfl, hname, hset, hnone⟩ :=
        exists_slotRuling_error_iff.mp ⟨detail, answer_eq_iff.mp hslot⟩
      exact ⟨id, name, level, value, by simp, hname, hset, hnone⟩
    · rintro ⟨id, name, level, value, hmem, hname, hset, hnone⟩
      obtain ⟨detail, hslot⟩ :=
        exists_slotRuling_error_iff.mpr ⟨id, name, level, value, rfl, hname, hset, hnone⟩
      cases hjudge : slots.mapM ((onEnabled environment toggles).answer index) with
      | error detail => exact ⟨detail, rfl⟩
      | ok answers =>
          obtain ⟨passes, hpasses⟩ := exists_mapM_eq_ok_iff.mp ⟨answers, hjudge⟩ _ hmem
          rw [answer_eq_iff.mpr hslot] at hpasses
          cases hpasses
  complains detail := by
    simp only [(Filter.judgesAlone_onEnabled environment toggles).judge_eq, mapM_eq_error_iff,
      answer_eq_iff]
  below environment' index' h := by
    rw [(Filter.judgesAlone_onEnabled environment toggles).judge_eq,
      (Filter.judgesAlone_onEnabled environment' toggles).judge_eq]
    refine mapM_congr fun slot hslot => answer_congr fun id hid => ?_
    exact h id (hid ▸ hslot)

/-- Its own toggle hides a general switch that is no Boolean; a module without one runs into it. -/
example :
    let environment : Environment := ⟨⟨1⟩, fun key =>
      if key = "m.fast.enabled" then some " FALSE" else if key = "all" then some "maybe" else none⟩
    let index : Index := .record (.record .empty ⟨"a", "ConditionalOnEnabled", " Fast "⟩)
      ⟨"b", "ConditionalOnEnabled", "slow"⟩
    (onEnabled environment ⟨"m", "all"⟩).judge [some "a", none, some "c"] index =
        .ok [false, true, true] ∧
      (onEnabled environment ⟨"m", "all"⟩).judge [none, some "a", some "b"] index =
        .error "property 'all' has invalid value 'maybe'" := by
  decide +kernel

end Condition

end Activation
