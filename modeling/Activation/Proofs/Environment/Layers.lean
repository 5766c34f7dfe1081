/-
What layers of property sources answer.

Sources are stacked into layers, and stacks of them again, to any depth. A source
that several stacks refer to is the same in each of them.

* `Environment.Shows`, `Environment.Lacks`: a value at a key and none, and what is
  read of the key then.
* `PropertySource.leaves`, `Holds`, `FirstHolds`: the sources without layers in a
  tree of layers, and the first of several that holds a key.
* `property_eq_findSome?`: a tree answers as its leaves do one behind the other.
* `AnswersByLeaves`, `answersByLeaves_of_source`: grouping does not matter, and the
  first leaf that holds a key decides all readings of it.
-/
import Mathlib.Data.List.Basic
import Mathlib.Tactic.Lemma
import Activation.Proofs.EntryList
import Activation.Proofs.Environment.Variables
import Activation.Proofs.Extensionality
import Activation.Proofs.Text

namespace Activation

/-! ### Readings of a key -/

namespace Environment

variable {environment : Environment} {key value : String}

/-- The environment has a value at a key, and each reading of the key is one of this value. -/
structure Shows (environment : Environment) (key value : String) : Prop where
  property : environment.property key = some value
  boolean : ∀ flag, Property.IsFlag value flag → environment.boolean key = .ok (some flag)
  spoilt : (∀ flag, ¬ Property.IsFlag value flag) →
    environment.boolean key = .error (.invalidProperty key value)
  entries : environment.entries key = Property.entries value
  blank : Text.AllBlank value.toList →
    environment.boolean key = .error (.invalidProperty key value) ∧ environment.entries key = []

/-- The environment has no value at a key. -/
structure Lacks (environment : Environment) (key : String) : Prop where
  property : environment.property key = none
  boolean : environment.boolean key = .ok none
  entries : environment.entries key = []

/-- Two environments answer a key alike, however it is read. -/
structure AnswersAlike (environment other : Environment) (key : String) : Prop where
  property : environment.property key = other.property key
  boolean : environment.boolean key = other.boolean key
  entries : environment.entries key = other.entries key

/-- The readings of a key are decided by its value alone. -/
lemma answersAlike_of_property {other : Environment}
    (h : environment.property key = other.property key) :
    environment.AnswersAlike other key where
  property := h
  boolean := by rw [boolean, boolean, h]
  entries := by rw [entries, entries, h]

/-- A blank value spells no Boolean. -/
lemma not_isFlag_of_allBlank (h : Text.AllBlank value.toList) (flag : Bool) :
    ¬ Property.IsFlag value flag := by
  rw [Property.IsFlag, Text.trim_eq_nil_iff.mpr h]
  cases flag <;> decide

/-- A blank value lists nothing. -/
lemma entries_of_allBlank (h : Text.AllBlank value.toList) : Property.entries value = [] :=
  (Property.enlists_iff (by decide)).mp (.last (.nothing h))

lemma boolean_of_property (h : environment.property key = some value) :
    environment.boolean key = (Property.boolean key value).map some := by
  rw [boolean, h]

lemma shows_of_property (h : environment.property key = some value) :
    environment.Shows key value := by
  have hread := boolean_of_property h
  have hspoilt : (∀ flag, ¬ Property.IsFlag value flag) →
      environment.boolean key = .error (.invalidProperty key value) := by
    intro hnone
    rw [hread, Property.boolean, Property.boolean?_eq_none_iff.mpr hnone]
    rfl
  have hentries : environment.entries key = Property.entries value := by rw [entries, h]
  refine ⟨h, fun flag hflag => ?_, hspoilt, hentries, fun hblank => ?_⟩
  · rw [hread, Property.boolean, Property.boolean?_eq_some_iff.mpr hflag]
    rfl
  · rw [hentries]
    exact ⟨hspoilt (not_isFlag_of_allBlank hblank), entries_of_allBlank hblank⟩

lemma lacks_of_property (h : environment.property key = none) : environment.Lacks key where
  property := h
  boolean := by rw [boolean, h]
  entries := by rw [entries, h]

end Environment

/-! ### Trees of layers -/

namespace PropertySource

lemma property_map (vars : Variables) (key : String) (identity : Identity)
    (properties : Table String) :
    (map identity properties).property vars key = properties.find? key := rfl

lemma property_process (vars : Variables) (key : String) (identity : Identity) :
    (process identity).property vars key = vars.property key := rfl

lemma property_layered (vars : Variables) (key : String) (identity : Identity)
    (layers : List PropertySource) :
    (layered identity layers).property vars key = firstProperty vars key layers := rfl

lemma firstProperty_nil (vars : Variables) (key : String) : firstProperty vars key [] = none := rfl

lemma firstProperty_cons (vars : Variables) (key : String) (layer : PropertySource)
    (layers : List PropertySource) :
    firstProperty vars key (layer :: layers) =
      (layer.property vars key).or (firstProperty vars key layers) := by
  rw [firstProperty]
  cases layer.property vars key <;> rfl

mutual

/-- The sources without layers, depth first and from left to right. -/
def leaves : PropertySource → List PropertySource
  | .map identity properties => [.map identity properties]
  | .process identity => [.process identity]
  | .layered _ layers => leavesOf layers

/-- The leaves of several sources, one source behind the other. -/
def leavesOf : List PropertySource → List PropertySource
  | [] => []
  | source :: sources => leaves source ++ leavesOf sources

end

/-- The source has no layers. -/
def IsLeaf : PropertySource → Prop
  | .layered _ _ => False
  | _ => True

variable {vars : Variables} {key value : String} {source leaf : PropertySource}

/-- A source without layers holds a value at a key. -/
inductive Holds (vars : Variables) (key value : String) : PropertySource → Prop
  | map {identity : Identity} {properties : Table String}
      (h : (key, value) ∈ properties.entries) : Holds vars key value (.map identity properties)
  | process {identity : Identity} (h : vars.Answers key value) :
      Holds vars key value (.process identity)

/-- The first of several sources that holds a key holds this value. -/
def FirstHolds (vars : Variables) (key value : String) (sources : List PropertySource) : Prop :=
  ∃ before source behind, sources = before ++ source :: behind ∧
    (∀ earlier ∈ before, ∀ other, ¬ Holds vars key other earlier) ∧ Holds vars key value source

mutual

/-- A tree answers as its leaves do one behind the other. -/
lemma property_eq_findSome? (vars : Variables) (key : String) :
    (source : PropertySource) →
      source.property vars key = source.leaves.findSome? (property vars key)
  | .map identity properties => by rw [leaves, List.findSome?_singleton]
  | .process identity => by rw [leaves, List.findSome?_singleton]
  | .layered identity layers => by
      rw [property_layered, leaves, firstProperty_eq_findSome? vars key layers]

/-- Layers answer as their leaves do one behind the other. -/
lemma firstProperty_eq_findSome? (vars : Variables) (key : String) :
    (layers : List PropertySource) →
      firstProperty vars key layers = (leavesOf layers).findSome? (property vars key)
  | [] => rfl
  | layer :: layers => by
      rw [firstProperty_cons, leavesOf, List.findSome?_append, property_eq_findSome? vars key layer,
        firstProperty_eq_findSome? vars key layers]

end

mutual

lemma isLeaf_of_mem_leaves : (source : PropertySource) → leaf ∈ source.leaves → leaf.IsLeaf
  | .map _ _, h => List.mem_singleton.mp h ▸ trivial
  | .process _, h => List.mem_singleton.mp h ▸ trivial
  | .layered _ layers, h => isLeaf_of_mem_leavesOf layers h

lemma isLeaf_of_mem_leavesOf :
    (layers : List PropertySource) → leaf ∈ leavesOf layers → leaf.IsLeaf
  | [], h => absurd h List.not_mem_nil
  | layer :: layers, h =>
      (List.mem_append.mp h).elim (isLeaf_of_mem_leaves layer) (isLeaf_of_mem_leavesOf layers)

end

lemma IsLeaf.leaves_eq (h : source.IsLeaf) : source.leaves = [source] := by
  cases source with
  | layered identity layers => exact h.elim
  | _ => rfl

lemma IsLeaf.property_eq_some_iff (h : source.IsLeaf) :
    source.property vars key = some value ↔ Holds vars key value source := by
  cases source with
  | map identity properties =>
      rw [property, Table.find?_eq_some_iff]
      exact ⟨.map, fun hholds => by cases hholds; assumption⟩
  | process identity =>
      rw [property, Variables.property_eq_some_iff]
      exact ⟨.process, fun hholds => by cases hholds; assumption⟩
  | layered identity layers => exact h.elim

lemma IsLeaf.property_eq_none_iff (h : source.IsLeaf) :
    source.property vars key = none ↔ ∀ value, ¬ Holds vars key value source := by
  simp only [Option.eq_none_iff_forall_ne_some, ne_eq, h.property_eq_some_iff]

/-- Sources without layers are their own leaves. -/
lemma leavesOf_eq_self {sources : List PropertySource} (h : ∀ source ∈ sources, source.IsLeaf) :
    leavesOf sources = sources := by
  induction sources with
  | nil => rfl
  | cons source sources ih =>
      obtain ⟨hsource, hsources⟩ := List.forall_mem_cons.mp h
      rw [leavesOf, hsource.leaves_eq, ih hsources]
      rfl

/-- **A tree of layers** answers a key with the value of the first leaf that holds it. -/
lemma property_eq_some_iff :
    source.property vars key = some value ↔ FirstHolds vars key value source.leaves := by
  rw [property_eq_findSome?, List.findSome?_eq_some_iff, FirstHolds]
  refine exists_congr fun before => exists_congr fun leaf => exists_congr fun behind =>
    and_congr_right fun hleaves => ?_
  have hall : ∀ {inner}, inner ∈ before ++ leaf :: behind → inner.IsLeaf := fun h =>
    isLeaf_of_mem_leaves source (hleaves ▸ h)
  rw [(hall (by simp)).property_eq_some_iff, and_comm]
  refine and_congr_left fun _ => forall₂_congr fun earlier hearlier => ?_
  exact (hall (List.mem_append_left _ hearlier)).property_eq_none_iff

lemma property_eq_none_iff :
    source.property vars key = none ↔ ∀ value, ¬ FirstHolds vars key value source.leaves := by
  simp only [Option.eq_none_iff_forall_ne_some, ne_eq, property_eq_some_iff]

lemma leavesOf_append (front back : List PropertySource) :
    leavesOf (front ++ back) = leavesOf front ++ leavesOf back := by
  induction front with
  | nil => rfl
  | cons layer front ih => rw [List.cons_append, leavesOf, leavesOf, ih, List.append_assoc]

/-- Sources with the same leaves answer alike. -/
lemma answersAlike_of_leaves {other : PropertySource} (h : other.leaves = source.leaves)
    (vars : Variables) (key : String) :
    (other.environment vars).AnswersAlike (source.environment vars) key := by
  refine Environment.answersAlike_of_property ?_
  simp only [environment, property_eq_findSome?, h]

/-- What the environment answers that a source makes, in terms of the leaves of the source. -/
structure AnswersByLeaves (source : PropertySource) (vars : Variables) : Prop where
  /-- The value is that of the first leaf that holds the key. -/
  property_iff : ∀ key value, (source.environment vars).property key = some value ↔
    FirstHolds vars key value source.leaves
  /-- The value decides all readings of the key, whatever the leaves behind hold. -/
  held : ∀ before leaf behind key value, source.leaves = before ++ leaf :: behind →
    (∀ earlier ∈ before, ∀ other, ¬ Holds vars key other earlier) → Holds vars key value leaf →
    (source.environment vars).Shows key value
  unheld : ∀ key, (∀ leaf ∈ source.leaves, ∀ value, ¬ Holds vars key value leaf) →
    (source.environment vars).Lacks key
  /-- One row of all leaves answers alike, and so does any other grouping of them. -/
  flat : ∀ identity key, ((layered identity source.leaves).environment vars).AnswersAlike
    (source.environment vars) key
  regrouped : ∀ other : PropertySource, other.leaves = source.leaves → ∀ key,
    (other.environment vars).AnswersAlike (source.environment vars) key
  /-- Among other layers, the source may be replaced by its leaves. -/
  spliced : ∀ identity above below key,
    ((layered identity (above ++ source.leaves ++ below)).environment vars).AnswersAlike
      ((layered identity (above ++ source :: below)).environment vars) key

/-- **Layers** may be grouped in any way, and a value in a higher one hides all values below it. -/
theorem answersByLeaves_of_source (source : PropertySource) (vars : Variables) :
    source.AnswersByLeaves vars := by
  have hleaves : leavesOf source.leaves = source.leaves :=
    leavesOf_eq_self fun leaf => isLeaf_of_mem_leaves source
  have hrow : ∀ identity, (layered identity source.leaves).leaves = source.leaves :=
    fun identity => hleaves
  exact {
    property_iff := fun key value => property_eq_some_iff
    held := fun before leaf behind key value hsource hbefore hleaf =>
      Environment.shows_of_property
        (property_eq_some_iff.mpr ⟨before, leaf, behind, hsource, hbefore, hleaf⟩)
    unheld := by
      intro key hnone
      refine Environment.lacks_of_property (property_eq_none_iff.mpr ?_)
      rintro value ⟨before, leaf, behind, hsource, -, hleaf⟩
      exact hnone leaf (hsource ▸ by simp) value hleaf
    flat := fun identity key => answersAlike_of_leaves (hrow identity) vars key
    regrouped := fun other hother key => answersAlike_of_leaves hother vars key
    spliced := by
      intro identity above below key
      refine answersAlike_of_leaves ?_ vars key
      simp only [leaves, leavesOf_append, leavesOf, hleaves, List.append_assoc] }

/-- A blank value in a shared source, in front of usable ones that are nested deeper. -/
example :
    let shared : PropertySource := .map ⟨1⟩ (.ofList [("switch", " ")])
    let below : PropertySource := .layered ⟨4⟩ [.map ⟨2⟩ (.ofList [("switch", "true")]), shared]
    let vars : Variables := .ofPairs [("SWITCH", "false"), ("LIST", "a, b")]
    let environment := (layered ⟨5⟩ [.layered ⟨6⟩ [shared, .process ⟨3⟩], below]).environment vars
    environment.boolean "switch" = .error (.invalidProperty "switch" " ") ∧
      environment.entries "switch" = [] ∧ environment.entries "list" = ["a", "b"] := by
  decide +kernel

end PropertySource

end Activation
