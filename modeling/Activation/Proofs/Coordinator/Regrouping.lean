/-
Registrations in another order, or grouped otherwise.

What is activated goes by what the entries accept and exclude together. Who
registers it first decides no more than who owns it.

* `Coordinator.SameUnions`: registrations that accept the same modules together
  and exclude the same ones.
* `sameUnions_of_entries`, `sameUnions_split`: registrations reordered, repeated or
  made by other sites have the same unions, and so has an entry that is split in
  two.
* `survives_congr`: the same modules survive.
* `Coordinator.selectImports_of_sameUnions`: the same modules are selected in the
  same order, or the same ones are named for want of one.
* `Coordinator.regrouped`: entries that differ in all of these ways from those of
  `crossExclusions`.
-/
import Activation.Proofs.Coordinator

namespace Activation

namespace Coordinator

/-- The entries of two lists of registrations accept the same modules, each taken together, and
exclude the same ones. -/
structure SameUnions (first second : List (Site × Entry)) : Prop where
  accepted : ∀ id, (∃ call ∈ first, id ∈ call.2.configurations) ↔
    ∃ call ∈ second, id ∈ call.2.configurations
  excluded : ∀ id, (∃ call ∈ first, id ∈ call.2.exclusions) ↔
    ∃ call ∈ second, id ∈ call.2.exclusions

variable {first second third : List (Site × Entry)} {index : Index} {id : ModuleId}

lemma SameUnions.trans (h : SameUnions first second) (h' : SameUnions second third) :
    SameUnions first third :=
  ⟨fun id => (h.accepted id).trans (h'.accepted id),
    fun id => (h.excluded id).trans (h'.excluded id)⟩

/-- Registrations of the same entries, in whichever order, however often and by whichever sites. -/
lemma sameUnions_of_entries
    (h : ∀ entry, entry ∈ first.map Prod.snd ↔ entry ∈ second.map Prod.snd) :
    SameUnions first second := by
  have hmoved : ∀ P : Entry → Prop,
      (∃ call ∈ first, P call.2) ↔ ∃ call ∈ second, P call.2 := by
    intro P
    have hentries : ∀ calls : List (Site × Entry),
        (∃ call ∈ calls, P call.2) ↔ ∃ entry ∈ calls.map Prod.snd, P entry := by
      intro calls
      simp only [List.mem_map, exists_exists_and_eq_and]
    rw [hentries, hentries]
    simp only [h]
  exact ⟨fun id => hmoved fun entry => id ∈ entry.configurations,
    fun id => hmoved fun entry => id ∈ entry.exclusions⟩

/-- An entry that is split in two, to be registered by any sites. -/
lemma sameUnions_split {entry one other : Entry}
    (haccepted : ∀ id, id ∈ entry.configurations ↔
      id ∈ one.configurations ∨ id ∈ other.configurations)
    (hexcluded : ∀ id, id ∈ entry.exclusions ↔ id ∈ one.exclusions ∨ id ∈ other.exclusions)
    (site oneSite otherSite : Site) (before behind : List (Site × Entry)) :
    SameUnions (before ++ (site, entry) :: behind)
      (before ++ (oneSite, one) :: (otherSite, other) :: behind) := by
  constructor
  · intro id
    simp only [List.mem_append, List.mem_cons, or_and_right, exists_or, exists_eq_left, haccepted,
      or_assoc]
  · intro id
    simp only [List.mem_append, List.mem_cons, or_and_right, exists_or, exists_eq_left, hexcluded,
      or_assoc]

/-- The same modules survive. -/
lemma survives_congr (h : SameUnions first second) : Survives first id ↔ Survives second id := by
  have hkept : ∀ calls : List (Site × Entry),
      (∀ call ∈ calls, ¬ id ∈ call.2.exclusions) ↔ ¬ ∃ call ∈ calls, id ∈ call.2.exclusions := by
    intro calls
    rw [not_exists]
    simp only [not_and]
  rw [Survives, Survives, hkept, hkept, h.accepted, h.excluded]

/-- **Order and grouping of registrations do not matter**: where they accept the same modules
together and exclude the same ones, the same ids are selected in the same order, or there is no
order in either case and the same ids are named. -/
theorem selectImports_of_sameUnions (h : SameUnions first second) (index : Index) :
    (∃ imports others, (ofCalls index first).selectImports.1 = .ok imports ∧
      (ofCalls index second).selectImports.1 = .ok others ∧
        imports.map Import.id = others.map Import.id) ∨
    ∃ ids, (ofCalls index first).selectImports.1 = .error (.cyclicOrdering ids) ∧
      (ofCalls index second).selectImports.1 = .error (.cyclicOrdering ids) := by
  have hsame : activationOrder (surviving second) index =
      activationOrder (surviving first) index :=
    activationOrder_congr (fun id => by rw [mem_surviving, mem_surviving, survives_congr h]) index
  cases horder : activationOrder (surviving first) index with
  | ok order =>
      obtain ⟨imports, himports, hids⟩ := exists_selectImports horder
      obtain ⟨others, hothers, hotherIds⟩ := exists_selectImports (hsame.trans horder)
      exact Or.inl ⟨imports, others, himports, hothers, hids.trans hotherIds.symm⟩
  | error cause =>
      obtain ⟨ids, rfl⟩ := exists_of_activationOrder_eq_error horder
      exact Or.inr ⟨ids, selectImports_eq_error horder,
        selectImports_eq_error (hsame.trans horder)⟩

/-- The entries of `crossExclusions` the other way round, the first of them made twice and the
second split between two sites. -/
def regrouped : List (Site × Entry) :=
  [(.named "three", ⟨["d", "e"], .ofList ["x"]⟩), (.named "two", ⟨["a"], .ofList ["b"]⟩),
    (.named "one", ⟨["c", "a", "b", "a"], .ofList ["d"]⟩),
    (.named "four", ⟨["c", "a", "b", "a"], .ofList ["d"]⟩)]

lemma sameUnions_regrouped : SameUnions crossExclusions regrouped := by
  have hreversed : SameUnions crossExclusions
      [(.named "two", ⟨["d", "a", "e"], .ofList ["b", "x"]⟩),
        (.named "one", ⟨["c", "a", "b", "a"], .ofList ["d"]⟩),
        (.named "four", ⟨["c", "a", "b", "a"], .ofList ["d"]⟩)] := by
    refine sameUnions_of_entries fun entry => ?_
    simp only [crossExclusions, List.map_cons, List.map_nil, List.mem_cons, List.not_mem_nil,
      or_false, or_self]
    exact or_comm
  refine hreversed.trans (sameUnions_split (fun id => ?_) (fun id => ?_) _ _ _ [] _)
  · simp only [List.mem_cons, List.not_mem_nil, or_false]
    tauto
  · simp only [Exclusions.mem_ofList, List.mem_cons, List.not_mem_nil, or_false]
    exact or_comm

end Coordinator

/-- An index in which `a` and `c` must each follow the other. -/
def Index.entangled : Index :=
  let assignments : List Assignment := [⟨"a", "After", "c"⟩, ⟨"c", "After", "a"⟩]
  assignments.foldl (fun index a => (index.insert a).2) .empty

namespace Coordinator

theorem selectImports_of_sameUnions_regrouped :
    SameUnions crossExclusions regrouped ∧
      (ofCalls .inverted regrouped).selectImports.1 =
        .ok [⟨"two", "a"⟩, ⟨"one", "c"⟩, ⟨"three", "e"⟩] ∧
      (∃ others, (ofCalls .inverted crossExclusions).selectImports.1 = .ok others ∧
        others.map Import.id = ["a", "c", "e"]) ∧
      (ofCalls .entangled regrouped).selectImports.1 = .error (.cyclicOrdering ["a", "c"]) ∧
      (ofCalls .entangled crossExclusions).selectImports.1 =
        .error (.cyclicOrdering ["a", "c"]) := by
  have hordered : (ofCalls .inverted regrouped).selectImports.1 =
      .ok [⟨"two", "a"⟩, ⟨"one", "c"⟩, ⟨"three", "e"⟩] := by
    decide +kernel
  have hcyclic : (ofCalls .entangled regrouped).selectImports.1 =
      .error (.cyclicOrdering ["a", "c"]) := by
    decide +kernel
  refine ⟨sameUnions_regrouped, hordered, ?_, hcyclic, ?_⟩
  · obtain ⟨others, imports, hothers, himports, hids⟩ | ⟨ids, -, herror⟩ :=
      selectImports_of_sameUnions sameUnions_regrouped .inverted
    · cases hordered.symm.trans himports
      exact ⟨others, hothers, hids⟩
    · cases hordered.symm.trans herror
  · obtain ⟨others, imports, -, himports, -⟩ | ⟨ids, hothers, herror⟩ :=
      selectImports_of_sameUnions sameUnions_regrouped .entangled
    · cases hcyclic.symm.trans himports
    · cases hcyclic.symm.trans herror
      exact hothers

end Coordinator

end Activation
