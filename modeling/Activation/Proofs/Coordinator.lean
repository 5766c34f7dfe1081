/-
What a coordinator selects.

* `Coordinator.ofCalls`: the coordinator after sites have registered entries.
* `Coordinator.find?_owners_ofCalls`: a module is owned by the first site whose
  entry accepts it.
* `Coordinator.Survives`: a module is accepted by some entry and excluded by
  none.
* `Coordinator.selectImports_ofCalls`: the selection is the activation order of
  the surviving modules, each with its owner.
* `Coordinator.IsSelection`, `Coordinator.isSelection_of_selectImports`: what the
  imports are, module by module.
-/
import Activation.Coordinator
import Activation.Proofs.Ordering.Sort

namespace Activation

namespace Coordinator

variable {index : Index} {calls : List (Site × Entry)} {entries : List Entry}
  {owners : Table String} {coordinator : Coordinator} {ids : List ModuleId} {id : ModuleId}

/-! ### Accepted and excluded modules -/

@[simp] lemma mem_accepted :
    id ∈ accepted entries ↔ ∃ entry ∈ entries, id ∈ entry.configurations := by
  simp [accepted]

@[simp] lemma mem_excluded : id ∈ excluded entries ↔ ∃ entry ∈ entries, id ∈ entry.exclusions := by
  suffices h : ∀ all : Exclusions,
      id ∈ entries.foldl (fun all entry => all.union entry.exclusions) all ↔
        id ∈ all ∨ ∃ entry ∈ entries, id ∈ entry.exclusions by
    simpa [excluded] using h .empty
  induction entries with
  | nil => simp
  | cons entry entries ih =>
      intro all
      rw [List.foldl_cons, ih, Exclusions.mem_union, or_assoc]
      simp

/-! ### Owners -/

/-- A site becomes the owner of the modules it contributes that have none. -/
lemma find?_enroll (owners : Table String) (site : String) (ids : List ModuleId) (id : ModuleId) :
    (enroll owners site ids).find? id =
      (owners.find? id).or (if id ∈ ids then some site else none) := by
  induction ids generalizing owners with
  | nil => simp [enroll]
  | cons head ids ih =>
      have hcons : enroll owners site (head :: ids) =
          enroll (owners.insertNew head site) site ids := rfl
      rw [hcons, ih, Table.find?_insertNew]
      by_cases hid : id = head
      · subst hid
        cases owners.find? id <;> simp
      · simp [hid]

/-- Modules that all have owners are all listed. -/
lemma map_id_owned (h : ∀ id ∈ ids, (owners.find? id).isSome) :
    (owned owners ids).map Import.id = ids := by
  induction ids with
  | nil => rfl
  | cons id ids ih =>
      obtain ⟨site, hsite⟩ := Option.isSome_iff_exists.mp (h id List.mem_cons_self)
      have hcons : owned owners (id :: ids) = ⟨site, id⟩ :: owned owners ids := by
        simp [owned, hsite]
      rw [hcons, List.map_cons, ih fun other hother => h other (List.mem_cons_of_mem id hother)]

/-- The imports of modules are these with their owners. -/
lemma mem_owned {imported : Import} :
    imported ∈ owned owners ids ↔
      imported.id ∈ ids ∧ owners.find? imported.id = some imported.site := by
  rw [owned, List.mem_filterMap]
  constructor
  · rintro ⟨id, hid, himported⟩
    obtain ⟨site, hsite, rfl⟩ := Option.map_eq_some_iff.mp himported
    exact ⟨hid, hsite⟩
  · rintro ⟨hid, hsite⟩
    exact ⟨imported.id, hid, by rw [hsite]; rfl⟩

/-- An import names the owner of its module. -/
lemma find?_of_mem_owned {imported : Import} (h : imported ∈ owned owners ids) :
    owners.find? imported.id = some imported.site :=
  (mem_owned.mp h).2

/-! ### Registrations -/

/-- The coordinator after sites have registered their entries in turn. -/
def ofCalls (index : Index) (calls : List (Site × Entry)) : Coordinator :=
  calls.foldl (fun coordinator call => coordinator.process call.1 call.2) (.new index)

/-- Calls behind others are registered after them. -/
lemma ofCalls_concat (call : Site × Entry) :
    ofCalls index (calls ++ [call]) = (ofCalls index calls).process call.1 call.2 := by
  simp [ofCalls]

lemma index_ofCalls (index : Index) (calls : List (Site × Entry)) :
    (ofCalls index calls).index = index := by
  induction calls using List.reverseRecOn with
  | nil => rfl
  | append_singleton calls call ih => rw [ofCalls_concat]; exact ih

lemma entries_ofCalls (index : Index) (calls : List (Site × Entry)) :
    (ofCalls index calls).entries = calls.map Prod.snd := by
  induction calls using List.reverseRecOn with
  | nil => rfl
  | append_singleton calls call ih => rw [ofCalls_concat, List.map_append, ← ih]; rfl

lemma selected_ofCalls (index : Index) (calls : List (Site × Entry)) :
    (ofCalls index calls).selected = none := by
  induction calls using List.reverseRecOn with
  | nil => rfl
  | append_singleton calls call _ => rw [ofCalls_concat]; rfl

/-- **The owner of a module** is the first site whose entry accepts it. -/
lemma find?_owners_ofCalls (index : Index) (calls : List (Site × Entry)) (id : ModuleId) :
    (ofCalls index calls).owners.find? id =
      (calls.find? fun call => id ∈ call.2.configurations).map fun call => call.1.name := by
  induction calls using List.reverseRecOn with
  | nil => rfl
  | append_singleton calls call ih =>
      have howners : (ofCalls index (calls ++ [call])).owners =
          enroll (ofCalls index calls).owners call.1.name call.2.configurations := by
        rw [ofCalls_concat]; rfl
      rw [howners, find?_enroll, ih, List.find?_append, Option.map_or]
      by_cases hid : id ∈ call.2.configurations <;> simp [hid]

/-! ### Selections -/

/-- The module is accepted by some entry and excluded by none. -/
def Survives (calls : List (Site × Entry)) (id : ModuleId) : Prop :=
  (∃ call ∈ calls, id ∈ call.2.configurations) ∧ ∀ call ∈ calls, ¬ id ∈ call.2.exclusions

/-- The modules that survive, in order of first acceptance. -/
def surviving (calls : List (Site × Entry)) : List ModuleId :=
  subtract (accepted (calls.map Prod.snd)) (excluded (calls.map Prod.snd))

@[simp] lemma mem_surviving : id ∈ surviving calls ↔ Survives calls id := by
  simp only [surviving, Survives, mem_subtract, mem_accepted, mem_excluded, List.mem_map,
    exists_exists_and_eq_and, not_exists, not_and]

/-- A module that survives has an owner. -/
lemma isSome_owner (index : Index) (h : Survives calls id) :
    ((ofCalls index calls).owners.find? id).isSome := by
  obtain ⟨⟨call, hcall, hid⟩, -⟩ := h
  rw [find?_owners_ofCalls, Option.isSome_map, List.find?_isSome]
  exact ⟨call, hcall, by simpa using hid⟩

lemma activationOrder_nil (index : Index) : activationOrder [] index = .ok [] := by
  have hacyclic : ∀ id, ¬ Relation.TransGen (index.Binds []) id id := by
    intro id h
    obtain ⟨_, hbinds, -⟩ := Relation.TransGen.head'_iff.mp h
    exact List.not_mem_nil hbinds.mem_left
  obtain ⟨order, horder⟩ := exists_activationOrder hacyclic
  have hempty : order = [] := List.eq_nil_iff_forall_not_mem.mpr fun id hid =>
    List.not_mem_nil (((first_of_activationOrder horder).mem_iff id).mp hid)
  rw [horder, hempty]

/-- **A selection** is the activation order of the surviving modules, each with its owner. -/
lemma selectImports_ofCalls (index : Index) (calls : List (Site × Entry)) :
    (ofCalls index calls).selectImports.1 =
      (activationOrder (surviving calls) index).map (owned (ofCalls index calls).owners) := by
  rw [selectImports, selected_ofCalls]
  cases calls with
  | nil =>
      have hempty : surviving [] = [] := rfl
      rw [hempty, activationOrder_nil]
      rfl
  | cons call calls =>
      have hne : (ofCalls index (call :: calls)).entries.isEmpty = false := by
        rw [entries_ofCalls]; rfl
      have hselection : (ofCalls index (call :: calls)).selection =
          (activationOrder (surviving (call :: calls)) index).map
            (owned (ofCalls index (call :: calls)).owners) := by
        rw [selection, entries_ofCalls, index_ofCalls, surviving]
      simp only [hne, Bool.false_eq_true, if_false]
      rw [← hselection]
      cases (ofCalls index (call :: calls)).selection <;> rfl

/-- Every module of the order has an owner. -/
lemma map_id_owned_ofCalls {order : List ModuleId}
    (h : activationOrder (surviving calls) index = .ok order) :
    (owned (ofCalls index calls).owners order).map Import.id = order :=
  map_id_owned fun id hid => isSome_owner index <|
    mem_surviving.mp (((first_of_activationOrder h).mem_iff id).mp hid)

/-- The ids of a selection are the activation order of the surviving modules. -/
lemma activationOrder_of_selectImports {imports : List Import}
    (h : (ofCalls index calls).selectImports.1 = .ok imports) :
    activationOrder (surviving calls) index = .ok (imports.map Import.id) ∧
      imports = owned (ofCalls index calls).owners (imports.map Import.id) := by
  rw [selectImports_ofCalls] at h
  cases horder : activationOrder (surviving calls) index with
  | error cause => rw [horder] at h; cases h
  | ok order =>
      rw [horder] at h
      obtain rfl : owned (ofCalls index calls).owners order = imports := Except.ok.inj h
      rw [map_id_owned_ofCalls horder]
      exact ⟨rfl, rfl⟩

/-- An order of the surviving modules makes a selection. -/
lemma exists_selectImports {order : List ModuleId}
    (h : activationOrder (surviving calls) index = .ok order) :
    ∃ imports, (ofCalls index calls).selectImports.1 = .ok imports ∧
      imports.map Import.id = order :=
  ⟨_, by rw [selectImports_ofCalls, h]; rfl, map_id_owned_ofCalls h⟩

/-- Where the surviving modules have no order, there is no selection for the same cause. -/
lemma selectImports_eq_error {cause : ResolveError}
    (h : activationOrder (surviving calls) index = .error cause) :
    (ofCalls index calls).selectImports.1 = .error cause := by
  rw [selectImports_ofCalls, h]
  rfl

/-- What imports are selected after the calls: the surviving modules in activation order, each once
and owned by the first site whose entry accepts it. -/
structure IsSelection (index : Index) (calls : List (Site × Entry)) (imports : List Import) :
    Prop where
  ordered : ∀ ids : List ModuleId, (∀ id, id ∈ ids ↔ Survives calls id) →
    activationOrder ids index = .ok (imports.map Import.id)
  nodup : (imports.map Import.id).Nodup
  mem_iff : ∀ id, id ∈ imports.map Import.id ↔ Survives calls id
  owner : ∀ imported ∈ imports,
    (calls.find? fun call => imported.id ∈ call.2.configurations).map (fun call => call.1.name) =
      some imported.site

/-- **The imports** after any registrations, in whichever order modules are accepted and
excluded. -/
theorem isSelection_of_selectImports {imports : List Import}
    (h : (ofCalls index calls).selectImports.1 = .ok imports) :
    IsSelection index calls imports := by
  obtain ⟨horder, howned⟩ := activationOrder_of_selectImports h
  have hfirst := first_of_activationOrder horder
  refine ⟨fun ids hids => ?_, hfirst.nodup, fun id => ?_, fun imported himported => ?_⟩
  · rw [← horder]
    exact activationOrder_congr (fun id => by rw [hids, mem_surviving]) index
  · rw [hfirst.mem_iff, mem_surviving]
  · rw [← find?_owners_ofCalls index]
    exact find?_of_mem_owned (howned ▸ himported)

/-- Two sites accept modules twice; each excludes one that the other accepts. -/
def crossExclusions : List (Site × Entry) :=
  [(.named "one", ⟨["c", "a", "b", "a"], .ofList ["d"]⟩),
    (.named "two", ⟨["d", "a", "e"], .ofList ["b", "x"]⟩)]

theorem isSelection_crossExclusions :
    (ofCalls .inverted crossExclusions).selectImports.1 =
        .ok [⟨"one", "a"⟩, ⟨"one", "c"⟩, ⟨"two", "e"⟩] ∧
      IsSelection .inverted crossExclusions [⟨"one", "a"⟩, ⟨"one", "c"⟩, ⟨"two", "e"⟩] :=
  have h : (ofCalls .inverted crossExclusions).selectImports.1 =
      .ok [⟨"one", "a"⟩, ⟨"one", "c"⟩, ⟨"two", "e"⟩] := by
    decide +kernel
  ⟨h, isSelection_of_selectImports h⟩

end Coordinator

end Activation
