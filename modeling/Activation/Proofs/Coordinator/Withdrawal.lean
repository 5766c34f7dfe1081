/-
Exclusions that come late.

Entries that accept nothing can only take modules away. What they leave can still
be ordered, in another order perhaps, and keeps its owners.

* `Coordinator.OnlyExclude`: registrations whose entries accept nothing.
* `survives_append`, `find?_owners_append`: behind other registrations they add no
  module and no owner, and what they exclude is gone.
* `mem_of_selectImports`: the imports are the surviving modules with their owners.
* `exists_selectImports_append`: where there was a selection there is one behind
  them, of the earlier imports that they do not exclude.
* `Coordinator.selectImports_of_onlyExclude`: the same for a coordinator in use.
-/
import Activation.Proofs.Coordinator.Calls
import Activation.Proofs.Ordering.Cycle

namespace Activation

namespace Coordinator

variable {index : Index} {made further : List (Site × Entry)} {imports : List Import}
  {id : ModuleId}

/-- The entries of the registrations accept nothing. -/
def OnlyExclude (calls : List (Site × Entry)) : Prop :=
  ∀ call ∈ calls, call.2.configurations = []

instance : DecidablePred OnlyExclude := fun calls => by
  unfold OnlyExclude
  infer_instance

/-- What survives further exclusions survived before and is not excluded by them. -/
lemma survives_append (h : OnlyExclude further) :
    Survives (made ++ further) id ↔
      Survives made id ∧ ∀ call ∈ further, ¬ id ∈ call.2.exclusions := by
  have hnone : ¬ ∃ call ∈ further, id ∈ call.2.configurations := by
    rintro ⟨call, hcall, hid⟩
    rw [h call hcall] at hid
    exact List.not_mem_nil hid
  have haccepted : (∃ call ∈ made ++ further, id ∈ call.2.configurations) ↔
      ∃ call ∈ made, id ∈ call.2.configurations := by
    simp only [List.mem_append, or_and_right, exists_or]
    exact or_iff_left hnone
  rw [Survives, Survives, haccepted, List.forall_mem_append, and_assoc]

/-- Further exclusions change no owner. -/
lemma find?_owners_append (h : OnlyExclude further) (index : Index) (id : ModuleId) :
    (ofCalls index (made ++ further)).owners.find? id = (ofCalls index made).owners.find? id := by
  have hnone : (further.find? fun call => id ∈ call.2.configurations) = none := by
    refine List.find?_eq_none.mpr fun call hcall => ?_
    rw [h call hcall]
    simp
  rw [find?_owners_ofCalls, find?_owners_ofCalls, List.find?_append, hnone, Option.or_none]

/-- **The imports** are the surviving modules, each with its owner. -/
lemma mem_of_selectImports (h : (ofCalls index made).selectImports.1 = .ok imports)
    (imported : Import) : imported ∈ imports ↔
      Survives made imported.id ∧
        (ofCalls index made).owners.find? imported.id = some imported.site := by
  obtain ⟨horder, howned⟩ := activationOrder_of_selectImports h
  have hmem : imported.id ∈ imports.map Import.id ↔ Survives made imported.id := by
    rw [(first_of_activationOrder horder).mem_iff, mem_surviving]
  rw [← hmem, ← mem_owned, ← howned]

/-- **Exclusions leave an order**: where there was a selection, further exclusions lead to one of
the earlier imports that they do not exclude. -/
lemma exists_selectImports_append (h : (ofCalls index made).selectImports.1 = .ok imports)
    (hfurther : OnlyExclude further) :
    ∃ rest, (ofCalls index (made ++ further)).selectImports.1 = .ok rest ∧
      ∀ imported, imported ∈ rest ↔
        imported ∈ imports ∧ ∀ call ∈ further, ¬ imported.id ∈ call.2.exclusions := by
  have hsub : ∀ id ∈ surviving (made ++ further), id ∈ surviving made := by
    intro id hid
    rw [mem_surviving, survives_append hfurther] at hid
    exact mem_surviving.mpr hid.1
  obtain ⟨horder, -⟩ := activationOrder_of_selectImports h
  obtain ⟨left, hleft⟩ := exists_activationOrder_of_not_blocked hsub
    fun id _ => not_blocked_of_activationOrder horder id
  obtain ⟨rest, hrest, -⟩ := exists_selectImports hleft
  refine ⟨rest, hrest, fun imported => ?_⟩
  rw [mem_of_selectImports hrest, mem_of_selectImports h, survives_append hfurther,
    find?_owners_append hfurther, and_right_comm]

/-- **Exclusions can only remove**: where a coordinator in use has a selection, it has one after any
further calls whose registrations accept nothing, and the imports are the earlier ones, with their
owners, whose modules are in none of the new exclusions. -/
theorem selectImports_of_onlyExclude {calls further : List Call}
    (h : (performAll (new index) calls).2.selectImports.1 = .ok imports)
    (hfurther : OnlyExclude (registrations further)) :
    ∃ rest, ((performAll (new index) calls).2.performAll further).2.selectImports.1 = .ok rest ∧
      ∀ imported, imported ∈ rest ↔ imported ∈ imports ∧
        ∀ call ∈ registrations further, ¬ imported.id ∈ call.2.exclusions := by
  have hbefore := ((Represents.new index).performAll calls).2
  have hafter := (hbefore.performAll further).2
  rw [hbefore.selectImports_eq] at h
  rw [hafter.selectImports_eq]
  exact exists_selectImports_append h hfurther

/-- Calls that lead to a selection. -/
def accepting : List Call :=
  [.process (.named "one") ⟨["c", "a", "b", "a"], .ofList ["d"]⟩, .entryCount,
    .process (.named "two") ⟨["d", "a", "e"], .empty⟩, .selectImports]

/-- Calls that exclude two modules, one of them twice, and one that no site accepts. -/
def withdrawing : List Call :=
  [.process (.named "three") ⟨[], .ofList ["b", "x"]⟩, .selectImports,
    .process (.named "one") ⟨[], .ofList ["e", "b"]⟩]

theorem selectImports_of_onlyExclude_withdrawing :
    (performAll (new .inverted) accepting).2.selectImports.1 =
        .ok [⟨"one", "c"⟩, ⟨"two", "e"⟩, ⟨"one", "b"⟩, ⟨"one", "a"⟩] ∧
      OnlyExclude (registrations withdrawing) ∧
      ((performAll (new .inverted) accepting).2.performAll withdrawing).2.selectImports.1 =
        .ok [⟨"one", "a"⟩, ⟨"one", "c"⟩] ∧
      ∀ imported, imported ∈ [(⟨"one", "a"⟩ : Import), ⟨"one", "c"⟩] ↔
        imported ∈ [(⟨"one", "c"⟩ : Import), ⟨"two", "e"⟩, ⟨"one", "b"⟩, ⟨"one", "a"⟩] ∧
          ∀ call ∈ registrations withdrawing, ¬ imported.id ∈ call.2.exclusions := by
  have haccepted : (performAll (new .inverted) accepting).2.selectImports.1 =
      .ok [⟨"one", "c"⟩, ⟨"two", "e"⟩, ⟨"one", "b"⟩, ⟨"one", "a"⟩] := by
    decide +kernel
  have honly : OnlyExclude (registrations withdrawing) := by decide +kernel
  have hleft :
      ((performAll (new .inverted) accepting).2.performAll withdrawing).2.selectImports.1 =
        .ok [⟨"one", "a"⟩, ⟨"one", "c"⟩] := by
    decide +kernel
  obtain ⟨rest, hrest, hmem⟩ := selectImports_of_onlyExclude haccepted honly
  cases hleft.symm.trans hrest
  exact ⟨haccepted, honly, hleft, hmem⟩

end Coordinator

end Activation
