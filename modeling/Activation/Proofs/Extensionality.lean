/-
Equal contents.

Sets and tables list their contents in strictly increasing order. A list in such
an order is fixed by its members, so what answers alike is equal.

* `eq_of_isSome_eq`: options are equal when they hold something alike.
* `IdSet.eq_of_mem_iff`: sets of the same ids are equal.
* `Table.find?_eq_some_iff`, `Table.eq_of_find?`: a value stands at a key when it
  is listed with it, and tables with the same values at all keys are equal.
* `Table.find?_ofList_eq_some_iff`, `Table.ofList_entries`: a table made of pairs
  holds the last value for a key, and made of the entries of a table it is that table.
-/
import Mathlib.Data.List.Induction
import Mathlib.Data.List.Sort
import Activation.IdSet
import Activation.Table

namespace Activation

/-- Options are equal when both or neither of them hold something, and what they hold is the same. -/
lemma eq_of_isSome_eq {α : Type} {a b : Option α} (hsome : a.isSome = b.isSome)
    (h : ∀ first second, a = some first → b = some second → first = second) : a = b := by
  cases a with
  | none =>
      cases b with
      | none => rfl
      | some second => cases hsome
  | some first =>
      cases b with
      | none => cases hsome
      | some second => exact congrArg some (h first second rfl rfl)

/-- Sets of the same ids are equal. -/
lemma IdSet.eq_of_mem_iff {a b : IdSet} (h : ∀ id, id ∈ a ↔ id ∈ b) : a = b := by
  have hirrefl : Std.Irrefl fun first second : ModuleId => first < second := ⟨String.lt_irrefl⟩
  have hantisymm : Std.Antisymm fun first second : ModuleId => first < second :=
    ⟨fun _ _ hab hba => absurd hba (String.lt_asymm hab)⟩
  have hlist : a.toList = b.toList := a.increasing.eq_of_mem_iff b.increasing h
  cases a
  cases b
  cases hlist
  rfl

namespace Table

variable {α : Type} {a b table : Table α} {key : String} {value : α}

/-- The entries of a table are in the order of their keys. -/
lemma pairwise_entries (table : Table α) :
    table.entries.Pairwise fun first second => first.1 < second.1 :=
  List.pairwise_map.mp table.increasing

/-- A value stands at a key when it is listed with the key. -/
lemma find?_eq_some_iff : table.find? key = some value ↔ (key, value) ∈ table.entries := by
  have hpairwise := table.pairwise_entries
  rw [find?]
  generalize table.entries = entries at hpairwise
  induction entries with
  | nil => simp
  | cons entry entries ih =>
      obtain ⟨hbelow, hentries⟩ := List.pairwise_cons.mp hpairwise
      rw [List.findSome?_cons, List.mem_cons]
      by_cases hkey : entry.1 = key
      · -- the key stands in front, so that no later entry has it
        have hlater : (key, value) ∉ entries := fun hmem =>
          String.lt_irrefl key (hkey ▸ hbelow (key, value) hmem)
        simp only [if_pos hkey, Option.some.injEq, hlater, or_false]
        rw [Prod.ext_iff]
        exact ⟨fun h => ⟨hkey.symm, h.symm⟩, fun h => h.2.symm⟩
      · have hfront : (key, value) ≠ entry := by
          rintro rfl
          exact hkey rfl
        simp only [if_neg hkey, hfront, false_or]
        exact ih hentries

/-- Tables with the same value at every key are equal. -/
lemma eq_of_find? (h : ∀ key, a.find? key = b.find? key) : a = b := by
  have hirrefl : Std.Irrefl fun first second : String × α => first.1 < second.1 :=
    ⟨fun entry => String.lt_irrefl entry.1⟩
  have hantisymm : Std.Antisymm fun first second : String × α => first.1 < second.1 :=
    ⟨fun _ _ hab hba => absurd hba (String.lt_asymm hab)⟩
  have hentries : a.entries = b.entries := by
    refine a.pairwise_entries.eq_of_mem_iff b.pairwise_entries fun entry => ?_
    rw [← find?_eq_some_iff, ← find?_eq_some_iff, h]
  cases a
  cases b
  cases hentries
  rfl

lemma ofList_concat (pairs : List (String × α)) (pair : String × α) :
    ofList (pairs ++ [pair]) = (ofList pairs).insert pair.1 pair.2 := by
  rw [ofList, List.foldl_append]
  rfl

lemma find?_ofList (pairs : List (String × α)) (key : String) :
    (ofList pairs).find? key =
      pairs.reverse.findSome? fun pair => if pair.1 = key then some pair.2 else none := by
  induction pairs using List.reverseRecOn with
  | nil => rfl
  | append_singleton pairs pair ih =>
      rw [ofList_concat, find?_insert, List.reverse_append, List.reverse_singleton,
        List.singleton_append, List.findSome?_cons, ih]
      by_cases hkey : pair.1 = key
      · rw [if_pos hkey, if_pos hkey.symm]
      · rw [if_neg hkey, if_neg (Ne.symm hkey)]

/-- Of the pairs with one key the last counts. -/
lemma find?_ofList_eq_some_iff {pairs : List (String × α)} :
    (ofList pairs).find? key = some value ↔
      ∃ before behind, pairs = before ++ (key, value) :: behind ∧
        ∀ later ∈ behind, later.1 ≠ key := by
  rw [find?_ofList, List.findSome?_eq_some_iff]
  constructor
  · rintro ⟨behind, pair, before, hpairs, hpair, hbehind⟩
    obtain ⟨rfl, hvalue⟩ := Option.ite_none_right_eq_some.mp hpair
    cases hvalue
    rw [List.reverse_eq_iff, List.reverse_append, List.reverse_cons, List.append_assoc] at hpairs
    refine ⟨before.reverse, behind.reverse, hpairs, fun later hlater heq => ?_⟩
    have hnone := hbehind later (List.mem_reverse.mp hlater)
    rw [if_pos heq] at hnone
    cases hnone
  · rintro ⟨before, behind, rfl, hbehind⟩
    refine ⟨behind.reverse, (key, value), before.reverse, by simp, if_pos rfl, fun later hlater => ?_⟩
    exact if_neg (hbehind later (List.mem_reverse.mp hlater))

@[simp] lemma ofList_entries (table : Table α) : ofList table.entries = table := by
  refine eq_of_find? fun key => Option.ext fun value => ?_
  rw [find?_ofList_eq_some_iff, find?_eq_some_iff]
  constructor
  · rintro ⟨before, behind, hentries, -⟩
    simp [hentries]
  · intro hmem
    obtain ⟨before, behind, hentries⟩ := List.append_of_mem hmem
    refine ⟨before, behind, hentries, fun later hlater heq => ?_⟩
    have hpairwise := table.pairwise_entries
    rw [hentries, List.pairwise_append, List.pairwise_cons] at hpairwise
    have hlt := hpairwise.2.1.1 later hlater
    exact String.lt_irrefl key (heq ▸ hlt)

end Table

end Activation
