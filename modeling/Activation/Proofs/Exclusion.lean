/-
What a set of exclusions holds.

The set is kept twice, as a list and for look-up. Both come to the ids that were
offered to it: the list has each of them once, in the order in which they were
first offered.

* `distinct_append`, `distinct_filter`: the first occurrences in a list put behind
  another one, and in a list of which a part is taken.
* `Exclusions.toList_insertMany`: what ids add to a set that are offered to it in turn.
* `Exclusions.Offered`: the sets that can be made, with the ids offered to each.
* `Exclusions.toList_of_offered`: a set lists the distinct ids offered to it.
* `Exclusions.Records`, `records_of_offered`: what every view of such a set is told by.
-/
import Mathlib.Data.Finset.Card
import Activation.Exclusion
import Activation.Proofs.Extensionality

namespace Activation

/-! ### First occurrences -/

variable {seen others ids : List ModuleId} {id : ModuleId}

/-- What counts of the ids that were seen is which of those to come are among them. -/
lemma distinctFrom_congr (h : ∀ id ∈ ids, id ∈ seen ↔ id ∈ others) :
    distinctFrom seen ids = distinctFrom others ids := by
  induction ids generalizing seen others with
  | nil => rfl
  | cons head ids ih =>
      obtain ⟨hhead, hids⟩ := List.forall_mem_cons.mp h
      have hcons : ∀ id ∈ ids, id ∈ head :: seen ↔ id ∈ head :: others := fun id hid => by
        rw [List.mem_cons, List.mem_cons, hids id hid]
      rw [distinctFrom, distinctFrom, ih hids, ih hcons]
      exact if_congr hhead rfl rfl

lemma distinctFrom_append (seen ids others : List ModuleId) :
    distinctFrom seen (ids ++ others) = distinctFrom seen ids ++ distinctFrom (ids ++ seen) others := by
  induction ids generalizing seen with
  | nil => rfl
  | cons head ids ih =>
      rw [List.cons_append, distinctFrom, distinctFrom]
      by_cases hhead : head ∈ seen
      · rw [if_pos hhead, if_pos hhead, ih]
        congr 1
        refine distinctFrom_congr fun id _ => ?_
        simp only [List.mem_append, List.mem_cons]
        constructor
        · rintro (hid | hid)
          · exact .inl (.inr hid)
          · exact .inr hid
        · rintro ((rfl | hid) | hid)
          · exact .inr hhead
          · exact .inl hid
          · exact .inr hid
      · rw [if_neg hhead, if_neg hhead, ih, List.cons_append]
        congr 2
        refine distinctFrom_congr fun id _ => ?_
        simp only [List.mem_append, List.mem_cons]
        rw [or_left_comm, or_assoc]

/-- Behind a list, the first occurrences are those of ids that are not in it. -/
lemma distinct_append (ids others : List ModuleId) :
    distinct (ids ++ others) = distinct ids ++ distinctFrom ids others := by
  rw [distinct, distinctFrom_append, List.append_nil]
  rfl

lemma distinctFrom_filter (seen ids : List ModuleId) (p : ModuleId → Bool) :
    distinctFrom seen (ids.filter p) = (distinctFrom seen ids).filter p := by
  induction ids generalizing seen with
  | nil => rfl
  | cons head ids ih =>
      rw [distinctFrom]
      cases hp : p head with
      | true =>
          rw [List.filter_cons_of_pos hp, distinctFrom, ih, ih]
          by_cases hhead : head ∈ seen
          · rw [if_pos hhead, if_pos hhead]
          · rw [if_neg hhead, if_neg hhead, List.filter_cons_of_pos hp]
      | false =>
          have hnot : ¬ p head = true := Bool.not_eq_true _ ▸ hp
          rw [List.filter_cons_of_neg hnot]
          by_cases hhead : head ∈ seen
          · rw [if_pos hhead, ih]
          · rw [if_neg hhead, List.filter_cons_of_neg hnot, ← ih]
            -- the head does not come again, since what comes meets the condition
            refine distinctFrom_congr fun id hid => ?_
            have hne : id ≠ head := by
              rintro rfl
              exact hnot (List.of_mem_filter hid)
            rw [List.mem_cons, or_iff_right hne]

/-- The first occurrences of what meets a condition are those first occurrences that meet it. -/
lemma distinct_filter (ids : List ModuleId) (p : ModuleId → Bool) :
    distinct (ids.filter p) = (distinct ids).filter p :=
  distinctFrom_filter [] ids p

namespace Exclusions

variable {set : Exclusions} {offered : List ModuleId}

/-! ### What is added -/

/-- Ids that are offered in turn are put behind the others, those that are new. -/
lemma toList_insertMany (set : Exclusions) (ids : List ModuleId) :
    (set.insertMany ids).toList = set.toList ++ distinctFrom set.toList ids := by
  induction ids generalizing set with
  | nil => exact (List.append_nil set.toList).symm
  | cons id ids ih =>
      have hcons : set.insertMany (id :: ids) = (set.insert id).insertMany ids := rfl
      rw [hcons, ih, toList_insert, distinctFrom]
      by_cases hid : id ∈ set
      · rw [if_pos hid, if_pos (mem_toList.mpr hid)]
      · rw [if_neg hid, if_neg (mem_toList.not.mpr hid), List.append_assoc, List.singleton_append]
        congr 2
        refine distinctFrom_congr fun other _ => ?_
        rw [List.mem_append, List.mem_singleton, List.mem_cons, or_comm]

lemma toList_insertMany_of (h : set.toList = distinct ids) (others : List ModuleId) :
    (set.insertMany others).toList = distinct (ids ++ others) := by
  rw [toList_insertMany, distinct_append, h]
  congr 1
  exact distinctFrom_congr fun id _ => mem_distinct

lemma toList_ofList (ids : List ModuleId) : (ofList ids).toList = distinct ids := by
  have hempty : empty.toList = distinct [] := rfl
  exact toList_insertMany_of hempty ids

/-! ### Sets that can be made -/

/-- The sets that can be made, each with the ids that were offered to it in order. -/
inductive Offered : List ModuleId → Exclusions → Prop
  | empty : Offered [] .empty
  | ofList (ids : List ModuleId) : Offered ids (.ofList ids)
  | insertNew {offered : List ModuleId} {set : Exclusions} (h : Offered offered set)
      (id : ModuleId) : Offered (offered ++ [id]) (set.insertNew id).2
  | union {offered others : List ModuleId} {set other : Exclusions} (h : Offered offered set)
      (hother : Offered others other) : Offered (offered ++ other.toList) (set.union other)

/-- **A set that was made** lists the ids that were offered to it, each where it was offered first. -/
lemma toList_of_offered (h : Offered offered set) : set.toList = distinct offered := by
  induction h with
  | empty => rfl
  | ofList ids => exact toList_ofList ids
  | insertNew h id ih => exact toList_insertMany_of ih [id]
  | union h hother ih ihother => exact toList_insertMany_of ih _

/-- Sets that list the same ids in the same order are equal, since the list fixes what is looked up. -/
lemma eq_of_toList_eq {a b : Exclusions} (h : a.toList = b.toList) : a = b := by
  have hknown : a.known = b.known := IdSet.eq_of_mem_iff fun id => by
    rw [a.mem_known, b.mem_known, h]
  cases a
  cases b
  cases h
  cases hknown
  rfl

/-- What the views of a set tell of the ids offered to it: the list and the ids that are looked up are
the same, and come to the distinct ids offered. -/
structure Records (offered : List ModuleId) (set : Exclusions) : Prop where
  nodup : set.toList.Nodup
  known : ∀ id, id ∈ set.known ↔ id ∈ set.toList
  contains : ∀ id, set.contains id = true ↔ id ∈ set.toList
  size : set.size = offered.toFinset.card
  toList : set.toList = distinct offered
  insertNew : ∀ id, (set.insertNew id).1 = true ↔ set.contains id = false
  eq_iff : ∀ others other, Offered others other → (set = other ↔ set.toList = other.toList)
  subtract : ∀ candidates, subtract candidates set = candidates.filter fun id => id ∉ set.toList

/-- A set is told whether an id is new to it. -/
lemma insertNew_fst (set : Exclusions) (id : ModuleId) :
    (set.insertNew id).1 = true ↔ set.contains id = false := by
  rw [insertNew, contains, decide_eq_false_iff_not]
  by_cases hid : id ∈ set.known
  · simp [hid]
  · simp [hid]

/-- Candidates without a set are those that it does not list, as often and in the order as they are. -/
lemma subtract_eq (candidates : List ModuleId) (set : Exclusions) :
    Activation.subtract candidates set = candidates.filter fun id => id ∉ set.toList := by
  refine List.filter_congr fun id _ => ?_
  rw [Bool.eq_iff_iff, Bool.not_eq_true', ← Bool.not_eq_true, contains_eq_true, decide_eq_true_eq,
    mem_toList]

/-- Exclusions by name, by type and from the environment are listed in that order. -/
lemma toList_merge (names types listed : List ModuleId) :
    (merge names types listed).toList = distinct (names ++ types ++ listed) :=
  toList_insertMany_of (toList_ofList (names ++ types)) listed

/-- The size of a set is the number of different ids that were offered to it. -/
lemma size_of_offered (h : Offered offered set) : set.size = offered.toFinset.card := by
  have hids : set.toList.toFinset = offered.toFinset := by
    ext id
    rw [List.mem_toFinset, List.mem_toFinset, toList_of_offered h, mem_distinct]
  calc set.size = set.toList.toFinset.card := (List.toFinset_card_of_nodup set.nodup).symm
    _ = offered.toFinset.card := by rw [hids]

/-- **Sets of exclusions** record what is offered to them, however they were made; and so do the
exclusions by name, by type and from the environment, put together. -/
theorem records_of_offered (h : Offered offered set) :
    Records offered set ∧ ∀ names types listed,
      (merge names types listed).toList = distinct (names ++ types ++ listed) := by
  have hlist := toList_of_offered h
  have hnodup : set.toList.Nodup := hlist ▸ nodup_distinct offered
  refine ⟨⟨hnodup, set.mem_known, fun id => contains_eq_true, size_of_offered h, hlist,
    set.insertNew_fst, ?_, fun candidates => subtract_eq candidates set⟩, toList_merge⟩
  intro others other _
  exact ⟨congrArg toList, eq_of_toList_eq⟩

/-- A set that was made of a list, extended by another set, and offered an id that it had. -/
def thrice : Exclusions := (((ofList ["b", "a", "b"]).union (ofList ["a", "c"])).insertNew "b").2

theorem records_of_offered_thrice :
    Offered ["b", "a", "b", "a", "c", "b"] thrice ∧
      Records ["b", "a", "b", "a", "c", "b"] thrice ∧ thrice.toList = ["b", "a", "c"] := by
  have hoffered : Offered ["b", "a", "b", "a", "c", "b"] thrice :=
    .insertNew (.union (.ofList ["b", "a", "b"]) (.ofList ["a", "c"])) "b"
  exact ⟨hoffered, (records_of_offered hoffered).1, by decide⟩

end Exclusions

end Activation
