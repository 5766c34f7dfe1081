/-
Exclusions.

* `Exclusions`: a set of excluded ids in the order they were first named, each
  once, and the same ids once more for look-up.
* `Exclusions.insertNew`, `insert`, `insertMany`, `ofList`, `union`: its
  constructions, with `mem_insert`, `mem_insertMany` and `mem_union` for its
  members.
* `subtract`, `mem_subtract`: candidates without the excluded ones.
* `Exclusions.misplaced`, `Exclusions.validate`: an exclusion of a module that
  exists and is no candidate is an error, and all of them are reported together.
-/
import Activation.Error
import Activation.Registry

namespace Activation

/-- A set of excluded ids in the order they were first named. -/
structure Exclusions where
  toList : List ModuleId
  /-- The same ids, among which an id is looked up. -/
  known : IdSet
  nodup : toList.Nodup
  mem_known : ∀ id, id ∈ known ↔ id ∈ toList
deriving DecidableEq

namespace Exclusions

/-- No exclusions. -/
def empty : Exclusions := ⟨[], .empty, List.nodup_nil, fun _ => Iff.rfl⟩

instance : Inhabited Exclusions := ⟨empty⟩

instance : Membership ModuleId Exclusions := ⟨fun set id => id ∈ set.toList⟩

instance (id : ModuleId) (set : Exclusions) : Decidable (id ∈ set) :=
  inferInstanceAs (Decidable (id ∈ set.toList))

/-- Whether an id is excluded. -/
def contains (set : Exclusions) (id : ModuleId) : Bool := decide (id ∈ set.known)

/-- The number of excluded ids. -/
def size (set : Exclusions) : Nat := set.toList.length

/-- Whether nothing is excluded. -/
def isEmpty (set : Exclusions) : Bool := set.toList.isEmpty

/-- Whether an id is new to the set, with the set that has it behind the others if it is. -/
def insertNew (set : Exclusions) (id : ModuleId) : Bool × Exclusions :=
  if h : id ∈ set.known then (false, set)
  else
    (true,
      { toList := set.toList ++ [id]
        known := set.known.insert id
        nodup := List.nodup_append.mpr ⟨set.nodup, by simp, fun _ ha _ hb e =>
          h ((set.mem_known id).mpr (List.mem_singleton.mp hb ▸ e ▸ ha))⟩
        mem_known := fun other => by
          rw [IdSet.mem_insert, set.mem_known, List.mem_append, List.mem_singleton, or_comm] })

/-- The set with an id behind the others, unless it is there already. -/
def insert (set : Exclusions) (id : ModuleId) : Exclusions :=
  (set.insertNew id).2

/-- The set with the ids of a list added in order. -/
def insertMany (set : Exclusions) (ids : List ModuleId) : Exclusions :=
  ids.foldl insert set

/-- The set of the ids of a list. -/
def ofList (ids : List ModuleId) : Exclusions :=
  empty.insertMany ids

/-- The set with the ids of another one behind its own. -/
def union (a b : Exclusions) : Exclusions :=
  a.insertMany b.toList

/-- Exclusions by name, by type and from the environment, in that order. -/
def merge (names types listed : List ModuleId) : Exclusions :=
  (ofList (names ++ types)).insertMany listed

/-- The excluded ids of modules that exist and are no candidates. -/
def misplaced (set : Exclusions) (candidates : List ModuleId) (catalog : Catalog) :
    List ModuleId :=
  set.toList.filter fun id => catalog.isResolvable id && decide (id ∉ candidates)

/-- Fails with the misplaced exclusions if there are any. -/
def validate (set : Exclusions) (candidates : List ModuleId) (catalog : Catalog) :
    Except ResolveError Unit :=
  match set.misplaced candidates catalog with
  | [] => .ok ()
  | ids => .error (.invalidExclusions ids)

/-! ### Members -/

@[simp] theorem mem_toList {id : ModuleId} {set : Exclusions} : id ∈ set.toList ↔ id ∈ set :=
  Iff.rfl

@[simp] theorem not_mem_empty (id : ModuleId) : ¬ id ∈ empty := List.not_mem_nil

@[simp] theorem contains_eq_true {set : Exclusions} {id : ModuleId} :
    set.contains id = true ↔ id ∈ set := by
  rw [contains, decide_eq_true_eq, set.mem_known, mem_toList]

/-- An id is put behind the others when it is none of them. -/
theorem toList_insert (set : Exclusions) (id : ModuleId) :
    (set.insert id).toList = if id ∈ set then set.toList else set.toList ++ [id] := by
  have hknown : id ∈ set.known ↔ id ∈ set := set.mem_known id
  rw [insert, insertNew]
  split
  · rename_i h
    rw [if_pos (hknown.mp h)]
  · rename_i h
    rw [if_neg fun hid => h (hknown.mpr hid)]

@[simp] theorem mem_insert {set : Exclusions} {a b : ModuleId} :
    b ∈ set.insert a ↔ b ∈ set ∨ b = a := by
  rw [← mem_toList, ← mem_toList, toList_insert]
  split
  · rename_i h
    refine ⟨Or.inl, fun hb => hb.elim id ?_⟩
    rintro rfl
    exact h
  · rw [List.mem_append, List.mem_singleton]

@[simp] theorem mem_insertMany {set : Exclusions} {ids : List ModuleId} {id : ModuleId} :
    id ∈ set.insertMany ids ↔ id ∈ set ∨ id ∈ ids := by
  induction ids generalizing set with
  | nil => simp [insertMany]
  | cons a ids ih =>
    have h : set.insertMany (a :: ids) = (set.insert a).insertMany ids := rfl
    rw [h, ih, mem_insert, List.mem_cons, or_assoc]

@[simp] theorem mem_ofList {ids : List ModuleId} {id : ModuleId} : id ∈ ofList ids ↔ id ∈ ids := by
  simp [ofList]

@[simp] theorem mem_union {a b : Exclusions} {id : ModuleId} : id ∈ a.union b ↔ id ∈ a ∨ id ∈ b :=
  mem_insertMany

@[simp] theorem mem_merge {names types listed : List ModuleId} {id : ModuleId} :
    id ∈ merge names types listed ↔ id ∈ names ∨ id ∈ types ∨ id ∈ listed := by
  simp [merge, or_assoc]

theorem mem_misplaced {set : Exclusions} {candidates : List ModuleId} {catalog : Catalog}
    {id : ModuleId} :
    id ∈ set.misplaced candidates catalog ↔
      id ∈ set ∧ catalog.isResolvable id = true ∧ id ∉ candidates := by
  simp [misplaced]

/-- Exclusions are valid when none is misplaced. -/
theorem validate_eq_ok_iff {set : Exclusions} {candidates : List ModuleId} {catalog : Catalog} :
    set.validate candidates catalog = .ok () ↔ ∀ id, id ∉ set.misplaced candidates catalog := by
  rw [← List.eq_nil_iff_forall_not_mem, validate]
  split
  · rename_i h
    simp [h]
  · rename_i h
    simp only [reduceCtorEq, false_iff]
    exact h

end Exclusions

/-- The candidates that are not excluded. -/
def subtract (candidates : List ModuleId) (excluded : Exclusions) : List ModuleId :=
  candidates.filter fun id => !excluded.contains id

@[simp] theorem mem_subtract {candidates : List ModuleId} {excluded : Exclusions} {id : ModuleId} :
    id ∈ subtract candidates excluded ↔ id ∈ candidates ∧ ¬ id ∈ excluded := by
  rw [subtract, List.mem_filter, Bool.not_eq_true', ← Bool.not_eq_true, Exclusions.contains_eq_true]

end Activation
