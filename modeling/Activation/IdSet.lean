/-
Sets of module ids.

* `ModuleId`: modules are known by their ids alone.
* `IdSet`: a set of ids, listed in code point order, each once.
* `IdSet.insert`, `IdSet.union`, `IdSet.ofList`: its constructions, with
  `mem_insert` and `mem_ofList` for its members.
-/
import Activation.Increasing

namespace Activation

/-- A module is known by its id, an arbitrary text. -/
abbrev ModuleId := String

/-- A finite set of ids, in code point order and each once. -/
structure IdSet where
  toList : List ModuleId
  increasing : toList.Pairwise (· < ·)
deriving DecidableEq

namespace IdSet

/-- The set without ids. -/
def empty : IdSet := ⟨[], List.Pairwise.nil⟩

instance : Inhabited IdSet := ⟨empty⟩

instance : Membership ModuleId IdSet := ⟨fun set id => id ∈ set.toList⟩

instance (id : ModuleId) (set : IdSet) : Decidable (id ∈ set) :=
  inferInstanceAs (Decidable (id ∈ set.toList))

/-- Whether there are no ids. -/
def isEmpty (set : IdSet) : Bool := set.toList.isEmpty

/-- The set with one more id. -/
def insert (set : IdSet) (id : ModuleId) : IdSet :=
  ⟨Increasing.insert (· < ·) id set.toList,
    @Increasing.pairwise_insert _ (· < ·) _ (fun _ _ _ => String.lt_trans) id _ set.increasing⟩

/-- The set with the ids of a list added. -/
def insertMany (set : IdSet) (ids : List ModuleId) : IdSet :=
  ids.foldl insert set

/-- The set of the ids of a list. -/
def ofList (ids : List ModuleId) : IdSet :=
  empty.insertMany ids

/-- The ids of either set. -/
def union (a b : IdSet) : IdSet :=
  a.insertMany b.toList

/-! ### Members -/

theorem string_eq_of_not_lt (a b : String) (hab : ¬ a < b) (hba : ¬ b < a) : a = b :=
  String.le_antisymm (String.not_lt.mp hba) (String.not_lt.mp hab)

@[simp] theorem mem_toList {id : ModuleId} {set : IdSet} : id ∈ set.toList ↔ id ∈ set := Iff.rfl

@[simp] theorem not_mem_empty (id : ModuleId) : ¬ id ∈ empty := List.not_mem_nil

@[simp] theorem mem_insert {set : IdSet} {a b : ModuleId} : b ∈ set.insert a ↔ b = a ∨ b ∈ set :=
  @Increasing.mem_insert _ (· < ·) _ string_eq_of_not_lt a b set.toList

@[simp] theorem mem_insertMany {set : IdSet} {ids : List ModuleId} {id : ModuleId} :
    id ∈ set.insertMany ids ↔ id ∈ ids ∨ id ∈ set := by
  induction ids generalizing set with
  | nil => simp [insertMany]
  | cons a ids ih =>
    have h : set.insertMany (a :: ids) = (set.insert a).insertMany ids := rfl
    rw [h, ih, mem_insert, List.mem_cons]
    exact ⟨fun h => by rcases h with h | h | h <;> simp [h],
      fun h => by rcases h with (h | h) | h <;> simp [h]⟩

@[simp] theorem mem_ofList {ids : List ModuleId} {id : ModuleId} : id ∈ ofList ids ↔ id ∈ ids := by
  simp [ofList]

@[simp] theorem mem_union {a b : IdSet} {id : ModuleId} : id ∈ a.union b ↔ id ∈ b ∨ id ∈ a :=
  mem_insertMany

end IdSet

end Activation
