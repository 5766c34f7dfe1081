/-
Tables keyed by text.

* `Table`: a finite map from texts, its entries in the code point order of the
  keys, each key once.
* `Table.find?`, `Table.insert`, `Table.ofList`: the value at a key, a value put
  at a key in place of an earlier one, and the table of a list of pairs, in
  which a later pair wins.
* `find?_insert`: the one law the rest of the library uses.
-/
import Activation.Increasing

namespace Activation

/-- A finite map from texts, listed in the code point order of its keys. -/
structure Table (α : Type) where
  entries : List (String × α)
  increasing : (entries.map Prod.fst).Pairwise (· < ·)

namespace Table

variable {α : Type}

/-- The table without entries. -/
def empty : Table α := ⟨[], List.Pairwise.nil⟩

instance : Inhabited (Table α) := ⟨empty⟩

instance [DecidableEq α] : DecidableEq (Table α) := fun a b =>
  decidable_of_iff (a.entries = b.entries) ⟨fun h => by cases a; cases b; cases h; rfl, fun h => h ▸ rfl⟩

/-- The value at a key. -/
def find? (table : Table α) (key : String) : Option α :=
  table.entries.findSome? fun entry => if entry.1 = key then some entry.2 else none

/-- Whether there is a value at a key. -/
def contains (table : Table α) (key : String) : Bool :=
  (table.find? key).isSome

/-- The number of keys. -/
def size (table : Table α) : Nat := table.entries.length

/-- Whether there are no keys. -/
def isEmpty (table : Table α) : Bool := table.entries.isEmpty

/-- The entries with the value at `key` set, a new key at its place. -/
def insertEntry (key : String) (value : α) : List (String × α) → List (String × α)
  | [] => [(key, value)]
  | entry :: rest =>
    if key < entry.1 then (key, value) :: entry :: rest
    else if entry.1 < key then entry :: insertEntry key value rest
    else (entry.1, value) :: rest

theorem keys_insertEntry (key : String) (value : α) (entries : List (String × α)) :
    (insertEntry key value entries).map Prod.fst =
      Increasing.insert (· < ·) key (entries.map Prod.fst) := by
  induction entries with
  | nil => rfl
  | cons entry rest ih =>
    simp only [insertEntry, Increasing.insert, List.map_cons]
    split
    · rfl
    · split
      · rw [List.map_cons, ih]
      · rfl

/-- The table with the value at a key set. -/
def insert (table : Table α) (key : String) (value : α) : Table α :=
  ⟨insertEntry key value table.entries, by
    rw [keys_insertEntry]
    exact @Increasing.pairwise_insert _ (· < ·) _ (fun _ _ _ => String.lt_trans) key _ table.increasing⟩

/-- The table with a value at a key that had none. -/
def insertNew (table : Table α) (key : String) (value : α) : Table α :=
  if table.contains key then table else table.insert key value

/-- The table of a list of pairs; of two pairs with one key the later counts. -/
def ofList (pairs : List (String × α)) : Table α :=
  pairs.foldl (fun table pair => table.insert pair.1 pair.2) empty

/-! ### Values -/

@[simp] theorem find?_empty (key : String) : (empty : Table α).find? key = none := rfl

/-- After an insertion its key holds the new value and every other key what it held. -/
@[simp] theorem find?_insert (table : Table α) (key other : String) (value : α) :
    (table.insert key value).find? other = if other = key then some value else table.find? other := by
  simp only [find?, insert]
  induction table.entries with
  | nil =>
    by_cases h : key = other
    · simp [insertEntry, h]
    · simp [insertEntry, h, Ne.symm h]
  | cons entry rest ih =>
    simp only [insertEntry]
    split
    · by_cases h : key = other
      · simp [h]
      · simp [List.findSome?_cons, h, Ne.symm h]
    · split
      · rename_i hlt
        have hne : entry.1 ≠ key := fun e => String.lt_irrefl key (e ▸ hlt)
        by_cases h : entry.1 = other
        · have h' : other ≠ key := h ▸ hne
          simp [h, h']
        · simp [ih, h]
      · rename_i h₁ h₂
        have heq : entry.1 = key :=
          String.le_antisymm (String.not_lt.mp h₁) (String.not_lt.mp h₂)
        by_cases h : key = other
        · simp [heq, h]
        · simp [heq, h, Ne.symm h]

@[simp] theorem find?_insertNew (table : Table α) (key other : String) (value : α) :
    (table.insertNew key value).find? other =
      if other = key then some ((table.find? key).getD value) else table.find? other := by
  unfold insertNew contains
  cases hk : table.find? key with
  | none => simp
  | some found =>
    by_cases h : other = key
    · simp [h, hk]
    · simp [h]

end Table

end Activation
