/-
What an insertion leaves as it was.

The module of an assignment is entered before its value is looked at, so that a
refused insertion changes the index too. No view shows it: a module that is only
entered has the neutral facts of one of which nothing is said.

* `Index.SameViews`: no view tells two indexes apart.
* `OrderingFacts.SameBut`, `Assigned.sameBut`: facts that differ at most in the one
  that an attribute sets, which is all that an accepted assignment changes of them.
* `Index.Framed`, `framed_put`: what an accepted assignment leaves as it was.
* `Index.frame_insert`: what is unchanged behind every insertion.
-/
import Activation.Proofs.Extensionality
import Activation.Proofs.Index.Views

namespace Activation

/-! ### Facts -/

namespace OrderingFacts

variable {facts next : OrderingFacts} {a : Assignment}

/-- Facts that are the same but for the one that an attribute sets. An attribute that says nothing about
the order sets none. -/
structure SameBut (name : String) (facts next : OrderingFacts) : Prop where
  priority : name ≠ "Priority" → next.priority = facts.priority
  before : name ≠ "Before" → next.before = facts.before
  after : name ≠ "After" → next.after = facts.after
  beforeAll : name ≠ "BeforeAll" → next.beforeAll = facts.beforeAll
  afterAll : name ≠ "AfterAll" → next.afterAll = facts.afterAll

/-- An accepted assignment changes the facts only in the one that its attribute sets. -/
lemma Assigned.sameBut (h : facts.Assigned a next) : facts.SameBut a.name next where
  priority hname := by
    have hpriority := h.priority
    rwa [if_neg hname] at hpriority
  before hname := IdSet.eq_of_mem_iff fun id => by
    rw [h.before]
    simp [hname]
  after hname := IdSet.eq_of_mem_iff fun id => by
    rw [h.after]
    simp [hname]
  beforeAll hname := by
    have hflag := h.beforeAll
    rwa [if_neg hname] at hflag
  afterAll hname := by
    have hflag := h.afterAll
    rwa [if_neg hname] at hflag

end OrderingFacts

/-! ### Views -/

namespace Index

variable {index : Index} {a : Assignment} {facts : OrderingFacts}

/-- No view tells two indexes apart. -/
structure SameViews (index other : Index) : Prop where
  facts : ∀ id, index.factsOf id = other.factsOf id
  attributes : ∀ id, index.attributes? id = other.attributes? id
  value : ∀ id name, index.attribute? id name = other.attribute? id name
  contains : ∀ id, index.contains id = other.contains id
  size : index.size = other.size
  isEmpty : index.isEmpty = other.isEmpty

lemma SameViews.refl (index : Index) : index.SameViews index :=
  ⟨fun _ => rfl, fun _ => rfl, fun _ _ => rfl, fun _ => rfl, rfl, rfl⟩

/-- A module that is entered does not show. -/
lemma sameViews_enter (index : Index) (id : ModuleId) : (index.enter id).SameViews index where
  facts := factsOf_enter index id
  attributes := attributes?_enter index id
  value := attribute?_enter index id
  contains := contains_enter index id
  size := rfl
  isEmpty := rfl

/-- What an accepted assignment leaves as it was: all that is known of another module, the values of the
other attributes of its own, and of the facts of its own those that its attribute does not set. -/
structure Framed (index : Index) (a : Assignment) (next : Index) : Prop where
  facts : ∀ id, id ≠ a.id → next.factsOf id = index.factsOf id
  attributes : ∀ id, id ≠ a.id → next.attributes? id = index.attributes? id
  value : ∀ id name, id ≠ a.id ∨ name ≠ a.name → next.attribute? id name = index.attribute? id name
  contains : ∀ id, id ≠ a.id → next.contains id = index.contains id
  ownFacts : (index.factsOf a.id).SameBut a.name (next.factsOf a.id)
  ownValue : next.attribute? a.id a.name = some a.value

lemma framed_put (h : (index.factsOf a.id).Assigned a facts) : Framed index a (index.put a facts) where
  facts id hid := by rw [factsOf_put, if_neg hid]
  attributes id hid := by rw [attributes?_put, if_neg hid]
  value id name hkey := by
    rw [attribute?_put, if_neg]
    rintro ⟨hid, hname⟩
    exact hkey.elim (fun h => h hid.symm) fun h => h hname.symm
  contains id hid := by rw [contains_put, decide_eq_false (Ne.symm hid), Bool.false_or]
  ownFacts := by
    rw [factsOf_put, if_pos rfl]
    exact h.sameBut
  ownValue := by rw [attribute?_put, if_pos ⟨rfl, rfl⟩]

/-- **The frame of an insertion**, into any index: it is refused when its value is not of the type that
its attribute calls for, and no view shows it then; otherwise it changes the one value that it names and
the one fact that this sets. -/
theorem frame_insert (index : Index) (a : Assignment) :
    (¬ a.WellTyped ∧ (index.insert a).1 = .error a.fault ∧ (index.insert a).2.SameViews index) ∨
      (a.WellTyped ∧ (index.insert a).1 = .ok () ∧ Framed index a (index.insert a).2) := by
  rcases index.insert_cases a with ⟨htyped, facts, hfacts, hinsert⟩ | ⟨htyped, hinsert⟩
  · refine .inr ⟨htyped, ?_, ?_⟩
    · rw [hinsert]
    · rw [hinsert]
      exact framed_put hfacts
  · refine .inl ⟨htyped, ?_, ?_⟩
    · rw [hinsert]
    · rw [hinsert]
      exact sameViews_enter index a.id

end Index

end Activation
