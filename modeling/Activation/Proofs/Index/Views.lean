/-
The views of an index.

What is known of a module is kept twice: typed, as the facts that bear on the
order, and raw, as the values of its attributes. An insertion may be refused, and
then leaves both as they are.

* `Assignment.WellTyped`, `check`: the assignments that are accepted, whatever the
  index holds.
* `OrderingFacts.Assigned`: what an accepted one makes of the facts.
* `Index.put`, `Index.insert_cases`: an insertion is refused, or puts the facts and
  the value; the views behind `enter` and `put`.
* `Index.afterEach`, `acceptedBy`: insertions one after the other, and those of them
  that were accepted.
* `Index.Traced`, `traced_afterEach`: every view is told by the accepted insertions.
* `Index.Coherent`, `coherent_afterEach`: the typed and the raw views agree.
-/
import Mathlib.Data.Finset.Card
import Mathlib.Data.List.Induction
import Activation.Index
import Activation.Proofs.Text
import Activation.Proofs.Traversal

namespace Activation

/-! ### Tables -/

namespace Table

variable {α : Type} {table : Table α} {key : String}

lemma contains_iff_mem : table.contains key = true ↔ key ∈ table.entries.map Prod.fst := by
  rw [contains, find?, List.isSome_findSome?]
  simp

/-- The size of a table is the number of keys that it holds. -/
lemma size_eq_card {keys : List String} (h : ∀ key, table.contains key = true ↔ key ∈ keys) :
    table.size = keys.toFinset.card := by
  have hnodup : (table.entries.map Prod.fst).Nodup :=
    table.increasing.imp fun {first second} (hlt : first < second) (heq : first = second) =>
      String.lt_irrefl second (heq ▸ hlt)
  have hkeys : (table.entries.map Prod.fst).toFinset = keys.toFinset := by
    ext key
    rw [List.mem_toFinset, List.mem_toFinset, ← contains_iff_mem, h]
  rw [size, ← hkeys, List.toFinset_card_of_nodup hnodup, List.length_map]

end Table

/-! ### Assignments -/

namespace Assignment

variable {a : Assignment}

/-- The value is of the type that the attribute calls for. -/
def WellTyped (a : Assignment) : Prop :=
  (a.name = "Priority" → ∃ priority, Text.IsInt32 a.value.toList priority) ∧
    (a.name = "BeforeAll" ∨ a.name = "AfterAll" → ∃ flag, Property.IsFlag a.value flag)

/-- The fault of a value that is not of the type that the attribute calls for. -/
def fault (a : Assignment) : IndexFault :=
  if a.name = "Priority" then .notInteger a.id a.name a.value else .notBoolean a.id a.name a.value

lemma priority_eq_ok_iff {priority : Int} :
    a.priority = .ok priority ↔ Text.IsInt32 a.value.toList priority := by
  rw [Assignment.priority, ← Text.int32?_eq_some_iff]
  cases Text.int32? a.value.toList <;> simp

lemma flag_eq_ok_iff {flag : Bool} : a.flag = .ok flag ↔ Property.IsFlag a.value flag := by
  rw [Assignment.flag, ← Property.boolean?_eq_some_iff]
  cases Property.boolean? a.value <;> simp

lemma eq_of_priority_eq_error {fault : IndexFault} (h : a.priority = .error fault) :
    fault = .notInteger a.id a.name a.value := by
  rw [Assignment.priority] at h
  cases hpriority : Text.int32? a.value.toList with
  | some priority => simp [hpriority] at h
  | none =>
      simp only [hpriority] at h
      exact (Except.error.inj h).symm

lemma eq_of_flag_eq_error {fault : IndexFault} (h : a.flag = .error fault) :
    fault = .notBoolean a.id a.name a.value := by
  rw [Assignment.flag] at h
  cases hflag : Property.boolean? a.value with
  | some flag => simp [hflag] at h
  | none =>
      simp only [hflag] at h
      exact (Except.error.inj h).symm

end Assignment

namespace OrderingFacts

variable {facts next : OrderingFacts} {a : Assignment} {fault : IndexFault}

/-- What an accepted assignment makes of the facts: the fact it names is the one that its value spells,
or the list it names has grown by the entries of its value, and the others are as they were. -/
structure Assigned (facts : OrderingFacts) (a : Assignment) (next : OrderingFacts) : Prop where
  priority : if a.name = "Priority" then Text.IsInt32 a.value.toList next.priority
    else next.priority = facts.priority
  before : ∀ id, id ∈ next.before ↔
    id ∈ facts.before ∨ a.name = "Before" ∧ id ∈ Property.entries a.value
  after : ∀ id, id ∈ next.after ↔
    id ∈ facts.after ∨ a.name = "After" ∧ id ∈ Property.entries a.value
  beforeAll : if a.name = "BeforeAll" then Property.IsFlag a.value next.beforeAll
    else next.beforeAll = facts.beforeAll
  afterAll : if a.name = "AfterAll" then Property.IsFlag a.value next.afterAll
    else next.afterAll = facts.afterAll

lemma assigned_of_assign (h : facts.assign a = .ok next) : facts.Assigned a next := by
  rw [assign] at h
  split_ifs at h with hname hname hname hname hname
  · obtain ⟨priority, hpriority, rfl⟩ := map_eq_ok_iff.mp h
    have hspelled := Assignment.priority_eq_ok_iff.mp hpriority
    constructor <;> simp [hname, hspelled]
  · obtain rfl := Except.ok.inj h
    constructor <;> simp [hname, or_comm]
  · obtain rfl := Except.ok.inj h
    constructor <;> simp [hname, or_comm]
  · obtain ⟨flag, hflag, rfl⟩ := map_eq_ok_iff.mp h
    have hspelled := Assignment.flag_eq_ok_iff.mp hflag
    constructor <;> simp [hname, hspelled]
  · obtain ⟨flag, hflag, rfl⟩ := map_eq_ok_iff.mp h
    have hspelled := Assignment.flag_eq_ok_iff.mp hflag
    constructor <;> simp [hname, hspelled]
  · obtain rfl := Except.ok.inj h
    constructor <;> simp [*]

/-- An assignment is accepted when its value is of the type that its attribute calls for, whatever the
facts are. -/
lemma exists_assign_iff (facts : OrderingFacts) (a : Assignment) :
    (∃ next, facts.assign a = .ok next) ↔ a.WellTyped := by
  rw [assign, Assignment.WellTyped]
  split_ifs with hname hname hname hname hname
  · simp [hname, exists_map_eq_ok_iff, Assignment.priority_eq_ok_iff]
  · simp [hname]
  · simp [hname]
  · simp [hname, exists_map_eq_ok_iff, Assignment.flag_eq_ok_iff]
  · simp [hname, exists_map_eq_ok_iff, Assignment.flag_eq_ok_iff]
  · simp [*]

instance (a : Assignment) : Decidable a.WellTyped :=
  decidable_of_iff ((neutral.assign a).isOk = true) <| by
    rw [← exists_assign_iff neutral a]
    cases neutral.assign a <;> simp [Except.isOk, Except.toBool]

/-- A refused assignment is blamed on its value. -/
lemma eq_fault_of_assign (h : facts.assign a = .error fault) : fault = a.fault := by
  rw [assign] at h
  rw [Assignment.fault]
  split_ifs at h ⊢ with hname hname hname hname hname
  · exact Assignment.eq_of_priority_eq_error (map_eq_error_iff.mp h)
  · exact Assignment.eq_of_flag_eq_error (map_eq_error_iff.mp h)
  · exact Assignment.eq_of_flag_eq_error (map_eq_error_iff.mp h)

end OrderingFacts

/-! ### Insertions -/

namespace Index

variable {index : Index} {a : Assignment} {id other : ModuleId} {name : String}
  {facts : OrderingFacts}

/-- The index with the facts of the module of an assignment set and its value recorded. -/
def put (index : Index) (a : Assignment) (facts : OrderingFacts) : Index :=
  ((index.enter a.id).setFacts a.id facts).record a

@[simp] lemma factsOf_enter (index : Index) (id other : ModuleId) :
    (index.enter id).factsOf other = index.factsOf other := by
  rw [factsOf, factsOf, enter, Table.find?_insertNew]
  split_ifs with h
  · rw [h]
    rfl
  · rfl

@[simp] lemma attributes?_enter (index : Index) (id other : ModuleId) :
    (index.enter id).attributes? other = index.attributes? other := rfl

@[simp] lemma attribute?_enter (index : Index) (id other : ModuleId) (name : String) :
    (index.enter id).attribute? other name = index.attribute? other name := rfl

@[simp] lemma contains_enter (index : Index) (id other : ModuleId) :
    (index.enter id).contains other = index.contains other := rfl

@[simp] lemma factsOf_put (index : Index) (a : Assignment) (facts : OrderingFacts)
    (other : ModuleId) :
    (index.put a facts).factsOf other = if other = a.id then facts else index.factsOf other := by
  have hfacts : (index.put a facts).factsOf other =
      (((index.enter a.id).facts.insert a.id facts).find? other).getD .neutral := rfl
  rw [hfacts, Table.find?_insert]
  split_ifs
  · rfl
  · exact factsOf_enter index a.id other

@[simp] lemma attributes?_put (index : Index) (a : Assignment) (facts : OrderingFacts)
    (other : ModuleId) :
    (index.put a facts).attributes? other =
      if other = a.id then some (((index.attributes? a.id).getD .empty).insert a.name a.value)
      else index.attributes? other :=
  Table.find?_insert _ _ _ _

@[simp] lemma attribute?_put (index : Index) (a : Assignment) (facts : OrderingFacts)
    (other : ModuleId) (name : String) :
    (index.put a facts).attribute? other name =
      if a.id = other ∧ a.name = name then some a.value else index.attribute? other name := by
  rw [attribute?, attribute?, attributes?_put]
  by_cases hid : other = a.id
  · subst hid
    rw [if_pos rfl, Option.bind_some, Table.find?_insert]
    by_cases hname : name = a.name
    · rw [if_pos hname, if_pos ⟨rfl, hname.symm⟩]
    · rw [if_neg hname, if_neg fun h => hname h.2.symm]
      cases index.attributes? a.id <;> rfl
  · rw [if_neg hid, if_neg fun h => hid h.1.symm]

@[simp] lemma contains_put (index : Index) (a : Assignment) (facts : OrderingFacts)
    (other : ModuleId) :
    (index.put a facts).contains other = (decide (a.id = other) || index.contains other) := by
  have hcontains : ∀ index : Index, index.contains other = (index.attributes? other).isSome :=
    fun _ => rfl
  rw [hcontains, hcontains, attributes?_put]
  by_cases h : other = a.id
  · simp [h]
  · simp [h, Ne.symm h]

/-- **An insertion** puts the facts and the value when the value is of the type that its attribute calls
for, and otherwise is refused, which leaves its module entered. -/
lemma insert_cases (index : Index) (a : Assignment) :
    (a.WellTyped ∧ ∃ facts, (index.factsOf a.id).Assigned a facts ∧
        index.insert a = (.ok (), index.put a facts)) ∨
      ¬ a.WellTyped ∧ index.insert a = (.error a.fault, index.enter a.id) := by
  rw [insert, factsOf_enter]
  cases hassign : (index.factsOf a.id).assign a with
  | ok facts =>
      exact .inl ⟨(OrderingFacts.exists_assign_iff _ a).mp ⟨facts, hassign⟩, facts,
        OrderingFacts.assigned_of_assign hassign, rfl⟩
  | error fault =>
      refine .inr ⟨fun htyped => ?_, by rw [OrderingFacts.eq_fault_of_assign hassign]⟩
      obtain ⟨facts, hfacts⟩ := (OrderingFacts.exists_assign_iff _ a).mpr htyped
      rw [hassign] at hfacts
      cases hfacts

/-! ### Histories -/

/-- The index behind insertions one after the other, refused or not. -/
def afterEach (index : Index) (assignments : List Assignment) : Index :=
  assignments.foldl (fun index a => (index.insert a).2) index

/-- The assignments that were accepted among insertions one after the other. -/
def acceptedBy (index : Index) : List Assignment → List Assignment
  | [] => []
  | a :: assignments =>
    if (index.insert a).1 = .ok () then a :: acceptedBy (index.insert a).2 assignments
    else acceptedBy (index.insert a).2 assignments

lemma afterEach_concat (index : Index) (assignments : List Assignment) (a : Assignment) :
    index.afterEach (assignments ++ [a]) = ((index.afterEach assignments).insert a).2 := by
  rw [afterEach, List.foldl_append]
  rfl

lemma acceptedBy_concat (index : Index) (assignments : List Assignment) (a : Assignment) :
    index.acceptedBy (assignments ++ [a]) = index.acceptedBy assignments ++
      if ((index.afterEach assignments).insert a).1 = .ok () then [a] else [] := by
  induction assignments generalizing index with
  | nil => rfl
  | cons first assignments ih =>
      have hafter : index.afterEach (first :: assignments) =
          (index.insert first).2.afterEach assignments := rfl
      rw [List.cons_append, acceptedBy, acceptedBy, ih, hafter]
      by_cases hfirst : (index.insert first).1 = .ok ()
      · rw [if_pos hfirst, if_pos hfirst, List.cons_append]
      · rw [if_neg hfirst, if_neg hfirst]

/-- A fact read off the value of an attribute: the one that the value spells, or without a value the one
that holds of a module of which nothing is said. -/
def ReadOff {α : Type} (spells : String → α → Prop) (neutral : α) : Option String → α → Prop
  | some value, fact => spells value fact
  | none, fact => fact = neutral

/-- What an index holds, told by the assignments that it accepted. -/
structure Traced (accepted : List Assignment) (index : Index) : Prop where
  value : ∀ id name, index.attribute? id name =
    ((accepted.filter fun a => a.id = id ∧ a.name = name).getLast?).map Assignment.value
  contains : ∀ id, index.contains id = true ↔ ∃ a ∈ accepted, a.id = id
  priority : ∀ id, ReadOff (fun value => Text.IsInt32 value.toList) 0
    (index.attribute? id "Priority") (index.factsOf id).priority
  beforeAll : ∀ id, ReadOff Property.IsFlag false
    (index.attribute? id "BeforeAll") (index.factsOf id).beforeAll
  afterAll : ∀ id, ReadOff Property.IsFlag false
    (index.attribute? id "AfterAll") (index.factsOf id).afterAll
  before : ∀ id other, other ∈ (index.factsOf id).before ↔
    ∃ a ∈ accepted, a.id = id ∧ a.name = "Before" ∧ other ∈ Property.entries a.value
  after : ∀ id other, other ∈ (index.factsOf id).after ↔
    ∃ a ∈ accepted, a.id = id ∧ a.name = "After" ∧ other ∈ Property.entries a.value
  neutral : ∀ id, index.contains id = false → index.factsOf id = .neutral

variable {accepted : List Assignment}

lemma traced_empty : Traced [] empty where
  value _ _ := rfl
  contains id := by simp [contains, empty, Table.contains]
  priority _ := rfl
  beforeAll _ := rfl
  afterAll _ := rfl
  before id other := by simp [factsOf, empty, OrderingFacts.neutral]
  after id other := by simp [factsOf, empty, OrderingFacts.neutral]
  neutral _ _ := rfl

/-- A refused assignment does not show. -/
lemma Traced.enter (h : Traced accepted index) (id : ModuleId) :
    Traced accepted (index.enter id) where
  value := h.value
  contains := h.contains
  priority := by simpa only [factsOf_enter, attribute?_enter] using h.priority
  beforeAll := by simpa only [factsOf_enter, attribute?_enter] using h.beforeAll
  afterAll := by simpa only [factsOf_enter, attribute?_enter] using h.afterAll
  before := by simpa only [factsOf_enter] using h.before
  after := by simpa only [factsOf_enter] using h.after
  neutral := by simpa only [factsOf_enter, contains_enter] using h.neutral

/-- A fact that an accepted assignment reads off its value is read off the attribute behind it. -/
lemma readOff_put {α : Type} {spells : String → α → Prop} {neutral : α} (fact : OrderingFacts → α)
    (h : ∀ id, ReadOff spells neutral (index.attribute? id name) (fact (index.factsOf id)))
    (hfact : if a.name = name then spells a.value (fact facts)
      else fact facts = fact (index.factsOf a.id)) (id : ModuleId) :
    ReadOff spells neutral ((index.put a facts).attribute? id name)
      (fact ((index.put a facts).factsOf id)) := by
  rw [attribute?_put, factsOf_put]
  by_cases hid : id = a.id
  · subst hid
    rw [if_pos rfl]
    by_cases hname : a.name = name
    · rw [if_pos ⟨rfl, hname⟩]
      rwa [if_pos hname] at hfact
    · rw [if_neg fun h => hname h.2]
      rw [if_neg hname] at hfact
      rw [hfact]
      exact h a.id
  · rw [if_neg hid, if_neg fun h => hid h.1.symm]
    exact h id

/-- A list that an accepted assignment adds to holds what the accepted values list. -/
lemma mem_list_put (list : OrderingFacts → IdSet)
    (h : ∀ id other, other ∈ list (index.factsOf id) ↔
      ∃ a ∈ accepted, a.id = id ∧ a.name = name ∧ other ∈ Property.entries a.value)
    (hlist : ∀ other, other ∈ list facts ↔
      other ∈ list (index.factsOf a.id) ∨ a.name = name ∧ other ∈ Property.entries a.value)
    (id other : ModuleId) :
    other ∈ list ((index.put a facts).factsOf id) ↔
      ∃ b ∈ accepted ++ [a], b.id = id ∧ b.name = name ∧ other ∈ Property.entries b.value := by
  simp only [factsOf_put, List.mem_append, List.mem_singleton, or_and_right, exists_or,
    exists_eq_left, ← h]
  by_cases hid : id = a.id
  · simp [hid, hlist]
  · simp [hid, Ne.symm hid]

/-- **An accepted assignment** is the last one in the trace. -/
lemma Traced.put (h : Traced accepted index) (hfacts : (index.factsOf a.id).Assigned a facts) :
    Traced (accepted ++ [a]) (index.put a facts) where
  value id name := by
    rw [attribute?_put, List.filter_append, List.filter_singleton]
    by_cases hkey : a.id = id ∧ a.name = name
    · rw [if_pos hkey, decide_eq_true hkey, cond_true, List.getLast?_concat]
      rfl
    · rw [if_neg hkey, decide_eq_false hkey, cond_false, List.append_nil]
      exact h.value id name
  contains id := by
    rw [contains_put, Bool.or_eq_true, decide_eq_true_eq, h.contains]
    simp [or_and_right, exists_or, or_comm]
  priority := readOff_put OrderingFacts.priority h.priority hfacts.priority
  beforeAll := readOff_put OrderingFacts.beforeAll h.beforeAll hfacts.beforeAll
  afterAll := readOff_put OrderingFacts.afterAll h.afterAll hfacts.afterAll
  before := mem_list_put OrderingFacts.before h.before hfacts.before
  after := mem_list_put OrderingFacts.after h.after hfacts.after
  neutral id hid := by
    rw [contains_put, Bool.or_eq_false_iff, decide_eq_false_iff_not] at hid
    rw [factsOf_put, if_neg (Ne.symm hid.1)]
    exact h.neutral id hid.2

/-- **Behind any insertions**, the views are told by those of them that were accepted. -/
lemma traced_afterEach (assignments : List Assignment) :
    Traced (empty.acceptedBy assignments) (empty.afterEach assignments) := by
  induction assignments using List.reverseRecOn with
  | nil => exact traced_empty
  | append_singleton assignments a ih =>
      rw [afterEach_concat, acceptedBy_concat]
      rcases (empty.afterEach assignments).insert_cases a with
        ⟨-, facts, hfacts, hinsert⟩ | ⟨-, hinsert⟩
      · rw [hinsert, if_pos rfl]
        exact ih.put hfacts
      · rw [hinsert, if_neg (by simp), List.append_nil]
        exact ih.enter a.id

/-! ### Coherence -/

/-- The typed and the raw views of an index agree, and are told by the assignments that it accepted. -/
structure Coherent (accepted : List Assignment) (index : Index) : Prop
    extends Traced accepted index where
  size : index.size = (accepted.map Assignment.id).toFinset.card
  lastBefore : ∀ id value, index.attribute? id "Before" = some value →
    ∀ other ∈ Property.entries value, other ∈ (index.factsOf id).before
  lastAfter : ∀ id value, index.attribute? id "After" = some value →
    ∀ other ∈ Property.entries value, other ∈ (index.factsOf id).after

lemma Traced.mem_accepted (h : Traced accepted index) {value : String}
    (hvalue : index.attribute? id name = some value) :
    ∃ a ∈ accepted, a.id = id ∧ a.name = name ∧ a.value = value := by
  rw [h.value, Option.map_eq_some_iff] at hvalue
  obtain ⟨a, hlast, rfl⟩ := hvalue
  obtain ⟨ha, hkey⟩ := List.mem_filter.mp (List.mem_of_getLast? hlast)
  obtain ⟨hid, hname⟩ := of_decide_eq_true hkey
  exact ⟨a, ha, hid, hname, rfl⟩

/-- **The views of an index are coherent** behind any insertions, refused or not: the typed facts are
those that the raw values spell, the lists are what all accepted values list, and a module is known when
an insertion for it was accepted. -/
theorem coherent_afterEach (assignments : List Assignment) :
    Coherent (empty.acceptedBy assignments) (empty.afterEach assignments) where
  toTraced := traced_afterEach assignments
  size := by
    refine Table.size_eq_card fun id => ?_
    rw [List.mem_map]
    exact (traced_afterEach assignments).contains id
  lastBefore id value hvalue other hother := by
    obtain ⟨a, ha, hid, hname, rfl⟩ := (traced_afterEach assignments).mem_accepted hvalue
    exact ((traced_afterEach assignments).before id other).mpr ⟨a, ha, hid, hname, hother⟩
  lastAfter id value hvalue other hother := by
    obtain ⟨a, ha, hid, hname, rfl⟩ := (traced_afterEach assignments).mem_accepted hvalue
    exact ((traced_afterEach assignments).after id other).mpr ⟨a, ha, hid, hname, hother⟩

end Index

end Activation
