/-
Index texts with their lines in another order.

An assignment bears on one attribute of one module, and what is known of this
attribute goes by the assignments to it alone. So lines of a text may change
places, as long as those for one attribute of one module stay in their order.

* `SameByKey`: two lists of assignments that are rearrangements of each other, in
  which the assignments to each attribute of each module are in one order.
* `Index.attribute?_eq_of_traced`, `factsOf_eq_of_traced`: these tell the same by
  each view of an index that is traced to them.
* `Index.eq_of_views`, `afterEach_of_sameByKey`: indexes with the same views are one,
  so that such assignments lead to one index.
* `said`, `Index.parse_eq_ok_iff`: a text is read by what its significant lines spell.
* `Rearranged`, `Index.ReadAlike`, `Index.readAlike_of_rearranged`: texts with
  rearranged lines are read alike, and filtered and ordered by alike.
-/
import Activation.Filter
import Activation.Ordering.Sort
import Activation.Proofs.Index.Frame
import Activation.Proofs.Index.Grammar

namespace Activation

attribute [ext] OrderingFacts Index

/-! ### Assignments by attribute -/

/-- Assignments that are rearrangements of each other, in which those to one attribute of one module are
in the same order. -/
structure SameByKey (assignments others : List Assignment) : Prop where
  perm : assignments.Perm others
  inOrder : ∀ id name,
    (assignments.filter fun a => a.id = id ∧ a.name = name) =
      others.filter fun a => a.id = id ∧ a.name = name

lemma SameByKey.exists_iff {assignments others : List Assignment} (h : SameByKey assignments others)
    {p : Assignment → Prop} : (∃ a ∈ assignments, p a) ↔ ∃ a ∈ others, p a :=
  exists_congr fun _ => and_congr_left fun _ => h.perm.mem_iff

namespace Index

variable {index other : Index} {assignments others : List Assignment} {id : ModuleId}

/-! ### What the assignments by attribute tell -/

/-- A value spells one fact at most, so that one fact is read off it. -/
lemma ReadOff.unique {α : Type} {spells : String → α → Prop} {neutral first second : α}
    {value : Option String} (hspells : ∀ value first second, spells value first →
      spells value second → first = second)
    (hfirst : ReadOff spells neutral value first) (hsecond : ReadOff spells neutral value second) :
    first = second := by
  cases value with
  | none => exact Eq.trans hfirst (Eq.symm hsecond)
  | some value => exact hspells value first second hfirst hsecond

lemma eq_of_isInt32 (value : String) (first second : Int) (hfirst : Text.IsInt32 value.toList first)
    (hsecond : Text.IsInt32 value.toList second) : first = second :=
  Option.some.inj
    ((Text.int32?_eq_some_iff.mpr hfirst).symm.trans (Text.int32?_eq_some_iff.mpr hsecond))

lemma eq_of_isFlag (value : String) (first second : Bool) (hfirst : Property.IsFlag value first)
    (hsecond : Property.IsFlag value second) : first = second :=
  Option.some.inj
    ((Property.boolean?_eq_some_iff.mpr hfirst).symm.trans (Property.boolean?_eq_some_iff.mpr hsecond))

section Traced

variable (h : Traced assignments index) (hother : Traced others other)
  (hsame : SameByKey assignments others)

include h hother hsame

lemma attribute?_eq_of_traced (id : ModuleId) (name : String) :
    index.attribute? id name = other.attribute? id name := by
  rw [h.value, hother.value, hsame.inOrder]

lemma contains_eq_of_traced (id : ModuleId) : index.contains id = other.contains id := by
  rw [Bool.eq_iff_iff, h.contains, hother.contains, hsame.exists_iff]

/-- The facts are read off values that are the same, and lists that have the same parts. -/
lemma factsOf_eq_of_traced (id : ModuleId) : index.factsOf id = other.factsOf id := by
  have hvalue := attribute?_eq_of_traced h hother hsame id
  ext1
  · exact ReadOff.unique eq_of_isInt32 (hvalue "Priority" ▸ h.priority id) (hother.priority id)
  · exact IdSet.eq_of_mem_iff fun named => by rw [h.before, hother.before, hsame.exists_iff]
  · exact IdSet.eq_of_mem_iff fun named => by rw [h.after, hother.after, hsame.exists_iff]
  · exact ReadOff.unique eq_of_isFlag (hvalue "BeforeAll" ▸ h.beforeAll id) (hother.beforeAll id)
  · exact ReadOff.unique eq_of_isFlag (hvalue "AfterAll" ▸ h.afterAll id) (hother.afterAll id)

lemma attributes?_eq_of_traced (id : ModuleId) : index.attributes? id = other.attributes? id := by
  have hvalue := attribute?_eq_of_traced h hother hsame id
  refine eq_of_isSome_eq (contains_eq_of_traced h hother hsame id) fun values listed hhere hthere => ?_
  simp only [attribute?, hhere, hthere] at hvalue
  exact Table.eq_of_find? hvalue

end Traced

/-! ### One index -/

/-- Facts are kept for a module behind an insertion when they were before it, or it is the one of the
assignment. -/
lemma contains_facts_insert (index : Index) (a : Assignment) (id : ModuleId) :
    (index.insert a).2.facts.contains id = true ↔ index.facts.contains id = true ∨ a.id = id := by
  have hentered : (index.enter a.id).facts.contains id = true ↔
      index.facts.contains id = true ∨ a.id = id := by
    rw [enter, Table.contains, Table.find?_insertNew]
    by_cases hid : id = a.id
    · simp [hid]
    · simp [hid, Ne.symm hid, Table.contains]
  rcases index.insert_cases a with ⟨-, facts, -, hinsert⟩ | ⟨-, hinsert⟩
  · have hput : (index.put a facts).facts = (index.enter a.id).facts.insert a.id facts := rfl
    rw [hinsert, hput, Table.contains, Table.find?_insert]
    by_cases hid : id = a.id
    · simp [hid]
    · rw [if_neg hid]
      exact hentered
  · rw [hinsert]
    exact hentered

/-- Facts are kept for the modules that an assignment was made to. -/
lemma contains_facts_afterEach (assignments : List Assignment) (id : ModuleId) :
    (empty.afterEach assignments).facts.contains id = true ↔ ∃ a ∈ assignments, a.id = id := by
  induction assignments using List.reverseRecOn with
  | nil => simp [afterEach, empty, Table.contains]
  | append_singleton assignments a ih =>
      rw [afterEach_concat, contains_facts_insert, ih]
      simp [or_and_right, exists_or]

/-- An index is fixed by its views and by the modules that facts are kept for. -/
lemma eq_of_views (hfacts : ∀ id, index.factsOf id = other.factsOf id)
    (hkept : ∀ id, index.facts.contains id = other.facts.contains id)
    (hattributes : ∀ id, index.attributes? id = other.attributes? id) : index = other := by
  ext1
  · refine Table.eq_of_find? fun id => eq_of_isSome_eq (hkept id) fun facts found hhere hthere => ?_
    have hfound := hfacts id
    rw [factsOf, factsOf, hhere, hthere] at hfound
    exact hfound
  · exact Table.eq_of_find? hattributes

lemma acceptedBy_of_wellTyped (index : Index) (h : ∀ a ∈ assignments, a.WellTyped) :
    index.acceptedBy assignments = assignments := by
  induction assignments generalizing index with
  | nil => rfl
  | cons a assignments ih =>
      obtain ⟨ha, hassignments⟩ := List.forall_mem_cons.mp h
      have haccepted : (index.insert a).1 = .ok () := by
        rcases index.insert_cases a with ⟨-, facts, -, hinsert⟩ | ⟨hrefused, -⟩
        · rw [hinsert]
        · exact absurd ha hrefused
      rw [acceptedBy, if_pos haccepted, ih _ hassignments]

/-- **Assignments in another order** lead to the same index, when those to one attribute of one module
stay in their order. -/
lemma afterEach_of_sameByKey (hsame : SameByKey assignments others)
    (htyped : ∀ a ∈ others, a.WellTyped) :
    empty.afterEach assignments = empty.afterEach others := by
  have hassignments : Traced assignments (empty.afterEach assignments) := by
    have htraced := traced_afterEach assignments
    rwa [acceptedBy_of_wellTyped _ fun a ha => htyped a (hsame.perm.mem_iff.mp ha)] at htraced
  have hothers : Traced others (empty.afterEach others) := by
    have htraced := traced_afterEach others
    rwa [acceptedBy_of_wellTyped _ htyped] at htraced
  refine eq_of_views (factsOf_eq_of_traced hassignments hothers hsame) (fun id => ?_)
    (attributes?_eq_of_traced hassignments hothers hsame)
  rw [Bool.eq_iff_iff, contains_facts_afterEach, contains_facts_afterEach, hsame.exists_iff]

end Index

/-! ### Texts -/

/-- The trimmed lines of a text that say something. -/
def said (contents : String) : List (List Char) :=
  ((Text.lines contents.toList).map Text.trim).filter Significant

/-- A line gives a value to an attribute of a module. -/
def Assigns (id : ModuleId) (name : String) (line : List Char) : Prop :=
  ∃ a, Spells line a ∧ a.id = id ∧ a.name = name

lemma assigns_iff {id : ModuleId} {name : String} {line : List Char} :
    Assigns id name line ↔ ∃ a ∈ assignment? line, a.id = id ∧ a.name = name :=
  exists_congr fun _ => and_congr_left fun _ => assignment?_eq_some_iff.symm

instance (id : ModuleId) (name : String) : DecidablePred (Assigns id name) := fun _ =>
  decidable_of_iff _ assigns_iff.symm

/-- Texts whose significant lines are rearrangements of each other, in which the lines for one attribute
of one module are in the same order. -/
structure Rearranged (contents other : String) : Prop where
  perm : (said contents).Perm (said other)
  inOrder : ∀ id name,
    (said contents).filter (Assigns id name) = (said other).filter (Assigns id name)

variable {contents other : String}

lemma Rearranged.symm (h : Rearranged contents other) : Rearranged other contents :=
  ⟨h.perm.symm, fun id name => (h.inOrder id name).symm⟩

/-- The order need only be compared for the attributes that some line gives a value to. -/
lemma rearranged_iff :
    Rearranged contents other ↔ (said contents).Perm (said other) ∧
      ∀ a ∈ (said contents).filterMap assignment?,
        (said contents).filter (Assigns a.id a.name) =
          (said other).filter (Assigns a.id a.name) := by
  refine ⟨fun h => ⟨h.perm, fun a _ => h.inOrder a.id a.name⟩, fun h => ⟨h.1, fun id name => ?_⟩⟩
  obtain ⟨hperm, hinOrder⟩ := h
  by_cases hnamed : ∃ line ∈ said contents, Assigns id name line
  · obtain ⟨line, hline, hassigns⟩ := hnamed
    obtain ⟨a, ha, rfl, rfl⟩ := assigns_iff.mp hassigns
    exact hinOrder a (List.mem_filterMap.mpr ⟨line, hline, ha⟩)
  · have hnone : ∀ line ∈ said contents, ¬ Assigns id name line := fun line hline hassigns =>
      hnamed ⟨line, hline, hassigns⟩
    rw [List.filter_eq_nil_iff.mpr fun line hline => by simpa using hnone line hline,
      List.filter_eq_nil_iff.mpr fun line hline => by
        simpa using hnone line (hperm.mem_iff.mpr hline)]

instance (contents other : String) : Decidable (Rearranged contents other) :=
  decidable_of_iff _ rearranged_iff.symm

namespace Index

variable {index : Index}

/-- Numbered lines pass the check when they are well formed, and what they spell comes of it. -/
lemma mapM_checkLine_eq_ok_iff {numbered : List (List Char × Nat)} {assignments : List Assignment} :
    numbered.mapM checkLine = .ok assignments ↔
      (∀ line ∈ numbered.map Prod.fst, WellFormed line) ∧
        (numbered.map Prod.fst).filterMap assignment? = assignments := by
  rw [mapM_eq_ok_iff]
  induction numbered generalizing assignments with
  | nil => simp [eq_comm]
  | cons line numbered ih =>
      rw [List.forall₂_cons_left_iff, List.map_cons, List.forall_mem_cons]
      constructor
      · rintro ⟨a, rest, ha, hrest, rfl⟩
        obtain ⟨hspells, htyped⟩ := checkLine_eq_ok_iff.mp ha
        obtain ⟨hformed, rfl⟩ := ih.mp hrest
        exact ⟨⟨⟨a, hspells, htyped⟩, hformed⟩,
          List.filterMap_cons_some (assignment?_eq_some_iff.mpr hspells)⟩
      · rintro ⟨⟨⟨a, hspells, htyped⟩, hformed⟩, rfl⟩
        exact ⟨a, _, checkLine_eq_ok_iff.mpr ⟨hspells, htyped⟩, ih.mpr ⟨hformed, rfl⟩,
          List.filterMap_cons_some (assignment?_eq_some_iff.mpr hspells)⟩

/-- **What a text is read as**: the index behind what its significant lines spell, if these are well
formed. -/
lemma parse_eq_ok_iff :
    parse contents = .ok index ↔
      (∀ line ∈ said contents, WellFormed line) ∧
        empty.afterEach ((said contents).filterMap assignment?) = index := by
  have hsaid : (significantLines contents).map Prod.fst = said contents := by
    rw [significantLines_eq, map_fst_significantAmong, said]
  rw [parse_eq, map_eq_ok_iff]
  simp only [mapM_checkLine_eq_ok_iff, hsaid]
  constructor
  · rintro ⟨assignments, ⟨hformed, rfl⟩, hindex⟩
    exact ⟨hformed, hindex⟩
  · rintro ⟨hformed, hindex⟩
    exact ⟨_, ⟨hformed, rfl⟩, hindex⟩

/-- The assignments on rearranged lines are the same for each attribute of each module. -/
lemma sameByKey_of_rearranged (h : Rearranged contents other) :
    SameByKey ((said contents).filterMap assignment?) ((said other).filterMap assignment?) where
  perm := h.perm.filterMap assignment?
  inOrder id name := by
    have hfilter : ∀ lines : List (List Char),
        (lines.filterMap assignment?).filter (fun a => a.id = id ∧ a.name = name) =
          (lines.filter (Assigns id name)).filterMap assignment? := by
      intro lines
      rw [List.filter_filterMap, List.filterMap_filter]
      refine List.filterMap_congr fun line _ => ?_
      cases hline : assignment? line with
      | none =>
          have hnot : ¬ Assigns id name line := by simp [assigns_iff, hline]
          simp [hnot]
      | some a =>
          have hiff : Assigns id name line ↔ a.id = id ∧ a.name = name := by
            simp [assigns_iff, hline]
          simp [hiff, Option.filter]
    rw [hfilter, hfilter, h.inOrder]

lemma parse_eq_ok_of_rearranged (h : Rearranged contents other) (hparse : parse other = .ok index) :
    parse contents = .ok index := by
  obtain ⟨hformed, hindex⟩ := parse_eq_ok_iff.mp hparse
  refine parse_eq_ok_iff.mpr ⟨fun line hline => hformed line (h.perm.mem_iff.mp hline), ?_⟩
  rw [← hindex]
  refine afterEach_of_sameByKey (sameByKey_of_rearranged h) fun a ha => ?_
  obtain ⟨line, hline, hspelled⟩ := List.mem_filterMap.mp ha
  obtain ⟨b, hspells, htyped⟩ := hformed line hline
  rw [assignment?_eq_some_iff.mpr hspells] at hspelled
  exact Option.some.inj hspelled ▸ htyped

/-- Texts that are read alike: both spell an index or none does, and the indexes are the same to every
view, in every order and for every filter. -/
structure ReadAlike (contents other : String) : Prop where
  succeeds : (∃ index, parse contents = .ok index) ↔ ∃ index, parse other = .ok index
  views : ∀ index reread, parse contents = .ok index → parse other = .ok reread →
    index.SameViews reread
  orders : ∀ index reread, parse contents = .ok index → parse other = .ok reread →
    ∀ ids, activationOrder ids index = activationOrder ids reread
  judgements : ∀ index reread, parse contents = .ok index → parse other = .ok reread →
    ∀ (filter : Filter) (slots : List (Option ModuleId)),
      filter.judge slots index = filter.judge slots reread
  outcomes : ∀ index reread, parse contents = .ok index → parse other = .ok reread →
    ∀ filters candidates,
      filterCandidates filters index candidates = filterCandidates filters reread candidates

/-- **Lines in another order** make no difference, as long as those for one attribute of one module stay
in their order. -/
theorem readAlike_of_rearranged (h : Rearranged contents other) : ReadAlike contents other := by
  have hsame : ∀ index, parse contents = .ok index ↔ parse other = .ok index := fun index =>
    ⟨parse_eq_ok_of_rearranged h.symm, parse_eq_ok_of_rearranged h⟩
  have hindex : ∀ {index reread}, parse contents = .ok index → parse other = .ok reread →
      index = reread := by
    intro index reread hcontents hother
    exact Except.ok.inj (((hsame index).mp hcontents).symm.trans hother)
  refine ⟨exists_congr hsame, ?_, ?_, ?_, ?_⟩
  · intro index reread hcontents hother
    rw [hindex hcontents hother]
    exact SameViews.refl reread
  · intro index reread hcontents hother ids
    rw [hindex hcontents hother]
  · intro index reread hcontents hother filter slots
    rw [hindex hcontents hother]
  · intro index reread hcontents hother filters candidates
    rw [hindex hcontents hother]

/-- A text with two values for one attribute. -/
def tidy : String :=
  "# facts\na.Priority=1\na.Priority = 2\na.Before=c, d\nb.Before=a\nb.BeforeAll=true\n"

/-- The same lines in another order, with other blanks and comments around them. -/
def shuffled : String :=
  "b.BeforeAll=true\r\n\n  a.Priority=1\n!\nb.Before=a\na.Before=c, d\na.Priority = 2"

/-- Both texts are read, and to the same. -/
theorem readAlike_of_rearranged_shuffled :
    Rearranged tidy shuffled ∧ ReadAlike tidy shuffled ∧ ∃ index, parse tidy = .ok index := by
  have hrearranged : Rearranged tidy shuffled := by decide +kernel
  have hspelled : (parse tidy).isOk = true := by decide +kernel
  refine ⟨hrearranged, readAlike_of_rearranged hrearranged, ?_⟩
  cases hparse : parse tidy with
  | ok index => exact ⟨index, rfl⟩
  | error fault =>
      rw [hparse] at hspelled
      cases hspelled

end Index

end Activation
