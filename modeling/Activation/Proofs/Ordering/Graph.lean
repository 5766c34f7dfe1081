/-
The graph of a row of modules.

* `Graph.later`, `Graph.degree`: what a graph says about one position.
* `Graph.predecessors`, `Graph.Counted`: the positions with an edge to a
  position, and the agreement of the in-degrees with their number.
* `Graph.mem_later_foldl`, `Graph.Counted.foldl`: edges added one by one are all
  there, loops apart, and each is counted once.
* `Graph.mem_later_build`: in the graph of a row an edge leads from one module to
  another exactly when their facts demand that order.
* `Graph.counted_build`: its in-degrees agree with its edges.
-/
import Mathlib.Data.Fintype.Card
import Mathlib.Order.Fin.Basic
import Activation.Ordering.Graph

namespace Activation.Graph

variable {n : ℕ} {graph : Graph n} {source target i j : Fin n}

/-- The positions that must come later than a position. -/
def later (graph : Graph n) (source : Fin n) : List (Fin n) := graph.successors.get source

/-- The number of positions that must come earlier than a position. -/
def degree (graph : Graph n) (target : Fin n) : ℕ := graph.inDegree.get target

/-- The positions with an edge to a position. -/
def predecessors (graph : Graph n) (target : Fin n) : Finset (Fin n) :=
  Finset.univ.filter fun source => (graph.later source).contains target

/-- Successors are listed in increasing order, and the in-degrees count the predecessors. -/
structure Counted (graph : Graph n) : Prop where
  increasing : ∀ source, (graph.later source).Pairwise (· < ·)
  degree : ∀ target, graph.degree target = (graph.predecessors target).card

lemma mem_predecessors : source ∈ graph.predecessors target ↔ target ∈ graph.later source := by
  simp [predecessors]

/-- A vector with one element replaced differs there alone. -/
lemma get_set {α : Type} (values : Vector α n) (i j : Fin n) (a : α) :
    (values.set i a i.isLt).get j = if j = i then a else values.get j := by
  have hset : (values.set i a i.isLt).get j = if i.val = j.val then a else values.get j :=
    Vector.getElem_set i.isLt j.isLt
  rw [hset]
  simp only [Fin.val_inj, eq_comm]

/-! ### Increasing lists of positions -/

lemma mem_insert {positions : List (Fin n)} :
    j ∈ Increasing.insert (· < ·) i positions ↔ j = i ∨ j ∈ positions :=
  Increasing.mem_insert fun _ _ hab hba => le_antisymm (not_lt.mp hba) (not_lt.mp hab)

lemma pairwise_insert {positions : List (Fin n)} (i : Fin n) (h : positions.Pairwise (· < ·)) :
    (Increasing.insert (· < ·) i positions).Pairwise (· < ·) :=
  @Increasing.pairwise_insert _ (· < ·) _ (fun _ _ _ => lt_trans) i _ h

/-- A position put in its place among others is one more of them. -/
lemma perm_insert {positions : List (Fin n)} (h : positions.Pairwise (· < ·))
    (hfresh : i ∉ positions) :
    (Increasing.insert (· < ·) i positions).Perm (i :: positions) := by
  have hnodup : ∀ {positions : List (Fin n)}, positions.Pairwise (· < ·) → positions.Nodup :=
    fun h => h.imp fun hlt => ne_of_lt hlt
  refine (List.perm_ext_iff_of_nodup (hnodup (pairwise_insert i h))
    (List.nodup_cons.mpr ⟨hfresh, hnodup h⟩)).mpr fun j => ?_
  rw [mem_insert, List.mem_cons]

/-! ### Adding edges -/

lemma later_edgeless (source : Fin n) : (edgeless n).later source = [] :=
  Vector.getElem_replicate source.isLt

lemma degree_edgeless (target : Fin n) : (edgeless n).degree target = 0 :=
  Vector.getElem_replicate target.isLt

lemma counted_edgeless : (edgeless n).Counted where
  increasing source := by
    rw [later_edgeless]
    exact List.Pairwise.nil
  degree target := by
    have hnone : (edgeless n).predecessors target = ∅ := by
      ext source
      rw [mem_predecessors, later_edgeless]
      simp
    rw [hnone, degree_edgeless, Finset.card_empty]

/-- A loop or an edge that is there changes nothing. -/
lemma addEdge_of_old (hold : source = target ∨ target ∈ graph.later source) :
    graph.addEdge (source, target) = graph :=
  if_pos hold

section New

variable (hnew : ¬ (source = target ∨ target ∈ graph.later source))
include hnew

/-- An edge that is new, and no loop, is entered at its source. -/
lemma later_addEdge_of_new :
    (graph.addEdge (source, target)).later i =
      if i = source then Increasing.insert (· < ·) target (graph.later source)
      else graph.later i := by
  have hlater : (graph.addEdge (source, target)).later i =
      (graph.successors.set source (Increasing.insert (· < ·) target (graph.later source))
        source.isLt).get i := by
    rw [addEdge]
    exact congrArg (Graph.later · i) (if_neg hnew)
  rw [hlater, get_set]
  rfl

/-- Such an edge is counted at its target. -/
lemma degree_addEdge_of_new :
    (graph.addEdge (source, target)).degree j =
      if j = target then graph.degree target + 1 else graph.degree j := by
  have hdegree : (graph.addEdge (source, target)).degree j =
      (graph.inDegree.set target (graph.degree target + 1) target.isLt).get j := by
    rw [addEdge]
    exact congrArg (Graph.degree · j) (if_neg hnew)
  rw [hdegree, get_set]
  rfl

end New

/-- The edges after one is added. -/
lemma mem_later_addEdge :
    j ∈ (graph.addEdge (source, target)).later i ↔
      j ∈ graph.later i ∨ (i = source ∧ j = target ∧ source ≠ target) := by
  by_cases hold : source = target ∨ target ∈ graph.later source
  · rw [addEdge_of_old hold]
    refine ⟨Or.inl, ?_⟩
    rintro (hj | ⟨rfl, rfl, hne⟩)
    · exact hj
    · exact hold.resolve_left hne
  · have hne : source ≠ target := (not_or.mp hold).1
    rw [later_addEdge_of_new hold]
    by_cases hi : i = source
    · subst hi
      rw [if_pos rfl, mem_insert]
      simp [hne, or_comm]
    · simp [hi]

/-- Counts stay right when an edge is added. -/
lemma Counted.addEdge (h : graph.Counted) (edge : Fin n × Fin n) :
    (graph.addEdge edge).Counted := by
  obtain ⟨source, target⟩ := edge
  by_cases hold : source = target ∨ target ∈ graph.later source
  · rwa [addEdge_of_old hold]
  obtain ⟨hne, hnew⟩ := not_or.mp hold
  have hpred : ∀ j, (graph.addEdge (source, target)).predecessors j =
      if j = target then insert source (graph.predecessors j) else graph.predecessors j := by
    intro j
    ext i
    rw [mem_predecessors, mem_later_addEdge]
    by_cases hj : j = target
    · rw [if_pos hj, Finset.mem_insert, mem_predecessors]
      simp [hj, hne, or_comm]
    · rw [if_neg hj, mem_predecessors]
      simp [hj]
  constructor
  · intro i
    rw [later_addEdge_of_new hold]
    split
    · exact pairwise_insert target (h.increasing source)
    · exact h.increasing i
  · intro j
    rw [hpred, degree_addEdge_of_new hold]
    by_cases hj : j = target
    · subst hj
      have hfresh : source ∉ graph.predecessors j := fun hmem => hnew (mem_predecessors.mp hmem)
      rw [if_pos rfl, if_pos rfl, Finset.card_insert_of_notMem hfresh, h.degree]
    · rw [if_neg hj, if_neg hj, h.degree]

/-- The edges after several are added. -/
lemma mem_later_foldl {edges : List (Fin n × Fin n)} :
    j ∈ (edges.foldl Graph.addEdge graph).later i ↔
      j ∈ graph.later i ∨ (i ≠ j ∧ (i, j) ∈ edges) := by
  induction edges generalizing graph with
  | nil => simp
  | cons edge edges ih =>
      obtain ⟨source, target⟩ := edge
      rw [List.foldl_cons, ih, mem_later_addEdge, List.mem_cons, Prod.mk.injEq]
      constructor
      · rintro ((hj | ⟨rfl, rfl, hne⟩) | ⟨hne, hmem⟩)
        · exact Or.inl hj
        · exact Or.inr ⟨hne, Or.inl ⟨rfl, rfl⟩⟩
        · exact Or.inr ⟨hne, Or.inr hmem⟩
      · rintro (hj | ⟨hne, ⟨rfl, rfl⟩ | hmem⟩)
        · exact Or.inl (Or.inl hj)
        · exact Or.inl (Or.inr ⟨rfl, rfl, hne⟩)
        · exact Or.inr ⟨hne, hmem⟩

lemma Counted.foldl {edges : List (Fin n × Fin n)} (h : graph.Counted) :
    (edges.foldl Graph.addEdge graph).Counted := by
  induction edges generalizing graph with
  | nil => exact h
  | cons edge edges ih => exact ih (h.addEdge edge)

/-! ### The edges of a row -/

variable {modules : Vector (ModuleId × OrderingFacts) n} {id : ModuleId}

/-- No two positions of a row hold the same module. -/
def DistinctIds (modules : Vector (ModuleId × OrderingFacts) n) : Prop :=
  ∀ i j : Fin n, (modules.get i).1 = (modules.get j).1 → i = j

/-- A position is found for a module when it holds that module. -/
lemma position?_eq_some_iff (hids : DistinctIds modules) :
    position? modules id = some i ↔ (modules.get i).1 = id := by
  rw [position?, Vector.findFinIdx?, Option.map_eq_some_iff]
  constructor
  · rintro ⟨k, hk, rfl⟩
    exact of_decide_eq_true (Array.findFinIdx?_eq_some_iff.mp hk).1
  · intro hi
    refine ⟨i.cast modules.size_toArray.symm, Array.findFinIdx?_eq_some_iff.mpr ⟨?_, ?_⟩, rfl⟩
    · exact decide_eq_true hi
    · intro k hk
      have hlt : k.cast modules.size_toArray < i := hk
      have hne : (modules.get (k.cast modules.size_toArray)).1 ≠ id := fun heq =>
        Fin.ne_of_lt hlt (hids _ _ (heq.trans hi.symm))
      exact mt of_decide_eq_true hne

/-- The edges that modules declare by naming others. -/
lemma mem_declaredEdges (hids : DistinctIds modules) :
    (i, j) ∈ (List.finRange n).flatMap (declaredEdges modules) ↔
      (modules.get j).1 ∈ (modules.get i).2.before ∨
        (modules.get i).1 ∈ (modules.get j).2.after := by
  simp only [List.mem_flatMap, List.mem_finRange, true_and, declaredEdges, List.mem_append,
    List.mem_map, List.mem_filterMap, position?_eq_some_iff hids, Prod.mk.injEq, exists_or]
  refine or_congr ⟨?_, fun h => ⟨i, j, ⟨_, h, rfl⟩, rfl, rfl⟩⟩
    ⟨?_, fun h => ⟨j, i, ⟨_, h, rfl⟩, rfl, rfl⟩⟩
  · rintro ⟨_, _, ⟨_, hmem, rfl⟩, rfl, rfl⟩
    exact hmem
  · rintro ⟨_, _, ⟨_, hmem, rfl⟩, rfl, rfl⟩
    exact hmem

/-- The edges that the flags make. -/
lemma mem_bandEdges :
    (i, j) ∈ (List.finRange n).flatMap (bandEdges modules) ↔
      ((modules.get i).2.beforeAll = true ∧ (modules.get j).2.beforeAll = false) ∨
        ((modules.get j).2.afterAll = true ∧ (modules.get i).2.afterAll = false) := by
  simp only [List.mem_flatMap, List.mem_finRange, true_and, bandEdges, List.mem_filterMap,
    Option.ite_none_right_eq_some, Option.some.injEq, Prod.mk.injEq]
  have hflags : ((modules.get i).2.beforeAll && !(modules.get j).2.beforeAll ||
      (modules.get j).2.afterAll && !(modules.get i).2.afterAll) = true ↔
        ((modules.get i).2.beforeAll = true ∧ (modules.get j).2.beforeAll = false) ∨
          ((modules.get j).2.afterAll = true ∧ (modules.get i).2.afterAll = false) := by
    simp
  rw [← hflags]
  constructor
  · rintro ⟨_, _, hedge, rfl, rfl⟩
    exact hedge
  · exact fun hedge => ⟨i, j, hedge, rfl, rfl⟩

/-- **The edges of a row**: one for every demand between two different positions, and no other. -/
theorem mem_later_build (hids : DistinctIds modules) :
    j ∈ (build modules).later i ↔ i ≠ j ∧ Demands (modules.get i) (modules.get j) := by
  rw [build, mem_later_foldl, later_edgeless, List.mem_append, mem_declaredEdges hids,
    mem_bandEdges, Demands, or_assoc]
  simp

/-- The in-degrees of a row count its edges. -/
theorem counted_build (modules : Vector (ModuleId × OrderingFacts) n) : (build modules).Counted :=
  counted_edgeless.foldl

end Activation.Graph
