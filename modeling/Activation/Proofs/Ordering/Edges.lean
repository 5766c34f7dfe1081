/-
A graph and the edges it was made of.

However the edges of a graph are added, which of them twice, and in what order, the
graph keeps no more than which they were.

* `Graph.Draws`: the graph has the edges of a relation, loops apart, and the in-degree
  of a position is the number of positions with an edge to it.
* `Draws.addEdge`, `Draws.foldl`: an edge added is one more in the relation, and so are
  several, while the in-degrees keep up with them.
* `Draws.unique`: a relation is drawn by one graph.
* `Graph.draws_build`: the graph of a row draws the demands of its modules, and so does
  any other way to add the edges that they make.
-/
import Mathlib.Data.List.Sort
import Activation.Proofs.Ordering.Graph

namespace Activation.Graph

variable {n : ℕ} {graph : Graph n} {edge : Fin n → Fin n → Prop}

/-- The graph has the edges of a relation, but for loops, and counts them where they lead to. -/
structure Draws (graph : Graph n) (edge : Fin n → Fin n → Prop) : Prop where
  increasing : ∀ i, (graph.later i).Pairwise (· < ·)
  mem_later : ∀ i j, j ∈ graph.later i ↔ i ≠ j ∧ edge i j
  degree : ∀ j, graph.degree j = (graph.predecessors j).card

namespace Draws

lemma counted (h : graph.Draws edge) : graph.Counted := ⟨h.increasing, h.degree⟩

/-- Loops do not matter. -/
lemma congr {edge' : Fin n → Fin n → Prop} (h : graph.Draws edge)
    (hedge : ∀ i j, i ≠ j → (edge i j ↔ edge' i j)) : graph.Draws edge' where
  increasing := h.increasing
  mem_later i j := by
    rw [h.mem_later]
    exact and_congr_right (hedge i j)
  degree := h.degree

/-- **One edge more**, whether it is new, a loop, or there already. -/
lemma addEdge (h : graph.Draws edge) (source target : Fin n) :
    (graph.addEdge (source, target)).Draws fun i j => edge i j ∨ (i = source ∧ j = target) := by
  have hcounted : (graph.addEdge (source, target)).Counted := h.counted.addEdge (source, target)
  refine ⟨hcounted.increasing, fun i j => ?_, hcounted.degree⟩
  rw [mem_later_addEdge, h.mem_later]
  constructor
  · rintro (⟨hne, hedge⟩ | ⟨rfl, rfl, hne⟩)
    · exact ⟨hne, .inl hedge⟩
    · exact ⟨hne, .inr ⟨rfl, rfl⟩⟩
  · rintro ⟨hne, hedge | ⟨rfl, rfl⟩⟩
    · exact .inl ⟨hne, hedge⟩
    · exact .inr ⟨rfl, rfl, hne⟩

/-- Edges added in turn. -/
lemma foldl (h : graph.Draws edge) (edges : List (Fin n × Fin n)) :
    (edges.foldl Graph.addEdge graph).Draws fun i j => edge i j ∨ (i, j) ∈ edges := by
  induction edges generalizing graph edge with
  | nil => exact h.congr fun i j _ => by simp
  | cons first edges ih =>
      obtain ⟨source, target⟩ := first
      refine (ih (h.addEdge source target)).congr fun i j _ => ?_
      rw [List.mem_cons, Prod.mk.injEq, or_assoc]

/-- **A relation is drawn by one graph.** -/
lemma unique {other : Graph n} (h : graph.Draws edge) (hother : other.Draws edge) :
    graph = other := by
  have hlater : ∀ i, graph.later i = other.later i := fun i =>
    (h.increasing i).eq_of_mem_iff (hother.increasing i) fun j => by
      rw [h.mem_later, hother.mem_later]
  have hdegree : ∀ j, graph.degree j = other.degree j := fun j => by
    have hpredecessors : graph.predecessors j = other.predecessors j := by
      ext i
      rw [mem_predecessors, mem_predecessors, hlater]
    rw [h.degree, hother.degree, hpredecessors]
  obtain ⟨successors, inDegree⟩ := graph
  obtain ⟨successors', inDegree'⟩ := other
  have hsuccessors : successors = successors' := Vector.ext fun i hi => hlater ⟨i, hi⟩
  have hinDegree : inDegree = inDegree' := Vector.ext fun j hj => hdegree ⟨j, hj⟩
  rw [hsuccessors, hinDegree]

end Draws

/-- Without edges nothing is drawn. -/
lemma draws_edgeless : (edgeless n).Draws fun _ _ => False where
  increasing := counted_edgeless.increasing
  mem_later i j := by simp [later_edgeless]
  degree := counted_edgeless.degree

/-! ### The graph of a row -/

variable {modules : Vector (ModuleId × OrderingFacts) n}

/-- The edges of a row and how they came about: one leads from a module to another exactly when their
facts demand that order, in-degrees count these edges, and both hold however the edges are added. -/
structure DrawsDemands (modules : Vector (ModuleId × OrderingFacts) n) : Prop where
  draws : (build modules).Draws fun i j => Demands (modules.get i) (modules.get j)
  /-- While edges are added, each is in the graph once and counted once. -/
  along : ∀ edges : List (Fin n × Fin n),
    (edges.foldl addEdge (edgeless n)).Draws fun i j => (i, j) ∈ edges
  /-- Edges that are demanded, in any order and repeated at will, make the graph of the row. -/
  repeated : ∀ edges : List (Fin n × Fin n),
    (∀ i j, i ≠ j → ((i, j) ∈ edges ↔ Demands (modules.get i) (modules.get j))) →
    edges.foldl addEdge (edgeless n) = build modules

/-- **The graph of a row** has exactly the edges that the facts of its modules demand, each counted once
where it leads to. -/
theorem draws_build (hids : DistinctIds modules) : DrawsDemands modules := by
  have hdraws : (build modules).Draws fun i j => Demands (modules.get i) (modules.get j) :=
    ⟨(counted_build modules).increasing, fun i j => mem_later_build hids,
      (counted_build modules).degree⟩
  have halong : ∀ edges : List (Fin n × Fin n),
      (edges.foldl addEdge (edgeless n)).Draws fun i j => (i, j) ∈ edges := fun edges =>
    (draws_edgeless.foldl edges).congr fun i j _ => by rw [false_or]
  exact ⟨hdraws, halong, fun edges hedges => ((halong edges).congr hedges).unique hdraws⟩

/-- A row with demands made from both sides, of modules on themselves, and of modules outside it. -/
def redeclared : Vector (ModuleId × OrderingFacts) 4 :=
  #v[("a", { OrderingFacts.neutral with before := .ofList ["b", "a", "z"] }),
    ("b", { OrderingFacts.neutral with after := .ofList ["a", "c"] }),
    ("c", { OrderingFacts.neutral with beforeAll := true, before := .ofList ["b"] }),
    ("d", { OrderingFacts.neutral with afterAll := true, after := .ofList ["a", "d"] })]

theorem draws_build_redeclared :
    DistinctIds redeclared ∧ DrawsDemands redeclared ∧
      (build redeclared).successors = #v[[1, 3], [3], [0, 1, 3], []] ∧
      (build redeclared).inDegree = #v[1, 2, 0, 3] := by
  have hids : DistinctIds redeclared := by
    unfold DistinctIds
    decide +kernel
  exact ⟨hids, draws_build hids, by decide +kernel, by decide +kernel⟩

end Activation.Graph
