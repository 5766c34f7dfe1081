/-
Graphs of constraints.

The modules to be ordered are known by their positions, and an edge leads from
a module to one that must come later. Each position carries the number of edges
that lead to it, so that a module whose predecessors are all placed is found
without a search.

* `Graph`, `Graph.addEdge`: successor lists and in-degrees, an edge counted once
  however often it is added, loops dropped.
* `declaredEdges`, `bandEdges`, `Graph.build`: the edges of a row of modules.
* `Progress`, `Progress.release`, `Progress.step`: the state of placing modules
  one at a time, the lowest ready position first.
* `Graph.order`: the positions in the order they are placed, or those that
  cannot be placed.
-/
import Activation.Increasing
import Activation.Ordering.Constraint

namespace Activation

/-- A graph on `n` positions. -/
structure Graph (n : Nat) where
  /-- The positions that must come later, in increasing order. -/
  successors : Vector (List (Fin n)) n
  /-- The number of positions that must come earlier. -/
  inDegree : Vector Nat n

namespace Graph

variable {n : Nat}

/-- The graph without edges. -/
def edgeless (n : Nat) : Graph n := ⟨Vector.replicate n [], Vector.replicate n 0⟩

/-- The graph with an edge; a loop or an edge that is there changes nothing. -/
def addEdge (graph : Graph n) (edge : Fin n × Fin n) : Graph n :=
  let (source, target) := edge
  if source = target ∨ target ∈ graph.successors[source] then graph
  else
    { successors :=
        graph.successors.set source (Increasing.insert (· < ·) target graph.successors[source])
      inDegree := graph.inDegree.set target (graph.inDegree[target] + 1) }

/-- The position of a module in a row. -/
def position? (modules : Vector (ModuleId × OrderingFacts) n) (id : ModuleId) : Option (Fin n) :=
  modules.findFinIdx? fun entry => entry.1 = id

/-- The edges that the module at a position declares by naming others. -/
def declaredEdges (modules : Vector (ModuleId × OrderingFacts) n) (position : Fin n) :
    List (Fin n × Fin n) :=
  let facts := modules[position].2
  (facts.before.toList.filterMap (position? modules)).map (fun target => (position, target)) ++
    (facts.after.toList.filterMap (position? modules)).map (fun source => (source, position))

/-- The edges from a position that the flags for going before or after all make. -/
def bandEdges (modules : Vector (ModuleId × OrderingFacts) n) (source : Fin n) :
    List (Fin n × Fin n) :=
  let a := modules[source].2
  (List.finRange n).filterMap fun target =>
    let b := modules[target].2
    if (a.beforeAll && !b.beforeAll) || (b.afterAll && !a.afterAll) then some (source, target)
    else none

/-- The graph of the constraints among a row of modules. -/
def build (modules : Vector (ModuleId × OrderingFacts) n) : Graph n :=
  let positions := List.finRange n
  (positions.flatMap (declaredEdges modules) ++ positions.flatMap (bandEdges modules)).foldl
    addEdge (edgeless n)

end Graph

/-- The state of placing the modules of a graph. -/
structure Progress (n : Nat) where
  /-- The edges from modules that are not placed, the in-degrees counting these alone. -/
  graph : Graph n
  /-- The modules that can be placed next, in increasing order. -/
  ready : List (Fin n)
  /-- The modules that are placed, in order. -/
  placed : List (Fin n)

namespace Progress

variable {n : Nat}

/-- The state before any module is placed. -/
def start (graph : Graph n) : Progress n where
  graph := graph
  ready := (List.finRange n).filter fun position => graph.inDegree[position] = 0
  placed := []

/-- One edge to `target` gone: the module is ready when that was the last. -/
def release (progress : Progress n) (target : Fin n) : Progress n :=
  let degree := progress.graph.inDegree[target] - 1
  { progress with
    graph := { progress.graph with inDegree := progress.graph.inDegree.set target degree }
    ready :=
      if degree = 0 then Increasing.insert (· < ·) target progress.ready else progress.ready }

/-- The state with `next` placed and its edges not yet gone. -/
def place (progress : Progress n) (next : Fin n) (ready : List (Fin n)) : Progress n where
  graph := { progress.graph with successors := progress.graph.successors.set next [] }
  ready := ready
  placed := progress.placed ++ [next]

/-- The state after the lowest ready module is placed; none when no module is ready. -/
def step (progress : Progress n) : Option (Progress n) :=
  match progress.ready with
  | [] => none
  | next :: ready =>
    some (progress.graph.successors[next].foldl release (progress.place next ready))

/-- The state after a number of placements, or after as many as there can be. -/
def run : Nat → Progress n → Progress n
  | 0, progress => progress
  | steps + 1, progress =>
    match progress.step with
    | none => progress
    | some next => run steps next

end Progress

/-- The positions in an order that respects every edge, the lowest that can come next always
first; where a cycle prevents that, the positions that are left. -/
def Graph.order {n : Nat} (graph : Graph n) : Except (List (Fin n)) (List (Fin n)) :=
  let final := (Progress.start graph).run n
  if final.placed.length = n then .ok final.placed
  else .error ((List.finRange n).filter fun position => position ∉ final.placed)

end Activation
