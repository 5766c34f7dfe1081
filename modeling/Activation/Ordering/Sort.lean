/-
The activation order.

* `sortByKey`: a stable sort.
* `baseline`, `ranking`: the distinct modules by id, and these sorted by priority,
  so that equal priorities stay ordered by id.
* `activationOrder`: the modules in an order that respects every constraint
  among them and is otherwise as close to the ranking as it can be; constraints
  on other modules, or of a module on itself, do not count.
-/
import Activation.Ordering.Graph

namespace Activation

section

variable {α κ : Type} [LE κ] [DecidableLE κ] (key : α → κ)

/-- Puts an element before the first one whose key is not below its own. -/
def insertByKey (a : α) : List α → List α
  | [] => [a]
  | b :: bs => if key a ≤ key b then a :: b :: bs else b :: insertByKey a bs

/-- Sorts by a key; elements with one key stay in the order in which they were. -/
def sortByKey (as : List α) : List α :=
  as.foldr (insertByKey key) []

end

/-- The distinct modules by id. -/
def baseline (ids : List ModuleId) : List ModuleId :=
  (IdSet.ofList ids).toList

/-- The distinct modules by priority, equal priorities by id. -/
def ranking (ids : List ModuleId) (index : Index) : List ModuleId :=
  sortByKey (fun id => (index.factsOf id).priority) (baseline ids)

/-- The modules of a ranking as a row with their facts. -/
def row (ranked : List ModuleId) (index : Index) :
    Vector (ModuleId × OrderingFacts) ranked.length :=
  ⟨(ranked.map index.withFacts).toArray, by simp⟩

/-- The modules in activation order, or the failure that names those a cycle keeps out. -/
def activationOrder (ids : List ModuleId) (index : Index) : Except ResolveError (List ModuleId) :=
  let modules := row (ranking ids index) index
  let idsAt (positions : List (Fin (ranking ids index).length)) : List ModuleId :=
    positions.map fun position => modules[position].1
  match (Graph.build modules).order with
  | .ok order => .ok (idsAt order)
  | .error left => .error (.cyclicOrdering (idsAt left))

end Activation
