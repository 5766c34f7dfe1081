/-
What the order of two modules depends on.

* `Demands`: what two modules' facts say about their order.
* `Index.Precedes`: the constraint between two different modules, whichever of
  them declares it.
* `Index.RanksBelow`: the order of priority, equal priorities by id, which
  decides where no constraint does.
-/
import Activation.Index

namespace Activation

/-- Module `a` must come before module `b`: one of them names the other, or `a` goes before all
and `b` does not, or `b` goes after all and `a` does not. -/
def Demands (a b : ModuleId × OrderingFacts) : Prop :=
  b.1 ∈ a.2.before ∨ a.1 ∈ b.2.after ∨
    (a.2.beforeAll = true ∧ b.2.beforeAll = false) ∨ (b.2.afterAll = true ∧ a.2.afterAll = false)

instance (a b : ModuleId × OrderingFacts) : Decidable (Demands a b) := by
  unfold Demands
  infer_instance

namespace Index

/-- A module with its ordering facts. -/
def withFacts (index : Index) (id : ModuleId) : ModuleId × OrderingFacts :=
  (id, index.factsOf id)

/-- The constraint between two different modules. -/
def Precedes (index : Index) (a b : ModuleId) : Prop :=
  a ≠ b ∧ Demands (index.withFacts a) (index.withFacts b)

instance (index : Index) : DecidableRel index.Precedes := fun a b => by
  unfold Precedes
  infer_instance

/-- Module `a` has the lower priority, or the same priority and the lower id. -/
def RanksBelow (index : Index) (a b : ModuleId) : Prop :=
  (index.factsOf a).priority < (index.factsOf b).priority ∨
    ((index.factsOf a).priority = (index.factsOf b).priority ∧ a < b)

instance (index : Index) : DecidableRel index.RanksBelow := fun a b => by
  unfold RanksBelow
  infer_instance

end Index

end Activation
