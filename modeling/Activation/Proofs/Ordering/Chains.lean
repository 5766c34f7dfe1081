/-
What the order depends on.

A constraint may be declared by either of its modules, or by both, and one that
others imply may be declared or not. The order goes by the priorities of the ids
and by the chains of constraints among them, whoever declares what.

* `Index.Names`, `Index.Flanks`, `Index.binds_iff`: the two kinds of constraints.
* `Index.Alike`: two indexes give some ids the same priorities and the same chains
  of constraints.
* `Index.Restates`: one index declares the constraints among the ids that the other
  does, by whichever module, and besides them only such as these imply.
* `Index.Restates.alike`: the two are alike then.
* `activationOrder_of_alike`: alike indexes lead to the same order, or to the same
  failure.
* `Index.terse`, `Index.verbose`, `Index.flagged`: three that are alike on three ids.
-/
import Activation.Proofs.Ordering.Sort

namespace Activation

open Placement Relation

namespace Index

variable {index other : Index} {ids : List ModuleId} {a b : ModuleId}

/-! ### The two kinds of constraints -/

/-- One of two modules names the other, so that `a` comes before `b`. -/
def Names (index : Index) (a b : ModuleId) : Prop :=
  b ∈ (index.factsOf a).before ∨ a ∈ (index.factsOf b).after

instance (index : Index) : DecidableRel index.Names := fun a b => by
  unfold Names
  infer_instance

/-- The flags of two modules put `a` before `b`. -/
def Flanks (index : Index) (a b : ModuleId) : Prop :=
  ((index.factsOf a).beforeAll = true ∧ (index.factsOf b).beforeAll = false) ∨
    ((index.factsOf b).afterAll = true ∧ (index.factsOf a).afterAll = false)

/-- The constraints that count are declared by name or by flags. -/
lemma binds_iff : index.Binds ids a b ↔
    a ∈ ids ∧ b ∈ ids ∧ a ≠ b ∧ (index.Names a b ∨ index.Flanks a b) := by
  rw [Binds, Precedes, Demands, Names, Flanks, or_assoc]
  rfl

/-! ### Alike indexes -/

/-- The two indexes give the ids the same priorities, and chains of constraints lead from one id to
another in the one when they do in the other. -/
structure Alike (index other : Index) (ids : List ModuleId) : Prop where
  priority : ∀ id ∈ ids, (other.factsOf id).priority = (index.factsOf id).priority
  chains : ∀ a b, TransGen (index.Binds ids) a b ↔ TransGen (other.Binds ids) a b

/-- The ids have the same priorities and flags in `other`. Of two different ids, one names the other
in `other` if it does in `index`, and only if a chain of constraints of `index` puts them in that
order. What is said of other modules, or of a module and itself, does not matter. -/
structure Restates (index other : Index) (ids : List ModuleId) : Prop where
  priority : ∀ id ∈ ids, (other.factsOf id).priority = (index.factsOf id).priority
  beforeAll : ∀ id ∈ ids, (other.factsOf id).beforeAll = (index.factsOf id).beforeAll
  afterAll : ∀ id ∈ ids, (other.factsOf id).afterAll = (index.factsOf id).afterAll
  kept : ∀ a ∈ ids, ∀ b ∈ ids, a ≠ b → index.Names a b → other.Names a b
  implied : ∀ a ∈ ids, ∀ b ∈ ids, a ≠ b → other.Names a b → TransGen (index.Binds ids) a b

/-- Flags that are the same make the same constraints. -/
lemma Restates.flanks_iff (h : index.Restates other ids) (ha : a ∈ ids) (hb : b ∈ ids) :
    other.Flanks a b ↔ index.Flanks a b := by
  rw [Flanks, Flanks, h.beforeAll a ha, h.beforeAll b hb, h.afterAll a ha, h.afterAll b hb]

/-- Constraints that are kept make the same chains, whatever is added that they imply. -/
lemma alike_of_implied
    (hpriority : ∀ id ∈ ids, (other.factsOf id).priority = (index.factsOf id).priority)
    (hkept : index.Binds ids ≤ other.Binds ids)
    (himplied : other.Binds ids ≤ TransGen (index.Binds ids)) : index.Alike other ids :=
  ⟨hpriority, fun a b => ⟨TransGen.mono hkept a b, TransGen.closed himplied a b⟩⟩

/-- **Constraints stated anew** make the same chains. -/
lemma Restates.alike (h : index.Restates other ids) : index.Alike other ids := by
  refine alike_of_implied h.priority (fun a b hab => ?_) fun a b hab => ?_
  · obtain ⟨ha, hb, hne, hdeclared⟩ := binds_iff.mp hab
    refine binds_iff.mpr ⟨ha, hb, hne, ?_⟩
    exact hdeclared.imp (h.kept a ha b hb hne) (h.flanks_iff ha hb).mpr
  · obtain ⟨ha, hb, hne, hnames | hflanks⟩ := binds_iff.mp hab
    · exact h.implied a ha b hb hne hnames
    · have hflanks : index.Flanks a b := (h.flanks_iff ha hb).mp hflanks
      exact .single (binds_iff.mpr ⟨ha, hb, hne, Or.inr hflanks⟩)

/-- In an alike index the ids have the same ranks. -/
lemma Alike.ranksBelow_iff (h : index.Alike other ids) (ha : a ∈ ids) (hb : b ∈ ids) :
    other.RanksBelow a b ↔ index.RanksBelow a b := by
  rw [RanksBelow, RanksBelow, h.priority a ha, h.priority b hb]

/-- In an alike index the ids have the same ranking. -/
lemma Alike.ranking_eq (h : index.Alike other ids) : ranking ids other = ranking ids index := by
  refine eq_ranking ?_ fun id => mem_ranking
  refine (pairwise_ranking ids other).imp_of_mem fun {a b} ha hb hab => ?_
  exact (h.ranksBelow_iff (mem_ranking.mp ha) (mem_ranking.mp hb)).mp hab

/-- A greedy placement is one under the constraints and ranks of an alike index. -/
lemma Alike.steps {placed : List ModuleId} (h : index.Alike other ids)
    (hsteps : Steps (Lowest ids (index.Binds ids) index.RanksBelow) [] placed) :
    Steps (Lowest ids (other.Binds ids) other.RanksBelow) [] placed := by
  refine (hsteps.congr_chains h.chains closed_nil).1.mono fun front a ha => ?_
  refine ⟨ha.toOpen, fun b hb hba => ?_⟩
  exact ha.least b hb ((h.ranksBelow_iff hb.mem ha.mem).mp hba)

end Index

/-- **The order goes by priorities and chains of constraints**: two indexes that give the ids the
same ones lead to the same order, or to a failure that names the same ids; and so they do where one
only states anew what the other says of the ids. -/
theorem activationOrder_of_alike (ids : List ModuleId) (index other : Index) :
    (index.Alike other ids → activationOrder ids other = activationOrder ids index) ∧
      (index.Restates other ids → activationOrder ids other = activationOrder ids index) := by
  have halike (h : index.Alike other ids) :
      activationOrder ids other = activationOrder ids index := by
    obtain ⟨placed, hsteps, hstuck, horder⟩ := activationOrder_cases ids index
    have hclosed : Closed (index.Binds ids) placed := by
      simpa using (hsteps.congr_chains h.chains closed_nil).2
    have hotherstuck : Stuck ids (other.Binds ids) placed := fun a ha =>
      hstuck a ((hclosed.open_congr h.chains).mp ha)
    rw [activationOrder_of_stuck (h.steps hsteps) hotherstuck, horder, h.ranking_eq]
  exact ⟨halike, fun h => halike h.alike⟩

namespace Index

/-- An index in which `c` must come before `b`, and `b` before `a`. -/
def terse : Index :=
  let assignments : List Assignment := [⟨"c", "Before", "b"⟩, ⟨"b", "Before", "a"⟩]
  assignments.foldl (fun index a => (index.insert a).2) .empty

/-- An index that declares the first of these constraints at its other module and the second at
both, that `a` must follow `c` besides, and more that does not bear on the three. -/
def verbose : Index :=
  let assignments : List Assignment :=
    [⟨"b", "After", "c,y"⟩, ⟨"b", "Before", "a,b"⟩, ⟨"a", "After", "b,c"⟩,
      ⟨"x", "Before", "a"⟩, ⟨"x", "Priority", "-3"⟩, ⟨"y", "AfterAll", "true"⟩]
  assignments.foldl (fun index a => (index.insert a).2) .empty

/-- An index in which `c` goes before all, and `a` after all. -/
def flagged : Index :=
  let assignments : List Assignment := [⟨"c", "BeforeAll", "true"⟩, ⟨"a", "AfterAll", "true"⟩]
  assignments.foldl (fun index a => (index.insert a).2) .empty

lemma restates_verbose : terse.Restates verbose ["a", "b", "c"] where
  priority := by decide +kernel
  beforeAll := by decide +kernel
  afterAll := by decide +kernel
  kept := by decide +kernel
  implied a ha b hb hne hnames := by
    have hchain : ∀ a ∈ ["a", "b", "c"], ∀ b ∈ ["a", "b", "c"], a ≠ b → verbose.Names a b →
        terse.Binds ["a", "b", "c"] a b ∨ (a = "c" ∧ b = "a") := by
      decide +kernel
    obtain hbinds | ⟨rfl, rfl⟩ := hchain a ha b hb hne hnames
    · exact .single hbinds
    · have hcb : terse.Binds ["a", "b", "c"] "c" "b" := by decide +kernel
      have hba : terse.Binds ["a", "b", "c"] "b" "a" := by decide +kernel
      exact .tail (.single hcb) hba

lemma alike_flagged : terse.Alike flagged ["a", "b", "c"] := by
  have hkept : ∀ a ∈ ["a", "b", "c"], ∀ b ∈ ["a", "b", "c"], terse.Binds ["a", "b", "c"] a b →
      flagged.Binds ["a", "b", "c"] a b := by
    decide +kernel
  have hchain : ∀ a ∈ ["a", "b", "c"], ∀ b ∈ ["a", "b", "c"], flagged.Binds ["a", "b", "c"] a b →
      verbose.Binds ["a", "b", "c"] a b := by
    decide +kernel
  refine alike_of_implied (by decide +kernel)
    (fun a b hab => hkept a hab.mem_left b hab.mem_right hab) fun a b hab => ?_
  have hverbose := hchain a hab.mem_left b hab.mem_right hab
  exact (restates_verbose.alike.chains a b).mpr (.single hverbose)

end Index

theorem activationOrder_of_alike_terse :
    Index.terse.Alike .flagged ["a", "b", "c"] ∧ Index.terse.Restates .verbose ["a", "b", "c"] ∧
      activationOrder ["a", "b", "c"] .terse = .ok ["c", "b", "a"] ∧
      activationOrder ["a", "b", "c"] .flagged = .ok ["c", "b", "a"] ∧
      activationOrder ["a", "b", "c"] .verbose = .ok ["c", "b", "a"] := by
  have hterse : activationOrder ["a", "b", "c"] .terse = .ok ["c", "b", "a"] := by
    decide +kernel
  have hflagged := (activationOrder_of_alike ["a", "b", "c"] .terse .flagged).1 Index.alike_flagged
  have hverbose :=
    (activationOrder_of_alike ["a", "b", "c"] .terse .verbose).2 Index.restates_verbose
  exact ⟨Index.alike_flagged, Index.restates_verbose, hterse, hflagged.trans hterse,
    hverbose.trans hterse⟩

end Activation
