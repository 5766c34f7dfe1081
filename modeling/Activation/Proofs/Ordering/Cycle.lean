/-
Modules that a cycle keeps out of the order.

A module on a cycle of constraints has no place in the order, and neither has one
that must follow it. All others can be ordered without them.

* `Index.Blocked`: a cycle of constraints leads to the module, which may lie on it.
* `not_mem_iff_blocked`: a stuck placement leaves out the blocked modules.
* `named_of_activationOrder`: where there is no order, these are named, by rank.
* `exists_activationOrder_of_not_blocked`: among modules none of which is blocked
  there is an order.
* `blames_of_activationOrder`: every failure names the blocked modules, each once
  and by rank; they are two at least, and the others have an order.
-/
import Activation.Proofs.Ordering.Sort

namespace Activation

open Placement Relation

namespace Index

variable {index : Index} {ids fewer : List ModuleId} {a b id : ModuleId}

/-- Constraints among some of the ids count among all of them. -/
lemma Binds.mono (hsub : ∀ id ∈ fewer, id ∈ ids) (h : index.Binds fewer a b) :
    index.Binds ids a b :=
  ⟨hsub a h.mem_left, hsub b h.mem_right, h.2.2⟩

/-- No constraint ties a module to itself. -/
lemma Binds.ne (h : index.Binds ids a b) : a ≠ b := h.2.2.1

/-- A cycle of constraints leads to the module, which may lie on it. -/
def Blocked (index : Index) (ids : List ModuleId) (id : ModuleId) : Prop :=
  ∃ c, TransGen (index.Binds ids) c c ∧ ReflTransGen (index.Binds ids) c id

/-- A module on a cycle is blocked. -/
lemma blocked_of_cycle (h : TransGen (index.Binds ids) id id) : index.Blocked ids id :=
  ⟨id, h, .refl⟩

/-- What must follow a blocked module is blocked. -/
lemma Blocked.tail (h : index.Blocked ids a) (hab : index.Binds ids a b) :
    index.Blocked ids b := by
  obtain ⟨c, hcycle, hca⟩ := h
  exact ⟨c, hcycle, hca.tail hab⟩

/-- A blocked module must follow another one. -/
lemma Blocked.exists_binds (h : index.Blocked ids id) : ∃ a, index.Binds ids a id := by
  obtain ⟨c, hcycle, hcid⟩ := h
  rcases reflTransGen_iff_eq_or_transGen.mp hcid with rfl | hcid
  · obtain ⟨a, -, ha⟩ := TransGen.tail'_iff.mp hcycle
    exact ⟨a, ha⟩
  · obtain ⟨a, -, ha⟩ := TransGen.tail'_iff.mp hcid
    exact ⟨a, ha⟩

lemma Blocked.mem (h : index.Blocked ids id) : id ∈ ids := by
  obtain ⟨a, ha⟩ := h.exists_binds
  exact ha.mem_right

/-- Where a module is blocked, there are two blocked modules at least. -/
lemma Blocked.exists_ne (h : index.Blocked ids id) :
    ∃ a b, index.Blocked ids a ∧ index.Blocked ids b ∧ a ≠ b := by
  obtain ⟨c, hcycle, -⟩ := h
  obtain ⟨next, hnext, -⟩ := TransGen.head'_iff.mp hcycle
  have hc : index.Blocked ids c := blocked_of_cycle hcycle
  exact ⟨c, next, hc, hc.tail hnext, hnext.ne⟩

end Index

variable {index : Index} {ids fewer order placed left : List ModuleId} {id : ModuleId}
  {cause : ResolveError}

/-- **A stuck placement leaves out the blocked modules** and no others. -/
lemma not_mem_iff_blocked (hsteps : Steps (Open ids (index.Binds ids)) [] placed)
    (hstuck : Stuck ids (index.Binds ids) placed) (hid : id ∈ ids) :
    id ∉ placed ↔ index.Blocked ids id := by
  constructor
  · intro hfresh
    exact exists_cycle_of_stuck (fun _ _ => Index.Binds.mem_left) hstuck hid hfresh
  · rintro ⟨c, hcycle, hcid⟩
    exact hsteps.not_mem_of_cycle hcycle hcid

/-- Where there is an order, no module is blocked. -/
lemma not_blocked_of_activationOrder (h : activationOrder ids index = .ok order)
    (id : ModuleId) : ¬ index.Blocked ids id := by
  rintro ⟨c, hcycle, -⟩
  have harranges := (first_of_activationOrder h).toArranges
  exact harranges.acyclic (fun _ _ => Index.Binds.mem_left) c hcycle

/-- **The modules named for want of an order** are the blocked ones, by rank. -/
theorem named_of_activationOrder
    (h : activationOrder ids index = .error (.cyclicOrdering left)) :
    left.Pairwise index.RanksBelow ∧ ∀ id, id ∈ left ↔ index.Blocked ids id := by
  obtain ⟨placed, hsteps, hstuck, horder⟩ := activationOrder_cases ids index
  rw [horder] at h
  split at h
  · cases h
  · obtain rfl : (ranking ids index).filter (fun id => id ∉ placed) = left :=
      ResolveError.cyclicOrdering.inj (Except.error.inj h)
    have hopen : Steps (Open ids (index.Binds ids)) [] placed :=
      hsteps.mono fun _ _ hlow => hlow.toOpen
    refine ⟨(pairwise_ranking ids index).filter _, fun id => ?_⟩
    rw [List.mem_filter, mem_ranking, decide_eq_true_iff]
    constructor
    · rintro ⟨hid, hfresh⟩
      exact (not_mem_iff_blocked hopen hstuck hid).mp hfresh
    · intro hblocked
      exact ⟨hblocked.mem, (not_mem_iff_blocked hopen hstuck hblocked.mem).mpr hblocked⟩

/-- Modules none of which is blocked among all have an order without the others. -/
lemma exists_activationOrder_of_not_blocked (hsub : ∀ id ∈ fewer, id ∈ ids)
    (hfree : ∀ id ∈ fewer, ¬ index.Blocked ids id) :
    ∃ order, activationOrder fewer index = .ok order := by
  refine exists_activationOrder fun id hcycle => ?_
  have hid : id ∈ fewer := (Index.blocked_of_cycle hcycle).mem
  have hmono : index.Binds fewer ≤ index.Binds ids := fun _ _ h => Index.Binds.mono hsub h
  have hall : TransGen (index.Binds ids) id id := TransGen.mono hmono id id hcycle
  exact hfree id hid (Index.blocked_of_cycle hall)

/-- What a failure names: the blocked modules, each once and by rank. They are two at least, and
the others have an order. -/
structure Blames (ids : List ModuleId) (index : Index) (left : List ModuleId) : Prop where
  mem_iff : ∀ id, id ∈ left ↔ index.Blocked ids id
  ranked : left.Pairwise index.RanksBelow
  nodup : left.Nodup
  two_le : 2 ≤ left.length
  others : ∃ order, activationOrder (ids.filter fun id => id ∉ left) index = .ok order

/-- **A failure names the blocked modules.** -/
theorem blames_of_activationOrder (h : activationOrder ids index = .error cause) :
    ∃ left, cause = .cyclicOrdering left ∧ Blames ids index left := by
  obtain ⟨left, rfl⟩ := exists_of_activationOrder_eq_error h
  obtain ⟨hranked, hmem⟩ := named_of_activationOrder h
  refine ⟨left, rfl, hmem, hranked, nodup_of_ranked hranked, ?_, ?_⟩
  · have hsome : ∃ id, index.Blocked ids id := by
      by_contra hnone
      obtain ⟨order, horder⟩ := exists_activationOrder_of_not_blocked (fun _ hid => hid)
        fun id _ hid => hnone ⟨id, hid⟩
      cases h.symm.trans horder
    obtain ⟨id, hid⟩ := hsome
    obtain ⟨a, b, ha, hb, hne⟩ := hid.exists_ne
    have hpair : [a, b].Nodup := by simp [hne]
    have hsub : [a, b] ⊆ left := by simp [hmem, ha, hb]
    exact (hpair.subperm hsub).length_le
  · refine exists_activationOrder_of_not_blocked (fun id hid => List.mem_of_mem_filter hid)
      fun id hid hblocked => ?_
    have hfresh : id ∉ left := of_decide_eq_true (List.mem_filter.mp hid).2
    exact hfresh ((hmem id).mpr hblocked)

/-- An index in which two cycles meet in `b`, and one of their modules must come before `e`. The
module `d` goes after all, `f` before all. -/
def Index.knotted : Index :=
  let assignments : List Assignment :=
    [⟨"a", "Before", "b"⟩, ⟨"b", "Before", "a,c"⟩, ⟨"c", "Before", "b,e"⟩,
      ⟨"c", "Priority", "-1"⟩, ⟨"d", "AfterAll", "true"⟩, ⟨"f", "BeforeAll", "true"⟩]
  assignments.foldl (fun index a => (index.insert a).2) .empty

theorem blames_knotted :
    activationOrder ["a", "b", "c", "d", "e", "f", "g"] .knotted =
        .error (.cyclicOrdering ["c", "a", "b", "d", "e"]) ∧
      Blames ["a", "b", "c", "d", "e", "f", "g"] .knotted ["c", "a", "b", "d", "e"] := by
  have h : activationOrder ["a", "b", "c", "d", "e", "f", "g"] .knotted =
      .error (.cyclicOrdering ["c", "a", "b", "d", "e"]) := by
    decide +kernel
  obtain ⟨left, hcause, hblames⟩ := blames_of_activationOrder h
  cases hcause
  exact ⟨h, hblames⟩

end Activation
