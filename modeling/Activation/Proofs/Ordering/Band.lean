/-
The order where no module names another.

Then only the flags for going before or after all constrain the order. They deal
the modules out into three bands, which follow each other, and within a band rank
decides. The exception is a module with both flags next to one with neither: each
of the two must come before the other.

* `Index.band`, `Index.BandsBelow`: the band of a module, and the order by band and
  rank.
* `Index.Unreferenced`, `Index.Clashing`: no id of a list names another one of it;
  the list holds a module with both flags and one with neither.
* `Index.flanks_of_band_lt`, `Index.band_lt_of_flanks`: flags put one module before
  another when its band is the lower one, and otherwise only where modules clash.
* `activationOrder_of_not_clashing`: without a clash the order is the one by band and
  rank.
* `named_of_clashing`: a clash leaves all modules but those of the first band without
  an order.
* `activationOrder_of_unreferenced`: the two together.
-/
import Activation.Proofs.Ordering.Chains
import Activation.Proofs.Ordering.Cycle

namespace Activation

open Placement Relation

/-- The band of a module: modules that go before all and not after all come first, modules that go
after all and not before all come last, and the others come between. -/
def OrderingFacts.band (facts : OrderingFacts) : ℕ :=
  if facts.beforeAll = true ∧ facts.afterAll = false then 0
  else if facts.beforeAll = false ∧ facts.afterAll = true then 2
  else 1

namespace Index

variable {index : Index} {ids : List ModuleId} {a b c id : ModuleId}

/-- The band of a module. -/
def band (index : Index) (id : ModuleId) : ℕ := (index.factsOf id).band

/-- Module `a` is in a lower band, or in the same band and of lower rank. -/
def BandsBelow (index : Index) (a b : ModuleId) : Prop :=
  index.band a < index.band b ∨ (index.band a = index.band b ∧ index.RanksBelow a b)

instance (index : Index) : DecidableRel index.BandsBelow := fun a b => by
  unfold BandsBelow
  infer_instance

/-- No id of the list names another one of it. -/
def Unreferenced (index : Index) (ids : List ModuleId) : Prop :=
  ∀ a ∈ ids, ∀ b ∈ ids, a ≠ b → ¬ index.Names a b

instance (index : Index) : DecidablePred index.Unreferenced := fun ids => by
  unfold Unreferenced
  infer_instance

/-- Among the ids are a module with both flags and one with neither. -/
def Clashing (index : Index) (ids : List ModuleId) : Prop :=
  (∃ a ∈ ids, (index.factsOf a).beforeAll = true ∧ (index.factsOf a).afterAll = true) ∧
    ∃ b ∈ ids, (index.factsOf b).beforeAll = false ∧ (index.factsOf b).afterAll = false

instance (index : Index) : DecidablePred index.Clashing := fun ids => by
  unfold Clashing
  infer_instance

/-! ### The order by band and rank -/

lemma bandsBelow_eq (index : Index) :
    index.BandsBelow = KeyBelow index.band index.RanksBelow :=
  rfl

lemma BandsBelow.trans (hab : index.BandsBelow a b) (hbc : index.BandsBelow b c) :
    index.BandsBelow a c := by
  rw [bandsBelow_eq] at hab hbc ⊢
  exact hab.trans (fun _ _ _ => RanksBelow.trans) hbc

lemma BandsBelow.asymm (hab : index.BandsBelow a b) : ¬ index.BandsBelow b a := by
  intro hba
  have hself : index.BandsBelow a a := hab.trans hba
  rw [bandsBelow_eq] at hself
  exact not_keyBelow_self not_ranksBelow_self a hself

/-! ### Flags and bands -/

/-- A module of the first band goes before all and not after all. -/
lemma band_eq_zero_iff : index.band a = 0 ↔
    (index.factsOf a).beforeAll = true ∧ (index.factsOf a).afterAll = false := by
  rw [band, OrderingFacts.band]
  split_ifs <;> simp_all

/-- Flags put the modules of a lower band before those of a higher one. -/
lemma flanks_of_band_lt (h : index.band a < index.band b) : index.Flanks a b := by
  revert h
  rw [band, band, OrderingFacts.band, OrderingFacts.band, Flanks]
  cases (index.factsOf a).beforeAll <;> cases (index.factsOf a).afterAll <;>
    cases (index.factsOf b).beforeAll <;> cases (index.factsOf b).afterAll <;> decide

/-- Flags put no module before one of its own band or a lower one, unless one of the two has both
flags and the other has neither. -/
lemma band_lt_of_flanks (h : index.Flanks a b) (hclear : ¬ index.Clashing ids) (ha : a ∈ ids)
    (hb : b ∈ ids) : index.band a < index.band b := by
  have hab : ¬ (((index.factsOf a).beforeAll = true ∧ (index.factsOf a).afterAll = true) ∧
      ((index.factsOf b).beforeAll = false ∧ (index.factsOf b).afterAll = false)) :=
    fun hclash => hclear ⟨⟨a, ha, hclash.1⟩, ⟨b, hb, hclash.2⟩⟩
  have hba : ¬ (((index.factsOf b).beforeAll = true ∧ (index.factsOf b).afterAll = true) ∧
      ((index.factsOf a).beforeAll = false ∧ (index.factsOf a).afterAll = false)) :=
    fun hclash => hclear ⟨⟨b, hb, hclash.1⟩, ⟨a, ha, hclash.2⟩⟩
  revert h hab hba
  rw [band, band, OrderingFacts.band, OrderingFacts.band, Flanks]
  cases (index.factsOf a).beforeAll <;> cases (index.factsOf a).afterAll <;>
    cases (index.factsOf b).beforeAll <;> cases (index.factsOf b).afterAll <;> decide

/-- Where no id names another, only flags make constraints. -/
lemma Unreferenced.binds_iff (h : index.Unreferenced ids) :
    index.Binds ids a b ↔ a ∈ ids ∧ b ∈ ids ∧ a ≠ b ∧ index.Flanks a b := by
  rw [Index.binds_iff]
  constructor
  · rintro ⟨ha, hb, hne, hnames | hflanks⟩
    · exact absurd hnames (h a ha b hb hne)
    · exact ⟨ha, hb, hne, hflanks⟩
  · rintro ⟨ha, hb, hne, hflanks⟩
    exact ⟨ha, hb, hne, Or.inr hflanks⟩

/-- Flags put nothing before a module of the first band. -/
lemma Flanks.band_ne_zero (h : index.Flanks a b) : index.band b ≠ 0 := by
  intro hzero
  obtain ⟨hbefore, hafter⟩ := band_eq_zero_iff.mp hzero
  rcases h with ⟨-, hnot⟩ | ⟨hyes, -⟩
  · exact Bool.noConfusion (hbefore.symm.trans hnot)
  · exact Bool.noConfusion (hyes.symm.trans hafter)

/-! ### Clashes -/

/-- Modules that flags put behind a blocked one are blocked. -/
lemma Unreferenced.blocked_of_flanks (h : index.Unreferenced ids) (ha : index.Blocked ids a)
    (hb : b ∈ ids) (hflanks : index.Flanks a b) : index.Blocked ids b := by
  by_cases heq : a = b
  · exact heq ▸ ha
  · exact ha.tail (h.binds_iff.mpr ⟨ha.mem, hb, heq, hflanks⟩)

/-- **A clash blocks all modules** but those of the first band. -/
lemma Unreferenced.blocked_iff (h : index.Unreferenced ids) (hclash : index.Clashing ids) :
    index.Blocked ids id ↔ id ∈ ids ∧ index.band id ≠ 0 := by
  obtain ⟨⟨both, hboth, hbefore, hafter⟩, neither, hneither, hnotbefore, hnotafter⟩ := hclash
  have hne : both ≠ neither := by
    rintro rfl
    exact Bool.noConfusion (hbefore.symm.trans hnotbefore)
  have hforth : index.Binds ids both neither :=
    h.binds_iff.mpr ⟨hboth, hneither, hne, Or.inl ⟨hbefore, hnotbefore⟩⟩
  have hback : index.Binds ids neither both :=
    h.binds_iff.mpr ⟨hneither, hboth, hne.symm, Or.inr ⟨hafter, hnotafter⟩⟩
  have hblocked : index.Blocked ids both := blocked_of_cycle (.tail (.single hforth) hback)
  constructor
  · intro hid
    obtain ⟨a, ha⟩ := hid.exists_binds
    obtain ⟨-, -, -, hflanks⟩ := h.binds_iff.mp ha
    exact ⟨hid.mem, hflanks.band_ne_zero⟩
  · rintro ⟨hid, hband⟩
    cases hidafter : (index.factsOf id).afterAll with
    | true => exact h.blocked_of_flanks (hblocked.tail hforth) hid (Or.inr ⟨hidafter, hnotafter⟩)
    | false =>
        have hidbefore : (index.factsOf id).beforeAll = false := by
          by_contra hyes
          exact hband (band_eq_zero_iff.mpr ⟨Bool.eq_true_of_not_eq_false hyes, hidafter⟩)
        exact h.blocked_of_flanks hblocked hid (Or.inl ⟨hbefore, hidbefore⟩)

end Index

variable {index : Index} {ids : List ModuleId}

/-- **A clash leaves no order**, and all modules but those of the first band are named. -/
lemma named_of_clashing (h : index.Unreferenced ids) (hclash : index.Clashing ids) :
    ∃ left, activationOrder ids index = .error (.cyclicOrdering left) ∧
      left.Pairwise index.RanksBelow ∧ ∀ id, id ∈ left ↔ id ∈ ids ∧ index.band id ≠ 0 := by
  cases horder : activationOrder ids index with
  | ok order =>
      have hsome : ∃ id ∈ ids, index.band id ≠ 0 := by
        obtain ⟨-, neither, hneither, hnotbefore, -⟩ := hclash
        refine ⟨neither, hneither, fun hzero => ?_⟩
        exact Bool.noConfusion ((Index.band_eq_zero_iff.mp hzero).1.symm.trans hnotbefore)
      obtain ⟨id, hid, hband⟩ := hsome
      exact absurd ((h.blocked_iff hclash).mpr ⟨hid, hband⟩)
        (not_blocked_of_activationOrder horder id)
  | error cause =>
      obtain ⟨left, rfl⟩ := exists_of_activationOrder_eq_error horder
      obtain ⟨hranked, hmem⟩ := named_of_activationOrder horder
      exact ⟨left, rfl, hranked, fun id => by rw [hmem, h.blocked_iff hclash]⟩

/-- **Without a clash the order is the one by band and rank.** -/
lemma activationOrder_of_not_clashing (h : index.Unreferenced ids)
    (hclear : ¬ index.Clashing ids) :
    ∃ order, activationOrder ids index = .ok order ∧ order.Pairwise index.BandsBelow ∧
      ∀ id, id ∈ order ↔ id ∈ ids := by
  -- one more stable pass behind the two of the ranking
  have hmem : ∀ id, id ∈ sortByKey index.band (ranking ids index) ↔ id ∈ ids := fun id => by
    rw [mem_sortByKey, mem_ranking]
  have hpairwise : (sortByKey index.band (ranking ids index)).Pairwise index.BandsBelow :=
    pairwise_sortByKey (pairwise_ranking ids index)
  refine ⟨_, ?_, hpairwise, hmem⟩
  have hbinds : ∀ a b, index.Binds ids a b → index.BandsBelow a b := by
    intro a b hab
    obtain ⟨ha, hb, -, hflanks⟩ := h.binds_iff.mp hab
    exact Or.inl (Index.band_lt_of_flanks hflanks hclear ha hb)
  have hbands : ∀ a ∈ ids, ∀ b ∈ ids, index.BandsBelow a b →
      index.Binds ids a b ∨ index.RanksBelow a b := by
    rintro a ha b hb (hlt | ⟨-, hrank⟩)
    · have hne : a ≠ b := fun heq => lt_irrefl _ (heq ▸ hlt)
      exact Or.inl (h.binds_iff.mpr ⟨ha, hb, hne, Index.flanks_of_band_lt hlt⟩)
    · exact Or.inr hrank
  have hsteps := Steps.of_pairwise hbinds hbands (fun _ _ => Index.BandsBelow.asymm)
    (fun _ _ => Index.RanksBelow.asymm) (fun _ _ => Index.Binds.mem_left) hpairwise hmem
  rw [activationOrder_of_stuck hsteps fun a ha => ha.fresh ((hmem a).mpr ha.mem), if_pos]
  exact fun id hid => (hmem id).mpr hid

/-- **The order where no id names another**: there is none if a module with both flags meets one
with neither, and then all but the modules of the first band are named, by rank; otherwise it is the
order by band and rank. -/
theorem activationOrder_of_unreferenced (h : index.Unreferenced ids) :
    (index.Clashing ids → ∃ left, activationOrder ids index = .error (.cyclicOrdering left) ∧
        left.Pairwise index.RanksBelow ∧ ∀ id, id ∈ left ↔ id ∈ ids ∧ index.band id ≠ 0) ∧
      (¬ index.Clashing ids → ∃ order, activationOrder ids index = .ok order ∧
        order.Pairwise index.BandsBelow ∧ ∀ id, id ∈ order ↔ id ∈ ids) :=
  ⟨named_of_clashing h, activationOrder_of_not_clashing h⟩

/-- An index in which `b` and `c` go before all, `a` after all and `d` both; `e` has no flag, and
names itself and a module that is not there. By priority `a` would come first and `b` last. -/
def Index.banded : Index :=
  let assignments : List Assignment :=
    [⟨"a", "AfterAll", "true"⟩, ⟨"a", "Priority", "-9"⟩, ⟨"b", "BeforeAll", "true"⟩,
      ⟨"b", "Priority", "5"⟩, ⟨"c", "BeforeAll", "true"⟩, ⟨"d", "BeforeAll", "true"⟩,
      ⟨"d", "AfterAll", "true"⟩, ⟨"e", "Before", "e,z"⟩]
  assignments.foldl (fun index a => (index.insert a).2) .empty

theorem activationOrder_of_unreferenced_banded :
    Index.banded.Unreferenced ["a", "b", "c", "d", "e"] ∧
      Index.banded.Clashing ["a", "b", "c", "d", "e"] ∧
      activationOrder ["a", "b", "c", "d", "e"] .banded =
        .error (.cyclicOrdering ["a", "d", "e"]) ∧
      (∀ id, id ∈ ["a", "d", "e"] ↔
        id ∈ ["a", "b", "c", "d", "e"] ∧ Index.banded.band id ≠ 0) ∧
      Index.banded.Unreferenced ["a", "b", "c", "d"] ∧
      ¬ Index.banded.Clashing ["a", "b", "c", "d"] ∧
      activationOrder ["a", "b", "c", "d"] .banded = .ok ["c", "b", "d", "a"] ∧
      ["c", "b", "d", "a"].Pairwise Index.banded.BandsBelow := by
  have hfive : Index.banded.Unreferenced ["a", "b", "c", "d", "e"] := by decide +kernel
  have hclash : Index.banded.Clashing ["a", "b", "c", "d", "e"] := by decide +kernel
  have hfour : Index.banded.Unreferenced ["a", "b", "c", "d"] := by decide +kernel
  have hclear : ¬ Index.banded.Clashing ["a", "b", "c", "d"] := by decide +kernel
  have hnamed : activationOrder ["a", "b", "c", "d", "e"] .banded =
      .error (.cyclicOrdering ["a", "d", "e"]) := by
    decide +kernel
  have hordered : activationOrder ["a", "b", "c", "d"] .banded = .ok ["c", "b", "d", "a"] := by
    decide +kernel
  obtain ⟨left, hleft, -, hmem⟩ := (activationOrder_of_unreferenced hfive).1 hclash
  obtain ⟨order, horder, hpairwise, -⟩ := (activationOrder_of_unreferenced hfour).2 hclear
  cases hnamed.symm.trans hleft
  cases hordered.symm.trans horder
  exact ⟨hfive, hclash, hnamed, hmem, hfour, hclear, hordered, hpairwise⟩

end Activation
