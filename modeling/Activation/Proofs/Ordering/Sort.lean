/-
What the activation order is.

* `KeyBelow`: an order by a key and, where keys are equal, by another order; ranks
  are one.
* `sortByKey_eq_insertionSort`, `pairwise_sortByKey`: the stable sort is that of the
  library, and what it sorts is ordered by key and within a key as it was before.
* `Index.Binds`: the constraints that count in ordering a list of ids.
* `mem_ranking`, `pairwise_ranking`, `eq_ranking`, `ranking_congr`: the ranking
  lists the distinct ids by rank, whatever the order and the repetitions of the
  list, and no other list does.
* `activationOrder_cases`: the activation order, or the ids that are left, in
  terms of the greedy placement of the ids under these constraints.
* `activationOrder_ok_iff_acyclic`: an order is found exactly when the
  constraints have no cycle, and then it is an arrangement of the ids.
* `activationOrder_first`: the order found is the least arrangement by rank.
-/
import Mathlib.Data.List.Sort
import Activation.Ordering.Sort
import Activation.Proofs.Ordering.Progress

namespace Activation

open Placement

/-! ### Orders by a key -/

section Key

variable {α κ : Type} [LinearOrder κ] {key : α → κ} {lt : α → α → Prop} {a b c : α}

/-- By a key first, and by another order where the keys are equal. -/
def KeyBelow (key : α → κ) (lt : α → α → Prop) (a b : α) : Prop :=
  key a < key b ∨ (key a = key b ∧ lt a b)

lemma KeyBelow.trans (hab : KeyBelow key lt a b) (htrans : ∀ a b c, lt a b → lt b c → lt a c)
    (hbc : KeyBelow key lt b c) : KeyBelow key lt a c := by
  rcases hab with hab | ⟨hab, hltab⟩ <;> rcases hbc with hbc | ⟨hbc, hltbc⟩
  · exact Or.inl (hab.trans hbc)
  · exact Or.inl (hbc ▸ hab)
  · exact Or.inl (hab ▸ hbc)
  · exact Or.inr ⟨hab.trans hbc, htrans a b c hltab hltbc⟩

lemma KeyBelow.key_le (h : KeyBelow key lt a b) : key a ≤ key b :=
  h.elim le_of_lt fun heq => le_of_eq heq.1

lemma not_keyBelow_self (hirrefl : ∀ a, ¬ lt a a) (a : α) : ¬ KeyBelow key lt a a := by
  rintro (h | ⟨-, h⟩)
  · exact lt_irrefl _ h
  · exact hirrefl a h

lemma eq_of_not_keyBelow (htotal : ∀ a b, ¬ lt a b → ¬ lt b a → a = b)
    (hab : ¬ KeyBelow key lt a b) (hba : ¬ KeyBelow key lt b a) : a = b := by
  obtain ⟨hab, hltab⟩ := not_or.mp hab
  obtain ⟨hba, hltba⟩ := not_or.mp hba
  have heq : key a = key b := le_antisymm (not_lt.mp hba) (not_lt.mp hab)
  exact htotal a b (fun h => hltab ⟨heq, h⟩) fun h => hltba ⟨heq.symm, h⟩

end Key

/-! ### Sorting by a key -/

section Sorting

variable {α κ : Type} [LinearOrder κ] {key : α → κ} {lt : α → α → Prop} {a b : α} {as : List α}

lemma insertByKey_eq_orderedInsert (key : α → κ) (a : α) (as : List α) :
    insertByKey key a as = as.orderedInsert (fun a b => key a ≤ key b) a := by
  induction as with
  | nil => rfl
  | cons b bs ih => rw [insertByKey, List.orderedInsert_cons, ih]

/-- The sort is the library's own, which is stable too. -/
lemma sortByKey_eq_insertionSort (key : α → κ) (as : List α) :
    sortByKey key as = as.insertionSort (fun a b => key a ≤ key b) := by
  induction as with
  | nil => rfl
  | cons a as ih => rw [List.insertionSort_cons, ← ih, ← insertByKey_eq_orderedInsert]; rfl

@[simp] lemma mem_insertByKey : b ∈ insertByKey key a as ↔ b = a ∨ b ∈ as := by
  rw [insertByKey_eq_orderedInsert, List.mem_orderedInsert]

@[simp] lemma mem_sortByKey : b ∈ sortByKey key as ↔ b ∈ as := by
  rw [sortByKey_eq_insertionSort, List.mem_insertionSort]

/-- An element goes behind those with a lower key, and before those of its own that it went before. -/
lemma pairwise_insertByKey (hbelow : ∀ b ∈ as, lt a b) (h : as.Pairwise (KeyBelow key lt)) :
    (insertByKey key a as).Pairwise (KeyBelow key lt) := by
  induction as with
  | nil => exact List.pairwise_singleton _ _
  | cons b bs ih =>
      obtain ⟨hb, hbs⟩ := List.pairwise_cons.mp h
      rw [insertByKey]
      split
      · rename_i hle
        refine List.pairwise_cons.mpr ⟨fun c hc => ?_, h⟩
        have hkey : key b ≤ key c := by
          rcases List.mem_cons.mp hc with rfl | hc
          · exact le_rfl
          · exact (hb c hc).key_le
        exact (lt_or_eq_of_le (hle.trans hkey)).imp_right fun heq => ⟨heq, hbelow c hc⟩
      · rename_i hgt
        refine List.pairwise_cons.mpr ⟨fun c hc => ?_, ih (fun c hc => hbelow c ?_) hbs⟩
        · rcases mem_insertByKey.mp hc with rfl | hc
          · exact Or.inl (not_le.mp hgt)
          · exact hb c hc
        · exact List.mem_cons_of_mem b hc

/-- **Two passes.** What was in an order before is sorted by the key and, where keys are equal, by
that order. -/
theorem pairwise_sortByKey (h : as.Pairwise lt) :
    (sortByKey key as).Pairwise (KeyBelow key lt) := by
  induction as with
  | nil => exact List.Pairwise.nil
  | cons a as ih =>
      obtain ⟨ha, has⟩ := List.pairwise_cons.mp h
      exact pairwise_insertByKey (fun b hb => ha b (mem_sortByKey.mp hb)) (ih has)

end Sorting

namespace Index

variable {index : Index} {ids : List ModuleId} {a b c : ModuleId}

/-- The constraints that count in ordering a list of ids: those between two different ids of it. -/
def Binds (index : Index) (ids : List ModuleId) (a b : ModuleId) : Prop :=
  a ∈ ids ∧ b ∈ ids ∧ index.Precedes a b

instance (index : Index) (ids : List ModuleId) : DecidableRel (index.Binds ids) := fun a b => by
  unfold Binds
  infer_instance

lemma Binds.mem_left (h : index.Binds ids a b) : a ∈ ids := h.1

lemma Binds.mem_right (h : index.Binds ids a b) : b ∈ ids := h.2.1

/-! ### Ranks -/

/-- Rank is by priority, and by id where priorities are equal. -/
lemma ranksBelow_eq (index : Index) :
    index.RanksBelow = KeyBelow (fun id => (index.factsOf id).priority) (· < ·) :=
  rfl

lemma RanksBelow.trans (hab : index.RanksBelow a b) (hbc : index.RanksBelow b c) :
    index.RanksBelow a c := by
  rw [ranksBelow_eq] at hab hbc ⊢
  exact hab.trans (fun _ _ _ => String.lt_trans) hbc

lemma not_ranksBelow_self (a : ModuleId) : ¬ index.RanksBelow a a := by
  rw [ranksBelow_eq]
  exact not_keyBelow_self String.lt_irrefl a

lemma RanksBelow.asymm (hab : index.RanksBelow a b) : ¬ index.RanksBelow b a := fun hba =>
  not_ranksBelow_self a (hab.trans hba)

lemma eq_of_not_ranksBelow (a b : ModuleId) (hab : ¬ index.RanksBelow a b)
    (hba : ¬ index.RanksBelow b a) : a = b := by
  rw [ranksBelow_eq] at hab hba
  exact eq_of_not_keyBelow IdSet.string_eq_of_not_lt hab hba

end Index

variable {index : Index} {ids : List ModuleId} {order : List ModuleId} {a b id : ModuleId}

@[simp] lemma mem_ranking : id ∈ ranking ids index ↔ id ∈ ids := by
  rw [ranking, mem_sortByKey, baseline, IdSet.mem_toList, IdSet.mem_ofList]

/-- The ids are listed by id before they are sorted by priority, and so come to be by rank. -/
lemma pairwise_ranking (ids : List ModuleId) (index : Index) :
    (ranking ids index).Pairwise index.RanksBelow := by
  rw [Index.ranksBelow_eq, ranking]
  exact pairwise_sortByKey (IdSet.ofList ids).increasing

/-- Ids by rank are listed once. -/
lemma nodup_of_ranked (h : order.Pairwise index.RanksBelow) : order.Nodup :=
  h.imp fun {a b} hab => by
    rintro rfl
    exact Index.not_ranksBelow_self a hab

lemma nodup_ranking (ids : List ModuleId) (index : Index) : (ranking ids index).Nodup :=
  nodup_of_ranked (pairwise_ranking ids index)

/-- The ranking is the only list of the distinct ids by rank. -/
lemma eq_ranking (h : order.Pairwise index.RanksBelow) (hmem : ∀ id, id ∈ order ↔ id ∈ ids) :
    order = ranking ids index := by
  have hperm : order.Perm (ranking ids index) :=
    (List.perm_ext_iff_of_nodup (nodup_of_ranked h) (nodup_ranking ids index)).mpr
      fun id => by rw [hmem, mem_ranking]
  exact hperm.eq_of_pairwise (fun a b _ _ hab hba => absurd hba hab.asymm) h
    (pairwise_ranking ids index)

/-- The ranking depends on the ids of the list alone. -/
lemma ranking_congr {same : List ModuleId} (hsame : ∀ id, id ∈ same ↔ id ∈ ids) (index : Index) :
    ranking same index = ranking ids index :=
  eq_ranking (pairwise_ranking same index) fun id => by rw [mem_ranking, hsame]

/-! ### From positions to ids -/

/-- The id at a position of the ranking. -/
def ranked (ids : List ModuleId) (index : Index) (i : Fin (ranking ids index).length) : ModuleId :=
  (ranking ids index).get i

variable {i j : Fin (ranking ids index).length}

/-- The row of a ranking holds each of its ids with its facts. -/
lemma get_row (i : Fin (ranking ids index).length) :
    (row (ranking ids index) index).get i = index.withFacts (ranked ids index i) :=
  List.getElem_map index.withFacts

lemma ranked_injective (ids : List ModuleId) (index : Index) :
    Function.Injective (ranked ids index) := fun _ _ hij =>
  Fin.ext ((nodup_ranking ids index).getElem_inj_iff.mp hij)

lemma mem_map_ranked {placed : List (Fin (ranking ids index).length)} :
    ranked ids index i ∈ placed.map (ranked ids index) ↔ i ∈ placed :=
  List.mem_map_of_injective (ranked_injective ids index)

lemma exists_ranked (index : Index) (h : id ∈ ids) : ∃ i, ranked ids index i = id := by
  obtain ⟨i, hi, heq⟩ := List.mem_iff_getElem.mp (mem_ranking.mpr h)
  exact ⟨⟨i, hi⟩, heq⟩

lemma ranked_mem (i : Fin (ranking ids index).length) : ranked ids index i ∈ ids :=
  mem_ranking.mp (List.getElem_mem i.isLt)

lemma map_ranked_finRange (ids : List ModuleId) (index : Index) :
    (List.finRange (ranking ids index).length).map (ranked ids index) = ranking ids index :=
  List.map_getElem_finRange (ranking ids index)

/-- A lower position has the lower rank. -/
lemma lt_iff_ranksBelow : i < j ↔ index.RanksBelow (ranked ids index i) (ranked ids index j) := by
  have hpairwise := List.pairwise_iff_getElem.mp (pairwise_ranking ids index)
  refine ⟨fun hij => hpairwise i j i.isLt j.isLt hij, fun hij => ?_⟩
  by_contra hnot
  rcases eq_or_lt_of_le (not_lt.mp hnot) with heq | hji
  · exact Index.not_ranksBelow_self _ (heq ▸ hij)
  · exact Index.not_ranksBelow_self _ (hij.trans (hpairwise j i j.isLt i.isLt hji))

/-- The edges of the graph are the constraints that count. -/
lemma mem_later_iff_binds :
    j ∈ (Graph.build (row (ranking ids index) index)).later i ↔
      index.Binds ids (ranked ids index i) (ranked ids index j) := by
  have hids : Graph.DistinctIds (row (ranking ids index) index) := fun i j hij => by
    rw [get_row, get_row] at hij
    exact ranked_injective ids index hij
  rw [Graph.mem_later_build hids, get_row, get_row, Index.Binds, Index.Precedes,
    (ranked_injective ids index).ne_iff]
  simp only [ranked_mem, true_and]

variable {placed : List (Fin (ranking ids index).length)}

/-- The open positions are those of the open ids. -/
lemma open_iff_open_ranked :
    Open (List.finRange _)
        (fun i j => j ∈ (Graph.build (row (ranking ids index) index)).later i) placed i ↔
      Open ids (index.Binds ids) (placed.map (ranked ids index)) (ranked ids index i) := by
  constructor
  · refine fun h => ⟨ranked_mem i, fun hi => h.fresh (mem_map_ranked.mp hi), fun b hb => ?_⟩
    obtain ⟨j, rfl⟩ := exists_ranked index hb.mem_left
    exact mem_map_ranked.mpr (h.ready j (mem_later_iff_binds.mpr hb))
  · refine fun h => ⟨List.mem_finRange i, fun hi => h.fresh (mem_map_ranked.mpr hi), fun j hj => ?_⟩
    exact mem_map_ranked.mp (h.ready _ (mem_later_iff_binds.mp hj))

/-- All ids are placed when all positions are. -/
lemma forall_mem_map_ranked :
    (∀ id ∈ ids, id ∈ placed.map (ranked ids index)) ↔ ∀ i, i ∈ placed := by
  constructor
  · exact fun h i => mem_map_ranked.mp (h _ (ranked_mem i))
  · intro h id hid
    obtain ⟨i, rfl⟩ := exists_ranked index hid
    exact mem_map_ranked.mpr (h i)

/-- The ids that are left stand at the positions that are left. -/
lemma filter_ranking :
    (ranking ids index).filter (fun id => id ∉ placed.map (ranked ids index)) =
      ((List.finRange _).filter fun i => i ∉ placed).map (ranked ids index) :=
  calc (ranking ids index).filter (fun id => id ∉ placed.map (ranked ids index))
      = ((List.finRange _).map (ranked ids index)).filter
          (fun id => id ∉ placed.map (ranked ids index)) := by rw [map_ranked_finRange]
    _ = ((List.finRange _).filter fun i => i ∉ placed).map (ranked ids index) := by
        simp only [List.filter_map, Function.comp_def, mem_map_ranked]

/-! ### The order -/

/-- The activation order is the order of the graph, its positions read as ids. -/
lemma activationOrder_eq (ids : List ModuleId) (index : Index) :
    activationOrder ids index =
      ((Graph.build (row (ranking ids index) index)).order.map
        (List.map (ranked ids index))).mapError
          fun left => .cyclicOrdering (left.map (ranked ids index)) := by
  have hids : ∀ positions : List (Fin (ranking ids index).length),
      positions.map (fun i => (row (ranking ids index) index)[i].1) =
        positions.map (ranked ids index) := fun positions =>
    List.map_congr_left fun i _ => congrArg Prod.fst (get_row i)
  simp only [activationOrder, hids]
  cases (Graph.build (row (ranking ids index) index)).order <;> rfl

/-- **The activation order**: the greedy placement of the ids goes on until it is stuck; it is the
order when it leaves nothing out, and the ids it leaves are named otherwise. -/
theorem activationOrder_cases (ids : List ModuleId) (index : Index) :
    ∃ placed, Steps (Lowest ids (index.Binds ids) index.RanksBelow) [] placed ∧
      Stuck ids (index.Binds ids) placed ∧
      activationOrder ids index = if ∀ id ∈ ids, id ∈ placed then .ok placed
        else .error (.cyclicOrdering ((ranking ids index).filter fun id => id ∉ placed)) := by
  obtain ⟨placed, hsteps, hstuck, horder⟩ :=
    Graph.order_cases (Graph.counted_build (row (ranking ids index) index))
  refine ⟨placed.map (ranked ids index), ?_, ?_, ?_⟩
  · refine hsteps.map fun placed i hi => ⟨open_iff_open_ranked.mp hi.toOpen, fun b hb => ?_⟩
    obtain ⟨j, rfl⟩ := exists_ranked index hb.mem
    exact fun hlt => hi.least j (open_iff_open_ranked.mpr hb) (lt_iff_ranksBelow.mpr hlt)
  · intro id hid
    obtain ⟨i, rfl⟩ := exists_ranked index hid.mem
    exact hstuck i (open_iff_open_ranked.mpr hid)
  · rw [activationOrder_eq, horder, filter_ranking]
    by_cases hall : ∀ i, i ∈ placed
    · rw [if_pos hall, if_pos (forall_mem_map_ranked.mpr hall)]
      rfl
    · rw [if_neg hall, if_neg (mt forall_mem_map_ranked.mp hall)]
      rfl

/-- Modules have no order only because of a cycle. -/
lemma exists_of_activationOrder_eq_error {cause : ResolveError}
    (h : activationOrder ids index = .error cause) : ∃ left, cause = .cyclicOrdering left := by
  obtain ⟨placed, -, -, horder⟩ := activationOrder_cases ids index
  rw [horder] at h
  split at h
  · cases h
  · exact ⟨_, (Except.error.inj h).symm⟩

/-- Any greedy placement that is stuck decides the activation order. -/
theorem activationOrder_of_stuck {placed : List ModuleId}
    (hsteps : Steps (Lowest ids (index.Binds ids) index.RanksBelow) [] placed)
    (hstuck : Stuck ids (index.Binds ids) placed) :
    activationOrder ids index = if ∀ id ∈ ids, id ∈ placed then .ok placed
      else .error (.cyclicOrdering ((ranking ids index).filter fun id => id ∉ placed)) := by
  obtain ⟨other, hother, hotherstuck, horder⟩ := activationOrder_cases ids index
  have heq : placed = other := hsteps.unique
    (fun _ _ _ ha hb => ha.unique Index.eq_of_not_ranksBelow hb)
    (fun a ha => hstuck a ha.toOpen) hother (fun a ha => hotherstuck a ha.toOpen)
  rw [horder, heq]

/-- The activation order depends on the ids of the list alone. -/
theorem activationOrder_congr {same : List ModuleId} (hsame : ∀ id, id ∈ same ↔ id ∈ ids)
    (index : Index) : activationOrder same index = activationOrder ids index := by
  obtain ⟨placed, hsteps, hstuck, horder⟩ := activationOrder_cases ids index
  have hbinds : index.Binds same = index.Binds ids := by
    ext a b
    simp only [Index.Binds, hsame]
  have hopen : ∀ placed a, Open same (index.Binds same) placed a ↔
      Open ids (index.Binds ids) placed a := fun _ _ => by rw [hbinds, open_congr hsame]
  have hlowest : Steps (Lowest same (index.Binds same) index.RanksBelow) [] placed :=
    hsteps.mono fun _ _ h =>
      ⟨(hopen _ _).mpr h.toOpen, fun b hb => h.least b ((hopen _ _).mp hb)⟩
  rw [activationOrder_of_stuck hlowest fun a ha => hstuck a ((hopen _ a).mp ha), horder,
    ranking_congr hsame]
  simp only [hsame]

/-- An order that is found is the least arrangement of the ids by rank. -/
lemma first_of_activationOrder (h : activationOrder ids index = .ok order) :
    First ids (index.Binds ids) index.RanksBelow order := by
  obtain ⟨placed, hsteps, -, horder⟩ := activationOrder_cases ids index
  rw [horder] at h
  split at h
  · rename_i hall
    obtain rfl : placed = order := Except.ok.inj h
    exact hsteps.first Index.eq_of_not_ranksBelow (fun _ _ => Index.Binds.mem_right) hall
  · cases h

/-- Constraints without a cycle leave nothing out. -/
lemma exists_activationOrder (h : ∀ id, ¬ Relation.TransGen (index.Binds ids) id id) :
    ∃ order, activationOrder ids index = .ok order := by
  obtain ⟨placed, -, hstuck, horder⟩ := activationOrder_cases ids index
  refine ⟨placed, horder.trans (if_pos fun id hid => ?_)⟩
  by_contra hfresh
  obtain ⟨cycle, hcycle, -⟩ :=
    exists_cycle_of_stuck (fun _ _ => Index.Binds.mem_left) hstuck hid hfresh
  exact h cycle hcycle

/-- **Soundness and completeness of the order**: one is found exactly when the constraints have no
cycle, and then it lists every id once and puts each before those it must precede. -/
theorem activationOrder_ok_iff_acyclic (ids : List ModuleId) (index : Index) :
    ((∃ order, activationOrder ids index = .ok order) ↔
        ∀ id, ¬ Relation.TransGen (index.Binds ids) id id) ∧
      ∀ order, activationOrder ids index = .ok order →
        Arranges ids (index.Binds ids) order := by
  refine ⟨⟨?_, exists_activationOrder⟩, fun order h => (first_of_activationOrder h).toArranges⟩
  rintro ⟨order, h⟩
  exact (first_of_activationOrder h).toArranges.acyclic fun _ _ => Index.Binds.mem_left

/-- **The order found is the least arrangement by rank**, the only one, and the same for every list
of the same ids. -/
theorem activationOrder_first (h : activationOrder ids index = .ok order) :
    (∀ other, First ids (index.Binds ids) index.RanksBelow other ↔ other = order) ∧
      ∀ same : List ModuleId, (∀ id, id ∈ same ↔ id ∈ ids) →
        activationOrder same index = .ok order := by
  have hfirst := first_of_activationOrder h
  refine ⟨fun other => ⟨fun hother => ?_, fun heq => heq ▸ hfirst⟩, fun same hsame => ?_⟩
  · exact hfirst.unique (fun a b hab hba => Index.not_ranksBelow_self a (hab.trans hba)) hother
  · rw [activationOrder_congr hsame index, h]

/-- An index in which `a` has the lowest priority and must follow `b`, which has the highest. -/
def Index.inverted : Index :=
  let assignments : List Assignment :=
    [⟨"a", "Priority", "-1"⟩, ⟨"a", "After", "b,a"⟩, ⟨"b", "Priority", "5"⟩]
  assignments.foldl (fun index a => (index.insert a).2) .empty

theorem activationOrder_first_inverted :
    activationOrder ["b", "a", "c", "a"] .inverted = .ok ["c", "b", "a"] ∧
      (∀ other, First ["b", "a", "c", "a"] (Index.inverted.Binds ["b", "a", "c", "a"])
        Index.inverted.RanksBelow other ↔ other = ["c", "b", "a"]) ∧
      ∀ same : List ModuleId, (∀ id, id ∈ same ↔ id ∈ ["b", "a", "c", "a"]) →
        activationOrder same .inverted = .ok ["c", "b", "a"] :=
  have h : activationOrder ["b", "a", "c", "a"] .inverted = .ok ["c", "b", "a"] := by
    decide +kernel
  ⟨h, activationOrder_first h⟩

end Activation
