/-
Placing the modules of a graph.

A placement takes a ready module, and then releases its successors one after the
other. What holds between placements and between releases is said of the graph as it
was before the loop: its edges, and which of its modules are placed by now.

* `Graph.awaited`: the predecessors of a position that are not placed.
* `Progress.Moment`: the states that the loop goes through, with the successors still to be
  released and a record of the modules made ready.
* `Progress.InStep`: the in-degrees count what is awaited, and the ready modules are those that
  await nothing; `inStep_start`, `InStep.place` and `InStep.release` keep it so.
* `Moment.inStep`: so it holds at every moment.
* `InStep.open_iff`: between placements the ready positions are the open ones.
* `Moment.greedy`: a run is a greedy placement.
* `Graph.order_cases`: the order of a graph, or the positions left by it, in
  terms of the stuck greedy placement.
-/
import Activation.Proofs.Ordering.Graph
import Activation.Proofs.Placement

namespace Activation

namespace Graph

variable {n : ℕ} {graph : Graph n} {placed : List (Fin n)} {source target : Fin n}

/-- The positions with an edge to a position that are not placed. -/
def awaited (graph : Graph n) (placed : List (Fin n)) (target : Fin n) : Finset (Fin n) :=
  graph.predecessors target \ placed.toFinset

lemma mem_awaited : source ∈ graph.awaited placed target ↔
    target ∈ graph.later source ∧ source ∉ placed := by
  rw [awaited, Finset.mem_sdiff, mem_predecessors, List.mem_toFinset]

@[simp] lemma awaited_nil (target : Fin n) : graph.awaited [] target = graph.predecessors target := by
  simp [awaited]

/-- A position that is placed is awaited no longer. -/
lemma awaited_concat (placed : List (Fin n)) (next target : Fin n) :
    graph.awaited (placed ++ [next]) target = (graph.awaited placed target).erase next := by
  ext source
  rw [mem_awaited, Finset.mem_erase, mem_awaited, List.mem_append, List.mem_singleton, not_or]
  tauto

/-- Each successor of a position awaits it until it is placed. -/
lemma card_awaited (h : (graph.later source).Nodup) (hfresh : source ∉ placed) (target : Fin n) :
    (graph.awaited placed target).card =
      (graph.awaited (placed ++ [source]) target).card + (graph.later source).count target := by
  rw [awaited_concat, h.count]
  by_cases htarget : target ∈ graph.later source
  · rw [if_pos htarget, Finset.card_erase_add_one (mem_awaited.mpr ⟨htarget, hfresh⟩)]
  · rw [if_neg htarget, Finset.erase_eq_of_notMem fun hmem => htarget (mem_awaited.mp hmem).1,
      Nat.add_zero]

end Graph

namespace Progress

open Placement

variable {n : ℕ} {graph : Graph n} {progress : Progress n}
  {targets pending readied ready : List (Fin n)} {next target i j : Fin n}

/-! ### Single steps -/

lemma placed_foldl_release : (targets.foldl release progress).placed = progress.placed := by
  induction targets generalizing progress with
  | nil => rfl
  | cons target targets ih => rw [List.foldl_cons, ih]; rfl

lemma degree_release (target : Fin n) :
    (progress.release target).graph.degree j =
      progress.graph.degree j - if j = target then 1 else 0 := by
  have hset : (progress.release target).graph.degree j =
      (progress.graph.inDegree.set target (progress.graph.degree target - 1) target.isLt).get j :=
    rfl
  rw [hset, Graph.get_set]
  by_cases hj : j = target
  · rw [if_pos hj, if_pos hj, hj]
  · rw [if_neg hj, if_neg hj]
    rfl

lemma mem_ready_release (target : Fin n) :
    i ∈ (progress.release target).ready ↔
      i ∈ progress.ready ∨ (i = target ∧ progress.graph.degree i - 1 = 0) := by
  simp only [release]
  split
  · rename_i hzero
    rw [Graph.mem_insert, or_comm]
    refine or_congr Iff.rfl ⟨fun hi => ⟨hi, hi ▸ hzero⟩, fun hi => hi.1⟩
  · rename_i hpos
    refine ⟨Or.inl, ?_⟩
    rintro (hi | ⟨rfl, hzero⟩)
    · exact hi
    · exact absurd hzero hpos

lemma increasing_release (h : progress.ready.Pairwise (· < ·)) (target : Fin n) :
    (progress.release target).ready.Pairwise (· < ·) := by
  simp only [release]
  split
  · exact Graph.pairwise_insert target h
  · exact h

/-- The state with `next` placed and its successors released. -/
def placing (progress : Progress n) (next : Fin n) (ready : List (Fin n)) : Progress n :=
  (progress.graph.later next).foldl release (progress.place next ready)

lemma step_of_ready (hready : progress.ready = next :: ready) :
    progress.step = some (progress.placing next ready) := by
  simp only [step, hready]
  rfl

lemma placed_placing : (progress.placing next ready).placed = progress.placed ++ [next] :=
  placed_foldl_release

/-! ### Moments of the loop -/

/-- A moment of the loop over a graph: its state, the successors of the module placed last that are
not released yet, and the modules made ready so far, as often as they were. -/
inductive Moment (graph : Graph n) : Progress n → List (Fin n) → List (Fin n) → Prop
  /-- Before the first placement the modules without predecessors are ready. -/
  | start : Moment graph (start graph) [] (start graph).ready
  /-- When all successors are released, the next module is placed. -/
  | place {progress : Progress n} {next : Fin n} {ready readied : List (Fin n)}
      (h : Moment graph progress [] readied) (hready : progress.ready = next :: ready) :
      Moment graph (progress.place next ready) (progress.graph.later next) readied
  /-- A successor whose in-degree comes down to zero is made ready. -/
  | release {progress : Progress n} {target : Fin n} {pending readied : List (Fin n)}
      (h : Moment graph progress (target :: pending) readied) :
      Moment graph (progress.release target) pending
        (if progress.graph.degree target - 1 = 0 then readied ++ [target] else readied)

/-- The state of the loop is in step with the graph it started from. -/
structure InStep (graph : Graph n) (progress : Progress n) (pending readied : List (Fin n)) :
    Prop where
  /-- The edges from modules that are not placed are those of the graph. -/
  later : ∀ i, i ∉ progress.placed → progress.graph.later i = graph.later i
  /-- An in-degree counts the predecessors that are not placed, and the last one until it is
  released. -/
  degree : ∀ i, progress.graph.degree i = (graph.awaited progress.placed i).card + pending.count i
  settled : ∀ i ∈ progress.placed, progress.graph.degree i = 0
  mem_ready : ∀ i, i ∈ progress.ready ↔ i ∉ progress.placed ∧ progress.graph.degree i = 0
  increasing : progress.ready.Pairwise (· < ·)
  nodup : progress.placed.Nodup
  /-- What was made ready is placed or ready. -/
  perm : readied.Perm (progress.placed ++ progress.ready)

namespace InStep

/-- The in-degree of a successor that is not released yet is positive. -/
lemma degree_pos (h : InStep graph progress pending readied) (htarget : target ∈ pending) :
    0 < progress.graph.degree target := by
  have hcount : 0 < pending.count target := List.count_pos_iff.mpr htarget
  rw [h.degree]
  omega

/-- Such a successor is neither placed nor ready. -/
lemma fresh (h : InStep graph progress pending readied) (htarget : target ∈ pending) :
    target ∉ progress.placed ∧ target ∉ progress.ready := by
  have hpos := h.degree_pos htarget
  refine ⟨fun hplaced => ?_, fun hready => ?_⟩
  · rw [h.settled target hplaced] at hpos
    exact lt_irrefl 0 hpos
  · rw [((h.mem_ready target).mp hready).2] at hpos
    exact lt_irrefl 0 hpos

/-- No module was made ready twice. -/
lemma readied_nodup (h : InStep graph progress pending readied) : readied.Nodup := by
  have hready : progress.ready.Nodup := h.increasing.imp fun hlt => ne_of_lt hlt
  refine h.perm.nodup_iff.mpr (List.nodup_append'.mpr ⟨h.nodup, hready, fun i hplaced hi => ?_⟩)
  exact ((h.mem_ready i).mp hi).1 hplaced

/-- There is no room for more modules than there are. -/
lemma length_le (h : InStep graph progress pending readied) :
    progress.placed.length + progress.ready.length ≤ n := by
  have hcard := h.readied_nodup.length_le_card
  rwa [h.perm.length_eq, List.length_append, Fintype.card_fin] at hcard

end InStep

/-- The loop starts in step. -/
lemma inStep_start (h : graph.Counted) : InStep graph (start graph) [] (start graph).ready where
  later i _ := rfl
  degree i := by
    have hplaced : (start graph).placed = [] := rfl
    rw [hplaced, Graph.awaited_nil, List.count_nil, Nat.add_zero]
    exact h.degree i
  settled i hi := absurd hi List.not_mem_nil
  mem_ready i := by
    have hdegree : graph.degree i = graph.inDegree[i] := rfl
    rw [start, hdegree]
    simp
  increasing := (List.pairwise_lt_finRange n).filter _
  nodup := List.nodup_nil
  perm := .rfl

/-- **A placement** keeps in step: the successors of the placed module are the ones whose in-degrees
are to come down. -/
lemma InStep.place (hcounted : graph.Counted) (h : InStep graph progress [] readied)
    (hready : progress.ready = next :: ready) :
    InStep graph (progress.place next ready) (progress.graph.later next) readied := by
  have hfirst : next ∈ progress.ready := hready ▸ List.mem_cons_self
  obtain ⟨hfresh, hzero⟩ := (h.mem_ready next).mp hfirst
  obtain ⟨hlow, hincreasing⟩ := List.pairwise_cons.mp (hready ▸ h.increasing)
  have hplaced : (progress.place next ready).placed = progress.placed ++ [next] := rfl
  have hsame : ∀ i, (progress.place next ready).graph.degree i = progress.graph.degree i :=
    fun _ => rfl
  refine ⟨fun i hi => ?_, fun i => ?_, fun i hi => ?_, fun i => ?_, hincreasing, ?_, ?_⟩
  · rw [hplaced, List.mem_append, List.mem_singleton, not_or] at hi
    have hset : (progress.place next ready).graph.later i =
        if i = next then [] else progress.graph.later i := Graph.get_set _ next i []
    rw [hset, if_neg hi.2, h.later i hi.1]
  · have hnodup : (graph.later next).Nodup :=
      (hcounted.increasing next).imp fun hlt => ne_of_lt hlt
    rw [hsame, hplaced, h.degree, List.count_nil, Nat.add_zero, h.later next hfresh,
      Graph.card_awaited hnodup hfresh]
  · rw [hsame]
    rw [hplaced, List.mem_append, List.mem_singleton] at hi
    rcases hi with hi | rfl
    · exact h.settled i hi
    · exact hzero
  · rw [hsame, hplaced, List.mem_append, List.mem_singleton, not_or]
    have hmem : i ∈ next :: ready ↔ i ∉ progress.placed ∧ progress.graph.degree i = 0 :=
      hready ▸ h.mem_ready i
    constructor
    · intro hi
      obtain ⟨hold, hdegree⟩ := hmem.mp (List.mem_cons_of_mem next hi)
      exact ⟨⟨hold, (ne_of_lt (hlow i hi)).symm⟩, hdegree⟩
    · rintro ⟨⟨hold, hne⟩, hdegree⟩
      exact (List.mem_cons.mp (hmem.mpr ⟨hold, hdegree⟩)).resolve_left hne
  · rw [hplaced, ← List.concat_eq_append]
    exact h.nodup.concat hfresh
  · have hperm := h.perm
    rwa [hready, List.append_cons] at hperm

/-- **A release** keeps in step: the in-degree comes down by the edge that is gone. -/
lemma InStep.release (h : InStep graph progress (target :: pending) readied) :
    InStep graph (progress.release target) pending
      (if progress.graph.degree target - 1 = 0 then readied ++ [target] else readied) := by
  have hpos := h.degree_pos (List.mem_cons_self (a := target))
  obtain ⟨hfresh, hunready⟩ := h.fresh (List.mem_cons_self (a := target))
  have hplaced : (progress.release target).placed = progress.placed := rfl
  have hincreasing := increasing_release h.increasing target
  refine ⟨fun i hi => h.later i hi, fun i => ?_, fun i hi => ?_, fun i => ?_, hincreasing, h.nodup, ?_⟩
  · have hdegree := h.degree i
    rw [List.count_cons] at hdegree
    rw [degree_release, hplaced, hdegree]
    by_cases hi : i = target
    · subst hi
      simp
    · simp [hi, Ne.symm hi]
  · rw [degree_release, h.settled i hi, Nat.zero_sub]
  · rw [mem_ready_release, degree_release, hplaced, h.mem_ready]
    by_cases hi : i = target
    · subst hi
      rw [if_pos rfl]
      refine ⟨?_, fun hi => .inr ⟨rfl, hi.2⟩⟩
      rintro (⟨-, hzero⟩ | ⟨-, hzero⟩)
      · exact absurd hzero hpos.ne'
      · exact ⟨hfresh, hzero⟩
    · simp [hi]
  · have hready : (progress.release target).ready = if progress.graph.degree target - 1 = 0 then
        Increasing.insert (· < ·) target progress.ready else progress.ready := rfl
    rw [hplaced, hready]
    by_cases hzero : progress.graph.degree target - 1 = 0
    · rw [if_pos hzero, if_pos hzero]
      have hmore : (readied ++ [target]).Perm (target :: (progress.placed ++ progress.ready)) :=
        (List.perm_append_singleton target readied).trans (h.perm.cons target)
      have hinsert := Graph.perm_insert h.increasing hunready
      exact hmore.trans (List.perm_middle.symm.trans (hinsert.symm.append_left progress.placed))
    · rw [if_neg hzero, if_neg hzero]
      exact h.perm

/-- **The loop is in step** at every moment. -/
theorem Moment.inStep (hcounted : graph.Counted) (h : Moment graph progress pending readied) :
    InStep graph progress pending readied := by
  induction h with
  | start => exact inStep_start hcounted
  | place _ hready ih => exact ih.place hcounted hready
  | release _ ih => exact ih.release

/-- Successors released in turn. -/
lemma Moment.foldl_release
    (h : Moment graph progress (targets ++ pending) readied) :
    ∃ readied', Moment graph (targets.foldl Progress.release progress) pending readied' := by
  induction targets generalizing progress readied with
  | nil => exact ⟨readied, h⟩
  | cons target targets ih => exact ih h.release

/-- A placement with its releases leads from a moment to a moment. -/
lemma Moment.placing (h : Moment graph progress [] readied)
    (hready : progress.ready = next :: ready) :
    ∃ readied', Moment graph (progress.placing next ready) [] readied' := by
  have hplace := h.place hready
  rw [← List.append_nil (progress.graph.later next)] at hplace
  exact hplace.foldl_release

/-! ### Between placements -/

namespace InStep

/-- No edge is left to a position exactly when everything before it is placed. -/
lemma degree_eq_zero (h : InStep graph progress [] readied) (i : Fin n) :
    progress.graph.degree i = 0 ↔ ∀ j, i ∈ graph.later j → j ∈ progress.placed := by
  rw [h.degree, List.count_nil, Nat.add_zero, Finset.card_eq_zero,
    Finset.eq_empty_iff_forall_notMem]
  refine forall_congr' fun j => ?_
  rw [Graph.mem_awaited, not_and]
  exact imp_congr_right fun _ => not_not

/-- The ready positions are the open ones. -/
lemma open_iff (h : InStep graph progress [] readied) (i : Fin n) :
    Open (List.finRange n) (fun i j => j ∈ graph.later i) progress.placed i ↔
      i ∈ progress.ready := by
  rw [h.mem_ready, h.degree_eq_zero]
  exact ⟨fun ho => ⟨ho.fresh, ho.ready⟩, fun hi => ⟨List.mem_finRange i, hi.1, hi.2⟩⟩

/-- The first ready position is the lowest open one. -/
lemma lowest (h : InStep graph progress [] readied) (hready : progress.ready = next :: ready) :
    Lowest (List.finRange n) (fun i j => j ∈ graph.later i) (· < ·) progress.placed next where
  toOpen := (h.open_iff next).mpr (by simp [hready])
  least i hi := by
    have hmem : i ∈ next :: ready := hready ▸ (h.open_iff i).mp hi
    have hlow : ∀ i ∈ ready, next < i := (List.pairwise_cons.mp (hready ▸ h.increasing)).1
    rcases List.mem_cons.mp hmem with rfl | hmem
    · exact lt_irrefl i
    · exact lt_asymm (hlow i hmem)

/-- Nothing is open once nothing is ready. -/
lemma stuck (h : InStep graph progress [] readied) (hready : progress.ready = []) :
    Stuck (List.finRange n) (fun i j => j ∈ graph.later i) progress.placed := fun i hi => by
  have hmem := (h.open_iff i).mp hi
  rw [hready] at hmem
  exact List.not_mem_nil hmem

end InStep

/-! ### Runs -/

lemma run_of_idle (hready : progress.ready = []) (steps : ℕ) : run steps progress = progress := by
  cases steps <;> simp only [run, step, hready]

lemma run_succ_of_ready (hready : progress.ready = next :: ready) (steps : ℕ) :
    run (steps + 1) progress = run steps (progress.placing next ready) := by
  simp only [run, step_of_ready hready]

/-- **A run is a greedy placement**, which ends early only when nothing is open. -/
theorem Moment.greedy (hcounted : graph.Counted) (h : Moment graph progress [] readied)
    (steps : ℕ) :
    ∃ rest, (run steps progress).placed = progress.placed ++ rest ∧
      Steps (Lowest (List.finRange n) (fun i j => j ∈ graph.later i) (· < ·)) progress.placed rest ∧
      (rest.length = steps ∨
        Stuck (List.finRange n) (fun i j => j ∈ graph.later i) (progress.placed ++ rest)) := by
  induction steps generalizing progress readied with
  | zero => exact ⟨[], by simp [Progress.run], .nil, Or.inl rfl⟩
  | succ steps ih =>
      have hstep := h.inStep hcounted
      cases hready : progress.ready with
      | nil =>
          refine ⟨[], by rw [run_of_idle hready, List.append_nil], .nil, Or.inr ?_⟩
          rw [List.append_nil]
          exact hstep.stuck hready
      | cons next ready =>
          obtain ⟨readied', hnext⟩ := h.placing hready
          obtain ⟨rest, hplaced, hsteps, hend⟩ := ih hnext
          rw [placed_placing, List.append_assoc] at hplaced hend
          rw [placed_placing] at hsteps
          refine ⟨next :: rest, ?_, .cons (hstep.lowest hready) hsteps, hend.imp ?_ id⟩
          · rw [run_succ_of_ready hready]
            exact hplaced
          · intro hlen
            rw [List.length_cons, hlen]

end Progress

namespace Graph

open Placement

variable {n : ℕ} {graph : Graph n}

/-- A placement of as many positions as there are leaves none out. -/
lemma mem_of_length_eq {positions : List (Fin n)} (hnodup : positions.Nodup)
    (hlen : positions.length = n) (i : Fin n) : i ∈ positions := by
  have hcard : positions.toFinset.card = Fintype.card (Fin n) := by
    rw [List.toFinset_card_of_nodup hnodup, hlen, Fintype.card_fin]
  exact List.mem_toFinset.mp ((Finset.card_eq_iff_eq_univ _).mp hcard ▸ Finset.mem_univ i)

/-- **The order of a graph**: the greedy placement goes on until it is stuck, and is the order when
it leaves nothing out. -/
theorem order_cases (h : graph.Counted) :
    ∃ placed, Steps (Lowest (List.finRange n) (fun i j => j ∈ graph.later i) (· < ·)) [] placed ∧
      Stuck (List.finRange n) (fun i j => j ∈ graph.later i) placed ∧
      graph.order = if ∀ i, i ∈ placed then .ok placed
        else .error ((List.finRange n).filter fun i => i ∉ placed) := by
  obtain ⟨placed, hplaced, hsteps, hend⟩ := (Progress.Moment.start : Progress.Moment graph _ _ _).greedy h n
  have hstart : (Progress.start graph).placed = [] := rfl
  rw [hstart, List.nil_append] at hplaced hend
  have hnodup : placed.Nodup := (hsteps.mono fun _ _ hlow => hlow.toOpen).nodup
  have hlength : placed.length = n ↔ ∀ i, i ∈ placed := by
    refine ⟨fun hlen => mem_of_length_eq hnodup hlen, fun hall => ?_⟩
    have hperm : placed.Perm (List.finRange n) :=
      (List.perm_ext_iff_of_nodup hnodup (List.nodup_finRange n)).mpr fun i => by simp [hall i]
    simpa using hperm.length_eq
  refine ⟨placed, hsteps, ?_, ?_⟩
  · exact hend.elim (fun hlen i hi => hi.fresh (hlength.mp hlen i)) id
  · simp only [order, hplaced, hlength]

end Graph

end Activation
