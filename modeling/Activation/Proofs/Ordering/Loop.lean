/-
The laws of the loop that places the modules of a graph.

* `Moment.run`: every run leads to a moment of the loop.
* `Moment.ends`: the loop goes on until nothing is ready, with a new module placed each time.
* `Progress.loopLaws_of_counted`: the laws of the loop.
-/
import Activation.Proofs.Ordering.Progress

namespace Activation.Progress

variable {n : ℕ} {graph : Graph n} {progress : Progress n} {readied : List (Fin n)}

/-- Placements in turn. -/
lemma Moment.run (h : Moment graph progress [] readied) (steps : ℕ) :
    ∃ readied', Moment graph (run steps progress) [] readied' := by
  induction steps generalizing progress readied with
  | zero => exact ⟨readied, h⟩
  | succ steps ih =>
      cases hready : progress.ready with
      | nil =>
          rw [run_of_idle hready]
          exact ⟨readied, h⟩
      | cons next ready =>
          obtain ⟨readied', hnext⟩ := h.placing hready
          rw [run_succ_of_ready hready]
          exact ih hnext

/-- **The loop ends**: each placement is of another module, so that there is room for no more of them
than there are modules. -/
lemma Moment.ends (hcounted : graph.Counted) (h : Moment graph progress [] readied) {room : ℕ}
    (hroom : progress.placed.length + room = n) :
    ∃ steps ≤ room, (Progress.run steps progress).ready = [] ∧
      (Progress.run steps progress).placed.length = progress.placed.length + steps ∧
      ∀ more, steps ≤ more → Progress.run more progress = Progress.run steps progress := by
  have hlength := (h.inStep hcounted).length_le
  induction room generalizing progress readied with
  | zero =>
      have hready : progress.ready = [] := List.length_eq_zero_iff.mp (by omega)
      exact ⟨0, le_rfl, hready, rfl, fun more _ => run_of_idle hready more⟩
  | succ room ih =>
      cases hready : progress.ready with
      | nil => exact ⟨0, Nat.zero_le _, hready, rfl, fun more _ => run_of_idle hready more⟩
      | cons next ready =>
          obtain ⟨readied', hnext⟩ := h.placing hready
          have hplaced : (progress.placing next ready).placed.length = progress.placed.length + 1 := by
            rw [placed_placing, List.length_append, List.length_singleton]
          obtain ⟨steps, hsteps, hidle, hlast, hmore⟩ :=
            ih hnext (by omega) (hnext.inStep hcounted).length_le
          refine ⟨steps + 1, by omega, ?_, ?_, fun more hle => ?_⟩
          · rwa [run_succ_of_ready hready]
          · rw [run_succ_of_ready hready, hlast, hplaced]
            omega
          · obtain ⟨more, rfl⟩ : ∃ rest, more = rest + 1 := ⟨more - 1, by omega⟩
            rw [run_succ_of_ready hready, run_succ_of_ready hready, hmore more (by omega)]

/-- The laws of the loop over a graph. -/
structure LoopLaws (graph : Graph n) : Prop where
  /-- Between placements an in-degree is the number of predecessors that are not placed, and the ready
  modules are those that are not placed and have none. -/
  between : ∀ steps, let progress := (start graph).run steps
    (∀ i, progress.graph.degree i = (graph.awaited progress.placed i).card) ∧
      ∀ i, i ∈ progress.ready ↔ i ∉ progress.placed ∧ progress.graph.degree i = 0
  /-- Between releases the predecessor placed last counts for the successors that are not released. -/
  within : ∀ progress pending readied, Moment graph progress pending readied →
    (∀ i, progress.graph.degree i = (graph.awaited progress.placed i).card + pending.count i) ∧
      ∀ i, i ∈ progress.ready ↔ i ∉ progress.placed ∧ progress.graph.degree i = 0
  /-- No module is placed twice, and none is made ready twice. -/
  once : ∀ progress pending readied, Moment graph progress pending readied →
    progress.placed.Nodup ∧ readied.Nodup
  /-- An in-degree that is to come down is positive. -/
  positive : ∀ progress target pending readied, Moment graph progress (target :: pending) readied →
    0 < progress.graph.degree target
  /-- Every placement and every release of a run is such a moment. -/
  passes : ∀ steps, (∃ readied, Moment graph ((start graph).run steps) [] readied) ∧
    ∀ next ready released pending, ((start graph).run steps).ready = next :: ready →
      ((start graph).run steps).graph.later next = released ++ pending →
      ∃ readied, Moment graph (released.foldl release (((start graph).run steps).place next ready))
        pending readied
  /-- A run ends when nothing is ready, after as many placements as it has placed modules. -/
  ends : ∃ steps ≤ n, ((start graph).run steps).step = none ∧
    ((start graph).run steps).placed.length = steps ∧
    ∀ more, steps ≤ more → (start graph).run more = (start graph).run steps

/-- **The loop over a graph** whose in-degrees count its edges keeps its counts right down to the single
release, and ends after one placement for each module at most. -/
theorem loopLaws_of_counted (h : graph.Counted) : LoopLaws graph where
  between steps := by
    obtain ⟨readied, hmoment⟩ := (Moment.start : Moment graph _ _ _).run steps
    have hstep := hmoment.inStep h
    refine ⟨fun i => ?_, hstep.mem_ready⟩
    rw [hstep.degree, List.count_nil, Nat.add_zero]
  within progress pending readied hmoment :=
    ⟨(hmoment.inStep h).degree, (hmoment.inStep h).mem_ready⟩
  once progress pending readied hmoment :=
    ⟨(hmoment.inStep h).nodup, (hmoment.inStep h).readied_nodup⟩
  positive progress target pending readied hmoment :=
    (hmoment.inStep h).degree_pos List.mem_cons_self
  passes steps := by
    obtain ⟨readied, hmoment⟩ := (Moment.start : Moment graph _ _ _).run steps
    refine ⟨⟨readied, hmoment⟩, fun next ready released pending hready hlater => ?_⟩
    have hplace := hmoment.place hready
    rw [hlater] at hplace
    exact hplace.foldl_release
  ends := by
    obtain ⟨steps, hsteps, hidle, hlength, hmore⟩ :=
      (Moment.start : Moment graph _ _ _).ends h (Nat.zero_add n)
    have hplaced : (start graph).placed.length = 0 := rfl
    refine ⟨steps, hsteps, ?_, by rw [hlength, hplaced, Nat.zero_add], hmore⟩
    simp only [step, hidle]

/-- A graph in which two ways lead from position 0 to position 3, which stands on a cycle. -/
def knottedDiamond : Graph 5 where
  successors := #v[[1, 2], [3], [3], [4], [3]]
  inDegree := #v[0, 1, 1, 3, 1]

theorem loopLaws_of_counted_diamond :
    knottedDiamond.Counted ∧ LoopLaws knottedDiamond ∧
      ((start knottedDiamond).run 3).placed = [0, 1, 2] ∧
      ((start knottedDiamond).run 3).graph.inDegree = #v[0, 0, 0, 1, 1] ∧
      ((start knottedDiamond).run 3).step.isNone := by
  have hcounted : knottedDiamond.Counted := ⟨by decide +kernel, by decide +kernel⟩
  exact ⟨hcounted, loopLaws_of_counted hcounted, by decide +kernel, by decide +kernel,
    by decide +kernel⟩

end Activation.Progress
