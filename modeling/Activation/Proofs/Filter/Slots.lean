/-
Slots under any filters.

The filters of a host answer as they like. They may reject candidates, and they
may end the run; they cannot lose a candidate, list it twice or move it.

* `Filter.map_id_apply`, `map_id_runFilters`: slots keep their ids, in order.
* `filterCandidates_eq`: where nothing was rejected the candidates are handed on as
  they came, which is what the slots show too.
* `FilterOutcome.Partitions`: the candidates are dealt out between those that
  pass and those that are rejected.
* `partitions_ofSlots`, `partitions_of_filterCandidates`: so they are by slots,
  and by every run of filters that succeeds.
-/
import Mathlib.Data.List.Perm.Basic
import Mathlib.Tactic.Lemma
import Activation.Filter

namespace Activation

variable {filters : List Filter} {index : Index} {slots final : List Slot}

/-! ### Runs -/

@[simp] lemma Slot.id_answered (filter : String) (slot : Slot) (passes : Bool) :
    (slot.answered filter passes).id = slot.id := by
  rw [Slot.answered]
  split <;> rfl

@[simp] lemma Slot.map_id_fresh (candidates : List ModuleId) :
    (candidates.map Slot.fresh).map Slot.id = candidates := by
  rw [List.map_map]
  exact List.map_id candidates

/-- Answers for all slots leave their ids as they are. -/
lemma Slot.map_id_zipWith_answered (filter : String) {answers : List Bool}
    (h : answers.length = slots.length) :
    (List.zipWith (Slot.answered filter) slots answers).map Slot.id = slots.map Slot.id := by
  induction slots generalizing answers with
  | nil => rfl
  | cons slot slots ih =>
      cases answers with
      | nil => cases h
      | cons passes answers =>
          rw [List.zipWith_cons_cons, List.map_cons, List.map_cons, ih (Nat.succ.inj h),
            Slot.id_answered]

/-- One filter leaves the ids of the slots as they are. -/
lemma Filter.map_id_apply {filter : Filter} {next : List Slot}
    (h : filter.apply index slots = .ok next) : next.map Slot.id = slots.map Slot.id := by
  rw [Filter.apply] at h
  cases hanswers : filter.judge (slots.map Slot.shown) index with
  | error detail => rw [hanswers] at h; cases h
  | ok answers =>
      simp only [hanswers] at h
      by_cases hlength : answers.length = slots.length
      · rw [if_pos hlength] at h
        rw [← Except.ok.inj h, Slot.map_id_zipWith_answered filter.name hlength]
      · rw [if_neg hlength] at h
        cases h

/-- So do filters in a row. -/
lemma map_id_runFilters (h : (runFilters index filters slots).slots = .ok final) :
    final.map Slot.id = slots.map Slot.id := by
  induction filters generalizing slots with
  | nil => rw [← Except.ok.inj h]
  | cons filter filters ih =>
      rw [runFilters] at h
      cases hnext : filter.apply index slots with
      | error cause => rw [hnext] at h; cases h
      | ok next =>
          rw [hnext] at h
          rw [ih h, Filter.map_id_apply hnext]

/-- Behind filters the slots of candidates list these as they came. -/
lemma map_id_of_run {candidates : List ModuleId}
    (h : (runFilters index filters (candidates.map Slot.fresh)).slots = .ok final) :
    final.map Slot.id = candidates := by
  rw [map_id_runFilters h, Slot.map_id_fresh]

/-! ### Outcomes -/

/-- Slots of which none was rejected show the candidates as they came. -/
lemma ofRun_map_id (slots : List Slot) :
    FilterOutcome.ofRun (slots.map Slot.id) slots = FilterOutcome.ofSlots slots := by
  rw [FilterOutcome.ofRun]
  by_cases hskipped : slots.any Slot.isRejected = true
  · rw [if_pos hskipped]
  · have hlive : ∀ slot ∈ slots, slot.rejectedBy = none := by
      simpa [Slot.isRejected] using hskipped
    have haccepted : slots.filter (fun slot => slot.rejectedBy.isNone) = slots :=
      List.filter_eq_self.mpr fun slot hslot => by rw [hlive slot hslot]; rfl
    have hrejected : slots.filterMap (fun slot => slot.rejectedBy.map (Rejection.mk slot.id)) = [] :=
      List.filterMap_eq_nil_iff.mpr fun slot hslot => by rw [hlive slot hslot]; rfl
    rw [if_neg hskipped, FilterOutcome.ofSlots, haccepted, hrejected]

/-- **What filters make of candidates** is what the slots show behind the last of them. -/
theorem filterCandidates_eq (filters : List Filter) (index : Index) (candidates : List ModuleId) :
    filterCandidates filters index candidates =
      (runFilters index filters (candidates.map Slot.fresh)).slots.map FilterOutcome.ofSlots := by
  rw [filterCandidates]
  cases hrun : (runFilters index filters (candidates.map Slot.fresh)).slots with
  | error cause => rfl
  | ok final => rw [Except.map, Except.map, ← ofRun_map_id, map_id_of_run hrun]

/-- The candidates are dealt out between those that pass and those that are rejected, and both keep
their order. -/
structure FilterOutcome.Partitions (outcome : FilterOutcome) (candidates : List ModuleId) :
    Prop where
  accepted : outcome.accepted.Sublist candidates
  rejected : (outcome.rejected.map Rejection.id).Sublist candidates
  perm : (outcome.accepted ++ outcome.rejected.map Rejection.id).Perm candidates

/-- The rejected ids are those of the slots that are no longer live. -/
lemma map_id_rejected_ofSlots (slots : List Slot) :
    (FilterOutcome.ofSlots slots).rejected.map Rejection.id =
      (slots.filter fun slot => !slot.rejectedBy.isNone).map Slot.id := by
  have hcons : ∀ slot slots, (FilterOutcome.ofSlots (slot :: slots)).rejected =
      (FilterOutcome.ofSlots [slot]).rejected ++ (FilterOutcome.ofSlots slots).rejected :=
    fun slot slots => by rw [← List.singleton_append]; exact List.filterMap_append
  induction slots with
  | nil => rfl
  | cons slot slots ih =>
      rw [hcons, List.map_append, ih]
      obtain ⟨id, rejectedBy⟩ := slot
      cases rejectedBy <;> rfl

lemma partitions_ofSlots (slots : List Slot) :
    (FilterOutcome.ofSlots slots).Partitions (slots.map Slot.id) := by
  refine ⟨(List.filter_sublist).map Slot.id, ?_, ?_⟩
  · rw [map_id_rejected_ofSlots]
    exact (List.filter_sublist).map Slot.id
  · rw [map_id_rejected_ofSlots, FilterOutcome.ofSlots, ← List.map_append]
    exact (List.filter_append_perm _ slots).map Slot.id

/-- **A run of filters that succeeds** deals out the candidates, whatever the filters answer. -/
theorem partitions_of_filterCandidates {candidates : List ModuleId} {outcome : FilterOutcome}
    (h : filterCandidates filters index candidates = .ok outcome) :
    outcome.Partitions candidates := by
  rw [filterCandidates_eq] at h
  cases hrun : (runFilters index filters (candidates.map Slot.fresh)).slots with
  | error cause => rw [hrun] at h; cases h
  | ok final =>
      rw [hrun] at h
      obtain rfl : FilterOutcome.ofSlots final = outcome := Except.ok.inj h
      rw [← map_id_of_run hrun]
      exact partitions_ofSlots final

end Activation
