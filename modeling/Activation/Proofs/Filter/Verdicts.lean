/-
Candidates judged together and one by one.

A row of filters stops at the first filter that fails, whichever candidate it
fails on; a candidate on its own fails at the first filter that fails on it. The
two name the same failure when the last filter of the row is the only one that
can fail, as with the built-in conditions.

* `Filter.Sure`: a filter that has an answer for every module.
* `runFilters_concat`: behind such filters a run is a traversal of the slots.
* `filterCandidates_concat`, `filterCandidates_singleton`: candidates together,
  and one alone, in terms of their verdicts.
* `Agreement`, `agreement_filterCandidates`: what is found of candidates together
  is what is found of each of them alone, failures included.
-/
import Activation.Proofs.Filter
import Activation.Proofs.Filter.Slots

namespace Activation

/-! ### Filters that do not fail -/

namespace Filter

variable {filter : Filter}

/-- The filter judges each module on its own, and has an answer for every one. -/
structure Sure (filter : Filter) : Prop where
  judgesAlone : filter.JudgesAlone
  answers : ∀ index id, ∃ passes, filter.ask index id = .ok passes

lemma sure_ofPredicate (name : String) {question : ModuleId → Index → Except String Bool}
    (h : ∀ id index, ∃ passes, question id index = .ok passes) :
    (ofPredicate name question).Sure where
  judgesAlone := judgesAlone_ofPredicate name question
  answers index id := by rw [ask_ofPredicate]; exact h id index

lemma sure_onModule (catalog : Catalog) : (Condition.onModule catalog).Sure := by
  refine sure_ofPredicate "on-module" fun id index => ?_
  cases index.attribute? id "ConditionalOnModule" with
  | none => exact ⟨true, rfl⟩
  | some required => exact ⟨_, rfl⟩

lemma sure_onProperty (environment : Environment) : (Condition.onProperty environment).Sure := by
  refine sure_ofPredicate "on-property" fun id index => ?_
  cases index.attribute? id "ConditionalOnProperty" with
  | none => exact ⟨true, rfl⟩
  | some conditions => exact ⟨_, rfl⟩

lemma Sure.exists_settled (h : filter.Sure) (index : Index) :
    ∃ settled : Slot → Slot, ∀ slot, filter.settle index slot = .ok (settled slot) := by
  have hsettle : ∀ slot, ∃ settled, filter.settle index slot = .ok settled := by
    rintro ⟨id, rejectedBy⟩
    cases rejectedBy with
    | some name => exact ⟨_, settle_rejected id name⟩
    | none =>
        obtain ⟨passes, hpasses⟩ := h.answers index id
        rw [settle_live, hpasses]
        exact ⟨_, rfl⟩
  exact ⟨fun slot => (hsettle slot).choose, fun slot => (hsettle slot).choose_spec⟩

end Filter

/-! ### Runs -/

section Concat

variable {filters : List Filter} {last : Filter} (hfilters : ∀ filter ∈ filters, filter.Sure)
  (hlast : last.JudgesAlone)

include hfilters hlast

/-- **When only the last filter can fail**, a run is a traversal of the slots, each going through all
filters at once. -/
theorem runFilters_concat (index : Index) (slots : List Slot) :
    (runFilters index (filters ++ [last]) slots).slots =
      slots.mapM (settleAll index (filters ++ [last])) := by
  induction filters generalizing slots with
  | nil =>
      have hrun : (runFilters index [last] slots).slots = last.apply index slots := by
        rw [runFilters]
        cases last.apply index slots <;> rfl
      rw [List.nil_append, hrun, hlast.apply_eq, mapError_mapM]
      refine congrArg (slots.mapM ·) (funext fun slot => ?_)
      rw [settleAll_cons]
      cases last.settle index slot with
      | error detail => rfl
      | ok between => exact (settleAll_nil index between).symm
  | cons filter filters ih =>
      obtain ⟨hfilter, hrest⟩ := List.forall_mem_cons.mp hfilters
      obtain ⟨settled, hsettled⟩ := hfilter.exists_settled index
      have happly : filter.apply index slots = .ok (slots.map settled) := by
        rw [hfilter.judgesAlone.apply_eq_ok_iff, List.forall₂_map_right_iff, List.forall₂_same]
        exact fun slot _ => hsettled slot
      have hstep : ∀ slot, settleAll index (filter :: (filters ++ [last])) slot =
          settleAll index (filters ++ [last]) (settled slot) := by
        intro slot
        rw [settleAll_cons, hsettled]
      calc (runFilters index (filter :: (filters ++ [last])) slots).slots
          = (runFilters index (filters ++ [last]) (slots.map settled)).slots := by
            rw [runFilters, happly]
        _ = (slots.map settled).mapM (settleAll index (filters ++ [last])) := ih hrest _
        _ = slots.mapM (settleAll index (filter :: (filters ++ [last]))) := by
            rw [List.mapM_map]
            exact congrArg (slots.mapM ·) (funext fun slot => (hstep slot).symm)

/-- Candidates together are filtered by the verdict on each of them. -/
theorem filterCandidates_concat (index : Index) (candidates : List ModuleId) :
    filterCandidates (filters ++ [last]) index candidates =
      (candidates.mapM fun id => (verdict index id (filters ++ [last])).map (Slot.mk id)).map
        .ofSlots := by
  rw [filterCandidates_eq, runFilters_concat hfilters hlast, List.mapM_map]
  rfl

/-- A candidate alone is rejected as its verdict says. -/
lemma filterCandidates_singleton (index : Index) (id : ModuleId) :
    (filterCandidates (filters ++ [last]) index [id]).map (fun outcome =>
        outcome.accepted.isEmpty) =
      (verdict index id (filters ++ [last])).map Option.isSome := by
  rw [filterCandidates_concat hfilters hlast, List.mapM_cons, List.mapM_nil]
  cases verdict index id (filters ++ [last]) with
  | error cause => rfl
  | ok rejectedBy => cases rejectedBy <;> rfl

end Concat

/-! ### Agreement -/

/-- What is found of candidates together is what is found of each of them alone: whether it is
rejected, and for the first of them on which this fails, how it does. -/
structure Agreement (candidates : List ModuleId) (alone : ModuleId → Except ResolveError Bool)
    (together : Except ResolveError FilterOutcome) : Prop where
  succeeds : (∃ outcome, together = .ok outcome) ↔
    ∀ id ∈ candidates, ∃ rejected, alone id = .ok rejected
  rejected : ∀ outcome, together = .ok outcome →
    outcome.rejected.map Rejection.id = candidates.filter fun id => alone id = .ok true
  accepted : ∀ outcome, together = .ok outcome →
    outcome.accepted = candidates.filter fun id => alone id = .ok false
  fails : ∀ cause, together = .error cause ↔
    ∃ before id behind, candidates = before ++ id :: behind ∧
      (∀ earlier ∈ before, ∃ rejected, alone earlier = .ok rejected) ∧ alone id = .error cause

/-- Among slots that hold the verdicts on candidates, those rejected, or not rejected, are found where
the verdicts say so. -/
lemma map_id_filter_isSome {verdicts : ModuleId → Except ResolveError (Option String)}
    {candidates : List ModuleId} {slots : List Slot}
    (h : List.Forall₂ (fun id slot => (verdicts id).map (Slot.mk id) = .ok slot) candidates slots)
    (rejected : Bool) :
    (slots.filter fun slot => slot.rejectedBy.isSome = rejected).map Slot.id =
      candidates.filter fun id => (verdicts id).map Option.isSome = .ok rejected := by
  induction h with
  | nil => rfl
  | @cons id slot candidates slots hslot _ ih =>
      obtain ⟨rejectedBy, hverdict, rfl⟩ := map_eq_ok_iff.mp hslot
      have hhead : ((verdicts id).map Option.isSome = .ok rejected) ↔
          rejectedBy.isSome = rejected := by
        rw [hverdict, Except.map, Except.ok.injEq]
      by_cases hrejected : rejectedBy.isSome = rejected
      · simp only [List.filter_cons, hhead, hrejected, decide_true, if_true, List.map_cons, ih]
      · simp only [List.filter_cons, hhead, hrejected, decide_false, Bool.false_eq_true, if_false, ih]

/-- A traversal of candidates for their verdicts agrees with the verdicts. -/
lemma agreement_mapM (verdicts : ModuleId → Except ResolveError (Option String))
    (candidates : List ModuleId) :
    Agreement candidates (fun id => (verdicts id).map Option.isSome)
      ((candidates.mapM fun id => (verdicts id).map (Slot.mk id)).map .ofSlots) where
  succeeds := by simp only [exists_map_eq_ok_iff, exists_mapM_eq_ok_iff]
  rejected outcome h := by
    obtain ⟨slots, hslots, rfl⟩ := map_eq_ok_iff.mp h
    rw [← map_id_filter_isSome (mapM_eq_ok_iff.mp hslots), map_id_rejected_ofSlots]
    simp only [Option.not_isNone, Bool.decide_eq_true]
  accepted outcome h := by
    obtain ⟨slots, hslots, rfl⟩ := map_eq_ok_iff.mp h
    rw [← map_id_filter_isSome (mapM_eq_ok_iff.mp hslots), FilterOutcome.ofSlots]
    simp only [Option.isSome_eq_false_iff, Bool.decide_eq_true]
  fails cause := by simp only [map_eq_error_iff, mapM_eq_error_iff, exists_map_eq_ok_iff]

/-- **Candidates are judged together as they are judged alone**, when only the last filter can
fail. -/
theorem agreement_filterCandidates {filters : List Filter} {last : Filter}
    (hfilters : ∀ filter ∈ filters, filter.Sure) (hlast : last.JudgesAlone) (index : Index)
    (candidates : List ModuleId) :
    Agreement candidates
      (fun id => (filterCandidates (filters ++ [last]) index [id]).map fun outcome =>
        outcome.accepted.isEmpty)
      (filterCandidates (filters ++ [last]) index candidates) := by
  simp only [filterCandidates_singleton hfilters hlast]
  rw [filterCandidates_concat hfilters hlast]
  exact agreement_mapM (fun id => verdict index id (filters ++ [last])) candidates

end Activation
