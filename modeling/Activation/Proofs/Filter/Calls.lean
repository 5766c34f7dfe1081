/-
Filters called in turn.

The filters of a host answer as they like: they may fail, answer for the wrong
number of slots, or reject what is no longer there. What a run of filters comes
to is told by the calls alone, that is by what each filter was shown and what it
answered.

* `FilterCall`, `FilterCall.Rejects`: a call that came back, and the positions it
  rejects, which were live and got a negative answer.
* `rejecterIn`, `shownAfter`, `outcomeAfter`: who rejected a position first, what
  is shown behind some calls, and what they leave of the candidates.
* `InTurn`, `zipWith_answered`, `InTurn.concat`: calls each of which was shown
  what the ones before it left; the step of the slots behind one more of them.
* `Filter.Breaks`, `Filter.apply_cases`: a filter that fails or answers for
  another number of slots ends the run.
* `exists_run`, `breaks_of_filterCandidates`: a run is a row of calls, complete or
  broken off, and fails as the filter does that breaks it off.
* `FilterCourse`, `Filter.AgreesOnLive`, `filterCourse_of_run`: the course of a
  run, for all filters; answers for empty slots do not bear on it.
-/
import Mathlib.Data.List.Forall2
import Mathlib.Tactic.Lemma
import Activation.Proofs.Filter.Slots

namespace Activation

/-! ### Calls -/

/-- A call of a filter that came back: what it was shown, and what it answered. -/
structure FilterCall where
  filter : Filter
  shown : List (Option ModuleId)
  answers : List Bool

namespace FilterCall

/-- The candidate at a position was live and got a negative answer. -/
def Rejects (call : FilterCall) (position : Nat) : Prop :=
  (∃ id, call.shown[position]? = some (some id)) ∧ call.answers[position]? = some false

instance (call : FilterCall) (position : Nat) : Decidable (call.Rejects position) :=
  decidable_of_iff
    (call.shown[position]?.join.isSome ∧ call.answers[position]? = some false)
    (and_congr_left' (by simp [Option.isSome_iff_exists, Option.join_eq_some_iff]))

end FilterCall

/-- The name of the first filter that rejected the candidate at a position. -/
def rejecterIn (calls : List FilterCall) (position : Nat) : Option String :=
  (calls.find? fun call => call.Rejects position).map fun call => call.filter.name

/-- What is shown of candidates behind some calls: those that no call rejected. -/
def shownAfter (calls : List FilterCall) (candidates : List ModuleId) : List (Option ModuleId) :=
  candidates.mapIdx fun position id =>
    if ∃ call ∈ calls, call.Rejects position then none else some id

/-- What calls leave of candidates: those at positions that no call rejected pass, and each of the
others is rejected by the first filter that did. -/
def outcomeAfter (calls : List FilterCall) (candidates : List ModuleId) : FilterOutcome where
  accepted :=
    (candidates.zipIdx.filter fun entry => ¬ ∃ call ∈ calls, call.Rejects entry.2).map Prod.fst
  rejected := candidates.zipIdx.filterMap fun entry =>
    (rejecterIn calls entry.2).map (Rejection.mk entry.1)

/-- The slots of candidates behind some calls. -/
def slotsAfter (calls : List FilterCall) (candidates : List ModuleId) : List Slot :=
  candidates.mapIdx fun position id => ⟨id, rejecterIn calls position⟩

variable {index : Index} {candidates : List ModuleId} {calls : List FilterCall}
  {position : Nat}

lemma isNone_rejecterIn (calls : List FilterCall) (position : Nat) :
    (rejecterIn calls position).isNone = decide (¬ ∃ call ∈ calls, call.Rejects position) := by
  rw [Bool.eq_iff_iff, Option.isNone_iff_eq_none, decide_eq_true_eq, rejecterIn,
    Option.map_eq_none_iff, List.find?_eq_none]
  simp

/-- A later call rejects a position only when no earlier one did. -/
lemma rejecterIn_concat (calls : List FilterCall) (call : FilterCall) (position : Nat) :
    rejecterIn (calls ++ [call]) position =
      (rejecterIn calls position).or
        (if call.Rejects position then some call.filter.name else none) := by
  rw [rejecterIn, rejecterIn, List.find?_append, Option.map_or]
  by_cases h : call.Rejects position <;> simp [h]

@[simp] lemma length_shownAfter (calls : List FilterCall) (candidates : List ModuleId) :
    (shownAfter calls candidates).length = candidates.length :=
  List.length_mapIdx

@[simp] lemma length_slotsAfter (calls : List FilterCall) (candidates : List ModuleId) :
    (slotsAfter calls candidates).length = candidates.length :=
  List.length_mapIdx

lemma slotsAfter_nil (candidates : List ModuleId) :
    slotsAfter [] candidates = candidates.map Slot.fresh := by
  refine List.ext_getElem (by simp) fun i _ _ => ?_
  simp only [slotsAfter, List.getElem_mapIdx, List.getElem_map]
  rfl

lemma map_shown_slotsAfter (calls : List FilterCall) (candidates : List ModuleId) :
    (slotsAfter calls candidates).map Slot.shown = shownAfter calls candidates := by
  refine List.ext_getElem (by simp) fun i _ _ => ?_
  simp only [slotsAfter, shownAfter, List.getElem_map, List.getElem_mapIdx, Slot.shown,
    isNone_rejecterIn]
  by_cases h : ∃ call ∈ calls, call.Rejects i
  · rw [if_pos h, if_neg (by simpa using h)]
  · rw [if_neg h, if_pos (by simpa using h)]

lemma ofSlots_slotsAfter (calls : List FilterCall) (candidates : List ModuleId) :
    FilterOutcome.ofSlots (slotsAfter calls candidates) = outcomeAfter calls candidates := by
  rw [FilterOutcome.ofSlots, outcomeAfter, slotsAfter, List.mapIdx_eq_zipIdx_map]
  congr 1
  · rw [List.filter_map, List.map_map]
    simp only [Function.comp_def, isNone_rejecterIn]
  · rw [List.filterMap_map]
    rfl

/-! ### Steps -/

/-- Calls one behind the other: each came back with an answer for every candidate, and was shown what
the ones before it left. -/
structure InTurn (index : Index) (candidates : List ModuleId) (calls : List FilterCall) : Prop where
  answered : ∀ call ∈ calls, call.filter.judge call.shown index = .ok call.answers
  complete : ∀ call ∈ calls, call.answers.length = candidates.length
  shown : ∀ before call behind, calls = before ++ call :: behind →
    call.shown = shownAfter before candidates

lemma InTurn.nil (index : Index) (candidates : List ModuleId) : InTurn index candidates [] where
  answered := List.forall_mem_nil _
  complete := List.forall_mem_nil _
  shown before call behind h := by simp at h

lemma InTurn.concat {filter : Filter} {answers : List Bool} (h : InTurn index candidates calls)
    (hjudge : filter.judge (shownAfter calls candidates) index = .ok answers)
    (hlength : answers.length = candidates.length) :
    InTurn index candidates (calls ++ [⟨filter, shownAfter calls candidates, answers⟩]) where
  answered := by
    intro call hcall
    rcases List.mem_append.mp hcall with hcall | hcall
    · exact h.answered call hcall
    · rw [List.mem_singleton.mp hcall, hjudge]
  complete := by
    intro call hcall
    rcases List.mem_append.mp hcall with hcall | hcall
    · exact h.complete call hcall
    · rw [List.mem_singleton.mp hcall, hlength]
  shown := by
    intro before call behind hsplit
    rcases List.eq_nil_or_concat behind with rfl | ⟨behind, last, rfl⟩
    · obtain ⟨rfl, hcall⟩ := List.append_inj' hsplit rfl
      rw [← (List.cons.inj hcall).1]
    · have hsplit' : calls ++ [⟨filter, shownAfter calls candidates, answers⟩] =
          (before ++ call :: behind) ++ [last] := by simpa using hsplit
      exact h.shown before call behind (List.append_inj' hsplit' rfl).1

/-- **One more call**: its answers turn the slots behind the calls before it into the slots behind all
of them. -/
lemma zipWith_answered (calls : List FilterCall) (filter : Filter) {answers : List Bool}
    (hlength : answers.length = candidates.length) :
    List.zipWith (Slot.answered filter.name) (slotsAfter calls candidates) answers =
      slotsAfter (calls ++ [⟨filter, shownAfter calls candidates, answers⟩]) candidates := by
  refine List.ext_getElem (by simp [hlength]) fun i hi hi' => ?_
  have hid : i < candidates.length := by simpa using hi'
  have hanswer : i < answers.length := by omega
  have hrejects : FilterCall.Rejects ⟨filter, shownAfter calls candidates, answers⟩ i ↔
      (rejecterIn calls i).isNone ∧ answers[i] = false := by
    rw [FilterCall.Rejects, isNone_rejecterIn, decide_eq_true_eq, shownAfter,
      List.getElem?_mapIdx, List.getElem?_eq_getElem hid, List.getElem?_eq_getElem hanswer]
    simp
  simp only [List.getElem_zipWith, slotsAfter, List.getElem_mapIdx, rejecterIn_concat, hrejects,
    Slot.answered]
  cases rejecterIn calls i <;> cases answers[i] <;> rfl

/-- A filter that ends a run: it fails, or it answers for another number of slots than it is shown. -/
inductive Filter.Breaks (filter : Filter) (index : Index) (shown : List (Option ModuleId)) :
    ResolveError → Prop
  | fails {detail : String} (hjudge : filter.judge shown index = .error detail) :
      Breaks filter index shown (.filter filter.name detail)
  | miscounts {answers : List Bool} (hjudge : filter.judge shown index = .ok answers)
      (hlength : answers.length ≠ shown.length) :
      Breaks filter index shown (.filterArity filter.name shown.length answers.length)

/-- A filter either answers for all slots or ends the run. -/
lemma Filter.apply_cases (filter : Filter) (index : Index) (slots : List Slot) :
    (∃ answers, filter.judge (slots.map Slot.shown) index = .ok answers ∧
        answers.length = slots.length ∧
        filter.apply index slots = .ok (List.zipWith (Slot.answered filter.name) slots answers)) ∨
      ∃ cause, filter.Breaks index (slots.map Slot.shown) cause ∧
        filter.apply index slots = .error cause := by
  rw [apply]
  cases hjudge : filter.judge (slots.map Slot.shown) index with
  | error detail => exact .inr ⟨_, .fails hjudge, rfl⟩
  | ok answers =>
      by_cases hlength : answers.length = slots.length
      · exact .inl ⟨answers, rfl, hlength, if_pos hlength⟩
      · refine .inr ⟨.filterArity filter.name slots.length answers.length, ?_, if_neg hlength⟩
        have hbreaks := Breaks.miscounts hjudge (by rwa [List.length_map])
        rwa [List.length_map] at hbreaks

/-! ### Runs -/

/-- **A run from the slots behind some calls** is a row of further calls, of all filters or of those
in front of one that ends it. -/
lemma exists_run (filters : List Filter) (hcalls : InTurn index candidates calls) :
    ∃ further, InTurn index candidates (calls ++ further) ∧
      ((further.map FilterCall.filter = filters ∧
          runFilters index filters (slotsAfter calls candidates) =
            ⟨further.map FilterCall.shown, .ok (slotsAfter (calls ++ further) candidates)⟩) ∨
        ∃ last behind cause, filters = further.map FilterCall.filter ++ last :: behind ∧
          last.Breaks index (shownAfter (calls ++ further) candidates) cause ∧
          runFilters index filters (slotsAfter calls candidates) =
            ⟨further.map FilterCall.shown ++ [shownAfter (calls ++ further) candidates],
              .error cause⟩) := by
  induction filters generalizing calls with
  | nil =>
      refine ⟨[], by rwa [List.append_nil], .inl ⟨rfl, ?_⟩⟩
      rw [List.append_nil]
      rfl
  | cons filter filters ih =>
      rcases filter.apply_cases index (slotsAfter calls candidates) with
        ⟨answers, hjudge, hlength, happly⟩ | ⟨cause, hbreaks, happly⟩
      · rw [map_shown_slotsAfter] at hjudge
        rw [length_slotsAfter] at hlength
        rw [zipWith_answered calls filter hlength] at happly
        obtain ⟨further, hturn, hrun⟩ := ih (hcalls.concat hjudge hlength)
        rw [List.append_assoc, List.singleton_append] at hturn hrun
        refine ⟨_ :: further, hturn, ?_⟩
        rw [runFilters, happly]
        simp only [map_shown_slotsAfter, List.map_cons, List.cons_append]
        rcases hrun with ⟨hfilters, hrun⟩ | ⟨last, behind, cause, hfilters, hbreaks, hrun⟩
        · exact .inl ⟨by rw [hfilters], by rw [hrun]⟩
        · exact .inr ⟨last, behind, cause, by rw [hfilters], hbreaks, by rw [hrun]⟩
      · rw [map_shown_slotsAfter] at hbreaks
        refine ⟨[], by rwa [List.append_nil], .inr ⟨filter, filters, cause, rfl, ?_, ?_⟩⟩
        · rwa [List.append_nil]
        · rw [runFilters, happly, map_shown_slotsAfter, List.append_nil]
          rfl

/-- A run fails as the filter does that ends it. -/
lemma breaks_of_filterCandidates {filters : List Filter} {cause : ResolveError}
    (h : filterCandidates filters index candidates = .error cause) :
    ∃ filter ∈ filters, ∃ shown, filter.Breaks index shown cause := by
  obtain ⟨calls, -, hrun⟩ := exists_run filters (InTurn.nil index candidates)
  rw [filterCandidates_eq, ← slotsAfter_nil] at h
  rcases hrun with ⟨-, hrun⟩ | ⟨last, behind, first, hfilters, hbreaks, hrun⟩
  · rw [hrun] at h
    cases h
  · rw [hrun] at h
    obtain rfl : first = cause := Except.error.inj h
    exact ⟨last, by rw [hfilters]; simp, _, hbreaks⟩

/-- The course of filters on candidates: what each filter that is called is shown, in order, and what
the run comes to. Either all filters are called, or the run fails as the first filter that ends it
does, and no filter behind that one is called. -/
inductive FilterCourse (filters : List Filter) (index : Index) (candidates : List ModuleId) :
    List (List (Option ModuleId)) → Except ResolveError FilterOutcome → Prop
  | complete {calls : List FilterCall} (hturn : InTurn index candidates calls)
      (hfilters : calls.map FilterCall.filter = filters) :
      FilterCourse filters index candidates (calls.map FilterCall.shown)
        (.ok (outcomeAfter calls candidates))
  | broken {calls : List FilterCall} {last : Filter} {behind : List Filter} {cause : ResolveError}
      (hturn : InTurn index candidates calls)
      (hfilters : calls.map FilterCall.filter ++ last :: behind = filters)
      (hbreaks : last.Breaks index (shownAfter calls candidates) cause) :
      FilterCourse filters index candidates
        (calls.map FilterCall.shown ++ [shownAfter calls candidates]) (.error cause)

/-! ### Answers for empty slots -/

/-- Answers to what is shown that differ for empty slots at most; failures do not differ. -/
inductive AgreeOnLive (shown : List (Option ModuleId)) :
    Except String (List Bool) → Except String (List Bool) → Prop
  | failures (detail : String) : AgreeOnLive shown (.error detail) (.error detail)
  | answers {here there : List Bool} (hlength : here.length = there.length)
      (hlive : ∀ (position : Nat) (id : ModuleId), shown[position]? = some (some id) →
        here[position]? = there[position]?) :
      AgreeOnLive shown (.ok here) (.ok there)

/-- Two filters of one name that differ in their answers for empty slots at most. -/
structure Filter.AgreesOnLive (index : Index) (filter other : Filter) : Prop where
  name : filter.name = other.name
  judge : ∀ shown, AgreeOnLive shown (filter.judge shown index) (other.judge shown index)

lemma Filter.AgreesOnLive.refl (index : Index) (filter : Filter) :
    filter.AgreesOnLive index filter where
  name := rfl
  judge shown := by
    cases filter.judge shown index with
    | error detail => exact .failures detail
    | ok answers => exact .answers rfl fun _ _ _ => rfl

/-- Answers for empty slots leave the slots as they are. -/
lemma zipWith_answered_congr (filter : String) {slots : List Slot} {here there : List Bool}
    (hlength : here.length = there.length)
    (hlive : ∀ (position : Nat) (id : ModuleId), (slots.map Slot.shown)[position]? = some (some id) →
      here[position]? = there[position]?) :
    List.zipWith (Slot.answered filter) slots here =
      List.zipWith (Slot.answered filter) slots there := by
  refine List.ext_getElem (by simp [hlength]) fun i hi hi' => ?_
  have hslot : i < slots.length := by simp at hi; omega
  have hhere : i < here.length := by simp at hi; omega
  have hthere : i < there.length := by omega
  rw [List.getElem_zipWith, List.getElem_zipWith]
  cases hrejected : slots[i].rejectedBy with
  | some name => simp [Slot.answered, hrejected]
  | none =>
      have hshown : (slots.map Slot.shown)[i]? = some (some slots[i].id) := by
        rw [List.getElem?_map, List.getElem?_eq_getElem hslot]
        simp [Slot.shown, hrejected]
      have hsame := hlive i slots[i].id hshown
      rw [List.getElem?_eq_getElem hhere, List.getElem?_eq_getElem hthere] at hsame
      rw [Option.some.inj hsame]

lemma Filter.AgreesOnLive.apply_eq {filter other : Filter} (h : filter.AgreesOnLive index other)
    (slots : List Slot) : filter.apply index slots = other.apply index slots := by
  have hjudge := h.judge (slots.map Slot.shown)
  rw [apply, apply, h.name]
  generalize filter.judge (slots.map Slot.shown) index = here at hjudge ⊢
  generalize other.judge (slots.map Slot.shown) index = there at hjudge ⊢
  cases hjudge with
  | failures detail => rfl
  | answers hlength hlive =>
      simp only [hlength, zipWith_answered_congr other.name hlength hlive]

/-- Filters that differ in their answers for empty slots at most have the same runs. -/
lemma runFilters_congr {filters others : List Filter}
    (h : List.Forall₂ (Filter.AgreesOnLive index) filters others) (slots : List Slot) :
    runFilters index filters slots = runFilters index others slots := by
  induction h generalizing slots with
  | nil => rfl
  | cons hfilter _ ih =>
      rw [runFilters, runFilters, hfilter.apply_eq]
      simp only [ih]

/-! ### The course of a run -/

/-- **The course of filters on candidates**: the filters are called in order, each being shown the
candidates that none before it rejected while they were live, up to the first that fails or answers
for another number of slots. With all of them called, the candidates that none rejected pass and each
of the others names the first filter that rejected it. What is answered for empty slots has no
effect. -/
theorem filterCourse_of_run (filters : List Filter) (index : Index) (candidates : List ModuleId) :
    FilterCourse filters index candidates
        (runFilters index filters (candidates.map Slot.fresh)).shown
        (filterCandidates filters index candidates) ∧
      ∀ others, List.Forall₂ (Filter.AgreesOnLive index) filters others →
        runFilters index others (candidates.map Slot.fresh) =
            runFilters index filters (candidates.map Slot.fresh) ∧
          filterCandidates others index candidates = filterCandidates filters index candidates := by
  constructor
  · obtain ⟨calls, hturn, hrun⟩ := exists_run filters (InTurn.nil index candidates)
    rw [List.nil_append] at hturn hrun
    rw [filterCandidates_eq, ← slotsAfter_nil]
    rcases hrun with ⟨hfilters, hrun⟩ | ⟨last, behind, cause, hfilters, hbreaks, hrun⟩
    · rw [hrun]
      simp only [Except.map, ofSlots_slotsAfter]
      exact .complete hturn hfilters
    · rw [hrun]
      exact .broken hturn hfilters.symm hbreaks
  · intro others hothers
    have hsame := (runFilters_congr hothers (candidates.map Slot.fresh)).symm
    exact ⟨hsame, by rw [filterCandidates, hsame, filterCandidates]⟩

/-- A filter that lets everything pass, empty slots included. -/
def lenient : Filter := ⟨"presence", fun shown _ => .ok (shown.map fun _ => true)⟩

/-- A filter that rejects empty slots over again. -/
def strict : Filter := ⟨"presence", fun shown _ => .ok (shown.map Option.isSome)⟩

lemma lenient_agreesOnLive_strict (index : Index) : lenient.AgreesOnLive index strict where
  name := rfl
  judge shown := by
    refine .answers (by rw [List.length_map, List.length_map]) fun position id hlive => ?_
    rw [List.getElem?_map, List.getElem?_map, hlive]
    rfl

/-- Behind a filter that rejects `b`, the two leave the same candidates with the same rejection. -/
theorem filterCourse_of_run_strict :
    List.Forall₂ (Filter.AgreesOnLive .empty)
        [.ofPredicate "name" fun id _ => .ok (id ≠ "b"), lenient]
        [.ofPredicate "name" fun id _ => .ok (id ≠ "b"), strict] ∧
      filterCandidates [.ofPredicate "name" fun id _ => .ok (id ≠ "b"), strict] .empty
          ["a", "b", "a"] =
        filterCandidates [.ofPredicate "name" fun id _ => .ok (id ≠ "b"), lenient] .empty
          ["a", "b", "a"] ∧
      filterCandidates [.ofPredicate "name" fun id _ => .ok (id ≠ "b"), lenient] .empty
          ["a", "b", "a"] = .ok ⟨["a", "a"], [⟨"b", "name"⟩]⟩ := by
  have hothers : List.Forall₂ (Filter.AgreesOnLive .empty)
      [.ofPredicate "name" fun id _ => .ok (id ≠ "b"), lenient]
      [.ofPredicate "name" fun id _ => .ok (id ≠ "b"), strict] :=
    .cons (.refl .empty _) (.cons (lenient_agreesOnLive_strict .empty) .nil)
  exact ⟨hothers, ((filterCourse_of_run _ .empty ["a", "b", "a"]).2 _ hothers).2, by decide⟩

end Activation
