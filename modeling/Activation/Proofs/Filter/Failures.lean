/-
Candidates judged alone, failures included.

A row of filters is run filter by filter over all candidates, a candidate on its
own is put to one filter after the other. The two meet failures in different
orders; the failure that a run reports is the first by filter and, for one
filter, by candidate.

* `FailsOn`, `FailsAt`: a candidate alone gets to a filter that fails on it, and
  the ranks at which this happens.
* `verdict_eq_error_iff`, `verdict_eq_ok_none_iff`: the verdict on one candidate by
  the answers it gets.
* `runFilters_eq_error_iff`, `exists_of_apply_eq_error`: where a run fails, by
  filter and then by slot.
* `FailsFirst`, `failsFirst_of_error`, `filterCandidates_eq_error_iff`: a run fails
  with the first failure by filter and then by candidate.
* `outcome_of_ok`, `filterCandidates_append_iff`: what passes and what does not, and
  candidates in two parts.
* `FilteredAlone`, `filteredAlone_filterCandidates`: what a run comes to, by the
  answers for each candidate alone.
-/
import Activation.Proofs.Filter
import Activation.Proofs.Filter.Verdicts

namespace Activation

variable {filters : List Filter} {filter : Filter} {index : Index} {id : ModuleId}
  {candidates : List ModuleId} {cause : ResolveError} {rank position : Nat}

/-! ### One candidate -/

/-- A module alone is passed on to the filter at a rank, and that filter fails on it. -/
def FailsOn (filters : List Filter) (index : Index) (id : ModuleId) (rank : Nat)
    (cause : ResolveError) : Prop :=
  ∃ filter detail, filters[rank]? = some filter ∧
    (∀ earlier ∈ filters.take rank, earlier.ask index id = .ok true) ∧
    filter.ask index id = .error detail ∧ cause = .filter filter.name detail

lemma failsOn_cons_zero_iff :
    FailsOn (filter :: filters) index id 0 cause ↔
      ∃ detail, filter.ask index id = .error detail ∧ cause = .filter filter.name detail := by
  simp [FailsOn]

lemma failsOn_cons_succ_iff :
    FailsOn (filter :: filters) index id (rank + 1) cause ↔
      filter.ask index id = .ok true ∧ FailsOn filters index id rank cause := by
  simp only [FailsOn, List.getElem?_cons_succ, List.take_succ_cons, List.forall_mem_cons]
  constructor
  · rintro ⟨failing, detail, hfailing, ⟨hpass, hearlier⟩, hask, hcause⟩
    exact ⟨hpass, failing, detail, hfailing, hearlier, hask, hcause⟩
  · rintro ⟨hpass, failing, detail, hfailing, hearlier, hask, hcause⟩
    exact ⟨failing, detail, hfailing, ⟨hpass, hearlier⟩, hask, hcause⟩

/-- A module alone fails with one cause at a rank. -/
lemma FailsOn.unique {other : ResolveError} (h : FailsOn filters index id rank cause)
    (hother : FailsOn filters index id rank other) : cause = other := by
  obtain ⟨filter, detail, hfilter, -, hask, rfl⟩ := h
  obtain ⟨filter', detail', hfilter', -, hask', rfl⟩ := hother
  obtain rfl : filter = filter' := Option.some.inj (hfilter.symm.trans hfilter')
  obtain rfl : detail = detail' := Except.error.inj (hask.symm.trans hask')
  rfl

/-- The verdict on a module is a failure when it gets to a filter that fails. -/
lemma verdict_eq_error_iff :
    verdict index id filters = .error cause ↔ ∃ rank, FailsOn filters index id rank cause := by
  induction filters with
  | nil => simp [verdict, FailsOn]
  | cons filter filters ih =>
      rw [verdict]
      constructor
      · intro h
        cases hask : filter.ask index id with
        | error detail =>
            simp only [hask] at h
            exact ⟨0, failsOn_cons_zero_iff.mpr ⟨detail, hask, (Except.error.inj h).symm⟩⟩
        | ok passes =>
            cases passes with
            | false => simp [hask] at h
            | true =>
                simp only [hask] at h
                obtain ⟨rank, hfails⟩ := ih.mp h
                exact ⟨rank + 1, failsOn_cons_succ_iff.mpr ⟨hask, hfails⟩⟩
      · rintro ⟨rank, hfails⟩
        cases rank with
        | zero =>
            obtain ⟨detail, hask, rfl⟩ := failsOn_cons_zero_iff.mp hfails
            rw [hask]
        | succ rank =>
            obtain ⟨hask, hfails⟩ := failsOn_cons_succ_iff.mp hfails
            rw [hask]
            exact ih.mpr ⟨rank, hfails⟩

/-- No filter rejects a module that all of them let pass. -/
lemma verdict_eq_ok_none_iff :
    verdict index id filters = .ok none ↔
      ∀ filter ∈ filters, filter.ask index id = .ok true := by
  induction filters with
  | nil => simp [verdict]
  | cons filter filters ih =>
      rw [verdict, List.forall_mem_cons]
      cases hask : filter.ask index id with
      | error detail => simp
      | ok passes => cases passes <;> simp [ih]

/-- There is a verdict on a module on which no filter fails. -/
lemma exists_verdict_of_answers
    (h : ∀ filter ∈ filters, ∃ passes, filter.ask index id = .ok passes) :
    ∃ rejectedBy, verdict index id filters = .ok rejectedBy := by
  cases hverdict : verdict index id filters with
  | ok rejectedBy => exact ⟨rejectedBy, rfl⟩
  | error cause =>
      obtain ⟨rank, filter, detail, hfilter, -, hask, -⟩ := verdict_eq_error_iff.mp hverdict
      obtain ⟨passes, hpasses⟩ := h filter (List.mem_of_getElem? hfilter)
      rw [hask] at hpasses
      cases hpasses

lemma rejecter_eq_none_iff (h : ∃ rejectedBy, verdict index id filters = .ok rejectedBy) :
    rejecter filters index id = none ↔ verdict index id filters = .ok none := by
  obtain ⟨rejectedBy, hrejected⟩ := h
  rw [rejecter, hrejected]
  simp

/-- A module gets to the filter behind some others when none of those rejects it. -/
lemma failsOn_length_iff {before behind : List Filter} :
    FailsOn (before ++ filter :: behind) index id before.length cause ↔
      verdict index id before = .ok none ∧
        ∃ detail, filter.ask index id = .error detail ∧ cause = .filter filter.name detail := by
  have hget : (before ++ filter :: behind)[before.length]? = some filter := by simp
  have htake : (before ++ filter :: behind).take before.length = before := List.take_left' rfl
  rw [verdict_eq_ok_none_iff, FailsOn, hget, htake]
  constructor
  · rintro ⟨failing, detail, hfailing, hbefore, hask, hcause⟩
    obtain rfl : filter = failing := Option.some.inj hfailing
    exact ⟨hbefore, detail, hask, hcause⟩
  · rintro ⟨hbefore, detail, hask, hcause⟩
    exact ⟨filter, detail, rfl, hbefore, hask, hcause⟩

/-- A module on which some filters have a verdict does not fail at one of them. -/
lemma FailsOn.length_le {before behind : List Filter}
    (hfails : FailsOn (before ++ behind) index id rank cause)
    (hverdict : ∃ rejectedBy, verdict index id before = .ok rejectedBy) :
    before.length ≤ rank := by
  by_contra hlt
  rw [Nat.not_le] at hlt
  obtain ⟨filter, detail, hfilter, hearlier, hask, hcause⟩ := hfails
  rw [List.getElem?_append_left hlt] at hfilter
  rw [List.take_append_of_le_length (Nat.le_of_lt hlt)] at hearlier
  have herror : verdict index id before = .error cause :=
    verdict_eq_error_iff.mpr ⟨rank, filter, detail, hfilter, hearlier, hask, hcause⟩
  obtain ⟨rejectedBy, hrejected⟩ := hverdict
  rw [hrejected] at herror
  cases herror

/-! ### Where a run fails -/

/-- A run fails as a filter does, behind filters that do not. -/
lemma runFilters_eq_error_iff {slots : List Slot} :
    (runFilters index filters slots).slots = .error cause ↔
      ∃ before filter behind between, filters = before ++ filter :: behind ∧
        (runFilters index before slots).slots = .ok between ∧
        filter.apply index between = .error cause := by
  induction filters generalizing slots with
  | nil => simp [runFilters]
  | cons first filters ih =>
      rw [runFilters]
      constructor
      · intro h
        cases happly : first.apply index slots with
        | error early =>
            simp only [happly] at h
            obtain rfl : early = cause := Except.error.inj h
            exact ⟨[], first, filters, slots, rfl, rfl, happly⟩
        | ok next =>
            simp only [happly] at h
            obtain ⟨before, filter, behind, between, rfl, hbefore, hfilter⟩ := ih.mp h
            refine ⟨first :: before, filter, behind, between, rfl, ?_, hfilter⟩
            rw [runFilters, happly]
            exact hbefore
      · rintro ⟨before, filter, behind, between, hfilters, hbefore, hfilter⟩
        cases before with
        | nil =>
            obtain ⟨rfl, rfl⟩ := List.cons.inj hfilters
            obtain rfl : slots = between := Except.ok.inj hbefore
            rw [hfilter]
        | cons _ before =>
            obtain ⟨rfl, rfl⟩ := List.cons.inj hfilters
            rw [runFilters] at hbefore
            cases happly : first.apply index slots with
            | error early => simp [happly] at hbefore
            | ok next =>
                simp only [happly] at hbefore
                exact ih.mpr ⟨before, filter, behind, between, rfl, hbefore, hfilter⟩

/-- A filter that judges modules alone fails on slots as it does on the first live one of them. -/
lemma exists_of_apply_eq_error (h : filter.JudgesAlone) {rejectedBy : ModuleId → Option String}
    (herror : filter.apply index (candidates.map fun id => ⟨id, rejectedBy id⟩) = .error cause) :
    ∃ front id back detail, candidates = front ++ id :: back ∧
      (∀ earlier ∈ front, rejectedBy earlier = none →
        ∃ passes, filter.ask index earlier = .ok passes) ∧
      rejectedBy id = none ∧ filter.ask index id = .error detail ∧
      cause = .filter filter.name detail := by
  rw [h.apply_eq, List.mapM_map, mapError_mapM, mapM_eq_error_iff] at herror
  obtain ⟨front, id, back, hcandidates, hfront, hfails⟩ := herror
  refine ⟨front, id, back, ?_⟩
  cases hrejected : rejectedBy id with
  | some name => simp [hrejected, Filter.settle_rejected, Except.mapError] at hfails
  | none =>
      rw [Function.comp_apply, hrejected, Filter.settle_live] at hfails
      cases hask : filter.ask index id with
      | ok passes => simp [hask, Except.map, Except.mapError] at hfails
      | error detail =>
          rw [hask] at hfails
          refine ⟨detail, hcandidates, fun earlier hearlier hlive => ?_, rfl, rfl,
            (Except.error.inj hfails).symm⟩
          obtain ⟨after, hafter⟩ := hfront earlier hearlier
          rw [Function.comp_apply, hlive, Filter.settle_live] at hafter
          cases hpasses : filter.ask index earlier with
          | ok passes => exact ⟨passes, rfl⟩
          | error detail => simp [hpasses, Except.map, Except.mapError] at hafter

/-- A candidate alone, at a position, is passed on to the filter at a rank, and that filter fails. -/
def FailsAt (filters : List Filter) (index : Index) (candidates : List ModuleId)
    (rank position : Nat) (cause : ResolveError) : Prop :=
  ∃ id, candidates[position]? = some id ∧ FailsOn filters index id rank cause

/-- Of the failures met by candidates alone, this one is the first by filter, and for its filter the
first by candidate. -/
def FailsFirst (filters : List Filter) (index : Index) (candidates : List ModuleId)
    (cause : ResolveError) : Prop :=
  ∃ rank position, FailsAt filters index candidates rank position cause ∧
    ∀ rank' position' cause', FailsAt filters index candidates rank' position' cause' →
      rank < rank' ∨ rank = rank' ∧ position ≤ position'

lemma FailsFirst.unique {other : ResolveError} (h : FailsFirst filters index candidates cause)
    (hother : FailsFirst filters index candidates other) : cause = other := by
  obtain ⟨rank, position, hfails, hfirst⟩ := h
  obtain ⟨rank', position', hfails', hfirst'⟩ := hother
  have hle := hfirst _ _ _ hfails'
  have hge := hfirst' _ _ _ hfails
  obtain rfl : rank = rank' := by omega
  obtain rfl : position = position' := by omega
  obtain ⟨id, hid, hfails⟩ := hfails
  obtain ⟨id', hid', hfails'⟩ := hfails'
  obtain rfl : id = id' := Option.some.inj (hid.symm.trans hid')
  exact hfails.unique hfails'

section

variable (h : ∀ filter ∈ filters, filter.JudgesAlone)

include h

/-- **A run fails with the first failure**: in front of the failing filter all candidates have a
verdict, and in front of the failing candidate that filter has an answer. -/
lemma failsFirst_of_error (herror : filterCandidates filters index candidates = .error cause) :
    FailsFirst filters index candidates cause := by
  rw [filterCandidates_eq, map_eq_error_iff, runFilters_eq_error_iff] at herror
  obtain ⟨before, filter, behind, between, rfl, hbefore, hfilter⟩ := herror
  have halone : ∀ earlier ∈ before, earlier.JudgesAlone := fun earlier hearlier =>
    h earlier (List.mem_append_left _ hearlier)
  obtain ⟨hverdict, rfl⟩ := (runFilters_fresh_eq_ok_iff halone).mp hbefore
  obtain ⟨front, id, back, detail, rfl, hfront, hlive, hask, rfl⟩ :=
    exists_of_apply_eq_error (h filter (by simp)) hfilter
  have hfails : FailsOn (before ++ filter :: behind) index id before.length
      (.filter filter.name detail) :=
    failsOn_length_iff.mpr
      ⟨(rejecter_eq_none_iff (hverdict id (by simp))).mp hlive, detail, hask, rfl⟩
  refine ⟨before.length, front.length, ⟨id, by simp, hfails⟩, ?_⟩
  rintro rank position cause ⟨c, hc, hfails⟩
  have hmem : c ∈ front ++ id :: back := List.mem_of_getElem? hc
  rcases Nat.lt_or_eq_of_le (hfails.length_le (hverdict c hmem)) with hlt | rfl
  · exact .inl hlt
  · refine .inr ⟨rfl, ?_⟩
    by_contra hlt
    rw [Nat.not_le] at hlt
    rw [List.getElem?_append_left hlt] at hc
    obtain ⟨hpassed, detail, hask, -⟩ := failsOn_length_iff.mp hfails
    obtain ⟨passes, hanswer⟩ := hfront c (List.mem_of_getElem? hc)
      ((rejecter_eq_none_iff (hverdict c hmem)).mpr hpassed)
    rw [hask] at hanswer
    cases hanswer

/-- A run fails with a cause when that is the first failure. -/
lemma filterCandidates_eq_error_iff :
    filterCandidates filters index candidates = .error cause ↔
      FailsFirst filters index candidates cause := by
  refine ⟨failsFirst_of_error h, fun hfirst => ?_⟩
  cases hresult : filterCandidates filters index candidates with
  | error other => rw [(failsFirst_of_error h hresult).unique hfirst]
  | ok outcome =>
      obtain ⟨rank, position, ⟨id, hid, hfails⟩, -⟩ := hfirst
      have hverdict := ((filterCandidates_eq_ok_iff h).mp hresult).1 id (List.mem_of_getElem? hid)
      rw [verdict_eq_error_iff.mpr ⟨rank, hfails⟩] at hverdict
      obtain ⟨rejectedBy, hrejected⟩ := hverdict
      cases hrejected

/-! ### What passes -/

/-- When a run succeeds, those pass that every filter lets pass alone. -/
lemma outcome_of_ok {outcome : FilterOutcome}
    (houtcome : filterCandidates filters index candidates = .ok outcome) :
    (outcome.accepted =
        candidates.filter fun id => ∀ filter ∈ filters, filter.ask index id = .ok true) ∧
      outcome.rejected.map Rejection.id =
        candidates.filter fun id => ¬ ∀ filter ∈ filters, filter.ask index id = .ok true := by
  obtain ⟨hverdict, rfl⟩ := (filterCandidates_eq_ok_iff h).mp houtcome
  have hlive : ∀ id ∈ candidates, (rejecter filters index id).isNone =
      decide (∀ filter ∈ filters, filter.ask index id = .ok true) := by
    intro id hid
    rw [Bool.eq_iff_iff, Option.isNone_iff_eq_none, decide_eq_true_eq,
      rejecter_eq_none_iff (hverdict id hid), verdict_eq_ok_none_iff]
  constructor
  · simp only [FilterOutcome.ofSlots, List.filter_map, List.map_map, Function.comp_def,
      List.map_id']
    exact List.filter_congr hlive
  · simp only [map_id_rejected_ofSlots, List.filter_map, List.map_map, Function.comp_def,
      List.map_id', decide_not]
    exact List.filter_congr fun id hid => by rw [hlive id hid]

end

/-- One outcome behind another. -/
def FilterOutcome.append (front back : FilterOutcome) : FilterOutcome where
  accepted := front.accepted ++ back.accepted
  rejected := front.rejected ++ back.rejected

lemma ofSlots_append (front back : List Slot) :
    FilterOutcome.ofSlots (front ++ back) =
      (FilterOutcome.ofSlots front).append (FilterOutcome.ofSlots back) := by
  rw [FilterOutcome.append, FilterOutcome.ofSlots, List.filter_append, List.map_append,
    List.filterMap_append]
  rfl

/-- Candidates in two parts come out as the outcomes of the parts, one behind the other. -/
lemma filterCandidates_append_iff (h : ∀ filter ∈ filters, filter.JudgesAlone)
    {further : List ModuleId} {outcome : FilterOutcome} :
    filterCandidates filters index (candidates ++ further) = .ok outcome ↔
      ∃ front back, filterCandidates filters index candidates = .ok front ∧
        filterCandidates filters index further = .ok back ∧ outcome = front.append back := by
  simp only [filterCandidates_eq_ok_iff h, List.forall_mem_append, List.map_append, ofSlots_append]
  constructor
  · rintro ⟨⟨hcandidates, hfurther⟩, houtcome⟩
    exact ⟨_, _, ⟨hcandidates, rfl⟩, ⟨hfurther, rfl⟩, houtcome⟩
  · rintro ⟨front, back, ⟨hcandidates, rfl⟩, ⟨hfurther, rfl⟩, houtcome⟩
    exact ⟨⟨hcandidates, hfurther⟩, houtcome⟩

/-- Where no filter fails, the filters accept and reject the same candidates in any order. -/
lemma filterCandidates_of_perm (h : ∀ filter ∈ filters, filter.JudgesAlone)
    (hanswers : ∀ id ∈ candidates, ∀ filter ∈ filters, ∃ passes, filter.ask index id = .ok passes)
    {others : List Filter} (hperm : filters.Perm others) :
    ∃ outcome reordered, filterCandidates filters index candidates = .ok outcome ∧
      filterCandidates others index candidates = .ok reordered ∧
      outcome.accepted = reordered.accepted ∧
      outcome.rejected.map Rejection.id = reordered.rejected.map Rejection.id := by
  have hothers : ∀ filter ∈ others, filter.JudgesAlone := fun filter hfilter =>
    h filter (hperm.mem_iff.mpr hfilter)
  have houtcome := (filterCandidates_eq_ok_iff h).mpr
    ⟨fun id hid => exists_verdict_of_answers (hanswers id hid), rfl⟩
  have hreordered := (filterCandidates_eq_ok_iff hothers).mpr
    ⟨fun id hid => exists_verdict_of_answers fun filter hfilter =>
      hanswers id hid filter (hperm.mem_iff.mpr hfilter), rfl⟩
  obtain ⟨haccepted, hrejected⟩ := outcome_of_ok h houtcome
  obtain ⟨haccepted', hrejected'⟩ := outcome_of_ok hothers hreordered
  refine ⟨_, _, houtcome, hreordered, ?_, ?_⟩
  · rw [haccepted, haccepted']
    simp only [hperm.mem_iff]
  · rw [hrejected, hrejected']
    simp only [hperm.mem_iff]

/-! ### Candidates judged alone -/

/-- What filters make of candidates, by what they answer for each candidate alone. -/
structure FilteredAlone (filters : List Filter) (index : Index) (candidates : List ModuleId) :
    Prop where
  succeeds : (∃ outcome, filterCandidates filters index candidates = .ok outcome) ↔
    ∀ id ∈ candidates, ∃ rejectedBy, verdict index id filters = .ok rejectedBy
  accepts : ∀ outcome, filterCandidates filters index candidates = .ok outcome →
    outcome.accepted =
      candidates.filter fun id => ∀ filter ∈ filters, filter.ask index id = .ok true
  appends : ∀ further outcome,
    filterCandidates filters index (candidates ++ further) = .ok outcome ↔
      ∃ front back, filterCandidates filters index candidates = .ok front ∧
        filterCandidates filters index further = .ok back ∧ outcome = front.append back
  reorders : (∀ id ∈ candidates, ∀ filter ∈ filters,
      ∃ passes, filter.ask index id = .ok passes) →
    ∀ others, filters.Perm others →
      ∃ outcome reordered, filterCandidates filters index candidates = .ok outcome ∧
        filterCandidates others index candidates = .ok reordered ∧
        outcome.accepted = reordered.accepted ∧
        outcome.rejected.map Rejection.id = reordered.rejected.map Rejection.id
  fails : ∀ cause, filterCandidates filters index candidates = .error cause ↔
    FailsFirst filters index candidates cause

/-- **Filters that judge each module on its own** filter candidates as they judge each of them: the run
succeeds when every candidate alone has a verdict, those pass that all filters let pass, and a run
that fails does so with the first failure by filter and then by candidate. -/
theorem filteredAlone_filterCandidates (h : ∀ filter ∈ filters, filter.JudgesAlone) (index : Index)
    (candidates : List ModuleId) : FilteredAlone filters index candidates where
  succeeds := by
    simp only [filterCandidates_eq_ok_iff h]
    exact ⟨fun ⟨_, hverdict, _⟩ => hverdict, fun hverdict => ⟨_, hverdict, rfl⟩⟩
  accepts outcome houtcome := (outcome_of_ok h houtcome).1
  appends further outcome := filterCandidates_append_iff h
  reorders hanswers others hperm := filterCandidates_of_perm h hanswers hperm
  fails cause := filterCandidates_eq_error_iff h

/-- A question that has no answer for `b`, in front of toggles of which that of `x` is no Boolean. -/
def crossed : List Filter :=
  [.ofPredicate "wary" fun id _ => if id = "b" then .error "cannot say" else .ok (id ≠ "c"),
    Condition.onEnabled ⟨⟨1⟩, fun key => if key = "module.x.enabled" then some "perhaps" else none⟩
      ⟨"module", "enabled"⟩]

/-- An index with that toggle for `a` and for `c`. -/
def crossedIndex : Index :=
  ((Index.empty.insert ⟨"a", "ConditionalOnEnabled", "x"⟩).2.insert
    ⟨"c", "ConditionalOnEnabled", "x"⟩).2

/-- Alone, `a` comes first and fails at its toggle; together, `b` fails before it, and `c` not at
all. -/
theorem filteredAlone_filterCandidates_crossed :
    (∀ filter ∈ crossed, filter.JudgesAlone) ∧
      verdict crossedIndex "a" crossed =
        .error (.filter "on-enabled" "property 'module.x.enabled' has invalid value 'perhaps'") ∧
      verdict crossedIndex "c" crossed = .ok (some "wary") ∧
      FailsFirst crossed crossedIndex ["a", "c", "b"] (.filter "wary" "cannot say") ∧
      FilteredAlone crossed crossedIndex ["d", "c", "d"] := by
  have hcrossed : ∀ filter ∈ crossed, filter.JudgesAlone := by
    intro filter hfilter
    rcases List.mem_pair.mp hfilter with rfl | rfl
    · exact Filter.judgesAlone_ofPredicate _ _
    · exact Filter.judgesAlone_onEnabled _ _
  refine ⟨hcrossed, by decide +kernel, by decide +kernel, ?_,
    filteredAlone_filterCandidates hcrossed crossedIndex _⟩
  have hresult : filterCandidates crossed crossedIndex ["a", "c", "b"] =
      .error (.filter "wary" "cannot say") := by decide +kernel
  exact ((filteredAlone_filterCandidates hcrossed crossedIndex _).fails _).mp hresult

end Activation
