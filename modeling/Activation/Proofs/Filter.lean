/-
Filters that judge each module on its own.

* `Filter.JudgesAlone`: the answer for a slot hangs on its module and the index
  alone. The built-in conditions are of this kind.
* `Filter.ask`, `verdict`: the answer of such a filter for one module, and the
  first filter in a row that rejects the module.
* `runFilters_eq_ok_iff`: a run over many slots is a run over each.
* `filterCandidates_eq_ok_iff`: candidates are filtered when each has a verdict,
  and those pass that no filter rejects.
-/
import Activation.Condition
import Activation.Proofs.Filter.Slots
import Activation.Proofs.Traversal

namespace Activation

namespace Filter

variable {filter : Filter} {index : Index} {slots next : List Slot}

/-- The filter puts one question to each live slot. -/
def JudgesAlone (filter : Filter) : Prop :=
  ∃ question : ModuleId → Index → Except String Bool, filter = .ofPredicate filter.name question

lemma judgesAlone_ofPredicate (name : String)
    (question : ModuleId → Index → Except String Bool) :
    (ofPredicate name question).JudgesAlone :=
  ⟨question, rfl⟩

lemma judgesAlone_onModule (catalog : Catalog) : (Condition.onModule catalog).JudgesAlone :=
  judgesAlone_ofPredicate _ _

lemma judgesAlone_onProperty (environment : Environment) :
    (Condition.onProperty environment).JudgesAlone :=
  judgesAlone_ofPredicate _ _

lemma judgesAlone_onEnabled (environment : Environment) (toggles : Condition.Toggles) :
    (Condition.onEnabled environment toggles).JudgesAlone :=
  judgesAlone_ofPredicate _ _

/-- The answer for a module that stands alone. -/
def ask (filter : Filter) (index : Index) (id : ModuleId) : Except String Bool :=
  (filter.judge [some id] index).map fun answers => answers.headD true

lemma ask_ofPredicate (name : String) (question : ModuleId → Index → Except String Bool)
    (index : Index) (id : ModuleId) :
    (ofPredicate name question).ask index id = question id index := by
  simp only [ask, ofPredicate, List.mapM_cons, List.mapM_nil]
  cases question id index <;> rfl

/-- The answer for a slot; an empty one is let pass. -/
def answer (filter : Filter) (index : Index) (slot : Option ModuleId) : Except String Bool :=
  match slot with
  | some id => filter.ask index id
  | none => .ok true

/-- What the answer for a slot makes of it. -/
def settle (filter : Filter) (index : Index) (slot : Slot) : Except String Slot :=
  (filter.answer index slot.shown).map (slot.answered filter.name)

lemma settle_rejected (id : ModuleId) (name : String) :
    filter.settle index ⟨id, some name⟩ = .ok ⟨id, some name⟩ := rfl

lemma settle_live (id : ModuleId) :
    filter.settle index ⟨id, none⟩ =
      (filter.ask index id).map fun passes => ⟨id, if passes then none else some filter.name⟩ := by
  have hshown : (⟨id, none⟩ : Slot).shown = some id := rfl
  rw [settle, hshown]
  refine congrArg (Except.map · _) (funext fun passes => ?_)
  cases passes <;> rfl

/-- Such a filter answers for each slot on its own. -/
lemma JudgesAlone.judge_eq (h : filter.JudgesAlone) (slots : List (Option ModuleId))
    (index : Index) : filter.judge slots index = slots.mapM (filter.answer index) := by
  obtain ⟨question, hquestion⟩ := h
  rw [hquestion]
  refine congrArg (slots.mapM ·) (funext fun slot => ?_)
  cases slot with
  | none => rfl
  | some id => exact (ask_ofPredicate filter.name question index id).symm

lemma mapM_settle (filter : Filter) (index : Index) (slots : List Slot) :
    slots.mapM (filter.settle index) =
      ((slots.map Slot.shown).mapM (filter.answer index)).map
        (List.zipWith (Slot.answered filter.name) slots) := by
  induction slots with
  | nil => rfl
  | cons slot slots ih =>
      rw [List.mapM_cons, List.map_cons, List.mapM_cons, ih, settle]
      cases filter.answer index slot.shown with
      | error detail => rfl
      | ok passes => cases (slots.map Slot.shown).mapM (filter.answer index) <;> rfl

/-- Such a filter settles each slot on its own. -/
lemma JudgesAlone.apply_eq (h : filter.JudgesAlone) (index : Index) (slots : List Slot) :
    filter.apply index slots =
      (slots.mapM (filter.settle index)).mapError (.filter filter.name) := by
  rw [apply, h.judge_eq, mapM_settle]
  cases hanswers : (slots.map Slot.shown).mapM (filter.answer index) with
  | error detail => rfl
  | ok answers =>
      have hlen : answers.length = slots.length := by
        rw [← (mapM_eq_ok_iff.mp hanswers).length_eq, List.length_map]
      simp only [hlen, if_true]
      rfl

lemma JudgesAlone.apply_eq_ok_iff (h : filter.JudgesAlone) :
    filter.apply index slots = .ok next ↔
      List.Forall₂ (fun slot after => filter.settle index slot = .ok after) slots next := by
  rw [h.apply_eq, ← mapM_eq_ok_iff]
  cases slots.mapM (filter.settle index) <;> simp [Except.mapError]

end Filter

/-! ### Filters in a row -/

variable {filters : List Filter} {index : Index} {id : ModuleId} {slot after : Slot}

/-- The first filter in a row that rejects a module, each being asked about the module alone. -/
def verdict (index : Index) (id : ModuleId) : List Filter → Except ResolveError (Option String)
  | [] => .ok none
  | filter :: filters =>
    match filter.ask index id with
    | .error detail => .error (.filter filter.name detail)
    | .ok true => verdict index id filters
    | .ok false => .ok (some filter.name)

/-- What filters in a row make of a slot. -/
def settleAll (index : Index) (filters : List Filter) (slot : Slot) : Except ResolveError Slot :=
  match slot.rejectedBy with
  | some _ => .ok slot
  | none => (verdict index slot.id filters).map (Slot.mk slot.id)

lemma settleAll_nil (index : Index) (slot : Slot) : settleAll index [] slot = .ok slot := by
  obtain ⟨id, rejectedBy⟩ := slot
  cases rejectedBy <;> rfl

/-- A slot goes through a row of filters one at a time. -/
lemma settleAll_cons (index : Index) (filter : Filter) (filters : List Filter) (slot : Slot) :
    settleAll index (filter :: filters) slot =
      match filter.settle index slot with
      | .error detail => .error (.filter filter.name detail)
      | .ok between => settleAll index filters between := by
  obtain ⟨id, rejectedBy⟩ := slot
  cases rejectedBy with
  | some name => rfl
  | none =>
      have hcons : settleAll index (filter :: filters) ⟨id, none⟩ =
          (verdict index id (filter :: filters)).map (Slot.mk id) := rfl
      rw [Filter.settle_live, hcons, verdict]
      cases filter.ask index id with
      | error detail => rfl
      | ok passes => cases passes <;> rfl

lemma settleAll_cons_eq_ok_iff {filter : Filter} :
    settleAll index (filter :: filters) slot = .ok after ↔
      ∃ between, filter.settle index slot = .ok between ∧
        settleAll index filters between = .ok after := by
  rw [settleAll_cons]
  cases filter.settle index slot <;> simp

lemma forall₂_exists_iff {α β γ : Type} {R : α → β → Prop} {S : β → γ → Prop} {xs : List α}
    {zs : List γ} :
    (∃ ys, List.Forall₂ R xs ys ∧ List.Forall₂ S ys zs) ↔
      List.Forall₂ (fun x z => ∃ y, R x y ∧ S y z) xs zs := by
  constructor
  · rintro ⟨ys, hxy, hyz⟩
    induction hxy generalizing zs with
    | nil => cases hyz; exact .nil
    | cons hr _ ih =>
        cases hyz with
        | cons hs hyz => exact .cons ⟨_, hr, hs⟩ (ih hyz)
  · intro h
    induction h with
    | nil => exact ⟨[], .nil, .nil⟩
    | cons hxz _ ih =>
        obtain ⟨y, hr, hs⟩ := hxz
        obtain ⟨ys, hxy, hyz⟩ := ih
        exact ⟨y :: ys, .cons hr hxy, .cons hs hyz⟩

/-- **A run over many slots** is a run over each of them. -/
theorem runFilters_eq_ok_iff (h : ∀ filter ∈ filters, filter.JudgesAlone)
    {slots final : List Slot} :
    (runFilters index filters slots).slots = .ok final ↔
      List.Forall₂ (fun slot after => settleAll index filters slot = .ok after) slots final := by
  induction filters generalizing slots with
  | nil =>
      simp only [settleAll_nil, Except.ok.injEq, List.forall₂_eq_eq_eq]
      exact ⟨Except.ok.inj, congrArg _⟩
  | cons filter filters ih =>
      obtain ⟨hfilter, hfilters⟩ := List.forall_mem_cons.mp h
      have hstep : (runFilters index (filter :: filters) slots).slots = .ok final ↔
          ∃ next, filter.apply index slots = .ok next ∧
            (runFilters index filters next).slots = .ok final := by
        rw [runFilters]
        cases filter.apply index slots <;> simp
      simp only [hstep, hfilter.apply_eq_ok_iff, ih hfilters, forall₂_exists_iff,
        settleAll_cons_eq_ok_iff]

/-- The filter that rejects a module, if there is one. -/
def rejecter (filters : List Filter) (index : Index) (id : ModuleId) : Option String :=
  match verdict index id filters with
  | .ok rejectedBy => rejectedBy
  | .error _ => none

/-- Every candidate gets its own verdict, and all of them need one. -/
lemma runFilters_fresh_eq_ok_iff (h : ∀ filter ∈ filters, filter.JudgesAlone)
    {candidates : List ModuleId} {final : List Slot} :
    (runFilters index filters (candidates.map Slot.fresh)).slots = .ok final ↔
      (∀ id ∈ candidates, ∃ rejectedBy, verdict index id filters = .ok rejectedBy) ∧
        final = candidates.map fun id => ⟨id, rejecter filters index id⟩ := by
  rw [runFilters_eq_ok_iff h, List.forall₂_map_left_iff]
  induction candidates generalizing final with
  | nil => simp
  | cons id candidates ih =>
      have hfresh : settleAll index filters (Slot.fresh id) =
          (verdict index id filters).map (Slot.mk id) := rfl
      rw [List.forall₂_cons_left_iff, List.forall_mem_cons, List.map_cons]
      simp only [ih, hfresh, rejecter]
      cases verdict index id filters with
      | error cause => simp [Except.map]
      | ok rejectedBy => simp [Except.map]

/-- **Candidates are filtered one by one.** -/
theorem filterCandidates_eq_ok_iff (h : ∀ filter ∈ filters, filter.JudgesAlone)
    {candidates : List ModuleId} {outcome : FilterOutcome} :
    filterCandidates filters index candidates = .ok outcome ↔
      (∀ id ∈ candidates, ∃ rejectedBy, verdict index id filters = .ok rejectedBy) ∧
        outcome = .ofSlots (candidates.map fun id => ⟨id, rejecter filters index id⟩) := by
  rw [filterCandidates_eq]
  constructor
  · intro houtcome
    cases hrun : (runFilters index filters (candidates.map Slot.fresh)).slots with
    | error cause => rw [hrun] at houtcome; cases houtcome
    | ok final =>
        rw [hrun] at houtcome
        obtain ⟨hverdict, rfl⟩ := (runFilters_fresh_eq_ok_iff h).mp hrun
        exact ⟨hverdict, (Except.ok.inj houtcome).symm⟩
  · rintro ⟨hverdict, rfl⟩
    rw [(runFilters_fresh_eq_ok_iff h).mpr ⟨hverdict, rfl⟩]
    rfl

/-- The candidates that pass are those that no filter rejects. -/
lemma mem_accepted_ofSlots {candidates : List ModuleId} {rejectedBy : ModuleId → Option String} :
    id ∈ (FilterOutcome.ofSlots (candidates.map fun id => ⟨id, rejectedBy id⟩)).accepted ↔
      id ∈ candidates ∧ rejectedBy id = none := by
  simp [FilterOutcome.ofSlots]

end Activation
