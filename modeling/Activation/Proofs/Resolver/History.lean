/-
The calls of a resolver in any order.

A resolver keeps nothing between its calls but what its loader keeps, and that
shows only in the index a load serves. So no call can be told from the first.

* `Resolver.Call`, `Answer`, `Response`, `Resolver.perform`: the calls, and what
  can be seen of one.
* `Resolver.served`, `response`, `perform_eq`: a response hangs on the index that
  is served, and on nothing else that calls change.
* `Resolver.consults`, `after`: whether a call comes to loading the index, and the
  loader after calls.
* `Resolver.served_perform`, `served_after`: a call leaves the served index as it
  was, and so do calls in turn, while the source stays the same.
* `Resolver.after_of_steady`: once an index is loaded, calls change nothing.
* `Resolver.resolveAmid`, `outcome_resolveAmid`: a run over sites that the files
  change under.
* `Resolver.response_after`: what a call responds whatever went before it.
-/
import Activation.Proofs.Resolver.Run

namespace Activation

namespace Resolver

/-- A call of a resolver. -/
inductive Call where
  | isEnabled
  | select (site : Site)
  | shouldExclude (id : ModuleId)
  | resolve (sites : List Site)
deriving DecidableEq

/-- What a call returns when it succeeds. -/
inductive Answer where
  | enabled (on : Bool)
  | selected (report : SiteReport)
  | excluded (rejected : Bool)
  | resolved (resolution : Resolution)
deriving DecidableEq

/-- What can be seen of a call: what it returns, and what it tells the listeners. -/
structure Response where
  result : Except ResolveError Answer
  events : List Notification
deriving DecidableEq

end Resolver

/-- The response that an outcome makes, and the loader's state behind it. -/
def Outcome.respond {α : Type} (outcome : Outcome α) (answer : α → Resolver.Answer) :
    Resolver.Response × LoaderState :=
  (⟨outcome.result.map answer, outcome.events⟩, outcome.loader)

namespace Resolver

section Calls

variable (resolver : Resolver) (files : FileReader) (state : LoaderState)

/-- A call: what it responds, and the loader's state behind it. -/
def perform : Call → Response × LoaderState
  | .isEnabled => (⟨resolver.isEnabled.map .enabled, []⟩, state)
  | .select site => ((resolver.select files site).outcome state).respond .selected
  | .shouldExclude id => ((resolver.shouldExclude files id).outcome state).respond .excluded
  | .resolve sites => ((resolver.resolve files sites).outcome state).respond .resolved

/-- The loader's state after calls in turn, each with the files as they stand at its moment. -/
def after (moments : List (FileReader × Call)) : LoaderState :=
  moments.foldl (fun state moment => (resolver.perform moment.1 state moment.2).2) .initial

/-- The index that a load serves, or why there is none. -/
def served : Except ResolveError Index :=
  (resolver.loader.load files resolver.environment.identity state).1.map LoadedIndex.index

/-- Whether a call comes to loading the index. -/
def consults : Call → Bool
  | .isEnabled => false
  | .select site =>
    match resolver.admission site with
    | .ok (.candidates _ _) => true
    | _ => false
  | .shouldExclude _ => true
  | .resolve _ => true

/-- The index is loaded, with success, in the course of a call. -/
def Loads (moment : FileReader × Call) : Prop :=
  resolver.consults moment.2 = true ∧
    ∃ loaded, (resolver.loader.load moment.1 resolver.environment.identity state).1 = .ok loaded

/-- What a call responds under an index. -/
def responseUnder (index : Index) : Call → Response
  | .isEnabled => ⟨resolver.isEnabled.map .enabled, []⟩
  | .select site => ⟨(resolver.report index site).map .selected, resolver.told index site⟩
  | .shouldExclude id =>
    ⟨(filterCandidates resolver.filters index [id]).map fun outcome =>
      .excluded outcome.accepted.isEmpty, []⟩
  | .resolve sites =>
    ⟨(resolver.resolution index sites).map .resolved, resolver.toldAll index sites⟩

/-- What a call responds when its load serves an index, or fails. -/
def response (served : Except ResolveError Index) (call : Call) : Response :=
  match served with
  | .ok index => resolver.responseUnder index call
  | .error cause =>
    if resolver.consults call then ⟨.error cause, []⟩ else resolver.responseUnder .empty call

end Calls

variable {resolver : Resolver} {files other : FileReader} {state : LoaderState} {index : Index}
  {loaded : LoadedIndex} {moments : List (FileReader × Call)}

/-! ### One call -/

/-- Candidates are judged by the index that is served for them. -/
lemma exec_judge_eq (resolver : Resolver) (files : FileReader) (trace : Trace)
    (candidates : List ModuleId) :
    (resolver.judge files candidates).exec trace =
      ((resolver.served files trace.loader).bind fun index =>
          filterCandidates resolver.filters index candidates,
        { trace with
          loader := (resolver.loader.load files resolver.environment.identity trace.loader).2 }) := by
  rw [judge, Run.exec_bind, exec_loadIndex, served]
  cases (resolver.loader.load files resolver.environment.identity trace.loader).1 <;> rfl

lemma response_of_ok (index : Index) (call : Call) :
    resolver.response (.ok index) call = resolver.responseUnder index call := rfl

lemma response_of_error {call : Call} (h : resolver.consults call = true) (cause : ResolveError) :
    resolver.response (.error cause) call = ⟨.error cause, []⟩ :=
  if_pos h

/-- The call that selects a site comes to loading the index for the candidates of the site. -/
lemma admission_of_consults {site : Site} (h : resolver.consults (.select site) = true) :
    ∃ remaining exclusions, resolver.admission site = .ok (.candidates remaining exclusions) := by
  rw [consults] at h
  split at h
  · rename_i remaining exclusions hadmission
    exact ⟨remaining, exclusions, hadmission⟩
  · cases h

/-- A call that does not come to loading the index responds the same under every index, and leaves
the loader as it is. -/
lemma perform_of_not_consults {call : Call} (h : resolver.consults call = false) (index : Index) :
    resolver.perform files state call = (resolver.responseUnder index call, state) := by
  cases call with
  | isEnabled => rfl
  | select site =>
      rw [perform, responseUnder, told, report, Run.outcome_eq, select]
      rw [consults] at h
      cases hadmission : resolver.admission site with
      | error cause => rfl
      | ok admission =>
          cases admission with
          | disabled => rfl
          | candidates remaining exclusions => simp [hadmission] at h
  | shouldExclude id => simp [consults] at h
  | resolve sites => simp [consults] at h

/-- A call that comes to loading the index responds by what the load serves, and moves the loader as
the load does. -/
lemma perform_of_consults {call : Call} (h : resolver.consults call = true) :
    resolver.perform files state call =
      (resolver.response (resolver.served files state) call,
        (resolver.loader.load files resolver.environment.identity state).2) := by
  cases call with
  | isEnabled => simp [consults] at h
  | select site =>
      obtain ⟨remaining, exclusions, hadmission⟩ := admission_of_consults h
      have hjudge := exec_judge_eq resolver files ⟨state, []⟩ remaining
      rw [perform, Run.outcome_eq, select, hadmission]
      simp only [Run.exec_bind, hjudge]
      cases resolver.served files state with
      | error cause => rw [response_of_error h]; rfl
      | ok index =>
          rw [response_of_ok, responseUnder, told, report, hadmission]
          simp only [Except.bind]
          cases filterCandidates resolver.filters index remaining <;> rfl
  | shouldExclude id =>
      have hjudge := exec_judge_eq resolver files ⟨state, []⟩ [id]
      rw [perform, Run.outcome_eq, shouldExclude]
      simp only [Run.exec_bind, hjudge]
      cases resolver.served files state with
      | error cause => rw [response_of_error h]; rfl
      | ok index =>
          rw [response_of_ok, responseUnder]
          simp only [Except.bind]
          cases filterCandidates resolver.filters index [id] <;> rfl
  | resolve sites =>
      rw [perform, Run.outcome_eq, exec_resolve, served]
      cases resolver.loader.load files resolver.environment.identity state with
      | mk result loader =>
          cases result with
          | error cause => exact Prod.ext (response_of_error h cause).symm rfl
          | ok loaded => rfl

/-- **A call responds** by the index that is served, and moves the loader as far as its load does. -/
lemma perform_eq (resolver : Resolver) (files : FileReader) (state : LoaderState) (call : Call) :
    resolver.perform files state call =
      (resolver.response (resolver.served files state) call,
        if resolver.consults call then
          (resolver.loader.load files resolver.environment.identity state).2
        else state) := by
  cases hconsults : resolver.consults call with
  | true => rw [perform_of_consults hconsults, if_pos rfl]
  | false =>
      cases hserved : resolver.served files state with
      | ok index => exact perform_of_not_consults hconsults index
      | error cause =>
          have hresponse : resolver.response (.error cause) call =
              resolver.responseUnder .empty call := if_neg (by simp [hconsults])
          rw [hresponse]
          exact perform_of_not_consults hconsults .empty

/-! ### Calls in turn -/

/-- A load leaves the served index as it was. -/
lemma served_load (resolver : Resolver) (files : FileReader) (state : LoaderState) :
    resolver.served files (resolver.loader.load files resolver.environment.identity state).2 =
      resolver.served files state := by
  rw [served, Loader.load_load, served]

/-- So does a call while the source stays the same. -/
lemma served_perform (h : resolver.loader.SameSource other files) (state : LoaderState)
    (call : Call) :
    resolver.served files (resolver.perform other state call).2 = resolver.served files state := by
  have hload := Loader.load_congr h resolver.environment.identity state
  rw [perform_eq, hload]
  cases resolver.consults call with
  | true => exact served_load resolver files state
  | false => rfl

lemma after_concat (resolver : Resolver) (moments : List (FileReader × Call))
    (moment : FileReader × Call) :
    resolver.after (moments ++ [moment]) =
      (resolver.perform moment.1 (resolver.after moments) moment.2).2 := by
  rw [after, List.foldl_append]
  rfl

/-- **Calls in turn** leave the served index as it was at first, while the source stays the same. -/
lemma served_after (h : ∀ moment ∈ moments, resolver.loader.SameSource moment.1 files) :
    resolver.served files (resolver.after moments) = resolver.served files .initial := by
  induction moments using List.reverseRecOn with
  | nil => rfl
  | append_singleton moments moment ih =>
      have hlast := h moment (List.mem_append_right moments (List.mem_singleton_self moment))
      have hearlier := ih fun earlier hmem => h earlier (List.mem_append_left [moment] hmem)
      rw [after_concat, served_perform hlast, hearlier]

/-- A call that loads the index leaves it to be served whatever the files hold by then. -/
lemma load_perform {moment : FileReader × Call} (h : resolver.Loads state moment) :
    ∃ loaded, resolver.served moment.1 state = .ok loaded.index ∧ ∀ files,
      resolver.loader.load files resolver.environment.identity
        (resolver.perform moment.1 state moment.2).2 =
      (.ok loaded, (resolver.perform moment.1 state moment.2).2) := by
  obtain ⟨hconsults, loaded, hloaded⟩ := h
  have hload : resolver.loader.load moment.1 resolver.environment.identity state =
      (.ok loaded, (resolver.perform moment.1 state moment.2).2) := by
    rw [perform_of_consults hconsults]
    exact Prod.ext hloaded rfl
  refine ⟨loaded, ?_, fun files => Loader.load_again hload⟩
  rw [served, hloaded]
  rfl

/-- **Once an index is loaded** and served whatever the files hold, no call changes anything. -/
lemma after_of_steady {earlier : List (FileReader × Call)}
    (h : ∀ files, resolver.loader.load files resolver.environment.identity
      (resolver.after earlier) = (.ok loaded, resolver.after earlier)) :
    resolver.after (earlier ++ moments) = resolver.after earlier := by
  induction moments using List.reverseRecOn with
  | nil => rw [List.append_nil]
  | append_singleton moments moment ih =>
      rw [← List.append_assoc, after_concat, ih, perform_eq]
      cases resolver.consults moment.2 with
      | true => exact congrArg Prod.snd (h moment.1)
      | false => rfl

/-! ### Changes during a run -/

/-- A run over sites under which the files change: they stand otherwise for each site than for the
load that the run begins with. -/
def resolveAmid (resolver : Resolver) (files : FileReader) (turns : List (FileReader × Site)) :
    Run Resolution := do
  let index ← resolver.loadIndex files
  let reports ← turns.mapM fun turn => resolver.select turn.1 turn.2
  let imports ← ofExcept (coordinate index (turns.map Prod.snd) reports).selectImports.1
  return ⟨imports, reports⟩

/-- Such changes make no difference. -/
lemma outcome_resolveAmid (resolver : Resolver) (files : FileReader)
    (turns : List (FileReader × Site)) (state : LoaderState) :
    (resolver.resolveAmid files turns).outcome state =
      (resolver.resolve files (turns.map Prod.snd)).outcome state := by
  suffices h : (resolver.resolveAmid files turns).exec ⟨state, []⟩ =
      (resolver.resolve files (turns.map Prod.snd)).exec ⟨state, []⟩ by
    rw [Run.outcome_eq, Run.outcome_eq, h]
  rw [resolveAmid, resolve, Run.exec_bind, Run.exec_bind, exec_loadIndex]
  cases hload : resolver.loader.load files resolver.environment.identity state with
  | mk result loader =>
      cases result with
      | error cause => rfl
      | ok loaded =>
          have hsettled : resolver.Settled files loaded.index loader := settled_of_load hload
          simp only [Except.map, Run.exec_bind]
          rw [exec_mapM_amid turns ⟨loader, []⟩ hsettled,
            exec_mapM_select (turns.map Prod.snd) ⟨loader, []⟩ hsettled]
          cases (turns.map Prod.snd).mapM (resolver.report loaded.index) with
          | error cause => rfl
          | ok reports =>
              simp only
              cases (coordinate loaded.index (turns.map Prod.snd) reports).selectImports.1 <;> rfl

/-- **No history shows**: whatever calls went before, whether they succeeded or failed, a call
responds as the first call would while the source stays the same; once one of them has loaded the
index, it responds as it would have then, however the files have changed; and no run heeds changes
behind its load. -/
theorem response_after (resolver : Resolver) (moments : List (FileReader × Call))
    (files : FileReader) (call : Call) :
    ((∀ moment ∈ moments, resolver.loader.SameSource moment.1 files) →
      (resolver.perform files (resolver.after moments) call).1 =
        (resolver.perform files .initial call).1) ∧
    (∀ earlier moment later, moments = earlier ++ moment :: later →
      resolver.Loads (resolver.after earlier) moment →
        (resolver.perform files (resolver.after moments) call).1 =
          (resolver.perform moment.1 (resolver.after earlier) call).1) ∧
    ∀ turns state, (resolver.resolveAmid files turns).outcome state =
      (resolver.resolve files (turns.map Prod.snd)).outcome state := by
  refine ⟨fun hsame => ?_, ?_, fun turns state => outcome_resolveAmid resolver files turns state⟩
  · rw [perform_eq, perform_eq, served_after hsame]
  · rintro earlier moment later rfl hloads
    obtain ⟨loaded, hserved, hsteady⟩ := load_perform hloads
    rw [← after_concat] at hsteady
    have hafter : resolver.after (earlier ++ moment :: later) =
        resolver.after (earlier ++ [moment]) := by
      rw [List.append_cons]
      exact after_of_steady hsteady
    have hnow : resolver.served files (resolver.after (earlier ++ [moment])) =
        .ok loaded.index := by
      rw [served, hsteady]
      rfl
    rw [perform_eq, perform_eq, hafter, hnow, hserved]

/-- A resolver of two modules that needs an index file. -/
def filed : Resolver where
  registry := ⟨["a", "b"], fun _ => true⟩
  environment := ⟨⟨1⟩, fun _ => none⟩
  loader := ⟨.file "index", true⟩
  filters := []
  listeners := 1
  keys := .standard

theorem response_after_filed :
    let missing : FileReader := fun _ => .error .notFound
    let first : FileReader := fun _ => .ok "a.After=b"
    let second : FileReader := fun _ => .ok "b.After=a"
    let run := Call.resolve [.named "one"]
    let earlier := [(missing, run)]
    let moments := earlier ++ (first, .shouldExclude "a") :: [(second, run)]
    (filed.perform missing .initial run).1 =
      ⟨.error (.metadata (.unreadable "index" .notFound)), []⟩ ∧
    ((filed.perform missing (filed.after moments) run).1.result =
        .ok (.resolved ⟨[⟨"one", "b"⟩, ⟨"one", "a"⟩], [⟨"one", ⟨["a", "b"], .empty⟩, []⟩]⟩) ∧
      (filed.perform missing (filed.after moments) run).1 =
        (filed.perform first (filed.after earlier) run).1) ∧
    (filed.perform first (filed.after [(first, .select (.named "one")), (first, run)]) run).1 =
      (filed.perform first .initial run).1 := by
  intro missing first second run earlier moments
  have hloads : filed.Loads (filed.after earlier) (first, .shouldExclude "a") := ⟨rfl, _, rfl⟩
  have hsame : ∀ moment ∈ [(first, Call.select (.named "one")), (first, run)],
      filed.loader.SameSource moment.1 first := by
    rintro moment hmoment path -
    simp only [List.mem_cons, List.not_mem_nil, or_false] at hmoment
    rcases hmoment with rfl | rfl <;> rfl
  refine ⟨by decide +kernel, ⟨by decide +kernel, ?_⟩, ?_⟩
  · exact (response_after filed moments missing run).2.1 earlier (first, .shouldExclude "a")
      [(second, run)] rfl hloads
  · exact (response_after filed [(first, .select (.named "one")), (first, run)] first run).1 hsame

end Resolver

end Activation
