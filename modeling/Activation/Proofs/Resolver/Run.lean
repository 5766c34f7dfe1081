/-
What the calls of a resolver come to.

* `Run.exec`: the result of a call and the trace it leaves, with an equation for
  each way calls are put together; `Run.exec_mapM` is the one for calls in turn.
* `Resolver.report`, `Resolver.told`: what a site comes to under an index, and
  what the listeners are told about it.
* `Resolver.result_select`, `result_shouldExclude`: the results of single calls
  under the index that is loaded for them.
* `Resolver.exec_select`, `Resolver.exec_resolve`: the calls in these terms, as
  functions of the index alone.
-/
import Activation.Proofs.Index.Loader
import Activation.Resolver

namespace Activation

namespace Run

variable {α β : Type}

/-- The result of a call made on a trace, and the trace it leaves. -/
def exec (call : Run α) (trace : Trace) : Except ResolveError α × Trace := call.run.run trace

lemma exec_pure (a : α) (trace : Trace) : (pure a : Run α).exec trace = (.ok a, trace) := rfl

lemma exec_throw (cause : ResolveError) (trace : Trace) :
    (throw cause : Run α).exec trace = (.error cause, trace) := rfl

lemma exec_bind (call : Run α) (next : α → Run β) (trace : Trace) :
    (call >>= next).exec trace =
      match call.exec trace with
      | (.ok a, after) => (next a).exec after
      | (.error cause, after) => (.error cause, after) := by
  have hbind : (call >>= next).exec trace =
      Run.exec (ExceptT.mk (ExceptT.bindCont next (call.exec trace).1)) (call.exec trace).2 := rfl
  rw [hbind]
  cases call.exec trace with
  | mk result after => cases result <;> rfl

/-- Calls in turn that leave the loader as it is come to what each of them comes to. -/
lemma exec_mapM {γ : Type} {call : γ → Run α} {result : γ → Except ResolveError α}
    {loader : LoaderState}
    (hcall : ∀ c events, ∃ told, (call c).exec ⟨loader, events⟩ = (result c, ⟨loader, told⟩))
    (cs : List γ) (events : List Notification) :
    ∃ told, (cs.mapM call).exec ⟨loader, events⟩ = (cs.mapM result, ⟨loader, told⟩) := by
  induction cs generalizing events with
  | nil => exact ⟨events, rfl⟩
  | cons c cs ih =>
      obtain ⟨between, hhead⟩ := hcall c events
      obtain ⟨told, htail⟩ := ih between
      simp only [List.mapM_cons, exec_bind, hhead]
      cases result c with
      | error cause => exact ⟨between, rfl⟩
      | ok a =>
          simp only [htail]
          refine ⟨told, ?_⟩
          cases cs.mapM result <;> rfl

lemma outcome_eq (call : Run α) (state : LoaderState) :
    call.outcome state =
      ⟨(call.exec ⟨state, []⟩).1, (call.exec ⟨state, []⟩).2.events,
        (call.exec ⟨state, []⟩).2.loader⟩ :=
  rfl

end Run

namespace Resolver

variable (resolver : Resolver) (files : FileReader) (index : Index)

/-- The loader serves the index, and serving it changes nothing. -/
def Settled (loader : LoaderState) : Prop :=
  ∃ loaded, resolver.loader.load files resolver.environment.identity loader = (.ok loaded, loader) ∧
    loaded.index = index

/-- What a site comes to under an index. -/
def report (site : Site) : Except ResolveError SiteReport :=
  match resolver.admission site with
  | .error cause => .error cause
  | .ok .disabled => .ok ⟨site.name, .empty, []⟩
  | .ok (.candidates remaining exclusions) =>
    (filterCandidates resolver.filters index remaining).map fun outcome =>
      ⟨site.name, ⟨outcome.accepted, exclusions⟩, outcome.rejected⟩

/-- What the listeners are told about a site. -/
def told (site : Site) : List Notification :=
  match resolver.admission site, resolver.report index site with
  | .ok (.candidates _ _), .ok report =>
    resolver.notifications ⟨site.name, report.entry.configurations, report.entry.exclusions⟩
  | _, _ => []

/-- What the listeners are told about sites, up to the first that fails. -/
def toldAll : List Site → List Notification
  | [] => []
  | site :: sites =>
    resolver.told index site ++
      match resolver.report index site with
      | .ok _ => toldAll sites
      | .error _ => []

/-- What several sites come to together. -/
def resolution (sites : List Site) : Except ResolveError Resolution :=
  match sites.mapM (resolver.report index) with
  | .error cause => .error cause
  | .ok reports =>
    (coordinate index sites reports).selectImports.1.map fun imports => ⟨imports, reports⟩

variable {resolver files index}

lemma exec_loadIndex (trace : Trace) :
    (resolver.loadIndex files).exec trace =
      ((resolver.loader.load files resolver.environment.identity trace.loader).1.map
          LoadedIndex.index,
        { trace with
          loader := (resolver.loader.load files resolver.environment.identity trace.loader).2 }) :=
  rfl

/-- Candidates are judged by the index that is loaded for them. -/
lemma exec_judge_of_load (trace : Trace) {loaded : LoadedIndex} {after : LoaderState}
    (h : resolver.loader.load files resolver.environment.identity trace.loader =
      (.ok loaded, after)) (candidates : List ModuleId) :
    (resolver.judge files candidates).exec trace =
      (filterCandidates resolver.filters loaded.index candidates,
        { trace with loader := after }) := by
  rw [judge, Run.exec_bind, exec_loadIndex, h]
  rfl

lemma exec_judge (trace : Trace) (h : resolver.Settled files index trace.loader)
    (candidates : List ModuleId) :
    (resolver.judge files candidates).exec trace =
      (filterCandidates resolver.filters index candidates, trace) := by
  obtain ⟨loaded, hload, rfl⟩ := h
  exact exec_judge_of_load trace hload candidates

section Loaded

variable {state after : LoaderState} {loaded : LoadedIndex}
  (h : resolver.loader.load files resolver.environment.identity state = (.ok loaded, after))

include h

/-- The index that a load serves goes on being served. -/
lemma settled_of_load : resolver.Settled files loaded.index after :=
  ⟨loaded, Loader.load_again h, rfl⟩

/-- The result of selecting a site is what the site comes to under the index that is loaded. -/
lemma result_select (site : Site) :
    ((resolver.select files site).outcome state).result = resolver.report loaded.index site := by
  rw [Run.outcome_eq, select, report]
  cases resolver.admission site with
  | error cause => rfl
  | ok admission =>
      cases admission with
      | disabled => rfl
      | candidates remaining exclusions =>
          have hjudge := exec_judge_of_load ⟨state, []⟩ h remaining
          simp only [Run.exec_bind, hjudge]
          cases filterCandidates resolver.filters loaded.index remaining <;> rfl

/-- A module is excluded as the filters, asked about it alone, do not accept it. -/
lemma result_shouldExclude (id : ModuleId) :
    ((resolver.shouldExclude files id).outcome state).result =
      (filterCandidates resolver.filters loaded.index [id]).map fun outcome =>
        outcome.accepted.isEmpty := by
  have hjudge := exec_judge_of_load ⟨state, []⟩ h [id]
  rw [Run.outcome_eq, shouldExclude]
  simp only [Run.exec_bind, hjudge]
  cases filterCandidates resolver.filters loaded.index [id] <;> rfl

end Loaded

/-- A site is judged by the index that is served. -/
lemma exec_select (site : Site) (trace : Trace) (h : resolver.Settled files index trace.loader) :
    (resolver.select files site).exec trace =
      (resolver.report index site,
        { trace with events := trace.events ++ resolver.told index site }) := by
  rw [select, told, report]
  cases resolver.admission site with
  | error cause => simp [Run.exec_throw]
  | ok admission =>
      cases admission with
      | disabled => simp [Run.exec_pure]
      | candidates remaining exclusions =>
          simp only [Run.exec_bind, exec_judge trace h]
          cases filterCandidates resolver.filters index remaining with
          | error cause => simp [Except.map]
          | ok outcome => rfl

/-- What is settled is so however the files change. -/
lemma Settled.amid {loader : LoaderState} (h : resolver.Settled files index loader)
    (later : FileReader) : resolver.Settled later index loader := by
  obtain ⟨loaded, hload, hindex⟩ := h
  exact ⟨loaded, Loader.load_again hload, hindex⟩

/-- So are sites in turn, up to the first that fails, even if the files change before each. -/
lemma exec_mapM_amid (turns : List (FileReader × Site)) (trace : Trace)
    (h : resolver.Settled files index trace.loader) :
    (turns.mapM fun turn => resolver.select turn.1 turn.2).exec trace =
      ((turns.map Prod.snd).mapM (resolver.report index),
        { trace with events := trace.events ++ resolver.toldAll index (turns.map Prod.snd) }) := by
  induction turns generalizing trace with
  | nil =>
      rw [List.map_nil, List.mapM_nil, List.mapM_nil, Run.exec_pure, toldAll, List.append_nil]
      rfl
  | cons turn turns ih =>
      rw [List.map_cons, List.mapM_cons, List.mapM_cons, Run.exec_bind,
        exec_select turn.2 trace (h.amid turn.1), toldAll]
      cases resolver.report index turn.2 with
      | error cause => simp [bind, Except.bind]
      | ok report =>
          simp only [Run.exec_bind]
          rw [ih { trace with events := trace.events ++ resolver.told index turn.2 } h,
            List.append_assoc]
          cases (turns.map Prod.snd).mapM (resolver.report index) <;> rfl

lemma exec_mapM_select (sites : List Site) (trace : Trace)
    (h : resolver.Settled files index trace.loader) :
    (sites.mapM (resolver.select files)).exec trace =
      (sites.mapM (resolver.report index),
        { trace with events := trace.events ++ resolver.toldAll index sites }) := by
  have hsites : (sites.map fun site => (files, site)).map Prod.snd = sites := by
    rw [List.map_map]
    exact List.map_id sites
  have hturns := exec_mapM_amid (sites.map fun site => (files, site)) trace h
  rw [hsites, List.mapM_map] at hturns
  exact hturns

/-- **A run over sites** comes to what they come to together under the index that is loaded. -/
theorem exec_resolve (sites : List Site) (trace : Trace) :
    (resolver.resolve files sites).exec trace =
      match resolver.loader.load files resolver.environment.identity trace.loader with
      | (.error cause, loader) => (.error cause, { trace with loader })
      | (.ok loaded, loader) =>
        (resolver.resolution loaded.index sites,
          ⟨loader, trace.events ++ resolver.toldAll loaded.index sites⟩) := by
  rw [resolve, Run.exec_bind, exec_loadIndex]
  cases hload : resolver.loader.load files resolver.environment.identity trace.loader with
  | mk result loader =>
      cases result with
      | error cause => rfl
      | ok loaded =>
          have hsettled : resolver.Settled files loaded.index loader := settled_of_load hload
          simp only [Except.map, Run.exec_bind]
          rw [exec_mapM_select sites { trace with loader } hsettled, resolution]
          cases sites.mapM (resolver.report loaded.index) with
          | error cause => rfl
          | ok reports =>
              simp only
              cases (coordinate loaded.index sites reports).selectImports.1 <;> rfl

/-- The result of a run over sites that succeeds, and the loader's state behind it. -/
lemma result_resolve_eq_ok_iff {sites : List Site} {state : LoaderState} {result : Resolution} :
    ((resolver.resolve files sites).outcome state).result = .ok result ↔
      ∃ loaded after,
        resolver.loader.load files resolver.environment.identity state = (.ok loaded, after) ∧
        resolver.resolution loaded.index sites = .ok result := by
  rw [Run.outcome_eq, exec_resolve]
  cases resolver.loader.load files resolver.environment.identity state with
  | mk loaded after => cases loaded <;> simp

/-- A run leaves the loader as the load of the index does. -/
lemma loader_resolve (sites : List Site) (state : LoaderState) :
    ((resolver.resolve files sites).outcome state).loader =
      (resolver.loader.load files resolver.environment.identity state).2 := by
  rw [Run.outcome_eq, exec_resolve]
  cases resolver.loader.load files resolver.environment.identity state with
  | mk loaded after => cases loaded <;> rfl

end Resolver

end Activation
