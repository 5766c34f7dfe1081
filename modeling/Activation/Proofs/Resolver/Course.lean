/-
The course of a run.

A run over sites loads the index, selects the sites in turn and orders what they
accept together. Whichever of these fails first ends it; what the listeners have
been told by then stays told.

* `Resolver.selected`: what selecting a site comes to once the index is loaded.
* `Resolver.Fails`: why a run fails.
* `Resolver.reached`, `notices`: the sites that are resolved before a run stops,
  and what the listeners are told of a resolved site.
* `resolution_eq_error_iff`, `toldAll_eq`: both in terms of the index alone.
* `result_resolve_eq_error_iff`, `events_resolve`: when a run fails, and what it
  tells.
* `Resolver.result_and_events_resolve`: the result and the events of every run.
-/
import Activation.Proofs.Filter
import Activation.Proofs.Resolver.Report

namespace Activation

namespace Resolver

open Coordinator

/-! ### What a run comes to -/

section Course

variable (resolver : Resolver) (files : FileReader) (state : LoaderState)

/-- The load of the index, at the beginning of a run. -/
def loaded : Except ResolveError LoadedIndex × LoaderState :=
  resolver.loader.load files resolver.environment.identity state

/-- What selecting a site comes to once the index is loaded. -/
def selected (site : Site) : Except ResolveError SiteReport :=
  ((resolver.select files site).outcome (resolver.loaded files state).2).result

/-- Why a run over sites fails: the index cannot be loaded; or else a site fails, and those before it
do not; or else none does, and what they accept together has no order. -/
inductive Fails (sites : List Site) : ResolveError → Prop
  | load {cause : ResolveError} (hload : (resolver.loaded files state).1 = .error cause) :
      Fails sites cause
  | site {loaded : LoadedIndex} {before behind : List Site} {site : Site} {cause : ResolveError}
      (hload : (resolver.loaded files state).1 = .ok loaded)
      (hsites : sites = before ++ site :: behind)
      (hbefore : ∀ earlier ∈ before, ∃ report, resolver.selected files state earlier = .ok report)
      (hsite : resolver.selected files state site = .error cause) :
      Fails sites cause
  | order {loaded : LoadedIndex} {reports : List SiteReport} {ids : List ModuleId}
      (hload : (resolver.loaded files state).1 = .ok loaded)
      (hreports : List.Forall₂
        (fun site report => resolver.selected files state site = .ok report) sites reports)
      (horder : activationOrder (united reports) loaded.index = .error (.cyclicOrdering ids)) :
      Fails sites (.cyclicOrdering ids)

/-- The sites that are resolved before a run over sites stops. -/
def reached (sites : List Site) : List Site :=
  if (resolver.loaded files state).1.isOk then
    sites.takeWhile fun site => (resolver.selected files state site).isOk
  else []

/-- What the listeners are told of a site that is resolved while activation is on: each of them the
same, in the order of their registration. -/
def notices (site : Site) : Except ResolveError SiteReport → List Notification
  | .error _ => []
  | .ok report =>
    if resolver.isEnabled = .ok true then
      (List.range resolver.listeners).map fun listener =>
        ⟨listener, ⟨site.name, report.entry.configurations, report.entry.exclusions⟩⟩
    else []

end Course

variable {resolver : Resolver} {files : FileReader} {state : LoaderState} {index : Index}
  {site : Site} {sites : List Site} {reports : List SiteReport} {cause : ResolveError}

/-! ### Failures -/

/-- Sites come to nothing together when one of them fails, or when they have no order. -/
lemma resolution_eq_error_iff :
    resolver.resolution index sites = .error cause ↔
      (∃ before site behind, sites = before ++ site :: behind ∧
        (∀ earlier ∈ before, ∃ report, resolver.report index earlier = .ok report) ∧
          resolver.report index site = .error cause) ∨
      ∃ reports, List.Forall₂ (fun site report => resolver.report index site = .ok report)
        sites reports ∧ activationOrder (united reports) index = .error cause := by
  rw [resolution, ← mapM_eq_error_iff]
  simp only [← mapM_eq_ok_iff]
  cases hreports : sites.mapM (resolver.report index) with
  | error first => simp
  | ok reports =>
      have hlength : sites.length = reports.length := (mapM_eq_ok_iff.mp hreports).length_eq
      have horder : (coordinate index sites reports).selectImports.1 = .error cause ↔
          activationOrder (united reports) index = .error cause :=
        selectImports_coordinate_eq_error_iff hlength
      simp only [reduceCtorEq, Except.ok.injEq, false_or, exists_eq_left', ← horder]
      cases (coordinate index sites reports).selectImports.1 <;> simp [Except.map]

/-! ### Events -/

/-- While activation is off nothing is told. -/
lemma notices_of_disabled (h : resolver.isEnabled = .ok false) (site : Site)
    (result : Except ResolveError SiteReport) : resolver.notices site result = [] := by
  have hnot : resolver.isEnabled ≠ .ok true := by
    rw [h]
    simp
  cases result with
  | error cause => rfl
  | ok report => rw [notices, if_neg hnot]

/-- What is told of a site goes by what it comes to, while activation is on. -/
lemma told_eq (index : Index) (site : Site) :
    resolver.told index site = resolver.notices site (resolver.report index site) := by
  cases hreport : resolver.report index site with
  | error cause =>
      rw [told, hreport]
      cases resolver.admission site with
      | error cause => rfl
      | ok admitted => cases admitted <;> rfl
  | ok report =>
      rcases isEnabled_of_report hreport with hoff | ⟨hon, hcandidates⟩
      · have hadmission : resolver.admission site = .ok .disabled := by rw [admission, hoff]
        rw [notices_of_disabled hoff, told, hadmission]
      · obtain ⟨-, hvalid⟩ := valid_of_report hon hreport
        rw [notices, if_pos hon, told, admission_eq hon hcandidates, hvalid, hreport]
        rfl

/-- What is told of sites in turn is told of those before the first that fails. -/
lemma toldAll_eq (index : Index) (sites : List Site) :
    resolver.toldAll index sites =
      (sites.takeWhile fun site => (resolver.report index site).isOk).flatMap fun site =>
        resolver.notices site (resolver.report index site) := by
  induction sites with
  | nil => rfl
  | cons site sites ih =>
      rw [toldAll, told_eq]
      cases hreport : resolver.report index site with
      | error cause =>
          have hstop : (resolver.report index site).isOk = false := by rw [hreport]; rfl
          simp only [List.takeWhile_cons, hstop, Bool.false_eq_true, if_false, List.flatMap_nil]
          rfl
      | ok report =>
          have hgo : (resolver.report index site).isOk = true := by rw [hreport]; rfl
          simp only [List.takeWhile_cons, hgo, if_true, List.flatMap_cons, ih]
          rw [hreport]

/-! ### Runs -/

/-- Selecting a site after the index is loaded comes to what the site comes to under it. -/
lemma selected_eq {loaded : LoadedIndex} (h : (resolver.loaded files state).1 = .ok loaded)
    (site : Site) :
    resolver.selected files state site = resolver.report loaded.index site := by
  have hload : resolver.loader.load files resolver.environment.identity state =
      (.ok loaded, (resolver.loaded files state).2) := Prod.ext h rfl
  exact result_select (Loader.load_again hload) site

/-- While activation is off, sites come to empty reports and to no imports. -/
lemma resolution_of_disabled (h : resolver.isEnabled = .ok false) (index : Index)
    (sites : List Site) :
    resolver.resolution index sites =
      .ok ⟨[], sites.map fun site => ⟨site.name, .empty, []⟩⟩ := by
  have hreports : sites.mapM (resolver.report index) =
      .ok (sites.map fun site => ⟨site.name, .empty, []⟩) := by
    rw [mapM_eq_ok_iff, List.forall₂_map_right_iff, List.forall₂_same]
    exact fun site _ => report_of_disabled h index site
  have hnone : united (sites.map fun site => ⟨site.name, .empty, []⟩) = [] := by
    refine List.eq_nil_iff_forall_not_mem.mpr fun id hid => ?_
    obtain ⟨⟨report, hreport, hid⟩, -⟩ := mem_united.mp hid
    obtain ⟨site, -, rfl⟩ := List.mem_map.mp hreport
    exact List.not_mem_nil hid
  have himports : (coordinate index sites (sites.map fun site =>
      ⟨site.name, .empty, []⟩)).selectImports.1 = .ok [] := by
    rw [coordinate_eq_ofCalls, selectImports_ofCalls, surviving_zip (List.length_map _).symm,
      hnone, activationOrder_nil]
    rfl
  rw [resolution, hreports]
  simp only [himports]
  rfl

/-- An index that cannot be loaded ends a run before anything is told. -/
lemma outcome_of_load_error (h : (resolver.loaded files state).1 = .error cause)
    (sites : List Site) :
    ((resolver.resolve files sites).outcome state).result = .error cause ∧
      ((resolver.resolve files sites).outcome state).events = [] := by
  have hload : resolver.loader.load files resolver.environment.identity state =
      (.error cause, (resolver.loaded files state).2) := Prod.ext h rfl
  rw [Run.outcome_eq, exec_resolve, hload]
  exact ⟨rfl, rfl⟩

/-- Otherwise a run is what the sites come to together under the index. -/
lemma outcome_of_load_ok {loaded : LoadedIndex} (h : (resolver.loaded files state).1 = .ok loaded)
    (sites : List Site) :
    ((resolver.resolve files sites).outcome state).result =
        resolver.resolution loaded.index sites ∧
      ((resolver.resolve files sites).outcome state).events =
        resolver.toldAll loaded.index sites := by
  have hload : resolver.loader.load files resolver.environment.identity state =
      (.ok loaded, (resolver.loaded files state).2) := Prod.ext h rfl
  rw [Run.outcome_eq, exec_resolve, hload]
  exact ⟨rfl, rfl⟩

/-- With the index loaded, a run fails as the sites do under it. -/
lemma fails_iff_of_load_ok {loaded : LoadedIndex}
    (h : (resolver.loaded files state).1 = .ok loaded) :
    resolver.Fails files state sites cause ↔
      resolver.resolution loaded.index sites = .error cause := by
  rw [resolution_eq_error_iff]
  simp only [← selected_eq h]
  constructor
  · rintro (hload | ⟨-, hsites, hbefore, hsite⟩ | ⟨hload, hreports, horder⟩)
    · rw [h] at hload
      cases hload
    · exact Or.inl ⟨_, _, _, hsites, hbefore, hsite⟩
    · obtain rfl := Except.ok.inj (h.symm.trans hload)
      exact Or.inr ⟨_, hreports, horder⟩
  · rintro (⟨before, site, behind, hsites, hbefore, hsite⟩ | ⟨reports, hreports, horder⟩)
    · exact .site h hsites hbefore hsite
    · obtain ⟨left, rfl⟩ := exists_of_activationOrder_eq_error horder
      exact .order h hreports horder

/-- A run fails for the reasons there are for it, and for no other. -/
lemma result_resolve_eq_error_iff :
    ((resolver.resolve files sites).outcome state).result = .error cause ↔
      resolver.Fails files state sites cause := by
  cases hload : (resolver.loaded files state).1 with
  | ok loaded => rw [(outcome_of_load_ok hload sites).1, fails_iff_of_load_ok hload]
  | error first =>
      rw [(outcome_of_load_error hload sites).1]
      constructor
      · intro h
        obtain rfl : first = cause := Except.error.inj h
        exact .load hload
      · rintro (hcause | ⟨hloaded, -, -, -⟩ | ⟨hloaded, -, -⟩)
        · rw [Except.error.inj (hload.symm.trans hcause)]
        · cases hload.symm.trans hloaded
        · cases hload.symm.trans hloaded

/-- The listeners are told of the sites that a run resolves before it stops. -/
lemma events_resolve (resolver : Resolver) (files : FileReader) (state : LoaderState)
    (sites : List Site) :
    ((resolver.resolve files sites).outcome state).events =
      (resolver.reached files state sites).flatMap fun site =>
        resolver.notices site (resolver.selected files state site) := by
  cases hload : (resolver.loaded files state).1 with
  | error first =>
      have hreached : resolver.reached files state sites = [] := by rw [reached, hload]; rfl
      rw [(outcome_of_load_error hload sites).2, hreached, List.flatMap_nil]
  | ok loaded =>
      have hreached : resolver.reached files state sites =
          sites.takeWhile fun site => (resolver.selected files state site).isOk := by
        rw [reached, hload]
        rfl
      rw [(outcome_of_load_ok hload sites).2, hreached, toldAll_eq]
      simp only [selected_eq hload]

/-- **The course of a run**: it fails when the load of the index does, or else with the first site
that does, or else for want of an order. The listeners are told of the sites that are resolved
before it stops, in turn, and of none while activation is off; then every site comes to nothing. -/
theorem result_and_events_resolve (resolver : Resolver) (files : FileReader) (state : LoaderState)
    (sites : List Site) :
    let run := (resolver.resolve files sites).outcome state
    (∀ cause, run.result = .error cause ↔ resolver.Fails files state sites cause) ∧
      run.events = (resolver.reached files state sites).flatMap (fun site =>
        resolver.notices site (resolver.selected files state site)) ∧
      (resolver.isEnabled = .ok false → run.events = [] ∧
        ∀ loaded, (resolver.loaded files state).1 = .ok loaded →
          run.result = .ok ⟨[], sites.map fun site => ⟨site.name, .empty, []⟩⟩) := by
  intro run
  have htold := events_resolve resolver files state sites
  refine ⟨fun cause => result_resolve_eq_error_iff, htold, fun hoff => ⟨?_, fun loaded hload => ?_⟩⟩
  · rw [htold, List.flatMap_eq_nil_iff]
    exact fun site _ => notices_of_disabled hoff site _
  · rw [(outcome_of_load_ok hload sites).1, resolution_of_disabled hoff]

end Resolver

end Activation
