/-
One site for many.

Resolving sites one by one and then taking all exclusions away comes to the same
modules as resolving one site with all exclusions from the start.

* `Site.merge`: the site that excludes what any of several sites excludes.
* `Resolver.calls`, `Resolver.selectImports_of_resolution`: the registrations
  that sites make, and the selection they lead to.
* `Resolver.Admits`: what a site needs to be resolved while activation is on.
* `Resolver.survives_iff`: the modules that survive the exclusions of all sites.
* `Resolver.resolve_merge`: a run over sites and a run over the one site in
  their place activate the same modules in the same order.
-/
import Activation.Environment.Source
import Activation.Proofs.Filter
import Activation.Proofs.Resolver.Report

namespace Activation

/-! ### The merged site -/

namespace Site

variable {name key : String} {sites : List Site} {environment : Environment} {id : ModuleId}

/-- The site that excludes by id and by type what any of several sites does. -/
def merge (name : String) (sites : List Site) : Site where
  name := name
  exclude := sites.foldl (fun all site => all.union site.exclude) .empty
  excludeTypes := sites.foldl (fun all site => all.union site.excludeTypes) .empty

lemma mem_foldl_union (declared : Site → IdSet) (set : IdSet) :
    id ∈ sites.foldl (fun all site => all.union (declared site)) set ↔
      id ∈ set ∨ ∃ site ∈ sites, id ∈ declared site := by
  induction sites generalizing set with
  | nil => simp
  | cons site sites ih =>
      rw [List.foldl_cons, ih, IdSet.mem_union, or_comm (a := id ∈ declared site), or_assoc]
      simp

lemma mem_exclusions {site : Site} :
    id ∈ site.exclusions environment key ↔
      id ∈ site.exclude ∨ id ∈ site.excludeTypes ∨ id ∈ environment.entries key := by
  rw [exclusions, Exclusions.mem_merge, IdSet.mem_toList, IdSet.mem_toList]

/-- The merged site has the exclusions of all sites. -/
lemma mem_exclusions_merge (hsites : sites ≠ []) :
    id ∈ (merge name sites).exclusions environment key ↔
      ∃ site ∈ sites, id ∈ site.exclusions environment key := by
  obtain ⟨first, hfirst⟩ := List.exists_mem_of_ne_nil sites hsites
  simp only [mem_exclusions, merge, mem_foldl_union, IdSet.not_mem_empty, false_or]
  constructor
  · rintro (⟨site, hsite, hid⟩ | ⟨site, hsite, hid⟩ | hid)
    · exact ⟨site, hsite, Or.inl hid⟩
    · exact ⟨site, hsite, Or.inr (Or.inl hid)⟩
    · exact ⟨first, hfirst, Or.inr (Or.inr hid)⟩
  · rintro ⟨site, hsite, hid | hid | hid⟩
    · exact Or.inl ⟨site, hsite, hid⟩
    · exact Or.inr (Or.inl ⟨site, hsite, hid⟩)
    · exact Or.inr (Or.inr hid)

end Site

namespace Resolver

open Coordinator

variable {resolver : Resolver} {index : Index} {site : Site} {sites : List Site}
  {report : SiteReport} {id : ModuleId}

/-! ### Registrations -/

/-- The entry of a site, which is empty where the site fails. -/
def entryOf (resolver : Resolver) (index : Index) (site : Site) : Entry :=
  match resolver.report index site with
  | .ok report => report.entry
  | .error _ => .empty

lemma entryOf_eq (h : resolver.report index site = .ok report) :
    resolver.entryOf index site = report.entry := by
  rw [entryOf, h]

/-- The registrations that sites make. -/
def calls (resolver : Resolver) (index : Index) (sites : List Site) : List (Site × Entry) :=
  sites.map fun site => (site, resolver.entryOf index site)

lemma coordinate_eq {reports : List SiteReport}
    (h : sites.mapM (resolver.report index) = .ok reports) :
    coordinate index sites reports = ofCalls index (resolver.calls index sites) := by
  have hzip : (sites.zip reports).map (fun report => (report.1, report.2.entry)) =
      resolver.calls index sites := by
    induction mapM_eq_ok_iff.mp h with
    | nil => rfl
    | cons hreport hreports ih =>
        rw [List.zip_cons_cons, List.map_cons, ih (mapM_eq_ok_iff.mpr hreports), calls, calls,
          List.map_cons, entryOf_eq hreport]
  rw [coordinate_eq_ofCalls, hzip]

/-- What is left of a run that succeeds: every site does, and the imports are selected. -/
lemma selectImports_of_resolution {result : Resolution}
    (h : resolver.resolution index sites = .ok result) :
    (∀ site ∈ sites, ∃ report, resolver.report index site = .ok report) ∧
      (ofCalls index (resolver.calls index sites)).selectImports.1 = .ok result.imports := by
  rw [resolution] at h
  cases hreports : sites.mapM (resolver.report index) with
  | error cause => rw [hreports] at h; cases h
  | ok reports =>
      simp only [hreports, coordinate_eq hreports] at h
      refine ⟨exists_mapM_eq_ok_iff.mp ⟨reports, hreports⟩, ?_⟩
      cases himports : (ofCalls index (resolver.calls index sites)).selectImports.1 with
      | error cause => rw [himports] at h; cases h
      | ok imports =>
          rw [himports] at h
          rw [← Except.ok.inj h]

lemma exists_resolution {imports : List Import}
    (hreports : ∀ site ∈ sites, ∃ report, resolver.report index site = .ok report)
    (himports : (ofCalls index (resolver.calls index sites)).selectImports.1 = .ok imports) :
    ∃ result, resolver.resolution index sites = .ok result ∧ result.imports = imports := by
  obtain ⟨reports, hreports⟩ := exists_mapM_eq_ok_iff.mpr hreports
  refine ⟨⟨imports, reports⟩, ?_, rfl⟩
  rw [resolution, hreports]
  simp only [coordinate_eq hreports, himports]
  rfl

/-! ### What a site comes to -/

/-- What a site needs to be resolved while activation is on: it excludes no module that exists
without being a candidate, and the filters have a verdict on every candidate it leaves. -/
structure Admits (resolver : Resolver) (index : Index) (site : Site) : Prop where
  valid : ∀ id ∈ resolver.excludedBy site, resolver.registry.isResolvable id = true →
    id ∈ resolver.registry.candidates
  judged : ∀ id ∈ resolver.registry.candidates, ¬ id ∈ resolver.excludedBy site →
    ∃ rejectedBy, verdict index id resolver.filters = .ok rejectedBy

lemma entryOf_of_disabled (h : resolver.isEnabled = .ok false) (index : Index) (site : Site) :
    resolver.entryOf index site = .empty :=
  entryOf_eq (report_of_disabled h index site)

section Enabled

variable (hfilters : ∀ filter ∈ resolver.filters, filter.JudgesAlone)
  (henabled : resolver.isEnabled = .ok true) (hcandidates : resolver.registry.candidates ≠ [])

lemma validate_excludedBy_iff :
    (resolver.excludedBy site).validate (distinct resolver.registry.candidates)
        resolver.registry = .ok () ↔
      ∀ id ∈ resolver.excludedBy site, resolver.registry.isResolvable id = true →
        id ∈ resolver.registry.candidates := by
  simp only [Exclusions.validate_eq_ok_iff, Exclusions.mem_misplaced, mem_distinct, not_and,
    not_not]

/-- What the filters make of what a site leaves them, each module judged on its own. -/
def judgement (resolver : Resolver) (index : Index) (site : Site) : FilterOutcome :=
  .ofSlots ((subtract (distinct resolver.registry.candidates) (resolver.excludedBy site)).map
    fun id => ⟨id, rejecter resolver.filters index id⟩)

include hfilters henabled hcandidates in
/-- A site that is admitted is resolved. -/
lemma Admits.report_eq (h : resolver.Admits index site) :
    resolver.report index site =
      .ok ⟨site.name, ⟨(resolver.judgement index site).accepted, resolver.excludedBy site⟩,
        (resolver.judgement index site).rejected⟩ := by
  have hvalid := validate_excludedBy_iff.mpr h.valid
  have hfilter : filterCandidates resolver.filters index (resolver.remaining site) =
      .ok (resolver.judgement index site) := by
    refine (filterCandidates_eq_ok_iff hfilters).mpr ⟨fun id hid => ?_, rfl⟩
    obtain ⟨hcandidate, hnot⟩ := mem_remaining.mp hid
    exact h.judged id hcandidate hnot
  rw [Resolver.report_eq henabled hcandidates hvalid, hfilter]
  rfl

include hfilters henabled in
/-- A site that is resolved is admitted. -/
lemma admits_of_report (h : resolver.report index site = .ok report) :
    resolver.Admits index site := by
  obtain ⟨-, hvalid⟩ := valid_of_report henabled h
  obtain ⟨hfilter, -, -⟩ := filterCandidates_of_report henabled h
  obtain ⟨hjudged, -⟩ := (filterCandidates_eq_ok_iff hfilters).mp hfilter
  exact ⟨validate_excludedBy_iff.mp hvalid, fun id hid hnot =>
    hjudged id (mem_remaining.mpr ⟨hid, hnot⟩)⟩

include hfilters henabled hcandidates in
/-- A site accepts the candidates that it leaves and no filter rejects. -/
lemma Admits.mem_configurations (h : resolver.Admits index site) (id : ModuleId) :
    id ∈ (resolver.entryOf index site).configurations ↔
      (id ∈ resolver.registry.candidates ∧ ¬ id ∈ resolver.excludedBy site) ∧
        rejecter resolver.filters index id = none := by
  rw [entryOf_eq (h.report_eq hfilters henabled hcandidates), judgement, mem_accepted_ofSlots,
    mem_subtract, mem_distinct]

include hfilters henabled hcandidates in
lemma Admits.exclusions_eq (h : resolver.Admits index site) :
    (resolver.entryOf index site).exclusions = resolver.excludedBy site := by
  rw [entryOf_eq (h.report_eq hfilters henabled hcandidates)]

include hfilters henabled hcandidates in
/-- **The modules that survive** are the candidates that no site excludes and no filter rejects. -/
lemma survives_iff (hsites : sites ≠ []) (hadmits : ∀ site ∈ sites, resolver.Admits index site)
    (id : ModuleId) :
    Survives (resolver.calls index sites) id ↔
      (id ∈ resolver.registry.candidates ∧ rejecter resolver.filters index id = none) ∧
        ∀ site ∈ sites, ¬ id ∈ resolver.excludedBy site := by
  have hconfigurations := fun site hsite =>
    (hadmits site hsite).mem_configurations hfilters henabled hcandidates id
  have hexclusions := fun site hsite =>
    (hadmits site hsite).exclusions_eq hfilters henabled hcandidates
  obtain ⟨first, hfirst⟩ := List.exists_mem_of_ne_nil sites hsites
  simp only [Survives, calls, List.mem_map, exists_exists_and_eq_and, forall_exists_index, and_imp,
    forall_apply_eq_imp_iff₂]
  constructor
  · rintro ⟨⟨site, hsite, hid⟩, hnone⟩
    obtain ⟨⟨hcandidate, -⟩, hpass⟩ := (hconfigurations site hsite).mp hid
    exact ⟨⟨hcandidate, hpass⟩, fun site hsite => hexclusions site hsite ▸ hnone site hsite⟩
  · rintro ⟨⟨hcandidate, hpass⟩, hnone⟩
    refine ⟨⟨first, hfirst, ?_⟩, fun site hsite => ?_⟩
    · exact (hconfigurations first hfirst).mpr ⟨⟨hcandidate, hnone first hfirst⟩, hpass⟩
    · rw [hexclusions site hsite]
      exact hnone site hsite

end Enabled

/-- While activation is off no module survives. -/
lemma not_survives_of_disabled (h : resolver.isEnabled = .ok false) :
    ¬ Survives (resolver.calls index sites) id := by
  rintro ⟨⟨call, hcall, hid⟩, -⟩
  obtain ⟨site, -, rfl⟩ := List.mem_map.mp hcall
  rw [entryOf_of_disabled h] at hid
  exact List.not_mem_nil hid

/-! ### One site in place of many -/

/-- The merged site is admitted when all sites are. -/
lemma admits_merge {name : String} (hsites : sites ≠ [])
    (h : ∀ site ∈ sites, resolver.Admits index site) :
    resolver.Admits index (Site.merge name sites) := by
  obtain ⟨first, hfirst⟩ := List.exists_mem_of_ne_nil sites hsites
  refine ⟨fun id hid hresolvable => ?_, fun id hid hnot => ?_⟩
  · obtain ⟨site, hsite, hid⟩ := (Site.mem_exclusions_merge hsites).mp hid
    exact (h site hsite).valid id hid hresolvable
  · refine (h first hfirst).judged id hid fun hexcluded => hnot ?_
    exact (Site.mem_exclusions_merge hsites).mpr ⟨first, hfirst, hexcluded⟩

/-- Where all sites are resolved so is the merged one, the same modules survive, and the first
site has accepted all of them. -/
lemma survives_merge (hfilters : ∀ filter ∈ resolver.filters, filter.JudgesAlone) {first : Site}
    (hreports : ∀ site ∈ first :: sites, ∃ report, resolver.report index site = .ok report)
    (name : String) :
    (∃ report, resolver.report index (Site.merge name (first :: sites)) = .ok report) ∧
      ∀ id, (Survives (resolver.calls index [Site.merge name (first :: sites)]) id ↔
          Survives (resolver.calls index (first :: sites)) id) ∧
        (Survives (resolver.calls index (first :: sites)) id →
          id ∈ (resolver.entryOf index first).configurations) := by
  obtain ⟨report, hreport⟩ := hreports first List.mem_cons_self
  rcases isEnabled_of_report hreport with hoff | ⟨hon, hcandidates⟩
  · refine ⟨⟨_, report_of_disabled hoff index _⟩, fun id => ⟨?_, fun h => ?_⟩⟩
    · exact iff_of_false (not_survives_of_disabled hoff) (not_survives_of_disabled hoff)
    · exact absurd h (not_survives_of_disabled hoff)
  · have hadmits : ∀ site ∈ first :: sites, resolver.Admits index site := fun site hsite => by
      obtain ⟨report, hreport⟩ := hreports site hsite
      exact admits_of_report hfilters hon hreport
    have hmerge : resolver.Admits index (Site.merge name (first :: sites)) :=
      admits_merge (List.cons_ne_nil first sites) hadmits
    refine ⟨⟨_, hmerge.report_eq hfilters hon hcandidates⟩, fun id => ?_⟩
    have hmany := survives_iff hfilters hon hcandidates (List.cons_ne_nil first sites) hadmits id
    have hone := survives_iff hfilters hon hcandidates
      (List.cons_ne_nil (Site.merge name (first :: sites)) [])
      (List.forall_mem_singleton.mpr hmerge) id
    refine ⟨?_, fun h => ?_⟩
    · rw [hone, hmany, List.forall_mem_singleton, excludedBy,
        Site.mem_exclusions_merge (List.cons_ne_nil first sites)]
      simp only [not_exists, not_and]
    · obtain ⟨⟨hcandidate, hpass⟩, hnone⟩ := hmany.mp h
      exact ((hadmits first List.mem_cons_self).mem_configurations hfilters hon hcandidates id).mpr
        ⟨⟨hcandidate, hnone first List.mem_cons_self⟩, hpass⟩

/-- The merged site leads to the modules of all sites, in their order. -/
lemma exists_resolution_merge (hfilters : ∀ filter ∈ resolver.filters, filter.JudgesAlone)
    (hsites : sites ≠ []) {many : Resolution} (h : resolver.resolution index sites = .ok many)
    (name : String) :
    ∃ single, resolver.resolution index [Site.merge name sites] = .ok single ∧
      single.ids = many.ids := by
  obtain ⟨first, others, rfl⟩ := List.exists_cons_of_ne_nil hsites
  obtain ⟨hreports, himports⟩ := selectImports_of_resolution h
  obtain ⟨hmerge, hsurvives⟩ := survives_merge hfilters hreports name
  have hsame : ∀ id,
      id ∈ surviving (resolver.calls index [Site.merge name (first :: others)]) ↔
        id ∈ surviving (resolver.calls index (first :: others)) := fun id => by
    rw [mem_surviving, mem_surviving, (hsurvives id).1]
  obtain ⟨horder, -⟩ := activationOrder_of_selectImports himports
  rw [← activationOrder_congr hsame] at horder
  obtain ⟨imports, hselected, hids⟩ := exists_selectImports horder
  obtain ⟨single, hsingle, heq⟩ :=
    exists_resolution (List.forall_mem_singleton.mpr hmerge) hselected
  exact ⟨single, hsingle, by rw [Resolution.ids, heq, hids, Resolution.ids]⟩

/-- What sites activate is owned by the first of them. -/
lemma site_of_mem_imports (hfilters : ∀ filter ∈ resolver.filters, filter.JudgesAlone)
    {first : Site} {many : Resolution} (h : resolver.resolution index (first :: sites) = .ok many)
    {imported : Import} (himported : imported ∈ many.imports) : imported.site = first.name := by
  obtain ⟨hreports, himports⟩ := selectImports_of_resolution h
  obtain ⟨horder, howned⟩ := activationOrder_of_selectImports himports
  have hsurvives : Survives (resolver.calls index (first :: sites)) imported.id := by
    rw [← mem_surviving, ← (first_of_activationOrder horder).mem_iff]
    exact List.mem_map_of_mem himported
  -- every site accepts what survives, so the search for the owner ends at the first
  have haccepts := ((survives_merge hfilters hreports first.name).2 imported.id).2 hsurvives
  have howner := find?_of_mem_owned (howned ▸ himported)
  rw [find?_owners_ofCalls, calls, List.map_cons, List.find?_cons_of_pos (by simpa using haccepts)]
    at howner
  exact (Option.some.inj howner).symm

/-- **Resolving sites together is resolving one site in their place**: when a run over the sites
succeeds, a run over the site with all their exclusions activates the same modules in the same
order, made in its stead or after it, and all modules are owned by the first site. -/
theorem resolve_merge {files : FileReader} {state : LoaderState} {many : Resolution}
    (hfilters : ∀ filter ∈ resolver.filters, filter.JudgesAlone) (hsites : sites ≠ [])
    (h : ((resolver.resolve files sites).outcome state).result = .ok many) (name : String) :
    (∀ start ∈ [state, ((resolver.resolve files sites).outcome state).loader],
        ∃ single, ((resolver.resolve files [Site.merge name sites]).outcome start).result =
            .ok single ∧ single.ids = many.ids) ∧
      ∀ imported ∈ many.imports, imported.site = (sites.head hsites).name := by
  obtain ⟨loaded, after, hload, hmany⟩ := result_resolve_eq_ok_iff.mp h
  refine ⟨fun start hstart => ?_, fun imported himported => ?_⟩
  · obtain ⟨single, hsingle, hids⟩ := exists_resolution_merge hfilters hsites hmany name
    refine ⟨single, result_resolve_eq_ok_iff.mpr ⟨loaded, after, ?_, hsingle⟩, hids⟩
    rw [loader_resolve, hload, List.mem_pair] at hstart
    rcases hstart with rfl | rfl
    · exact hload
    · exact Loader.load_again hload
  · obtain ⟨first, others, rfl⟩ := List.exists_cons_of_ne_nil hsites
    exact site_of_mem_imports hfilters hmany himported

/-- A resolver under an environment that excludes `f` and switches the toggle of `d` off. Its index
puts `a` behind `e` and makes `c` depend on `e`, a candidate that the host denies. -/
def guarded : Resolver :=
  let properties : Table String :=
    .ofList [("autoactivate.exclude", "f"), ("autoactivate.module.d.enabled", "false")]
  let environment := PropertySource.environment (.map ⟨1⟩ properties) .empty
  let registry : Catalog :=
    ⟨["e", "b", "a", "b", "c", "d", "f"], fun id => decide (id ∈ ["a", "b"])⟩
  { registry
    environment
    loader := ⟨.text "a.After=e\nc.ConditionalOnModule=e\nd.ConditionalOnEnabled=d", true⟩
    filters := [Condition.onModule registry, Condition.onProperty environment,
      Condition.onEnabled environment PropertyKeys.standard.toggles]
    listeners := 1
    keys := .standard }

theorem resolve_merge_guarded :
    let files : FileReader := fun _ => .error .notFound
    let sites := [(Site.named "one").excluding "x", (Site.named "two").excludingType "b"]
    let run := (guarded.resolve files sites).outcome .initial
    ∃ many, run.result = .ok many ∧ many.ids = ["e", "a"] ∧
      (∀ start ∈ [.initial, run.loader],
        ∃ single, ((guarded.resolve files [Site.merge "both" sites]).outcome start).result =
            .ok single ∧ single.ids = many.ids) ∧
      ∀ imported ∈ many.imports, imported.site = "one" := by
  intro files sites run
  have hfilters : ∀ filter ∈ guarded.filters, filter.JudgesAlone := by
    intro filter hfilter
    rcases List.mem_cons.mp hfilter with rfl | hfilter
    · exact Filter.judgesAlone_onModule _
    rcases List.mem_pair.mp hfilter with rfl | rfl
    · exact Filter.judgesAlone_onProperty _
    · exact Filter.judgesAlone_onEnabled _ _
  have hids : run.result.map Resolution.ids = .ok ["e", "a"] := by decide +kernel
  cases hrun : run.result with
  | error cause => rw [hrun] at hids; cases hids
  | ok many =>
      rw [hrun] at hids
      exact ⟨many, rfl, Except.ok.inj hids,
        resolve_merge hfilters (List.cons_ne_nil _ _) hrun "both"⟩

end Resolver

end Activation
