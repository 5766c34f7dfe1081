/-
What a site comes to, and what sites come to together.

* `Resolver.Switched`, `isEnabled_eq_iff`: activation is on unless its property says
  otherwise, and what the property says has to be a Boolean.
* `Resolver.excludedBy`, `remaining`: the exclusions of a site, and the distinct
  candidates that they leave to the filters.
* `isEnabled_of_report`, `report_of_disabled`: activation is on or off for all
  sites alike, and a site comes to nothing while it is off.
* `admission_eq`, `report_eq`: while it is on, a site comes to what the filters
  make of the remaining candidates, if its exclusions are valid.
* `valid_of_report`, `filterCandidates_of_report`: what is known of a site that
  is resolved while activation is on.
* `united`: the modules that some report accepts and none excludes.
* `activationOrder_of_coordinate`: the imports are these in activation order.
-/
import Activation.Proofs.Coordinator
import Activation.Proofs.Environment.Layers
import Activation.Proofs.Resolver.Run

namespace Activation

namespace Resolver

open Coordinator

variable {resolver : Resolver} {index : Index} {site : Site} {sites : List Site}
  {report : SiteReport} {reports : List SiteReport} {id : ModuleId}
  {result : Except ResolveError Bool}

/-! ### The switch -/

/-- What the switch for activation comes to under the property that it is set by. -/
inductive Switched (resolver : Resolver) : Except ResolveError Bool → Prop
  | unset (h : resolver.environment.property resolver.keys.enabled = none) :
      Switched resolver (.ok true)
  | set {value : String} {flag : Bool}
      (h : resolver.environment.property resolver.keys.enabled = some value)
      (hflag : Property.IsFlag value flag) : Switched resolver (.ok flag)
  | spoilt {value : String}
      (h : resolver.environment.property resolver.keys.enabled = some value)
      (hnone : ∀ flag, ¬ Property.IsFlag value flag) :
      Switched resolver (.error (.invalidProperty resolver.keys.enabled value))

lemma Switched.isEnabled_eq (h : resolver.Switched result) : resolver.isEnabled = result := by
  rw [isEnabled]
  cases h with
  | unset h => rw [(Environment.lacks_of_property h).boolean]; rfl
  | set h hflag => rw [(Environment.shows_of_property h).boolean _ hflag]; rfl
  | spoilt h hnone => rw [(Environment.shows_of_property h).spoilt hnone]; rfl

/-- **The switch** is decided by its property alone, and on while that is not set. -/
theorem isEnabled_eq_iff : resolver.isEnabled = result ↔ resolver.Switched result := by
  refine ⟨?_, Switched.isEnabled_eq⟩
  rintro rfl
  cases hproperty : resolver.environment.property resolver.keys.enabled with
  | none =>
      have h := Switched.unset hproperty
      rwa [h.isEnabled_eq]
  | some value =>
      by_cases hflag : ∃ flag, Property.IsFlag value flag
      · obtain ⟨flag, hflag⟩ := hflag
        have h := Switched.set hproperty hflag
        rwa [h.isEnabled_eq]
      · have h := Switched.spoilt hproperty (not_exists.mp hflag)
        rwa [h.isEnabled_eq]

/-- Activation is off when its property says so, and not otherwise. -/
lemma isEnabled_eq_false_iff :
    resolver.isEnabled = .ok false ↔ ∃ value,
      resolver.environment.property resolver.keys.enabled = some value ∧
        Property.IsFlag value false := by
  rw [isEnabled_eq_iff]
  constructor
  · rintro (h | ⟨h, hflag⟩ | ⟨h, hnone⟩)
    exact ⟨_, h, hflag⟩
  · rintro ⟨value, h, hflag⟩
    exact .set h hflag

/-! ### One site -/

/-- The exclusions of a site under the resolver's environment. -/
abbrev excludedBy (resolver : Resolver) (site : Site) : Exclusions :=
  site.exclusions resolver.environment resolver.keys.exclude

/-- The distinct candidates that the exclusions of a site leave. -/
def remaining (resolver : Resolver) (site : Site) : List ModuleId :=
  subtract (distinct resolver.registry.candidates) (resolver.excludedBy site)

@[simp] lemma mem_remaining :
    id ∈ resolver.remaining site ↔
      id ∈ resolver.registry.candidates ∧ ¬ id ∈ resolver.excludedBy site := by
  rw [remaining, mem_subtract, mem_distinct]

lemma remaining_sublist :
    (resolver.remaining site).Sublist (distinct resolver.registry.candidates) :=
  List.filter_sublist

lemma nodup_remaining : (resolver.remaining site).Nodup :=
  remaining_sublist.nodup (nodup_distinct resolver.registry.candidates)

/-- Activation is off for every site or on for every site. -/
lemma isEnabled_of_report (h : resolver.report index site = .ok report) :
    resolver.isEnabled = .ok false ∨
      (resolver.isEnabled = .ok true ∧ resolver.registry.candidates ≠ []) := by
  rw [Resolver.report, admission] at h
  cases henabled : resolver.isEnabled with
  | error cause => rw [henabled] at h; cases h
  | ok enabled =>
      cases enabled with
      | false => exact Or.inl rfl
      | true =>
          refine Or.inr ⟨rfl, fun hnil => ?_⟩
          rw [henabled, hnil] at h
          cases h

lemma report_of_disabled (h : resolver.isEnabled = .ok false) (index : Index) (site : Site) :
    resolver.report index site = .ok ⟨site.name, .empty, []⟩ := by
  rw [Resolver.report, admission, h]

section Enabled

variable (henabled : resolver.isEnabled = .ok true) (hcandidates : resolver.registry.candidates ≠ [])

include henabled hcandidates

/-- While activation is on, the filters are asked about what valid exclusions leave. -/
lemma admission_eq (site : Site) :
    resolver.admission site =
      ((resolver.excludedBy site).validate (distinct resolver.registry.candidates)
        resolver.registry).map fun _ =>
          .candidates (subtract (distinct resolver.registry.candidates) (resolver.excludedBy site))
            (resolver.excludedBy site) := by
  have hsome : resolver.registry.candidates.isEmpty = false := by simpa using hcandidates
  rw [admission, henabled]
  simp only [hsome, Bool.false_eq_true, if_false]
  cases (resolver.excludedBy site).validate (distinct resolver.registry.candidates)
    resolver.registry <;> rfl

/-- A site with valid exclusions comes to what the filters make of the candidates it leaves. -/
lemma report_eq (hvalid : (resolver.excludedBy site).validate
      (distinct resolver.registry.candidates) resolver.registry = .ok ()) (index : Index) :
    resolver.report index site =
      (filterCandidates resolver.filters index (resolver.remaining site)).map fun outcome =>
        ⟨site.name, ⟨outcome.accepted, resolver.excludedBy site⟩, outcome.rejected⟩ := by
  rw [Resolver.report, admission_eq henabled hcandidates, hvalid]
  rfl

end Enabled

section Resolved

variable (henabled : resolver.isEnabled = .ok true) (h : resolver.report index site = .ok report)

include henabled h

/-- A site is resolved while activation is on only when there are candidates and it excludes nothing
that it must not. -/
lemma valid_of_report :
    resolver.registry.candidates ≠ [] ∧
      (resolver.excludedBy site).validate (distinct resolver.registry.candidates)
        resolver.registry = .ok () := by
  rcases isEnabled_of_report h with hoff | ⟨-, hcandidates⟩
  · cases henabled.symm.trans hoff
  · refine ⟨hcandidates, ?_⟩
    rw [Resolver.report, admission_eq henabled hcandidates] at h
    cases hvalid : (resolver.excludedBy site).validate (distinct resolver.registry.candidates)
        resolver.registry with
    | error cause => rw [hvalid] at h; cases h
    | ok _ => rfl

/-- Then its remaining candidates have been filtered. -/
lemma filterCandidates_of_report :
    filterCandidates resolver.filters index (resolver.remaining site) =
        .ok ⟨report.entry.configurations, report.rejected⟩ ∧
      report.site = site.name ∧ report.entry.exclusions = resolver.excludedBy site := by
  obtain ⟨hcandidates, hvalid⟩ := valid_of_report henabled h
  rw [report_eq henabled hcandidates hvalid] at h
  cases houtcome : filterCandidates resolver.filters index (resolver.remaining site) with
  | error cause => rw [houtcome] at h; cases h
  | ok outcome =>
      rw [houtcome] at h
      rw [← Except.ok.inj h]
      exact ⟨rfl, rfl, rfl⟩

end Resolved

/-! ### Sites together -/

/-- The modules that some report accepts and none excludes. -/
def united (reports : List SiteReport) : List ModuleId :=
  subtract (accepted (reports.map SiteReport.entry)) (excluded (reports.map SiteReport.entry))

@[simp] lemma mem_united :
    id ∈ united reports ↔
      (∃ report ∈ reports, id ∈ report.entry.configurations) ∧
        ¬ id ∈ excluded (reports.map SiteReport.entry) := by
  simp only [united, mem_subtract, mem_accepted, List.mem_map, exists_exists_and_eq_and]

/-- The coordinator is the one on which each site registers the entry of its report. -/
lemma coordinate_eq_ofCalls (index : Index) (sites : List Site) (reports : List SiteReport) :
    coordinate index sites reports =
      ofCalls index ((sites.zip reports).map fun report => (report.1, report.2.entry)) := by
  rw [coordinate, ofCalls, List.foldl_map]

/-- What survives the registrations is what the reports come to together. -/
lemma surviving_zip (h : sites.length = reports.length) :
    surviving ((sites.zip reports).map fun report => (report.1, report.2.entry)) =
      united reports := by
  have hentries : ((sites.zip reports).map fun report => (report.1, report.2.entry)).map Prod.snd =
      reports.map SiteReport.entry := by
    rw [List.map_map]
    calc (sites.zip reports).map (fun report => report.2.entry)
        = ((sites.zip reports).map Prod.snd).map SiteReport.entry := by rw [List.map_map]; rfl
      _ = reports.map SiteReport.entry := by rw [List.map_snd_zip (le_of_eq h.symm)]
  rw [surviving, hentries, united]

/-- **The imports** that reports of sites lead to are the united modules in activation order. -/
lemma activationOrder_of_coordinate {imports : List Import} (hlength : sites.length = reports.length)
    (h : (coordinate index sites reports).selectImports.1 = .ok imports) :
    activationOrder (united reports) index = .ok (imports.map Import.id) := by
  rw [coordinate_eq_ofCalls] at h
  rw [← surviving_zip hlength]
  exact (activationOrder_of_selectImports h).1

/-- No imports are selected exactly when the united modules have no order. -/
lemma selectImports_coordinate_eq_error_iff {cause : ResolveError}
    (hlength : sites.length = reports.length) :
    (coordinate index sites reports).selectImports.1 = .error cause ↔
      activationOrder (united reports) index = .error cause := by
  rw [coordinate_eq_ofCalls, selectImports_ofCalls, surviving_zip hlength]
  cases activationOrder (united reports) index <;> simp [Except.map]

end Resolver

end Activation
