/-
Every candidate is accounted for.

Between the registry and the imports candidates lose their repetitions and the
excluded ones, go through filters that may answer as they like, are united over
all sites, lose the exclusions of all sites and are put in order. None of them is
lost or listed twice on the way.

* `KeepsOrder`: a list of candidates, each once, in the order of the candidates.
* `SiteReport.Accounts`, `accounts_of_report`: a report has every candidate in
  exactly one of three places.
* `Resolution.Accounts`: the same of the reports of a run, with what its imports
  are in terms of them.
* `Resolver.resolveInTurn`: a run whose filters change from site to site.
* `Resolver.accounts_of_resolve`: runs that succeed account for all candidates.
-/
import Activation.Environment.Source
import Activation.Proofs.Filter
import Activation.Proofs.Filter.Slots
import Activation.Proofs.Resolver.Report

namespace Activation

/-! ### What is accounted for -/

/-- The ids are candidates, each listed once, in the order in which the candidates first name
them. -/
structure KeepsOrder (candidates ids : List ModuleId) : Prop where
  subset : ∀ id ∈ ids, id ∈ candidates
  nodup : ids.Nodup
  ordered : ids.Pairwise fun a b => candidates.idxOf a < candidates.idxOf b

lemma keepsOrder_of_sublist {candidates ids : List ModuleId}
    (h : ids.Sublist (distinct candidates)) : KeepsOrder candidates ids where
  subset _ hid := mem_distinct.mp (h.subset hid)
  nodup := h.nodup (nodup_distinct candidates)
  ordered := (pairwise_idxOf_distinct candidates).sublist h

/-- A report has every candidate in exactly one place: among the modules its site accepts, the
rejected ones or the exclusions. -/
structure SiteReport.Accounts (report : SiteReport) (candidates : List ModuleId) : Prop where
  once : ∀ id ∈ candidates,
    [report.entry.configurations, report.rejected.map Rejection.id,
      report.entry.exclusions.toList].countP (fun ids => id ∈ ids) = 1
  accepted : KeepsOrder candidates report.entry.configurations
  rejected : KeepsOrder candidates (report.rejected.map Rejection.id)

/-- There is a report for every site, each accounts for the candidates, and the imports are the
modules that are accepted by some report and excluded by none. -/
structure Resolution.Accounts (result : Resolution) (sites : List Site)
    (candidates : List ModuleId) : Prop where
  named : result.sites.map SiteReport.site = sites.map Site.name
  reports : ∀ report ∈ result.sites, report.Accounts candidates
  nodup : result.ids.Nodup
  mem_ids_iff : ∀ id, id ∈ result.ids ↔
    (∃ report ∈ result.sites, id ∈ report.entry.configurations) ∧ ¬ id ∈ result.exclusions
  left_out : ∀ id ∈ candidates, id ∉ result.ids →
    id ∈ result.exclusions ∨ ∀ report ∈ result.sites, id ∈ report.rejected.map Rejection.id

namespace SiteReport

variable {report : SiteReport} {candidates : List ModuleId} {id : ModuleId}

/-- What a report neither accepts nor excludes it rejects. -/
lemma Accounts.mem_rejected (h : report.Accounts candidates) (hid : id ∈ candidates)
    (haccepted : id ∉ report.entry.configurations) (hexcluded : ¬ id ∈ report.entry.exclusions) :
    id ∈ report.rejected.map Rejection.id := by
  by_contra hrejected
  have hnone : [report.entry.configurations, report.rejected.map Rejection.id,
      report.entry.exclusions.toList].countP (fun ids => id ∈ ids) = 0 := by
    rw [List.countP_eq_zero]
    simpa using ⟨haccepted, by simpa using hrejected, hexcluded⟩
  have honce := h.once id hid
  omega

end SiteReport

namespace Resolver

open Coordinator

variable {resolver : Resolver} {files : FileReader} {index : Index} {site : Site}
  {sites : List Site} {report : SiteReport} {reports : List SiteReport} {id : ModuleId}

/-! ### Reports -/

/-- What stands in one of two lists that have nothing in common, unless it stands in a third, is in
one place. -/
lemma countP_places_eq_one {accepted rejected excluded : List ModuleId}
    (hplaces : id ∈ accepted ∨ id ∈ rejected ↔ id ∉ excluded)
    (hapart : id ∈ accepted → id ∉ rejected) :
    [accepted, rejected, excluded].countP (fun ids => id ∈ ids) = 1 := by
  simp only [List.countP_cons, List.countP_nil, decide_eq_true_eq]
  by_cases hexcluded : id ∈ excluded
  · obtain ⟨haccepted, hrejected⟩ := not_or.mp fun h => hplaces.mp h hexcluded
    simp [haccepted, hrejected, hexcluded]
  · rcases hplaces.mpr hexcluded with haccepted | hrejected
    · simp [haccepted, hapart haccepted, hexcluded]
    · have haccepted : id ∉ accepted := fun h => hapart h hrejected
      simp [haccepted, hrejected, hexcluded]

/-- A site that is resolved while activation is on accounts for all candidates. -/
lemma accounts_of_report (henabled : resolver.isEnabled = .ok true)
    (h : resolver.report index site = .ok report) :
    report.Accounts resolver.registry.candidates := by
  obtain ⟨hfilter, -, hexclusions⟩ := filterCandidates_of_report henabled h
  have hpartition := partitions_of_filterCandidates hfilter
  refine ⟨fun id hid => ?_, ?_, ?_⟩
  · have hplaces : id ∈ report.entry.configurations ∨ id ∈ report.rejected.map Rejection.id ↔
        ¬ id ∈ report.entry.exclusions := by
      rw [← List.mem_append, hpartition.perm.mem_iff, mem_remaining, hexclusions]
      exact and_iff_right hid
    have hnodup := hpartition.perm.nodup_iff.mpr nodup_remaining
    exact countP_places_eq_one hplaces fun haccepted hrejected =>
      List.disjoint_of_nodup_append hnodup haccepted hrejected
  · exact keepsOrder_of_sublist (hpartition.accepted.trans remaining_sublist)
  · exact keepsOrder_of_sublist (hpartition.rejected.trans remaining_sublist)

/-! ### Runs -/

/-- Reports that account for the candidates, with the imports they lead to, are a run that does. -/
lemma accounts_of_coordinate {candidates : List ModuleId} {imports : List Import}
    (hnamed : reports.map SiteReport.site = sites.map Site.name)
    (hreports : ∀ report ∈ reports, report.Accounts candidates)
    (himports : (coordinate index sites reports).selectImports.1 = .ok imports) :
    (Resolution.mk imports reports).Accounts sites candidates := by
  have hlength : sites.length = reports.length := by
    simpa using (congrArg List.length hnamed).symm
  have hfirst := first_of_activationOrder (activationOrder_of_coordinate hlength himports)
  have hmem : ∀ id, id ∈ (Resolution.mk imports reports).ids ↔
      (∃ report ∈ reports, id ∈ report.entry.configurations) ∧
        ¬ id ∈ (Resolution.mk imports reports).exclusions := fun id => by
    rw [Resolution.ids, hfirst.mem_iff, mem_united, Resolution.exclusions_eq_excluded]
  refine ⟨hnamed, hreports, hfirst.nodup, hmem, fun id hid hleft => or_iff_not_imp_left.mpr ?_⟩
  intro hkept report hreport
  refine (hreports report hreport).mem_rejected hid (fun haccepted => ?_) (fun hexcluded => ?_)
  · exact hleft ((hmem id).mpr ⟨⟨report, hreport, haccepted⟩, hkept⟩)
  · rw [Resolution.exclusions_eq_excluded] at hkept
    exact hkept (mem_excluded.mpr ⟨report.entry, List.mem_map_of_mem hreport, hexcluded⟩)

/-- The resolver with other filters. -/
def withFilters (resolver : Resolver) (filters : List Filter) : Resolver :=
  { resolver with filters }

/-- A run over sites each of which finds filters of its own. A filter is asked once for each site,
so that this is what a run makes of filters whose answers hang on more than what they are shown. -/
def resolveInTurn (resolver : Resolver) (files : FileReader) (turns : List (Site × List Filter)) :
    Run Resolution := do
  let index ← resolver.loadIndex files
  let reports ← turns.mapM fun turn => (resolver.withFilters turn.2).select files turn.1
  match (coordinate index (turns.map Prod.fst) reports).selectImports.1 with
  | .error cause => throw cause
  | .ok imports => return ⟨imports, reports⟩

/-- Filters that do not change make the usual run. -/
lemma resolveInTurn_same (sites : List Site) :
    resolver.resolveInTurn files (sites.map fun site => (site, resolver.filters)) =
      resolver.resolve files sites := by
  have hsites : (sites.map fun site => (site, resolver.filters)).map Prod.fst = sites := by
    rw [List.map_map]
    exact List.map_id sites
  rw [resolveInTurn, resolve, hsites]
  simp only [List.mapM_map]
  rfl

/-- Sites in turn, each with its own filters, come to their reports under the index that is
loaded. -/
lemma exec_mapM_turns {state after : LoaderState} {loaded : LoadedIndex}
    (hload : resolver.loader.load files resolver.environment.identity state = (.ok loaded, after))
    (turns : List (Site × List Filter)) :
    ∃ told, (turns.mapM fun turn =>
        (resolver.withFilters turn.2).select files turn.1).exec ⟨after, []⟩ =
      (turns.mapM fun turn => (resolver.withFilters turn.2).report loaded.index turn.1,
        ⟨after, told⟩) := by
  have hsettled : ∀ filters, (resolver.withFilters filters).Settled files loaded.index after :=
    fun _ => settled_of_load hload
  have hselect : ∀ (turn : Site × List Filter) events, ∃ told,
      ((resolver.withFilters turn.2).select files turn.1).exec ⟨after, events⟩ =
        ((resolver.withFilters turn.2).report loaded.index turn.1, ⟨after, told⟩) :=
    fun turn events => ⟨_, exec_select turn.1 ⟨after, events⟩ (hsettled turn.2)⟩
  exact Run.exec_mapM hselect turns []

/-- A run that succeeds has reports of all sites under one index, and selects their imports. -/
lemma reports_of_resolveInTurn {turns : List (Site × List Filter)} {state : LoaderState}
    {result : Resolution}
    (h : ((resolver.resolveInTurn files turns).outcome state).result = .ok result) :
    ∃ index,
      List.Forall₂ (fun turn report =>
        (resolver.withFilters turn.2).report index turn.1 = .ok report) turns result.sites ∧
      (coordinate index (turns.map Prod.fst) result.sites).selectImports.1 = .ok result.imports := by
  rw [Run.outcome_eq, resolveInTurn, Run.exec_bind, exec_loadIndex] at h
  cases hload : resolver.loader.load files resolver.environment.identity state with
  | mk loaded after =>
      rw [hload] at h
      cases loaded with
      | error cause => cases h
      | ok loaded =>
          obtain ⟨told, hturns⟩ := exec_mapM_turns hload turns
          simp only [Except.map, Run.exec_bind, hturns] at h
          cases hreports : turns.mapM fun turn =>
              (resolver.withFilters turn.2).report loaded.index turn.1 with
          | error cause => rw [hreports] at h; cases h
          | ok reports =>
              simp only [hreports] at h
              cases himports : (coordinate loaded.index (turns.map Prod.fst)
                  reports).selectImports.1 with
              | error cause => rw [himports] at h; cases h
              | ok imports =>
                  rw [himports] at h
                  obtain rfl : Resolution.mk imports reports = result := Except.ok.inj h
                  exact ⟨loaded.index, mapM_eq_ok_iff.mp hreports, himports⟩

/-- The reports of such a run are named for the sites and account for all candidates. -/
lemma accounts_of_turns (henabled : resolver.isEnabled = .ok true)
    {turns : List (Site × List Filter)}
    (h : List.Forall₂ (fun turn report =>
      (resolver.withFilters turn.2).report index turn.1 = .ok report) turns reports) :
    reports.map SiteReport.site = (turns.map Prod.fst).map Site.name ∧
      ∀ report ∈ reports, report.Accounts resolver.registry.candidates := by
  induction h with
  | nil => exact ⟨rfl, List.forall_mem_nil _⟩
  | @cons turn report turns reports hreport _ ih =>
      have hon : (resolver.withFilters turn.2).isEnabled = .ok true := henabled
      have hname : report.site = turn.1.name := (filterCandidates_of_report hon hreport).2.1
      have haccounts := accounts_of_report hon hreport
      refine ⟨?_, List.forall_mem_cons.mpr ⟨haccounts, ih.2⟩⟩
      rw [List.map_cons, List.map_cons, List.map_cons, hname, ih.1]

/-- Such a run accounts for all candidates. -/
lemma accounts_of_resolveInTurn (henabled : resolver.isEnabled = .ok true)
    {turns : List (Site × List Filter)} {state : LoaderState} {result : Resolution}
    (h : ((resolver.resolveInTurn files turns).outcome state).result = .ok result) :
    result.Accounts (turns.map Prod.fst) resolver.registry.candidates := by
  obtain ⟨index, hreports, himports⟩ := reports_of_resolveInTurn h
  obtain ⟨hnamed, haccounts⟩ := accounts_of_turns henabled hreports
  exact accounts_of_coordinate hnamed haccounts himports

/-- **Every candidate is accounted for**: a run that succeeds while activation is on has each of
them in exactly one place of every report, and imports once each those that a report accepts and no
report excludes. The filters may be any at all, and may change from site to site. -/
theorem accounts_of_resolve {state : LoaderState} (henabled : resolver.isEnabled = .ok true) :
    (∀ sites result, ((resolver.resolve files sites).outcome state).result = .ok result →
        result.Accounts sites resolver.registry.candidates) ∧
      ∀ turns result, ((resolver.resolveInTurn files turns).outcome state).result = .ok result →
        result.Accounts (turns.map Prod.fst) resolver.registry.candidates := by
  refine ⟨fun sites result h => ?_, fun turns result h => accounts_of_resolveInTurn henabled h⟩
  have hsites : (sites.map fun site => (site, resolver.filters)).map Prod.fst = sites := by
    rw [List.map_map]
    exact List.map_id sites
  rw [← resolveInTurn_same] at h
  have haccounts := accounts_of_resolveInTurn henabled h
  rwa [hsites] at haccounts

/-- A filter that lets the first slots pass, whichever modules stand in them. -/
def quota (size : Nat) : Filter where
  name := "quota"
  judge slots _ := .ok (slots.mapIdx fun n _ => decide (n < size))

/-- A resolver whose filter lets two candidates of each site pass. Its host denies that any module
exists. -/
def rationed : Resolver where
  registry := ⟨["b", "a", "b", "c", "d"], fun _ => false⟩
  environment := PropertySource.environment (.map ⟨1⟩ .empty) .empty
  loader := ⟨.absent, false⟩
  filters := [quota 2]
  listeners := 0
  keys := .standard

theorem accounts_of_resolve_rationed :
    let files : FileReader := fun _ => .error .notFound
    let sites := [(Site.named "one").excluding "b", Site.named "two"]
    let turns := [(Site.named "one", []), ((Site.named "two").excluding "a", [quota 1])]
    rationed.isEnabled = .ok true ∧
      (∃ result, ((rationed.resolve files sites).outcome .initial).result = .ok result ∧
        result.ids = ["a", "c"] ∧ result.Accounts sites rationed.registry.candidates) ∧
      ∃ result, ((rationed.resolveInTurn files turns).outcome .initial).result = .ok result ∧
        result.ids = ["b", "c", "d"] ∧
          result.Accounts (turns.map Prod.fst) rationed.registry.candidates := by
  intro files sites turns
  have henabled : rationed.isEnabled = .ok true := by decide +kernel
  have hids : ((rationed.resolve files sites).outcome .initial).result.map Resolution.ids =
      .ok ["a", "c"] := by decide +kernel
  have hturnIds : ((rationed.resolveInTurn files turns).outcome .initial).result.map
      Resolution.ids = .ok ["b", "c", "d"] := by decide +kernel
  refine ⟨henabled, ?_, ?_⟩
  · cases hrun : ((rationed.resolve files sites).outcome .initial).result with
    | error cause => rw [hrun] at hids; cases hids
    | ok result =>
        rw [hrun] at hids
        exact ⟨result, rfl, Except.ok.inj hids,
          (accounts_of_resolve henabled).1 sites result hrun⟩
  · cases hrun : ((rationed.resolveInTurn files turns).outcome .initial).result with
    | error cause => rw [hrun] at hturnIds; cases hturnIds
    | ok result =>
        rw [hrun] at hturnIds
        exact ⟨result, rfl, Except.ok.inj hturnIds,
          (accounts_of_resolve henabled).2 turns result hrun⟩

end Resolver

end Activation
