/-
Selecting a site, and asking about one module.

A resolver says of a single module whether its conditions reject it. With the
built-in conditions it says of every candidate that a site leaves to them what it
finds of this candidate when it selects the site.

* `Resolver.builtIn`: the built-in conditions in the order in which they are
  consulted.
* `agreement_select`: one site and single modules under any filters of which only
  the last can fail.
* `ending_explained_eq_success_iff`, `ending_explained_eq_failure_iff`: what is
  explained of a module ends as the question about it does.
* `Resolver.Explains`: what is explained of the modules of a site tells what
  selecting it comes to.
* `agreement_select_shouldExclude`: the agreement of all three.
-/
import Activation.Proofs.Filter.Verdicts
import Activation.Proofs.Resolver.Report
import Activation.Session

namespace Activation

/-- What the filters found, as a report has it. -/
def SiteReport.outcome (report : SiteReport) : FilterOutcome :=
  ⟨report.entry.configurations, report.rejected⟩

namespace Resolver

/-- The built-in conditions: on the modules that exist, on properties, and on toggles. -/
def builtIn (resolver : Resolver) : List Filter :=
  [Condition.onModule resolver.registry, Condition.onProperty resolver.environment,
    Condition.onEnabled resolver.environment resolver.keys.toggles]

/-- A configured resolver consults the built-in conditions. -/
lemma filters_config (config : Config) (registry : Catalog) (environment : Environment) :
    (config.resolver registry environment).filters =
      (config.resolver registry environment).builtIn :=
  rfl

variable {resolver : Resolver} {files : FileReader} {state after : LoaderState}
  {loaded : LoadedIndex} {site : Site} {id : ModuleId}

/-! ### One site and its modules -/

/-- Of the built-in conditions only the last can fail. -/
lemma sure_of_builtIn (resolver : Resolver) :
    ∀ filter ∈ [Condition.onModule resolver.registry, Condition.onProperty resolver.environment],
      filter.Sure := by
  refine List.forall_mem_cons.mpr ⟨Filter.sure_onModule _, ?_⟩
  exact List.forall_mem_singleton.mpr (Filter.sure_onProperty _)

/-- A site is selected as its remaining candidates are judged alone. -/
lemma agreement_select {filters : List Filter} {last : Filter}
    (hresolver : resolver.filters = filters ++ [last])
    (hfilters : ∀ filter ∈ filters, filter.Sure) (hlast : last.JudgesAlone)
    (henabled : resolver.isEnabled = .ok true) (hcandidates : resolver.registry.candidates ≠ [])
    (hvalid : (resolver.excludedBy site).validate (distinct resolver.registry.candidates)
      resolver.registry = .ok ()) {start : LoaderState}
    (hload : resolver.loader.load files resolver.environment.identity state = (.ok loaded, after))
    (hstart : start = state ∨ start = after) :
    Agreement (resolver.remaining site)
      (fun id => ((resolver.shouldExclude files id).outcome start).result)
      (((resolver.select files site).outcome state).result.map SiteReport.outcome) := by
  have hserved : resolver.loader.load files resolver.environment.identity start =
      (.ok loaded, after) := by
    rcases hstart with rfl | rfl
    · exact hload
    · exact Loader.load_again hload
  have hselected : ((resolver.select files site).outcome state).result.map SiteReport.outcome =
      filterCandidates (filters ++ [last]) loaded.index (resolver.remaining site) := by
    rw [result_select hload, report_eq henabled hcandidates hvalid, hresolver]
    cases filterCandidates (filters ++ [last]) loaded.index (resolver.remaining site) <;> rfl
  simp only [result_shouldExclude hserved]
  rw [hselected, hresolver]
  exact agreement_filterCandidates hfilters hlast loaded.index (resolver.remaining site)

/-! ### What is explained of a module -/

/-- What is explained of a module, given its facts and the answer to the question about it. -/
def explanation (facts : String) : Except ResolveError Bool → Output
  | .error cause => ⟨facts, .failure (.resolution cause)⟩
  | .ok rejected => ⟨facts ++ Report.verdict rejected, .success⟩

section Explained

variable (hload : resolver.loader.load files resolver.environment.identity .initial =
  (.ok loaded, after))

include hload

/-- The index behind an explanation is the one that is loaded, and it goes on being served. -/
lemma explained_eq (id : ModuleId) :
    Session.explained resolver files id =
      explanation (Report.facts resolver.registry loaded.index id)
        ((resolver.shouldExclude files id).outcome .initial).result := by
  have houtcome : (resolver.loadIndex files).outcome .initial = ⟨.ok loaded.index, [], after⟩ := by
    rw [Run.outcome_eq, exec_loadIndex, hload]
    rfl
  have hserved : resolver.loader.load files resolver.environment.identity after =
      (.ok loaded, after) := Loader.load_again hload
  rw [Session.explained, houtcome, result_shouldExclude hload]
  simp only [result_shouldExclude hserved]
  cases (filterCandidates resolver.filters loaded.index [id]).map fun outcome =>
    outcome.accepted.isEmpty <;> rfl

/-- An explanation succeeds with the question about the module. -/
lemma ending_explained_eq_success_iff :
    (Session.explained resolver files id).ending = .success ↔
      ∃ rejected, ((resolver.shouldExclude files id).outcome .initial).result = .ok rejected := by
  rw [explained_eq hload]
  cases ((resolver.shouldExclude files id).outcome .initial).result <;> simp [explanation]

/-- It fails with the question, and says why. -/
lemma ending_explained_eq_failure_iff {cause : ResolveError} :
    (Session.explained resolver files id).ending = .failure (.resolution cause) ↔
      ((resolver.shouldExclude files id).outcome .initial).result = .error cause := by
  rw [explained_eq hload]
  cases ((resolver.shouldExclude files id).outcome .initial).result <;> simp [explanation]

end Explained

/-- What is explained of the modules that a site leaves to the conditions tells what selecting the
site comes to: of a selected site each explanation ends with whether the module is rejected, and a
site fails as the first explanation that does. -/
structure Explains (resolver : Resolver) (files : FileReader) (index : Index) (site : Site)
    (selected : Except ResolveError SiteReport) : Prop where
  verdict : ∀ report, selected = .ok report → ∀ id ∈ resolver.remaining site,
    Session.explained resolver files id =
      ⟨Report.facts resolver.registry index id ++
        Report.verdict (decide (id ∈ report.rejected.map Rejection.id)), .success⟩
  failure : ∀ cause, selected = .error cause ↔
    ∃ before id behind, resolver.remaining site = before ++ id :: behind ∧
      (∀ earlier ∈ before, (Session.explained resolver files earlier).ending = .success) ∧
        (Session.explained resolver files id).ending = .failure (.resolution cause)

/-- Explanations tell what the questions about the modules do. -/
lemma explains_of_agreement {selected : Except ResolveError SiteReport}
    (hload : resolver.loader.load files resolver.environment.identity .initial =
      (.ok loaded, after))
    (h : Agreement (resolver.remaining site)
      (fun id => ((resolver.shouldExclude files id).outcome .initial).result)
      (selected.map SiteReport.outcome)) :
    resolver.Explains files loaded.index site selected where
  verdict report hreport id hid := by
    have houtcome : selected.map SiteReport.outcome = .ok report.outcome := by rw [hreport]; rfl
    obtain ⟨rejected, hrejected⟩ := h.succeeds.mp ⟨_, houtcome⟩ id hid
    have hmem : id ∈ report.rejected.map Rejection.id ↔ rejected = true := by
      calc id ∈ report.rejected.map Rejection.id
          ↔ id ∈ (resolver.remaining site).filter fun id =>
              ((resolver.shouldExclude files id).outcome .initial).result = .ok true := by
            rw [← h.rejected report.outcome houtcome]
            rfl
        _ ↔ rejected = true := by simp [hid, hrejected]
    rw [explained_eq hload, hrejected, explanation]
    simp only [hmem, Bool.decide_eq_true]
  failure cause := by
    simp only [ending_explained_eq_success_iff hload, ending_explained_eq_failure_iff hload]
    rw [← h.fails, map_eq_error_iff]

/-- **Selecting a site and asking about one module agree.** Once a site with valid exclusions gets as
far as the built-in conditions, it is selected exactly when the question about each candidate it
leaves to them is answered; those are rejected of which the answer is yes, and those accepted of
which it is no. Otherwise it fails as the question does about the first candidate on which it fails.
The questions may be put before or after; explanations, which begin afresh, tell the same. -/
theorem agreement_select_shouldExclude (hfilters : resolver.filters = resolver.builtIn)
    (henabled : resolver.isEnabled = .ok true) (hcandidates : resolver.registry.candidates ≠ [])
    (hvalid : (resolver.excludedBy site).validate (distinct resolver.registry.candidates)
      resolver.registry = .ok ())
    (hload : resolver.loader.load files resolver.environment.identity state =
      (.ok loaded, after)) :
    let selected := ((resolver.select files site).outcome state).result
    (∀ start, start = state ∨ start = after →
      Agreement (resolver.remaining site)
        (fun id => ((resolver.shouldExclude files id).outcome start).result)
        (selected.map SiteReport.outcome)) ∧
      (state = .initial → resolver.Explains files loaded.index site selected) := by
  intro selected
  have hagreement : ∀ start, start = state ∨ start = after →
      Agreement (resolver.remaining site)
        (fun id => ((resolver.shouldExclude files id).outcome start).result)
        (selected.map SiteReport.outcome) := by
    intro start hstart
    have hconcat : resolver.filters =
        [Condition.onModule resolver.registry, Condition.onProperty resolver.environment] ++
          [Condition.onEnabled resolver.environment resolver.keys.toggles] := hfilters
    have hlast := Filter.judgesAlone_onEnabled resolver.environment resolver.keys.toggles
    exact agreement_select hconcat (sure_of_builtIn resolver) hlast henabled hcandidates hvalid
      hload hstart
  refine ⟨hagreement, fun hinitial => ?_⟩
  subst hinitial
  exact explains_of_agreement hload (hagreement .initial (Or.inl rfl))

/-- Conditions of which the first hides a toggle of `a`, and a toggle of `b` that nothing hides. -/
def toggleText : String :=
  "a.ConditionalOnModule=c\na.ConditionalOnEnabled=x\nb.ConditionalOnEnabled=x\n" ++
    "c.ConditionalOnProperty=unset"

/-- A configured resolver under an environment that sets the toggle to a value, and over a host that
knows of `b` alone and denies the other candidates. -/
def toggled (value : String) : Resolver :=
  let config : Config := { Config.standard with metadata := ⟨some "index", true⟩ }
  let properties : Table String := .ofList [("autoactivate.module.x.enabled", value)]
  config.resolver ⟨["a", "b", "a", "c", "d"], fun id => id == "b"⟩
    (PropertySource.environment (.map ⟨1⟩ properties) .empty)

theorem agreement_select_shouldExclude_toggled :
    let files : FileReader := fun _ => .ok toggleText
    let site := (Site.named "one").excluding "d"
    let selected := fun value => (((toggled value).select files site).outcome .initial).result
    let invalid := ResolveError.invalidProperty "autoactivate.module.x.enabled" "perhaps"
    (selected "true").map SiteReport.outcome =
        .ok ⟨["b"], [⟨"a", "on-module"⟩, ⟨"c", "on-property"⟩]⟩ ∧
      selected "perhaps" = .error (.filter "on-enabled" invalid.message) ∧
      ∀ value ∈ ["true", "perhaps"],
        Agreement ["a", "b", "c"]
          (fun id => (((toggled value).shouldExclude files id).outcome .initial).result)
          ((selected value).map SiteReport.outcome) ∧
        ∃ index, Index.parse toggleText = .ok index ∧
          (toggled value).Explains files index site (selected value) := by
  intro files site selected invalid
  obtain ⟨index, hindex⟩ : ∃ index, Index.parse toggleText = .ok index := by
    have hparses : (Index.parse toggleText).isOk = true := by decide +kernel
    cases hparse : Index.parse toggleText with
    | error fault => rw [hparse] at hparses; cases hparses
    | ok index => exact ⟨index, rfl⟩
  refine ⟨by decide +kernel, by decide +kernel, fun value hvalue => ?_⟩
  have hchecked : (toggled value).isEnabled = .ok true ∧
      ((toggled value).excludedBy site).validate (distinct (toggled value).registry.candidates)
        (toggled value).registry = .ok () ∧ (toggled value).remaining site = ["a", "b", "c"] := by
    rcases List.mem_pair.mp hvalue with rfl | rfl <;> decide +kernel
  obtain ⟨henabled, hvalid, hremaining⟩ := hchecked
  have hload : (toggled value).loader.load files (toggled value).environment.identity .initial =
      (.ok ⟨0, index⟩, ⟨some (⟨1⟩, ⟨0, index⟩), 1⟩) := by
    have hattempt : (toggled value).loader.attempt files = .ok index := hindex
    have hreload : (toggled value).loader.load files (toggled value).environment.identity .initial =
        (toggled value).loader.reload files (toggled value).environment.identity .initial := rfl
    rw [hreload, Loader.reload, Loader.read, hattempt]
    rfl
  have hfilters : (toggled value).filters = (toggled value).builtIn := filters_config _ _ _
  obtain ⟨hagreement, hexplains⟩ := agreement_select_shouldExclude hfilters henabled
    (List.cons_ne_nil _ _) hvalid hload
  rw [hremaining] at hagreement
  exact ⟨hagreement .initial (Or.inl rfl), index, hindex, hexplains rfl⟩

end Resolver

end Activation
