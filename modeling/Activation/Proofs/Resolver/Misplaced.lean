/-
The check of the exclusions of a site.

A module that exists may be excluded only if it is a candidate. The ids of a site
that offend against this are reported together, before the index or any filter is
asked; ids of no module at all are let be.

* `Resolver.excludedAt`: the excluded ids of a site as they are named in turn.
* `Resolver.misplacedAt`, `Misplaces`, `misplaces_misplacedAt`: those of them that
  are reported, and what makes a list the one of these.
* `outcome_select_of_misplaced`, `result_select_of_placed`: what selecting a site
  comes to when something is misplaced, and when nothing is.
* `result_select_eq_invalid_iff`: the error is that of the check alone.
* `Resolver.SameKnown`, `outcome_select_of_sameKnown`: ids that the registry does
  not know do not bear on what a site comes to, if it owns up to its candidates.
* `Resolver.ChecksExclusions`, `checksExclusions_of_enabled`: the check as a whole,
  over an assembled registry.
-/
import Activation.Proofs.Exclusion
import Activation.Proofs.Filter.Calls
import Activation.Proofs.Resolver.Agreement
import Activation.Proofs.Resolver.History

namespace Activation

namespace Resolver

section

variable (resolver : Resolver) (site : Site)

/-- The excluded ids of a site as they are named: by id, then by type, each in their order, then in
the environment's list. -/
def excludedAt : List ModuleId :=
  site.exclude.toList ++ site.excludeTypes.toList ++
    resolver.environment.entries resolver.keys.exclude

/-- The excluded ids of modules that are there without being candidates. -/
def misplacedAt : List ModuleId :=
  distinct ((resolver.excludedAt site).filter fun id =>
    resolver.registry.isResolvable id ∧ id ∉ resolver.registry.candidates)

/-- The resolver with another loader, other filters and other listeners. -/
def consulting (loader : Loader) (filters : List Filter) (listeners : Nat) : Resolver :=
  { resolver with loader, filters, listeners }

/-- The resolver in an environment of the same identity that has other properties. -/
def answering (property : String → Option String) : Resolver :=
  { resolver with environment := { resolver.environment with property } }

/-- The ids of a list are those that a site misplaces in an assembled registry, each once, in the
order in which they are named first. -/
structure Misplaces (registry : Registry) (ids : List ModuleId) : Prop where
  mem_iff : ∀ id, id ∈ ids ↔ id ∈ resolver.excludedAt site ∧
    id ∈ registry.available ∧ id ∉ registry.candidates
  nodup : ids.Nodup
  order : ids.Pairwise fun a b =>
    (resolver.excludedAt site).idxOf a < (resolver.excludedAt site).idxOf b

end

/-- Two sites, each under its resolver, exclude the same ids in the same order of those that the
registry knows. -/
def SameKnown (here there : Resolver) (site other : Site) : Prop :=
  (here.excludedAt site).filter here.registry.isResolvable =
    (there.excludedAt other).filter there.registry.isResolvable

variable {resolver : Resolver} {files : FileReader} {state : LoaderState} {site other : Site}
  {ids : List ModuleId} {cause : ResolveError}

/-! ### The misplaced ids -/

/-- What a site excludes is listed as it is named first. -/
lemma toList_excludedBy (resolver : Resolver) (site : Site) :
    (resolver.excludedBy site).toList = distinct (resolver.excludedAt site) :=
  Exclusions.toList_merge _ _ _

lemma mem_excludedBy {id : ModuleId} :
    id ∈ resolver.excludedBy site ↔ id ∈ resolver.excludedAt site := by
  rw [← Exclusions.mem_toList, toList_excludedBy, mem_distinct]

/-- The misplaced ids are those that the exclusions of a site are checked for. -/
lemma misplaced_excludedBy (resolver : Resolver) (site : Site) :
    (resolver.excludedBy site).misplaced (distinct resolver.registry.candidates)
      resolver.registry = resolver.misplacedAt site := by
  rw [Exclusions.misplaced, toList_excludedBy, misplacedAt, distinct_filter]
  refine List.filter_congr fun id _ => ?_
  rw [Bool.eq_iff_iff, Bool.and_eq_true, decide_eq_true_eq, decide_eq_true_eq, mem_distinct]

/-- The exclusions of a site are valid when none is misplaced, and else all that are misplaced are
reported. -/
lemma validate_excludedBy (resolver : Resolver) (site : Site) :
    (resolver.excludedBy site).validate (distinct resolver.registry.candidates) resolver.registry =
      if resolver.misplacedAt site = [] then .ok ()
      else .error (.invalidExclusions (resolver.misplacedAt site)) := by
  rw [Exclusions.validate, misplaced_excludedBy]
  cases resolver.misplacedAt site with
  | nil => rfl
  | cons id ids => rfl

/-! ### Failures of other kinds -/

/-- The index is missed for a fault of its own. -/
lemma exists_fault_of_served (h : resolver.served files state = .error cause) :
    ∃ fault, cause = .metadata fault := by
  rw [served, map_eq_error_iff] at h
  obtain ⟨-, fault, -, hcause⟩ :=
    Loader.read_eq_error_iff.mp (Loader.read_of_load_error (Prod.ext h rfl))
  exact ⟨fault, hcause⟩

/-- Where the index or a filter fails, nothing is said of exclusions. -/
lemma not_invalid_of_judged {candidates : List ModuleId}
    (h : ((resolver.served files state).bind fun index =>
      filterCandidates resolver.filters index candidates) = .error cause) :
    cause ≠ .invalidExclusions ids := by
  cases hserved : resolver.served files state with
  | error first =>
      rw [hserved] at h
      obtain rfl : first = cause := Except.error.inj h
      obtain ⟨fault, rfl⟩ := exists_fault_of_served hserved
      simp
  | ok index =>
      rw [hserved] at h
      obtain ⟨filter, -, shown, hbreaks⟩ := breaks_of_filterCandidates h
      cases hbreaks with
      | fails _ => simp
      | miscounts _ _ => simp

section Enabled

variable (henabled : resolver.isEnabled = .ok true) (hcandidates : resolver.registry.candidates ≠ [])

include henabled hcandidates

/-! ### Selecting a site -/

/-- **A site that misplaces ids** fails with them; nothing is loaded, and nobody is told. -/
lemma outcome_select_of_misplaced (h : resolver.misplacedAt site ≠ []) :
    (resolver.select files site).outcome state =
      ⟨.error (.invalidExclusions (resolver.misplacedAt site)), [], state⟩ := by
  rw [Run.outcome_eq, select, admission_eq henabled hcandidates, validate_excludedBy, if_neg h]
  rfl

/-- A site that misplaces nothing comes to what is made of the candidates that it leaves. -/
lemma result_select_of_placed (h : resolver.misplacedAt site = []) :
    ((resolver.select files site).outcome state).result =
      ((resolver.served files state).bind fun index =>
          filterCandidates resolver.filters index (resolver.remaining site)).map fun outcome =>
        ⟨site.name, ⟨outcome.accepted, resolver.excludedBy site⟩, outcome.rejected⟩ := by
  have hjudge := exec_judge_eq resolver files ⟨state, []⟩ (resolver.remaining site)
  rw [Run.outcome_eq, select, admission_eq henabled hcandidates, validate_excludedBy, if_pos h]
  simp only [Except.map, Run.exec_bind]
  rw [← remaining, hjudge]
  cases (resolver.served files state).bind fun index =>
    filterCandidates resolver.filters index (resolver.remaining site) <;> rfl

/-- **Selecting a site** fails over exclusions when it misplaces some, and names these. -/
lemma result_select_eq_invalid_iff :
    ((resolver.select files site).outcome state).result = .error (.invalidExclusions ids) ↔
      resolver.misplacedAt site ≠ [] ∧ ids = resolver.misplacedAt site := by
  by_cases hplaced : resolver.misplacedAt site = []
  · rw [result_select_of_placed henabled hcandidates hplaced, map_eq_error_iff]
    exact ⟨fun h => absurd rfl (not_invalid_of_judged h), fun h => absurd hplaced h.1⟩
  · rw [outcome_select_of_misplaced henabled hcandidates hplaced]
    simp [hplaced, eq_comm]

end Enabled

/-! ### Unknown ids -/

/-- What is misplaced is known, so that the unknown ids may be left out before. -/
lemma misplacedAt_eq_of_known (resolver : Resolver) (site : Site) :
    resolver.misplacedAt site =
      distinct (((resolver.excludedAt site).filter resolver.registry.isResolvable).filter fun id =>
        resolver.registry.isResolvable id ∧ id ∉ resolver.registry.candidates) := by
  rw [misplacedAt, List.filter_filter]
  congr 1
  refine List.filter_congr fun id _ => ?_
  rw [Bool.eq_iff_iff, Bool.and_eq_true, decide_eq_true_eq]
  exact ⟨fun hid => ⟨hid, hid.1⟩, And.left⟩

section Unknown

variable {there : Resolver} (h : SameKnown resolver there site other)
  (hregistry : there.registry = resolver.registry)

include h hregistry

/-- An id that the registry knows is excluded at both sites or at neither. -/
lemma SameKnown.mem_excludedAt {id : ModuleId} (hid : resolver.registry.isResolvable id = true) :
    id ∈ resolver.excludedAt site ↔ id ∈ there.excludedAt other := by
  have hthere : there.registry.isResolvable id = true := hregistry ▸ hid
  calc id ∈ resolver.excludedAt site
      ↔ id ∈ (resolver.excludedAt site).filter resolver.registry.isResolvable := by
        rw [List.mem_filter, and_iff_left hid]
    _ ↔ id ∈ (there.excludedAt other).filter there.registry.isResolvable := by rw [h]
    _ ↔ id ∈ there.excludedAt other := by rw [List.mem_filter, and_iff_left hthere]

lemma SameKnown.misplacedAt_eq : resolver.misplacedAt site = there.misplacedAt other := by
  rw [misplacedAt_eq_of_known, misplacedAt_eq_of_known, h, hregistry]

lemma SameKnown.remaining_eq
    (howned : ∀ id ∈ resolver.registry.candidates, resolver.registry.isResolvable id = true) :
    resolver.remaining site = there.remaining other := by
  rw [remaining, remaining, Exclusions.subtract_eq, Exclusions.subtract_eq, hregistry]
  refine List.filter_congr fun id hid => ?_
  have hknown : resolver.registry.isResolvable id = true :=
    howned id (mem_distinct.mp hid)
  rw [decide_eq_decide, Exclusions.mem_toList, Exclusions.mem_toList, mem_excludedBy,
    mem_excludedBy, h.mem_excludedAt hregistry hknown]

/-- **Ids that the registry does not know** do not bear on what a site comes to. -/
lemma outcome_select_of_sameKnown
    (howned : ∀ id ∈ resolver.registry.candidates, resolver.registry.isResolvable id = true)
    (henabled : resolver.isEnabled = .ok true) (hthere : there.isEnabled = .ok true)
    (hcandidates : resolver.registry.candidates ≠ [])
    (hserved : there.served files state = resolver.served files state)
    (hfilters : there.filters = resolver.filters) :
    ((there.select files other).outcome state).result.map SiteReport.outcome =
      ((resolver.select files site).outcome state).result.map SiteReport.outcome := by
  have hcandidates' : there.registry.candidates ≠ [] := hregistry ▸ hcandidates
  have hmisplaced := h.misplacedAt_eq hregistry
  by_cases hplaced : resolver.misplacedAt site = []
  · rw [result_select_of_placed hthere hcandidates' (hmisplaced ▸ hplaced),
      result_select_of_placed henabled hcandidates hplaced, hserved, hfilters,
      ← h.remaining_eq hregistry howned]
    cases (resolver.served files state).bind fun index =>
      filterCandidates resolver.filters index (resolver.remaining site) <;> rfl
  · rw [outcome_select_of_misplaced hthere hcandidates' (hmisplaced ▸ hplaced),
      outcome_select_of_misplaced henabled hcandidates hplaced, hmisplaced]

end Unknown

/-! ### Assembled registries -/

section Assembled

variable {registry : Registry} (hregistry : resolver.registry = registry.catalog)

include hregistry

/-- In an assembled registry the misplaced ids are those of modules declared available. -/
lemma mem_misplacedAt {id : ModuleId} :
    id ∈ resolver.misplacedAt site ↔ id ∈ resolver.excludedAt site ∧
      id ∈ registry.available ∧ id ∉ registry.candidates := by
  rw [misplacedAt, mem_distinct, List.mem_filter, decide_eq_true_eq, hregistry,
    Registry.isResolvable_catalog, Registry.candidates_catalog,
    Registry.isResolvable_and_not_mem_iff]

lemma misplacedAt_ne_nil_iff :
    resolver.misplacedAt site ≠ [] ↔ ∃ id ∈ resolver.excludedAt site,
      id ∈ registry.available ∧ id ∉ registry.candidates := by
  rw [ne_eq, List.eq_nil_iff_forall_not_mem, not_forall_not]
  exact exists_congr fun _ => mem_misplacedAt hregistry

lemma misplaces_misplacedAt (site : Site) :
    resolver.Misplaces site registry (resolver.misplacedAt site) where
  mem_iff _ := mem_misplacedAt hregistry
  nodup := nodup_distinct _
  order := by
    rw [misplacedAt, distinct_filter]
    exact (pairwise_idxOf_distinct (resolver.excludedAt site)).filter _

/-- It owns up to its candidates. -/
lemma isResolvable_of_mem_candidates (id : ModuleId) (hid : id ∈ resolver.registry.candidates) :
    resolver.registry.isResolvable id = true := by
  rw [hregistry, Registry.candidates_catalog] at hid
  rw [hregistry, Registry.isResolvable_catalog]
  exact Registry.isResolvable_of_mem hid

end Assembled

/-! ### The check -/

/-- What the check of the exclusions of a site against an assembled registry comes to. -/
structure ChecksExclusions (resolver : Resolver) (registry : Registry) (site : Site) : Prop where
  /-- Selecting the site fails over exclusions when there is a misplaced one. -/
  fails_iff : ∀ files state,
    (∃ ids, ((resolver.select files site).outcome state).result =
      .error (.invalidExclusions ids)) ↔
    ∃ id ∈ resolver.excludedAt site, id ∈ registry.available ∧ id ∉ registry.candidates
  /-- All that are misplaced are named. -/
  names : ∀ files state ids,
    ((resolver.select files site).outcome state).result = .error (.invalidExclusions ids) →
    resolver.Misplaces site registry ids
  /-- Ids and types are named in increasing order. -/
  sorted : site.exclude.toList.Pairwise (· < ·) ∧ site.excludeTypes.toList.Pairwise (· < ·)
  /-- The failure is the same whatever loader, filters and listeners there are, and leaves the loader
  as it was. -/
  first : ∀ files state ids,
    ((resolver.select files site).outcome state).result = .error (.invalidExclusions ids) →
    ∀ loader filters listeners files state,
      ((resolver.consulting loader filters listeners).select files site).outcome state =
        ⟨.error (.invalidExclusions ids), [], state⟩
  /-- With the same exclusions of modules that the registry knows, in the same order, the site comes
  to the same. -/
  unknown : ∀ property other, (resolver.answering property).isEnabled = .ok true →
    SameKnown resolver (resolver.answering property) site other → ∀ files state,
      (((resolver.answering property).select files other).outcome state).result.map
          SiteReport.outcome =
        ((resolver.select files site).outcome state).result.map SiteReport.outcome

/-- **The exclusions of a site are checked** before all else that can fail once activation is on and
there are candidates: the misplaced ones are reported together, and the unknown ones are let be. -/
theorem checksExclusions_of_enabled {registry : Registry}
    (hregistry : resolver.registry = registry.catalog) (henabled : resolver.isEnabled = .ok true)
    (hcandidates : registry.candidates ≠ []) (site : Site) :
    resolver.ChecksExclusions registry site := by
  have hsome : resolver.registry.candidates ≠ [] := by rwa [hregistry]
  exact {
    fails_iff := fun files state => by
      simp only [result_select_eq_invalid_iff henabled hsome, exists_and_left, exists_eq, and_true,
        misplacedAt_ne_nil_iff hregistry]
    names := fun files state ids h => by
      obtain ⟨-, rfl⟩ := (result_select_eq_invalid_iff henabled hsome).mp h
      exact misplaces_misplacedAt hregistry site
    sorted := ⟨site.exclude.increasing, site.excludeTypes.increasing⟩
    first := fun files state ids h => by
      obtain ⟨hmisplaced, rfl⟩ := (result_select_eq_invalid_iff henabled hsome).mp h
      intro loader filters listeners files state
      exact outcome_select_of_misplaced henabled hsome hmisplaced
    unknown := fun property other hthere hsame files state =>
      outcome_select_of_sameKnown hsame rfl (isResolvable_of_mem_candidates hregistry)
        henabled hthere hsome rfl rfl }

/-- Candidates that are listed or imported, and other modules, of which one is a candidate too. -/
def assembled : Registry :=
  ((Registry.ofCandidates ["b", "a", "b"]).withAvailable ["z", "y", "w", "a"]).withImports
    "c # discovered later"

/-- A resolver whose environment denies modules under a key of its own. Its index is missing, and its
filter always fails. -/
def denying : Resolver where
  registry := assembled.catalog
  environment := ⟨⟨1⟩, fun key => if key = "deny" then some "y, b, w, ghost, w" else none⟩
  loader := ⟨.file "index", true⟩
  filters := [⟨"wary", fun _ _ => .error "cannot say"⟩]
  listeners := 1
  keys := { PropertyKeys.standard with exclude := "deny" }

/-- A site that excludes by id, by type, and a module that does not exist. -/
def wary : Site :=
  (((Site.named "one").excluding "z").excluding "ghost").excludingType "z" |>.excludingType "y"

/-- Of what is excluded, `b` is a candidate and `ghost` is no module. -/
theorem checksExclusions_of_enabled_denying :
    let files : FileReader := fun _ => .error .notFound
    denying.registry = assembled.catalog ∧ denying.isEnabled = .ok true ∧
      assembled.candidates ≠ [] ∧
      denying.ChecksExclusions assembled wary ∧
      denying.excludedAt wary = ["ghost", "z", "y", "z", "y", "b", "w", "ghost", "w"] ∧
      ((denying.select files wary).outcome .initial).result =
        .error (.invalidExclusions ["z", "y", "w"]) := by
  intro files
  have henabled : denying.isEnabled = .ok true := by decide +kernel
  have hcandidates : assembled.candidates ≠ [] := by decide +kernel
  exact ⟨rfl, henabled, hcandidates, checksExclusions_of_enabled rfl henabled hcandidates wary,
    by decide +kernel, by decide +kernel⟩

end Resolver

end Activation
