/-
Resolution.

Each site is resolved on its own: the candidates lose their repetitions and the
site's exclusions, and the condition filters judge the rest. The entries of all
sites are then coordinated into one ordered list of imports.

* `PropertyKeys`, `Resolver`: the properties that are consulted, and the parts of
  a resolver.
* `Event`, `Notification`: what listeners are told about each resolved site.
* `Trace`, `Run`, `Outcome`: what a call changes and shows besides its result.
  Nothing else of one call can be seen in a later one.
* `Resolver.admission`: what the filters are asked about, decided before the index
  or any filter is consulted.
* `Resolver.isEnabled`, `select`, `shouldExclude`, `resolve`: the calls.
* `Resolution`: the imports with the reports of the sites.
-/
import Activation.Condition
import Activation.Coordinator
import Activation.Index.Loader

namespace Activation

/-- The keys of the properties that resolution consults. -/
structure PropertyKeys where
  /-- The switch for activation as a whole. -/
  enabled : String
  /-- The list of excluded ids. -/
  exclude : String
  /-- The stem of the keys of toggles. -/
  toggleStem : String
  /-- The general switch of toggles. -/
  enabledByDefault : String
deriving DecidableEq

/-- The keys in use unless others are configured. -/
def PropertyKeys.standard : PropertyKeys where
  enabled := "autoactivate.enabled"
  exclude := "autoactivate.exclude"
  toggleStem := "autoactivate.module"
  enabledByDefault := "autoactivate.modules.enabled-by-default"

instance : Inhabited PropertyKeys := ⟨.standard⟩

/-- The keys that the condition on toggles looks up. -/
def PropertyKeys.toggles (keys : PropertyKeys) : Condition.Toggles :=
  ⟨keys.toggleStem, keys.enabledByDefault⟩

/-- What listeners are told about a site. -/
structure Event where
  site : String
  configurations : List ModuleId
  exclusions : Exclusions
deriving DecidableEq, Inhabited

/-- An event as one listener, counted from zero, receives it. -/
structure Notification where
  listener : Nat
  event : Event
deriving DecidableEq, Inhabited

/-- What a site came to: its entry and the candidates that conditions rejected. -/
structure SiteReport where
  site : String
  entry : Entry
  rejected : List Rejection
deriving DecidableEq, Inhabited

/-- What a run over several sites came to. -/
structure Resolution where
  imports : List Import
  sites : List SiteReport
deriving DecidableEq, Inhabited

namespace Resolution

/-- The activated modules in activation order. -/
def ids (resolution : Resolution) : List ModuleId := resolution.imports.map Import.id

/-- The exclusions of every site. -/
def exclusions (resolution : Resolution) : Exclusions :=
  resolution.sites.foldl (fun all report => all.union report.entry.exclusions) .empty

/-- They are those that the coordinator takes from the entries of the sites. -/
theorem exclusions_eq_excluded (resolution : Resolution) :
    resolution.exclusions = Coordinator.excluded (resolution.sites.map SiteReport.entry) := by
  rw [exclusions, Coordinator.excluded, List.foldl_map]

end Resolution

/-- The parts of a resolver. -/
structure Resolver where
  /-- The host's registry. -/
  registry : Catalog
  environment : Environment
  loader : Loader
  filters : List Filter
  /-- The number of listeners. -/
  listeners : Nat
  keys : PropertyKeys

/-- What calls of a resolver change: the loader's state and the events told so far. -/
structure Trace where
  loader : LoaderState
  events : List Notification
deriving DecidableEq, Inhabited

/-- A call that may fail; what it did to the trace before it failed stays done. -/
abbrev Run := ExceptT ResolveError (StateM Trace)

/-- What a call comes to: its result, the events it told, and the loader's state after it. -/
structure Outcome (α : Type) where
  result : Except ResolveError α
  events : List Notification
  loader : LoaderState

/-- A call made in a state of the loader. -/
def Run.outcome {α : Type} (call : Run α) (state : LoaderState) : Outcome α :=
  let (result, trace) := call.run.run ⟨state, []⟩
  ⟨result, trace.events, trace.loader⟩

/-- What a site puts before the filters. -/
inductive Admission where
  /-- Activation is off. -/
  | disabled
  /-- The candidates left by the exclusions, and the exclusions. -/
  | candidates (remaining : List ModuleId) (exclusions : Exclusions)
deriving DecidableEq, Inhabited

namespace Resolver

variable (resolver : Resolver) (files : FileReader)

/-- Whether activation is on, which it is unless it is switched off. -/
def isEnabled : Except ResolveError Bool :=
  (resolver.environment.boolean resolver.keys.enabled).map (·.getD true)

/-- What a site puts before the filters, with its exclusions checked. -/
def admission (site : Site) : Except ResolveError Admission :=
  match resolver.isEnabled with
  | .error cause => .error cause
  | .ok false => .ok .disabled
  | .ok true =>
    if resolver.registry.candidates.isEmpty then .error .noCandidates
    else
      let candidates := distinct resolver.registry.candidates
      let exclusions := site.exclusions resolver.environment resolver.keys.exclude
      match exclusions.validate candidates resolver.registry with
      | .error cause => .error cause
      | .ok () => .ok (.candidates (subtract candidates exclusions) exclusions)

/-- The index for the resolver's environment. -/
def loadIndex : Run Index :=
  ExceptT.mk fun trace =>
    let (loaded, loader) :=
      resolver.loader.load files resolver.environment.identity trace.loader
    (loaded.map LoadedIndex.index, { trace with loader })

/-- One notification to each listener in turn. -/
def notifications (event : Event) : List Notification :=
  (List.range resolver.listeners).map fun listener => ⟨listener, event⟩

/-- Tells every listener about a site. -/
def announce (event : Event) : Run Unit :=
  ExceptT.mk fun trace =>
    (.ok (), { trace with events := trace.events ++ resolver.notifications event })

/-- What the filters make of candidates under the current index. -/
def judge (candidates : List ModuleId) : Run FilterOutcome := do
  let index ← resolver.loadIndex files
  ExceptT.mk (pure (filterCandidates resolver.filters index candidates))

/-- Resolves one site. -/
def select (site : Site) : Run SiteReport := do
  match resolver.admission site with
  | .error cause => throw cause
  | .ok .disabled => return ⟨site.name, .empty, []⟩
  | .ok (.candidates remaining exclusions) =>
    let outcome ← resolver.judge files remaining
    resolver.announce ⟨site.name, outcome.accepted, exclusions⟩
    return ⟨site.name, ⟨outcome.accepted, exclusions⟩, outcome.rejected⟩

/-- Whether the condition filters reject a module. -/
def shouldExclude (id : ModuleId) : Run Bool := do
  let outcome ← resolver.judge files [id]
  return outcome.accepted.isEmpty

/-- The coordinator after the reports of sites are registered. -/
def coordinate (index : Index) (sites : List Site) (reports : List SiteReport) : Coordinator :=
  (sites.zip reports).foldl (fun coordinator report => coordinator.process report.1 report.2.entry)
    (.new index)

/-- Resolves every site and orders what they accept together. -/
def resolve (sites : List Site) : Run Resolution := do
  let index ← resolver.loadIndex files
  let reports ← sites.mapM (resolver.select files)
  match (coordinate index sites reports).selectImports.1 with
  | .error cause => throw cause
  | .ok imports => return ⟨imports, reports⟩

end Resolver

end Activation
