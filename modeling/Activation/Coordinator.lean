/-
Coordination of sites.

Sites register their entries one at a time and nothing is decided until the
imports are selected, so that an exclusion of a late site removes a module that
an earlier one accepted.

* `Import`: an activated module and the site that owns it.
* `Coordinator`: the entries so far, the first site of each module, and the last
  selection while it is up to date.
* `Coordinator.process`, `entryCount`, `selectImports`: the three calls.
* `accepted`, `excluded`, `selection`: what a selection is made from, and the
  selection as a function of the entries alone.
-/
import Activation.Ordering.Sort
import Activation.Site

namespace Activation

/-- An activated module and the site that contributed it first. -/
structure Import where
  site : String
  id : ModuleId
deriving DecidableEq, Inhabited

/-- What has been registered, and the last selection while nothing was registered after it. -/
structure Coordinator where
  index : Index
  /-- The name of the first site of each module. -/
  owners : Table String
  entries : List Entry
  selected : Option (List Import)

namespace Coordinator

/-- The coordinator before any registration. -/
def new (index : Index) : Coordinator := ⟨index, .empty, [], none⟩

instance : Inhabited Coordinator := ⟨new default⟩

/-- The modules that any entry accepts, in order of first occurrence. -/
def accepted (entries : List Entry) : List ModuleId :=
  distinct (entries.flatMap Entry.configurations)

/-- The ids that any entry excludes. -/
def excluded (entries : List Entry) : Exclusions :=
  entries.foldl (fun all entry => all.union entry.exclusions) .empty

/-- The owners after a site has contributed modules; a module that has an owner keeps it. -/
def enroll (owners : Table String) (site : String) (ids : List ModuleId) : Table String :=
  ids.foldl (fun owners id => owners.insertNew id site) owners

/-- Registers the entry of a site. -/
def process (coordinator : Coordinator) (site : Site) (entry : Entry) : Coordinator where
  index := coordinator.index
  owners := enroll coordinator.owners site.name entry.configurations
  entries := coordinator.entries ++ [entry]
  selected := none

/-- The number of registrations. -/
def entryCount (coordinator : Coordinator) : Nat := coordinator.entries.length

/-- Modules with their owners. -/
def owned (owners : Table String) (ids : List ModuleId) : List Import :=
  ids.filterMap fun id => (owners.find? id).map fun site => ⟨site, id⟩

/-- The imports that the entries lead to. -/
def selection (coordinator : Coordinator) : Except ResolveError (List Import) :=
  (activationOrder (subtract (accepted coordinator.entries) (excluded coordinator.entries))
    coordinator.index).map (owned coordinator.owners)

/-- Selects the imports, which are kept until the next registration. -/
def selectImports (coordinator : Coordinator) :
    Except ResolveError (List Import) × Coordinator :=
  match coordinator.selected with
  | some imports => (.ok imports, coordinator)
  | none =>
    if coordinator.entries.isEmpty then (.ok [], coordinator)
    else match coordinator.selection with
      | .error cause => (.error cause, coordinator)
      | .ok imports => (.ok imports, { coordinator with selected := some imports })

end Coordinator

end Activation
