/-
Activation sites.

A site asks for activation on its own account. It names modules it will not
have, and what it ends up with is its entry.

* `Site`: a name and the exclusions it declares by id and by type.
* `Site.exclusions`: these together with the ones the environment lists.
* `Entry`: the modules a site accepts and the exclusions it brings.
-/
import Activation.Environment
import Activation.Exclusion

namespace Activation

/-- A place that modules are activated for. -/
structure Site where
  name : String
  /-- The modules excluded by id. -/
  exclude : IdSet
  /-- The modules excluded by the name of their type. -/
  excludeTypes : IdSet
deriving DecidableEq, Inhabited

namespace Site

/-- A site that excludes nothing. -/
def named (name : String) : Site := ⟨name, .empty, .empty⟩

/-- The site with an exclusion by id. -/
def excluding (site : Site) (id : ModuleId) : Site :=
  { site with exclude := site.exclude.insert id }

/-- The site with an exclusion by type. -/
def excludingType (site : Site) (type : String) : Site :=
  { site with excludeTypes := site.excludeTypes.insert type }

/-- The exclusions of a site and of the property `key` of an environment. -/
def exclusions (site : Site) (environment : Environment) (key : String) : Exclusions :=
  .merge site.exclude.toList site.excludeTypes.toList (environment.entries key)

end Site

/-- What a site contributes: the modules it accepts, and exclusions that hold for every site. -/
structure Entry where
  configurations : List ModuleId
  exclusions : Exclusions
deriving DecidableEq

namespace Entry

/-- The entry that contributes nothing. -/
def empty : Entry := ⟨[], .empty⟩

instance : Inhabited Entry := ⟨empty⟩

/-- Whether neither modules nor exclusions are contributed. -/
def isEmpty (entry : Entry) : Bool := entry.configurations.isEmpty && entry.exclusions.isEmpty

end Entry

end Activation
