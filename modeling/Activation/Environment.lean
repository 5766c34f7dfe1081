/-
Environments.

Resolution looks properties up in an environment and never loads them itself.
The identity of an environment tells caches whether what was derived from it is
still of use.

* `Identity`, `IdentitySupply`: identities and the counter they are taken from.
* `Environment`: an identity and the answer to each key.
* `Environment.boolean`, `Environment.entries`: a property read as a Boolean and
  as a list; both are decided by the property's own value alone.
-/
import Activation.Property

namespace Activation

/-- The identity of an environment. -/
structure Identity where
  serial : UInt64
deriving DecidableEq, Inhabited

/-- The counter that identities are taken from. -/
structure IdentitySupply where
  next : UInt64
deriving DecidableEq, Inhabited

namespace IdentitySupply

/-- The supply before any environment is made. -/
def initial : IdentitySupply := ⟨1⟩

/-- The next identity, and the supply without it. -/
def take (supply : IdentitySupply) : Identity × IdentitySupply :=
  (⟨supply.next⟩, ⟨supply.next + 1⟩)

end IdentitySupply

/-- What resolution sees of an environment: who it is and what it answers. -/
structure Environment where
  identity : Identity
  property : String → Option String

namespace Environment

/-- A property read as a Boolean, if it is set. -/
def boolean (environment : Environment) (key : String) : Except ResolveError (Option Bool) :=
  match environment.property key with
  | none => .ok none
  | some value => (Property.boolean key value).map some

/-- A property read as a comma-separated list; none is the empty list. -/
def entries (environment : Environment) (key : String) : List String :=
  match environment.property key with
  | none => []
  | some value => Property.entries value

end Environment

end Activation
