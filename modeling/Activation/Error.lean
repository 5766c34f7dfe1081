/-
Why a resolution fails.

Every cause stops the run before any order is shown. The causes are data; their
wording is in `IndexFault.message` and `ResolveError.message` alone.

* `IndexFault`: what makes a metadata index unusable, with the part of the index
  it is found in.
* `ResolveError`: the causes that end a resolution.
-/
import Activation.Files.Error
import Activation.IdSet

namespace Activation

/-- What makes a metadata index unusable. -/
inductive IndexFault where
  /-- A line, counted from one, that is no `<id>.<Attribute>=<value>`. -/
  | malformedLine (number : Nat) (line : String)
  /-- A priority that is no integer of 32 bits. -/
  | notInteger (id : ModuleId) (name value : String)
  /-- A flag that is no Boolean. -/
  | notBoolean (id : ModuleId) (name value : String)
  /-- A file that cannot be read. -/
  | unreadable (path : String) (cause : FileError)
  /-- An index is required, and none is named. -/
  | noSource
deriving DecidableEq, Inhabited

namespace IndexFault

/-- Where the fault is found. -/
def source : IndexFault → String
  | .malformedLine number _ => s!"line {number}"
  | .notInteger id name _ => s!"{id}.{name}"
  | .notBoolean id name _ => s!"{id}.{name}"
  | .unreadable path _ => path
  | .noSource => "<none>"

/-- What the fault is. -/
def detail : IndexFault → String
  | .malformedLine _ line => s!"expected '<id>.<Attribute>=<value>', got '{line}'"
  | .notInteger _ _ value => s!"priority '{value}' is not an integer"
  | .notBoolean _ _ value => s!"'{value}' is not a boolean"
  | .unreadable _ cause => cause.message
  | .noSource => "no metadata source configured"

end IndexFault

/-- Why a resolution fails. -/
inductive ResolveError where
  /-- Modules that exist were excluded without being candidates. -/
  | invalidExclusions (ids : List ModuleId)
  /-- The constraints among the modules cannot be satisfied; the ids were left unplaced. -/
  | cyclicOrdering (ids : List ModuleId)
  /-- Activation is on and the registry has no candidates. -/
  | noCandidates
  /-- A condition filter failed. -/
  | filter (name detail : String)
  /-- A condition filter gave another number of answers than it was shown slots. -/
  | filterArity (name : String) (expected actual : Nat)
  /-- The metadata index is required and unusable. -/
  | metadata (fault : IndexFault)
  /-- A typed property holds a value of another type. -/
  | invalidProperty (key value : String)
deriving DecidableEq, Inhabited

/-- The wording of a cause. -/
def ResolveError.message : ResolveError → String
  | .invalidExclusions ids =>
    "the following modules could not be excluded because they are not auto-activation candidates: "
      ++ ", ".intercalate ids
  | .cyclicOrdering ids => "cyclic ordering constraints between modules: " ++ ", ".intercalate ids
  | .noCandidates => "no auto-activation candidates found in the module registry"
  | .filter name detail => s!"condition filter '{name}' failed: {detail}"
  | .filterArity name expected actual =>
    s!"condition filter '{name}' returned {actual} results for {expected} candidates"
  | .metadata fault => s!"module metadata from {fault.source} is unusable: {fault.detail}"
  | .invalidProperty key value => s!"property '{key}' has invalid value '{value}'"

end Activation
