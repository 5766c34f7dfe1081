/-
The built-in conditions.

Each condition is read from one attribute of the index; a module without the
attribute passes.

* `onModule`: the modules it lists exist.
* `propertyHolds`, `onProperty`: every `key` or `key=value` it lists holds.
* `toggleKey`, `isEnabled`, `onEnabled`: the toggle it names is on, where the
  module's own switch goes before the general one, and that before the module's
  default.
-/
import Activation.Environment
import Activation.Filter
import Activation.Registry

namespace Activation.Condition

/-- The filter on `ConditionalOnModule`: every module listed exists. -/
def onModule (catalog : Catalog) : Filter :=
  .ofPredicate "on-module" fun id index =>
    match index.attribute? id "ConditionalOnModule" with
    | none => .ok true
    | some required => .ok ((Property.entries required).all catalog.isResolvable)

/-- Whether a condition on a property holds: `key=value` when the property is that value, `key`
when it is set to anything but `false`; case and blank ends of values do not count. -/
def propertyHolds (environment : Environment) (condition : String) : Bool :=
  match Text.splitFirst '=' condition.toList with
  | some (key, expected) =>
    match environment.property (String.ofList (Text.trim key)) with
    | some actual => Text.sameCaseless (Text.trim actual.toList) (Text.trim expected)
    | none => false
  | none =>
    match environment.property condition with
    | some actual => !Text.sameCaseless (Text.trim actual.toList) "false".toList
    | none => false

/-- The filter on `ConditionalOnProperty`: every condition between semicolons holds. -/
def onProperty (environment : Environment) : Filter :=
  .ofPredicate "on-property" fun id index =>
    match index.attribute? id "ConditionalOnProperty" with
    | none => .ok true
    | some conditions => .ok ((Property.parts ';' conditions).all (propertyHolds environment))

/-- The property that switches a named toggle. -/
def toggleKey (stem name : String) : String :=
  stem ++ "." ++ String.ofList (Text.lower name.toList) ++ ".enabled"

/-- Where toggles are looked up: the stem of their own keys, and the key of the general switch. -/
structure Toggles where
  stem : String
  defaultKey : String
deriving DecidableEq, Inhabited

/-- The attribute with a module's own default. -/
def enabledByDefault : String := "EnabledByDefault"

/-- Whether a module's toggle is on: the first that is set of the toggle's own property, the
general switch and the module's default decides, and with none set it is on. -/
def isEnabled (environment : Environment) (toggles : Toggles) (index : Index) (id : ModuleId)
    (name : String) : Except String Bool :=
  match environment.boolean (toggleKey toggles.stem name) with
  | .error cause => .error cause.message
  | .ok (some flag) => .ok flag
  | .ok none =>
    match environment.boolean toggles.defaultKey with
    | .error cause => .error cause.message
    | .ok (some flag) => .ok flag
    | .ok none =>
      match index.attribute? id enabledByDefault with
      | none => .ok true
      | some value =>
        match Property.boolean enabledByDefault value with
        | .error cause => .error (id ++ ": " ++ cause.message)
        | .ok flag => .ok flag

/-- The filter on `ConditionalOnEnabled`: the toggle named is on. -/
def onEnabled (environment : Environment) (toggles : Toggles) : Filter :=
  .ofPredicate "on-enabled" fun id index =>
    match index.attribute? id "ConditionalOnEnabled" with
    | none => .ok true
    | some name =>
      isEnabled environment toggles index id (String.ofList (Text.trim name.toList))

end Activation.Condition
