/-
Where properties come from.

A property source is a map, the variables of the process, or a stack of sources
of which the first that holds a key wins.

* `Variables`, `Variables.ofPairs`, `Variables.value?`, `Variables.setNew`: the
  variables of a process, what a name finds among them, and one more of them.
* `variableName`, `Variables.property`: the variable that a property key finds, by
  the key as it is or by the name it maps to.
* `PropertySource`: the three kinds, each with its identity.
* `PropertySource.property`, `PropertySource.environment`: what a source answers
  under given variables, and the environment it makes.
* `PropertySource.ofPairs`, `extend`, `ofVariables`, `noLayers`, `addLayer`:
  the constructions, each of which takes a fresh identity.
-/
import Activation.Environment
import Activation.Table
import Activation.Text.Split

namespace Activation

/-- The variables of a process: texts `name=value`, one behind the other. -/
structure Variables where
  settings : List (List Char)
deriving DecidableEq, Inhabited

namespace Variables

/-- No variables. -/
def empty : Variables := ⟨[]⟩

/-- The text that sets a variable. -/
def setting (name value : String) : List Char :=
  name.toList ++ '=' :: value.toList

/-- The variables that pairs of a name and a value set, in the order of the names; of two pairs
with one name the later counts. -/
def ofPairs (pairs : List (String × String)) : Variables :=
  ⟨(Table.ofList pairs).entries.map fun entry => setting entry.1 entry.2⟩

/-- What a name finds: the rest of the first text that begins with the name and an equals sign.
So a name with an equals sign in it reaches into a value. The empty name finds nothing. -/
def value? (vars : Variables) (name : String) : Option String :=
  if name = "" then none
  else (vars.settings.findSome? (Text.after? (name.toList ++ ['=']))).map String.ofList

/-- The variables with one more, unless its name finds something already. -/
def setNew (vars : Variables) (name value : String) : Variables :=
  if (vars.value? name).isSome then vars else ⟨vars.settings ++ [setting name value]⟩

/-- A variable that was set anew is found, and one found before is kept. -/
theorem value?_setNew (vars : Variables) {name : String} (value : String) (named : name ≠ "") :
    (vars.setNew name value).value? name = some ((vars.value? name).getD value) := by
  unfold setNew
  split
  · rename_i h
    obtain ⟨found, h⟩ := Option.isSome_iff_exists.mp h
    simp [h]
  · rename_i h
    have absent : vars.settings.findSome? (Text.after? (name.toList ++ ['='])) = none := by
      simpa [value?, named] using h
    have here : Text.after? (name.toList ++ ['=']) (setting name value) = some value.toList :=
      Text.after?_eq_some_iff.mpr (by simp [setting])
    simp [value?, named, List.findSome?_append, absent, here]

end Variables

/-- The variable that a property key maps to: `.` and `-` become `_`, letters upper case. -/
def variableName (key : String) : String :=
  String.ofList (key.toList.map fun c => if c = '.' ∨ c = '-' then '_' else c.toUpper)

/-- Whether a text can name a variable. -/
def isVariableKey (key : String) : Bool :=
  key ≠ "" && !key.toList.any fun c => c = '=' || c = '\x00'

/-- A key among variables: the variable of that very name, else of the name it maps to. -/
def Variables.property (vars : Variables) (key : String) : Option String :=
  if isVariableKey key then
    match vars.value? key with
    | some value => some value
    | none => vars.value? (variableName key)
  else none

/-- A source of properties. -/
inductive PropertySource where
  /-- Properties held in memory. -/
  | map (identity : Identity) (properties : Table String)
  /-- The variables of the process. -/
  | process (identity : Identity)
  /-- Sources in order of precedence, the highest first. -/
  | layered (identity : Identity) (layers : List PropertySource)

namespace PropertySource

instance : Inhabited PropertySource := ⟨.process default⟩

/-- The identity of a source. -/
def identity : PropertySource → Identity
  | .map identity _ => identity
  | .process identity => identity
  | .layered identity _ => identity

/-- The layers of a stack; another source has none. -/
def layers : PropertySource → List PropertySource
  | .layered _ layers => layers
  | _ => []

mutual

/-- What a source answers to a key. -/
def property (vars : Variables) (key : String) : PropertySource → Option String
  | .map _ properties => properties.find? key
  | .process _ => vars.property key
  | .layered _ layers => firstProperty vars key layers

/-- What the first of several sources that holds a key answers to it. -/
def firstProperty (vars : Variables) (key : String) : List PropertySource → Option String
  | [] => none
  | source :: sources =>
    match property vars key source with
    | some value => some value
    | none => firstProperty vars key sources

end

/-- The environment a source makes under given variables. -/
def environment (source : PropertySource) (vars : Variables) : Environment where
  identity := source.identity
  property key := source.property vars key

/-! ### Constructions -/

/-- A map of pairs, a later pair over an earlier one with the same key. -/
def ofPairs (pairs : List (String × String)) (supply : IdentitySupply) :
    PropertySource × IdentitySupply :=
  let (identity, supply) := supply.take
  (.map identity (Table.ofList pairs), supply)

/-- The properties of a map; another source has none. -/
def properties? : PropertySource → Option (Table String)
  | .map _ properties => some properties
  | _ => none

/-- A map with one more property, under a new identity; the first map is left as it is. -/
def extend (source : PropertySource) (key value : String) (supply : IdentitySupply) :
    PropertySource × IdentitySupply :=
  let (identity, supply) := supply.take
  (.map identity ((source.properties?.getD Table.empty).insert key value), supply)

/-- The process variables as a source. -/
def ofVariables (supply : IdentitySupply) : PropertySource × IdentitySupply :=
  let (identity, supply) := supply.take
  (.process identity, supply)

/-- A stack without layers. -/
def noLayers (supply : IdentitySupply) : PropertySource × IdentitySupply :=
  let (identity, supply) := supply.take
  (.layered identity [], supply)

/-- A stack with one more layer below the others, under a new identity. -/
def addLayer (stack layer : PropertySource) (supply : IdentitySupply) :
    PropertySource × IdentitySupply :=
  let (identity, supply) := supply.take
  (.layered identity (stack.layers ++ [layer]), supply)

/-- A stack of layers, the highest first, each addition of a layer taking an identity. -/
def ofLayers (layers : List PropertySource) (supply : IdentitySupply) :
    PropertySource × IdentitySupply :=
  layers.foldl (fun built layer => addLayer built.1 layer built.2) (noLayers supply)

end PropertySource

end Activation
