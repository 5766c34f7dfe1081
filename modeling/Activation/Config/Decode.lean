/-
Configurations as TOML documents.

Every section and every entry may be left out and then holds its standard; only
a site must have a name. What the configuration does not know is ignored, and a
value of the wrong type is refused.

* `Record`: a section, given as a table of its fields by name or as an array of
  them in their order.
* `Record.read`, `Record.require`: a field with and without a standard.
* `Config.ofEntries?`, `Config.parse`: the configuration of a document and of a
  text.
-/
import Activation.Config
import Activation.Toml.Document

namespace Activation

namespace Toml.Node

/-- A text. -/
def text? : Node → Option String
  | .string text => some text
  | _ => none

/-- A Boolean. -/
def boolean? : Node → Option Bool
  | .boolean value => some value
  | _ => none

/-- The elements of an array, each read in the same way. -/
def list? {α : Type} (element? : Node → Option α) : Node → Option (List α)
  | .array elements => elements.mapM element?
  | .tables elements => elements.mapM element?
  | _ => none

/-- The entries of a table. A date or time stands for the table that holds its text. -/
def entries? : Node → Option Entries
  | .table _ entries => some entries
  | .datetime text => some [("$__toml_private_datetime", .string text)]
  | _ => none

/-- A table of texts. -/
def textTable? (node : Node) : Option (Table String) := do
  let entries ← node.entries?
  let pairs ← entries.mapM fun entry => entry.2.text?.map (Prod.mk entry.1)
  return Table.ofList pairs

end Toml.Node

open Toml (Node Entries)

/-- The fields of a section by name, or in their order. -/
inductive Record where
  | named (entries : Entries)
  | listed (fields : List Node)

namespace Record

/-- The fields that a value gives. -/
def ofNode? : Node → Option Record
  | .array fields => some (.listed fields)
  | .tables fields => some (.listed fields)
  | node => node.entries?.map .named

/-- The field of a name, which has a position among the fields of its section. -/
def field? (record : Record) (position : Nat) (name : String) : Option Node :=
  match record with
  | .named entries => entries.lookup name
  | .listed fields => fields[position]?

/-- A field that may be left out. -/
def read {α : Type} (record : Record) (position : Nat) (name : String)
    (value? : Node → Option α) (absent : α) : Option α :=
  match record.field? position name with
  | none => some absent
  | some node => value? node

/-- A field that must be there. -/
def require {α : Type} (record : Record) (position : Nat) (name : String)
    (value? : Node → Option α) : Option α :=
  (record.field? position name).bind value?

end Record

open Toml.Node (text? boolean? list? textTable?)

/-- The section on logging. -/
def LogSettings.ofNode? (node : Node) : Option LogSettings := do
  let record ← Record.ofNode? node
  let level ← record.read 0 "level" text? LogSettings.standard.level
  let directory ← record.read 1 "dir" (text? · |>.map some) none
  return ⟨level, directory⟩

/-- The section on property keys. -/
def PropertyKeys.ofNode? (node : Node) : Option PropertyKeys := do
  let record ← Record.ofNode? node
  let enabled ← record.read 0 "enabled" text? PropertyKeys.standard.enabled
  let exclude ← record.read 1 "exclude" text? PropertyKeys.standard.exclude
  let toggleStem ← record.read 2 "module_prefix" text? PropertyKeys.standard.toggleStem
  let enabledByDefault ←
    record.read 3 "enabled_by_default" text? PropertyKeys.standard.enabledByDefault
  return ⟨enabled, exclude, toggleStem, enabledByDefault⟩

/-- The section on the index. -/
def IndexSettings.ofNode? (node : Node) : Option IndexSettings := do
  let record ← Record.ofNode? node
  let path ← record.read 0 "path" (text? · |>.map some) none
  let required ← record.read 1 "required" boolean? false
  return ⟨path, required⟩

/-- The section on the registry. -/
def RegistrySettings.ofNode? (node : Node) : Option RegistrySettings := do
  let record ← Record.ofNode? node
  let imports ← record.read 0 "imports" (list? text?) []
  let candidates ← record.read 1 "candidates" (list? text?) []
  let available ← record.read 2 "available" (list? text?) []
  return ⟨imports, candidates, available⟩

/-- One site. -/
def Site.ofNode? (node : Node) : Option Site := do
  let record ← Record.ofNode? node
  let name ← record.require 0 "name" text?
  let exclude ← record.read 1 "exclude" (list? text?) []
  let excludeTypes ← record.read 2 "exclude_types" (list? text?) []
  return ⟨name, .ofList exclude, .ofList excludeTypes⟩

namespace Config

/-- The configuration of a document. -/
def ofEntries? (entries : Entries) : Option Config := do
  let record := Record.named entries
  let logging ← record.read 0 "logging" LogSettings.ofNode? .standard
  let keys ← record.read 1 "keys" PropertyKeys.ofNode? .standard
  let metadata ← record.read 2 "metadata" IndexSettings.ofNode? .standard
  let registry ← record.read 3 "registry" RegistrySettings.ofNode? .standard
  let environment ← record.read 4 "environment" textTable? .empty
  let sites ← record.read 5 "site" (list? Site.ofNode?) []
  return ⟨logging, keys, metadata, registry, environment, sites⟩

/-- The configuration a text spells. -/
def parse (contents : String) : Except ConfigError Config :=
  match (Toml.parse contents).bind ofEntries? with
  | some config => .ok config
  | none => .error .notToml

end Config

end Activation
