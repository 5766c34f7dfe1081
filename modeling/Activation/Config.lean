/-
Configuration.

A configuration names the parts of a deployment: where its candidates and its
index come from, which properties are fixed, and the sites to resolve.

* `LogSettings`, `IndexSettings`, `RegistrySettings`, `Config`: its sections,
  with what holds when nothing is said.
* `Config.rebase`: paths read from the directory of the configuration file.
* `Config.effectiveSites`: the sites to resolve, one named `default` when none is
  configured.
* `Config.registry`, `properties`, `loader`, `resolver`: the parts it describes.
-/
import Activation.Environment.Source
import Activation.Files.Path
import Activation.Resolver

namespace Activation

/-- What is logged and where to. -/
structure LogSettings where
  level : String
  /-- The directory for log files, if there are to be any. -/
  directory : Option String
deriving DecidableEq

/-- Where the metadata index is, and whether a run depends on it. -/
structure IndexSettings where
  path : Option String
  required : Bool
deriving DecidableEq

/-- Where modules are listed. -/
structure RegistrySettings where
  /-- The files with import lists. -/
  imports : List String
  candidates : List ModuleId
  available : List ModuleId
deriving DecidableEq

/-- A configuration. -/
structure Config where
  logging : LogSettings
  keys : PropertyKeys
  metadata : IndexSettings
  registry : RegistrySettings
  /-- Properties that hold unless the process or the command line says otherwise. -/
  environment : Table String
  sites : List Site
deriving DecidableEq

/-- The logging of a configuration that says nothing about it. -/
def LogSettings.standard : LogSettings := ⟨"info", none⟩

/-- No index, and none required. -/
def IndexSettings.standard : IndexSettings := ⟨none, false⟩

/-- No modules. -/
def RegistrySettings.standard : RegistrySettings := ⟨[], [], []⟩

instance : Inhabited LogSettings := ⟨.standard⟩

instance : Inhabited IndexSettings := ⟨.standard⟩

instance : Inhabited RegistrySettings := ⟨.standard⟩

/-- Why a configuration is unusable. -/
inductive ConfigError where
  /-- The configuration file cannot be read. -/
  | unreadable (path : String) (cause : FileError)
  /-- The configuration file is no TOML document, or a part of it has the wrong type. -/
  | notToml
  /-- A file with an import list cannot be read. -/
  | importList (path : String) (cause : FileError)
deriving DecidableEq, Inhabited

/-- The wording of a cause. -/
def ConfigError.message : ConfigError → String
  | .unreadable path cause => s!"failed to read config file {path}: {cause.message}"
  | .notToml => "failed to parse config TOML"
  | .importList path cause => s!"failed to read import list {path}: {cause.message}"

namespace Config

/-- The configuration that says nothing. -/
def standard : Config where
  logging := .standard
  keys := .standard
  metadata := .standard
  registry := .standard
  environment := .empty
  sites := []

instance : Inhabited Config := ⟨standard⟩

/-- The configuration with its relative paths read from a directory. -/
def rebase (config : Config) (base : String) : Config :=
  { config with
    logging := { config.logging with directory := config.logging.directory.map (Path.join base) }
    metadata := { config.metadata with path := config.metadata.path.map (Path.join base) }
    registry := { config.registry with imports := config.registry.imports.map (Path.join base) } }

/-- The sites to resolve. -/
def effectiveSites (config : Config) : List Site :=
  if config.sites.isEmpty then [.named "default"] else config.sites

/-- The registry with the candidates of one more file behind its own. -/
def addImports (files : FileReader) (registry : Registry) (path : String) :
    Except ConfigError Registry :=
  match files path with
  | .ok contents => .ok (registry.withImports contents)
  | .error cause => .error (.importList path cause)

/-- The registry: the candidates listed, then those of each import list. -/
def buildRegistry (config : Config) (files : FileReader) : Except ConfigError Registry :=
  config.registry.imports.foldlM (addImports files)
    ((Registry.ofCandidates config.registry.candidates).withAvailable config.registry.available)

/-- The properties: overrides go before the process variables, and these before the
configuration's own. -/
def properties (config : Config) (overrides : List (String × String)) (supply : IdentitySupply) :
    PropertySource × IdentitySupply :=
  let (first, supply) := PropertySource.ofPairs overrides supply
  let (second, supply) := PropertySource.ofVariables supply
  let (third, supply) := PropertySource.ofPairs config.environment.entries supply
  PropertySource.ofLayers [first, second, third] supply

/-- The loader of the index. -/
def loader (config : Config) : Loader where
  source :=
    match config.metadata.path with
    | some path => .file path
    | none => .absent
  required := config.metadata.required

/-- The resolver over a registry and an environment, with the built-in conditions and one
listener. -/
def resolver (config : Config) (registry : Catalog) (environment : Environment) : Resolver where
  registry := registry
  environment := environment
  loader := config.loader
  filters :=
    [Condition.onModule registry, Condition.onProperty environment,
      Condition.onEnabled environment config.keys.toggles]
  listeners := 1
  keys := config.keys

end Config

end Activation
