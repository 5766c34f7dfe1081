/-
Loading the configuration.

The configuration file is the one named on the command line, else the one the
process variables name, else a default one, which may be absent. What variables
say goes before the file, and the file before the standard.

* `ConfigFile`, `ConfigFile.choose`: the file and whether it must be there.
* `Config.override`: the fields that variables replace.
* `Config.ofReading`, `Config.load`: the configuration after the file was read,
  and out of files.
-/
import Activation.Config

namespace Activation

/-- The value of a variable, if it is set. -/
abbrev Lookup := String → Option String

/-- Reading the text of a configuration. -/
abbrev ConfigParser := String → Except ConfigError Config

/-- The file a configuration is read from. -/
structure ConfigFile where
  path : String
  /-- Whether it is an error that there is no such file. -/
  required : Bool
deriving DecidableEq, Inhabited

/-- The file named explicitly, else by a variable, else the default one. -/
def ConfigFile.choose (explicit : Option String) (lookup : Lookup) : ConfigFile :=
  match explicit with
  | some path => ⟨path, true⟩
  | none =>
    match lookup "AUTOACTIVATE_CONFIG_PATH" with
    | some path => ⟨path, true⟩
    | none => ⟨"autoactivate.toml", false⟩

namespace Config

/-- The configuration with the fields replaced that variables set; a flag that is no Boolean
counts as not set. -/
def override (config : Config) (lookup : Lookup) : Config :=
  let level := (lookup "AUTOACTIVATE_LOG_LEVEL").getD config.logging.level
  let path := (lookup "AUTOACTIVATE_METADATA_PATH").or config.metadata.path
  let required :=
    ((lookup "AUTOACTIVATE_METADATA_REQUIRED").bind Property.boolean?).getD config.metadata.required
  { config with
    logging := { config.logging with level }
    metadata := ⟨path, required⟩ }

/-- The configuration that the outcome of reading its file gives, before variables count. -/
def ofFile (parser : ConfigParser) (file : ConfigFile) :
    Except FileError String → Except ConfigError Config
  | .ok contents =>
    (parser contents).map fun config => config.rebase ((Path.parent? file.path).getD ".")
  | .error cause =>
    if cause = .notFound ∧ !file.required then .ok standard
    else .error (.unreadable file.path cause)

/-- The configuration that the outcome of reading its file gives. -/
def ofReading (parser : ConfigParser) (file : ConfigFile) (lookup : Lookup)
    (reading : Except FileError String) : Except ConfigError Config :=
  (ofFile parser file reading).map (override · lookup)

/-- The configuration that files and variables give. -/
def load (parser : ConfigParser) (files : FileReader) (explicit : Option String) (lookup : Lookup) :
    Except ConfigError Config :=
  let file := ConfigFile.choose explicit lookup
  ofReading parser file lookup (files file.path)

end Config

end Activation
