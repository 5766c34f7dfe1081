/-
One run of the program.

A run reads the variables a `.env` file adds, the arguments and the
configuration, makes the directory for log files if one is wanted, and carries
out the command. The first failure ends it.

* `Failure`, `Ending`, `Output`: how a run ends and what it prints.
* `Session.perform`: a command carried out by a resolver, over files as they
  stand.
* `Session.run`: the whole run.
-/
import Activation.CommandLine
import Activation.Config.Decode
import Activation.Config.Load
import Activation.DotEnv
import Activation.Files.System
import Activation.Report

namespace Activation

/-- Why a run fails. -/
inductive Failure where
  | config (cause : ConfigError)
  | logDirectory (path : String) (cause : FileError)
  | resolver (cause : ConfigError)
  | resolution (cause : ResolveError)
deriving DecidableEq, Inhabited

/-- The wording of a failure. -/
def Failure.message : Failure → String
  | .config cause => cause.message
  | .logDirectory path cause => s!"failed to create logs directory {path}: {cause.message}"
  | .resolver cause => s!"failed to build resolver: {cause.message}"
  | .resolution cause => cause.message

/-- How a run ends. -/
inductive Ending where
  | success
  | failure (cause : Failure)
  /-- The arguments spell no command. -/
  | misuse
deriving DecidableEq, Inhabited

/-- The exit code of an ending. -/
def Ending.code : Ending → Nat
  | .success => 0
  | .failure _ => 1
  | .misuse => 2

/-- What a run prints, and how it ends. -/
structure Output where
  text : String
  ending : Ending
deriving DecidableEq, Inhabited

/-- The output of a run that fails and prints nothing. -/
def Output.failed (cause : Failure) : Output := ⟨"", .failure cause⟩

namespace Session

/-- The name and the version of the program. -/
def versionText : String := "autoactivate 0.1.0\n"

/-- How the program is used. -/
def helpText : String :=
  String.join ([
    "Module auto-activation and ordering resolver with deferred multi-site resolution",
    "",
    "Usage: autoactivate [OPTIONS] <COMMAND>",
    "",
    "Commands:",
    "  resolve  Resolve every configured site and print the activation order",
    "  check    Validate the configuration and report counts without printing the order",
    "  explain  Show metadata and filter outcome for one module",
    "  help     Print this message or the help of the given subcommand(s)",
    "",
    "Options:",
    "      --config <CONFIG>        Path to the TOML configuration file",
    "  -D, --property <PROPERTIES>  Environment property override, key=value; may be repeated",
    "      --log-dir <LOG_DIR>      Also write JSON logs to this directory",
    "  -h, --help                   Print help",
    "  -V, --version                Print version"].map (· ++ "\n"))

/-! ### Commands -/

/-- The output of a resolution, given how it is reported. -/
def reported (report : Resolution → String) : Except ResolveError Resolution → Output
  | .ok resolution => ⟨report resolution, .success⟩
  | .error cause => .failed (.resolution cause)

/-- What is known of one module; what the index says is printed even when a condition fails. -/
def explained (resolver : Resolver) (files : FileReader) (id : ModuleId) : Output :=
  let loaded := (resolver.loadIndex files).outcome .initial
  match loaded.result with
  | .error cause => .failed (.resolution cause)
  | .ok index =>
    let facts := Report.facts resolver.registry index id
    match ((resolver.shouldExclude files id).outcome loaded.loader).result with
    | .error cause => ⟨facts, .failure (.resolution cause)⟩
    | .ok rejected => ⟨facts ++ Report.verdict rejected, .success⟩

/-- A command carried out. -/
def perform (resolver : Resolver) (files : FileReader) (sites : List Site) : Command → Output
  | .resolve json =>
    reported (if json then Report.document else Report.order)
      ((resolver.resolve files sites).outcome .initial).result
  | .check => reported Report.counts ((resolver.resolve files sites).outcome .initial).result
  | .explain id => explained resolver files id

/-! ### Runs -/

section

variable {m : Type → Type} [Monad m] (files : FileSystem m)

/-- The text of a file. -/
def readText (path : String) : m (Except FileError String) := do
  return (← files.read path).bind decodeText

/-- The files at some paths as they stand now. -/
def snapshot (paths : List String) : m FileReader := do
  let readings ← paths.mapM fun path => do return (path, ← readText files path)
  return fun path => (readings.lookup path).getD (.error .notFound)

/-- The variables of the process with those that a `.env` file adds. -/
def readVariables (vars : Variables) : m Variables := do
  match ← files.read ".env" with
  | .ok bytes => return vars.extend (decodeLines bytes)
  | .error _ => return vars

/-- The configuration. -/
def readConfig (vars : Variables) (options : Options) : m (Except ConfigError Config) := do
  let file := ConfigFile.choose options.config vars.value?
  return Config.ofReading Config.parse file vars.value? (← readText files file.path)

/-- The directory for log files, made if one is wanted. -/
def makeLogDirectory (config : Config) (options : Options) : m (Except Failure Unit) := do
  match options.logDirectory.or config.logging.directory with
  | none => return .ok ()
  | some path => return (← files.makeDirectories path).mapError (Failure.logDirectory path)

/-- The registry. -/
def readRegistry (config : Config) : m (Except Failure Registry) := do
  return (config.buildRegistry (← snapshot files config.registry.imports)).mapError .resolver

/-- The command of an invocation, carried out under given variables. -/
def invoke (vars : Variables) (invocation : Invocation) : m Output := do
  match ← readConfig files vars invocation.options with
  | .error cause => return .failed (.config cause)
  | .ok config =>
    match ← makeLogDirectory files config invocation.options with
    | .error cause => return .failed cause
    | .ok () =>
      match ← readRegistry files config with
      | .error cause => return .failed cause
      | .ok registry =>
        let (source, _) := config.properties invocation.options.properties .initial
        let resolver := config.resolver registry (source.environment vars)
        let indexFiles ← snapshot files config.metadata.path.toList
        return perform resolver indexFiles config.effectiveSites invocation.command

/-- The whole run: what the arguments ask for under the variables of the process. -/
def run (vars : Variables) (arguments : List String) : m Output := do
  let vars ← readVariables files vars
  match Invocation.ofArguments arguments with
  | .error .misuse => return ⟨"", .misuse⟩
  | .error .help => return ⟨helpText, .success⟩
  | .error .version => return ⟨versionText, .success⟩
  | .ok invocation => invoke files vars invocation

end

end Session

end Activation
