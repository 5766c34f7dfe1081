/-
The command line.

The arguments name a command, and options for all commands may stand before and
after it. An option behind the command goes before the same option in front of
it, and one place gives a path once.

* `Command`, `Options`, `Invocation`: what is to be done, and with what.
* `Argument`: an argument by its form.
* `Stop`: why arguments do not lead to an invocation; one is misuse, the others
  ask for a text.
* `Progress.next`, `Progress.finish`: the arguments one at a time.
* `Invocation.ofArguments`: all of them.
-/
import Activation.IdSet
import Activation.Text.Blank
import Activation.Text.Split

namespace Activation

/-- What is to be done. -/
inductive Command where
  /-- Print the activation order, as lines or as a document. -/
  | resolve (json : Bool)
  /-- Resolve and print counts. -/
  | check
  /-- Print what is known of one module. -/
  | explain (id : ModuleId)
deriving DecidableEq, Inhabited

/-- The options of all commands. -/
structure Options where
  config : Option String
  properties : List (String × String)
  logDirectory : Option String
deriving DecidableEq

/-- No options. -/
def Options.empty : Options := ⟨none, [], none⟩

instance : Inhabited Options := ⟨.empty⟩

/-- A command with its options. -/
structure Invocation where
  options : Options
  command : Command
deriving DecidableEq, Inhabited

namespace CommandLine

/-- Why arguments do not lead to an invocation. -/
inductive Stop where
  | misuse
  | help
  | version
deriving DecidableEq, Inhabited

/-! ### Arguments -/

/-- An argument by its form. -/
inductive Argument where
  /-- `--name` or `--name=value`. -/
  | long (name : String) (value : Option String)
  /-- A letter behind a hyphen, and what follows it. -/
  | short (letter : Char) (rest : List Char)
  /-- `--`, behind which no option follows. -/
  | separator
  /-- Anything else, a lone hyphen included. -/
  | word (text : String)
deriving DecidableEq, Inhabited

/-- The form of an argument. -/
def Argument.ofText (text : String) : Argument :=
  match text.toList with
  | ['-', '-'] => .separator
  | '-' :: '-' :: rest =>
    match Text.splitFirst '=' rest with
    | some (name, value) => .long (String.ofList name) (some (String.ofList value))
    | none => .long (String.ofList rest) none
  | '-' :: letter :: rest => .short letter rest
  | _ => .word text

/-- An option with a value. -/
inductive ValueOption where
  | config
  | property
  | logDirectory
deriving DecidableEq, Inhabited

/-- The option of a long name. -/
def ValueOption.ofName? (name : String) : Option ValueOption :=
  if name = "config" then some .config
  else if name = "property" then some .property
  else if name = "log-dir" then some .logDirectory
  else none

/-- The trimmed key, which is not empty, and the trimmed value of `key=value`. -/
def property? (text : String) : Option (String × String) := do
  let (key, value) ← Text.splitFirst '=' text.toList
  let key := Text.trim key
  if key = [] then none else some (String.ofList key, String.ofList (Text.trim value))

/-- The options with one more; a path must not be empty and is given once. -/
def add? (options : Options) (value : String) : ValueOption → Option Options
  | .config =>
    if options.config.isSome || value = "" then none else some { options with config := value }
  | .property =>
    (property? value).map fun pair => { options with properties := options.properties ++ [pair] }
  | .logDirectory =>
    if options.logDirectory.isSome || value = "" then none
    else some { options with logDirectory := value }

/-- Options behind the command over the ones before it. -/
def override (outer inner : Options) : Options where
  config := inner.config.or outer.config
  properties := if inner.properties.isEmpty then outer.properties else inner.properties
  logDirectory := inner.logDirectory.or outer.logDirectory

/-! ### Progress -/

/-- The part of the command line that an argument belongs to. -/
inductive Stage where
  /-- Before the command. -/
  | start
  | resolve (json : Bool)
  | check
  | explain (id : Option ModuleId)
  /-- Behind a request for help, with the command it is asked for. -/
  | help (command : Option String)
deriving DecidableEq, Inhabited

/-- What the arguments so far have said. -/
structure Progress where
  stage : Stage
  outer : Options
  inner : Options
  /-- The option whose value comes next. -/
  pending : Option ValueOption
  /-- Whether no options follow. -/
  literal : Bool
deriving DecidableEq

namespace Progress

/-- The progress before the first argument. -/
def initial : Progress := ⟨.start, .empty, .empty, none, false⟩

instance : Inhabited Progress := ⟨initial⟩

/-- The progress with the value of an option recorded where it stands. -/
def record (progress : Progress) (option : ValueOption) (value : String) : Except Stop Progress :=
  if progress.stage = .start then
    match add? progress.outer value option with
    | some outer => .ok { progress with outer, pending := none }
    | none => .error .misuse
  else
    match add? progress.inner value option with
    | some inner => .ok { progress with inner, pending := none }
    | none => .error .misuse

/-- The names of the commands. -/
def commandNames : List String := ["resolve", "check", "explain", "help"]

/-- The progress after a word. -/
def word (progress : Progress) (text : String) : Except Stop Progress :=
  match progress.stage with
  | .start =>
    if text = "resolve" then .ok { progress with stage := .resolve false }
    else if text = "check" then .ok { progress with stage := .check }
    else if text = "explain" then .ok { progress with stage := .explain none }
    else if text = "help" then .ok { progress with stage := .help none }
    else .error .misuse
  | .explain none => .ok { progress with stage := .explain (some text) }
  | .help none =>
    if text ∈ commandNames then .ok { progress with stage := .help (some text) }
    else .error .misuse
  | _ => .error .misuse

/-- The progress after an option by its long name. -/
def long (progress : Progress) (name : String) (value : Option String) : Except Stop Progress :=
  match ValueOption.ofName? name, value with
  | some option, some value => progress.record option value
  | some option, none => .ok { progress with pending := some option }
  | none, some _ => .error .misuse
  | none, none =>
    if name = "help" then .error .help
    else if name = "version" ∧ progress.stage = .start then .error .version
    else if name = "json" ∧ progress.stage = .resolve false then
      .ok { progress with stage := .resolve true }
    else .error .misuse

/-- The progress after an option by its letter. -/
def short (progress : Progress) (letter : Char) (rest : List Char) : Except Stop Progress :=
  if letter = 'D' then
    match rest with
    | [] => .ok { progress with pending := some .property }
    | '=' :: value => progress.record .property (String.ofList value)
    | value => progress.record .property (String.ofList value)
  else if letter = 'h' then .error .help
  else if letter = 'V' ∧ progress.stage = .start then .error .version
  else .error .misuse

/-- Whether all that follows is read as words. -/
def wordsOnly (progress : Progress) : Bool :=
  progress.literal ||
    match progress.stage with
    | .help _ => true
    | _ => false

/-- The progress after one more argument. -/
def next (progress : Progress) (text : String) : Except Stop Progress :=
  match progress.pending, Argument.ofText text with
  | some option, .word value => progress.record option value
  | some _, _ => .error .misuse
  | none, argument =>
    if progress.wordsOnly then progress.word text
    else match argument with
      | .word text => progress.word text
      | .long name value => progress.long name value
      | .short letter rest => progress.short letter rest
      | .separator =>
        if progress.stage = .start then .error .misuse else .ok { progress with literal := true }

/-- The invocation after the last argument. -/
def finish (progress : Progress) : Except Stop Invocation :=
  let options := override progress.outer progress.inner
  if progress.pending.isSome then .error .misuse
  else match progress.stage with
    | .start => .error .misuse
    | .resolve json => .ok ⟨options, .resolve json⟩
    | .check => .ok ⟨options, .check⟩
    | .explain none => .error .misuse
    | .explain (some id) => .ok ⟨options, .explain id⟩
    | .help _ => .error .help

end Progress

end CommandLine

/-- The invocation that arguments spell. -/
def Invocation.ofArguments (arguments : List String) : Except CommandLine.Stop Invocation := do
  let progress ← arguments.foldlM CommandLine.Progress.next .initial
  progress.finish

end Activation
