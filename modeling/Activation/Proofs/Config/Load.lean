/-
Loading a configuration.

A configuration comes from one file, from the variables of the process and from the
standard. What each of them contributes is said field by field: the relative paths of the
file are read from its directory, and what variables say is taken as it is.

* `Config.Rebased`, `rebased_iff`: the relative paths of a configuration, and nothing else, read
  from a directory.
* `Replaced`, `Config.Overridden`, `overridden_iff`: the fields that variables replace.
* `Config.Stated`, `Config.Refused`: what the file states, and why it is refused.
* `Config.loadLaws_of_files`: when loading fails and what it gives, for all files, variables and
  readers of the text.
* `Session.readConfig_fileSystem`: a run loads its configuration like that.
-/
import Mathlib.Data.List.Forall2
import Activation.Config.Load
import Activation.Proofs.Path
import Activation.Proofs.Traversal
import Activation.Session

namespace Activation

variable {α : Type}

/-! ### Fields -/

/-- A value is what is said of it, and where nothing is said it stays. -/
def Replaced (said : α → Prop) (before after : α) : Prop :=
  said after ∨ (∀ a, ¬ said a) ∧ after = before

lemma replaced_iff {said : α → Prop} {said? : Option α} (hsaid : ∀ a, said a ↔ said? = some a)
    {before after : α} : Replaced said before after ↔ after = said?.getD before := by
  simp only [Replaced, hsaid]
  cases said? with
  | none => simp
  | some a => simp [eq_comm]

lemma rel_iff_eq_map {r : α → α → Prop} {f : α → α} (h : ∀ a b, r a b ↔ b = f a)
    {before after : Option α} : Option.Rel r before after ↔ after = before.map f := by
  cases before <;> cases after <;> simp [h]

lemma forall₂_iff_eq_map {r : α → α → Prop} {f : α → α} (h : ∀ a b, r a b ↔ b = f a)
    {before after : List α} : List.Forall₂ r before after ↔ after = before.map f := by
  have hr : r = fun a b => f a = b := by
    ext a b
    rw [h, eq_comm]
  rw [hr, ← List.forall₂_map_left_iff, List.forall₂_eq_eq_eq, eq_comm]

namespace Config

variable {config before after : Config} {base path : String} {lookup : Lookup}

/-- The relative paths of a configuration read from a directory, and everything else as it was. -/
structure Rebased (base : String) (before after : Config) : Prop where
  index : Option.Rel (Path.ReadFrom base) before.metadata.path after.metadata.path
  directory : Option.Rel (Path.ReadFrom base) before.logging.directory after.logging.directory
  imports : List.Forall₂ (Path.ReadFrom base) before.registry.imports after.registry.imports
  logging : after.logging.level = before.logging.level
  metadata : after.metadata.required = before.metadata.required
  registry : after.registry.candidates = before.registry.candidates ∧
    after.registry.available = before.registry.available
  keys : after.keys = before.keys
  environment : after.environment = before.environment
  sites : after.sites = before.sites

/-- The fields that variables replace, as they are said; a flag is replaced by a Boolean only. -/
structure Overridden (lookup : Lookup) (before after : Config) : Prop where
  level : Replaced (fun level => lookup "AUTOACTIVATE_LOG_LEVEL" = some level)
    before.logging.level after.logging.level
  index : Replaced
    (fun path => ∃ text, lookup "AUTOACTIVATE_METADATA_PATH" = some text ∧ path = some text)
    before.metadata.path after.metadata.path
  required : Replaced
    (fun flag => ∃ text, lookup "AUTOACTIVATE_METADATA_REQUIRED" = some text ∧
      Property.IsFlag text flag)
    before.metadata.required after.metadata.required
  directory : after.logging.directory = before.logging.directory
  registry : after.registry = before.registry
  keys : after.keys = before.keys
  environment : after.environment = before.environment
  sites : after.sites = before.sites

lemma rebased_iff : Rebased base before after ↔ after = before.rebase base := by
  have hpath : ∀ path after, Path.ReadFrom base path after ↔ after = Path.join base path :=
    fun _ _ => Path.readFrom_iff
  constructor
  · rintro ⟨hindex, hdirectory, himports, hlogging, hmetadata, hregistry, hkeys, henvironment, hsites⟩
    rw [rel_iff_eq_map hpath] at hindex hdirectory
    rw [forall₂_iff_eq_map hpath] at himports
    obtain ⟨⟨level, directory⟩, keys, ⟨index, required⟩, ⟨imports, candidates, available⟩,
      environment, sites⟩ := after
    simp_all [rebase]
  · rintro rfl
    exact ⟨(rel_iff_eq_map hpath).mpr rfl, (rel_iff_eq_map hpath).mpr rfl,
      (forall₂_iff_eq_map hpath).mpr rfl, rfl, rfl, ⟨rfl, rfl⟩, rfl, rfl, rfl⟩

lemma overridden_iff : Overridden lookup before after ↔ after = before.override lookup := by
  have hlevel : ∀ old new : String,
      Replaced (fun level => lookup "AUTOACTIVATE_LOG_LEVEL" = some level) old new ↔
        new = (lookup "AUTOACTIVATE_LOG_LEVEL").getD old :=
    fun _ _ => replaced_iff fun _ => Iff.rfl
  have hindex : ∀ old new : Option String,
      Replaced (fun path => ∃ text, lookup "AUTOACTIVATE_METADATA_PATH" = some text ∧
          path = some text) old new ↔
        new = (lookup "AUTOACTIVATE_METADATA_PATH").or old := by
    intro old new
    have hsaid : ∀ path, (∃ text, lookup "AUTOACTIVATE_METADATA_PATH" = some text ∧
        path = some text) ↔ (lookup "AUTOACTIVATE_METADATA_PATH").map some = some path := by
      intro path
      simp only [Option.map_eq_some_iff, eq_comm]
    rw [replaced_iff hsaid]
    cases lookup "AUTOACTIVATE_METADATA_PATH" <;> rfl
  have hrequired : ∀ old new : Bool,
      Replaced (fun flag => ∃ text, lookup "AUTOACTIVATE_METADATA_REQUIRED" = some text ∧
          Property.IsFlag text flag) old new ↔
        new = ((lookup "AUTOACTIVATE_METADATA_REQUIRED").bind Property.boolean?).getD old :=
    fun _ _ => replaced_iff fun _ => by
      simp only [Option.bind_eq_some_iff, Property.boolean?_eq_some_iff]
  constructor
  · rintro ⟨hlevel', hindex', hrequired', hdirectory, hregistry, hkeys, henvironment, hsites⟩
    rw [hlevel] at hlevel'
    rw [hindex] at hindex'
    rw [hrequired] at hrequired'
    obtain ⟨⟨level, directory⟩, keys, ⟨index, required⟩, registry, environment, sites⟩ := after
    simp_all [override]
  · rintro rfl
    exact ⟨(hlevel _ _).mpr rfl, (hindex _ _).mpr rfl, (hrequired _ _).mpr rfl, rfl, rfl, rfl, rfl, rfl⟩

/-! ### Loading -/

/-- The path of the configuration file: the one given explicitly, else the one of a variable, else the
default one. -/
def filePath (explicit : Option String) (lookup : Lookup) : String :=
  (explicit.or (lookup "AUTOACTIVATE_CONFIG_PATH")).getD "autoactivate.toml"

/-- The file may be absent when neither an argument nor a variable names it. -/
def MayBeAbsent (explicit : Option String) (lookup : Lookup) : Prop :=
  explicit = none ∧ lookup "AUTOACTIVATE_CONFIG_PATH" = none

section

variable (parser : ConfigParser) (files : FileReader) (explicit : Option String) (lookup : Lookup)

/-- What the file states, its relative paths read from its directory; the standard when the file may be
absent and is. -/
inductive Stated : Config → Prop
  | file {contents : String} {parsed config : Config}
      (hread : files (filePath explicit lookup) = .ok contents)
      (hparse : parser contents = .ok parsed)
      (hrebased : Rebased ((Path.parent? (filePath explicit lookup)).getD ".") parsed config) :
      Stated config
  | absent (hread : files (filePath explicit lookup) = .error .notFound)
      (habsent : MayBeAbsent explicit lookup) : Stated standard

/-- Why there is no configuration: the file cannot be read, unless it is absent and may be, or its text
is refused. -/
inductive Refused : ConfigError → Prop
  | unreadable {cause : FileError} (hread : files (filePath explicit lookup) = .error cause)
      (hneeded : ¬ (cause = .notFound ∧ MayBeAbsent explicit lookup)) :
      Refused (.unreadable (filePath explicit lookup) cause)
  | malformed {contents : String} {cause : ConfigError}
      (hread : files (filePath explicit lookup) = .ok contents)
      (hparse : parser contents = .error cause) : Refused cause

/-- When loading a configuration fails, and what it gives. -/
structure LoadLaws : Prop where
  fails : ∀ cause, load parser files explicit lookup = .error cause ↔
    Refused parser files explicit lookup cause
  /-- Variables replace fields of what the file states. -/
  loads : ∀ config, load parser files explicit lookup = .ok config ↔
    ∃ stated, Stated parser files explicit lookup stated ∧ Overridden lookup stated config

end

variable {parser : ConfigParser} {files : FileReader} {explicit : Option String} {cause : ConfigError}

lemma path_choose : (ConfigFile.choose explicit lookup).path = filePath explicit lookup := by
  rw [ConfigFile.choose.eq_def, filePath]
  cases explicit with
  | some path => rfl
  | none => cases lookup "AUTOACTIVATE_CONFIG_PATH" <;> rfl

lemma not_required_choose :
    (!(ConfigFile.choose explicit lookup).required) = true ↔ MayBeAbsent explicit lookup := by
  rw [ConfigFile.choose.eq_def, MayBeAbsent]
  cases explicit with
  | some path => simp
  | none => cases lookup "AUTOACTIVATE_CONFIG_PATH" <;> simp

/-- A file gives what it states. -/
lemma ofFile_eq_ok_iff :
    ofFile parser (.choose explicit lookup) (files (filePath explicit lookup)) = .ok config ↔
      Stated parser files explicit lookup config := by
  cases hread : files (filePath explicit lookup) with
  | ok contents =>
      rw [ofFile, path_choose, map_eq_ok_iff]
      constructor
      · rintro ⟨parsed, hparse, hconfig⟩
        exact .file hread hparse (rebased_iff.mpr hconfig.symm)
      · rintro (⟨hread', hparse, hrebased⟩ | ⟨hread', -⟩)
        · obtain rfl := Except.ok.inj (hread.symm.trans hread')
          exact ⟨_, hparse, (rebased_iff.mp hrebased).symm⟩
        · cases hread.symm.trans hread'
  | error cause =>
      rw [ofFile]
      constructor
      · intro h
        split at h
        · rename_i hneedless
          obtain rfl := Except.ok.inj h
          exact .absent (hneedless.1 ▸ hread) (not_required_choose.mp hneedless.2)
        · cases h
      · rintro (⟨hread', -, -⟩ | ⟨hread', habsent⟩)
        · cases hread.symm.trans hread'
        · rw [if_pos ⟨Except.error.inj (hread.symm.trans hread'), not_required_choose.mpr habsent⟩]

/-- A file that is refused gives nothing. -/
lemma ofFile_eq_error_iff :
    ofFile parser (.choose explicit lookup) (files (filePath explicit lookup)) = .error cause ↔
      Refused parser files explicit lookup cause := by
  cases hread : files (filePath explicit lookup) with
  | ok contents =>
      rw [ofFile, map_eq_error_iff]
      constructor
      · exact fun hparse => .malformed hread hparse
      · rintro (⟨hread', -⟩ | ⟨hread', hparse⟩)
        · cases hread.symm.trans hread'
        · rwa [Except.ok.inj (hread.symm.trans hread')]
  | error reason =>
      rw [ofFile, path_choose]
      constructor
      · intro h
        split at h
        · cases h
        · rename_i hneeded
          obtain rfl := Except.error.inj h
          exact .unreadable hread (mt (And.imp_right not_required_choose.mpr) hneeded)
      · rintro (⟨hread', hneeded⟩ | ⟨hread', -⟩)
        · obtain rfl := Except.error.inj (hread.symm.trans hread')
          rw [if_neg (mt (And.imp_right not_required_choose.mp) hneeded)]
        · cases hread.symm.trans hread'

/-- **Loading a configuration** fails when its file is refused, and else gives what the file states, with
the fields replaced that variables set. -/
theorem loadLaws_of_files (parser : ConfigParser) (files : FileReader) (explicit : Option String)
    (lookup : Lookup) : LoadLaws parser files explicit lookup where
  fails cause := by
    rw [load, ofReading, path_choose, map_eq_error_iff, ofFile_eq_error_iff]
  loads config := by
    rw [load, ofReading, path_choose, map_eq_ok_iff]
    refine exists_congr fun stated => ?_
    rw [ofFile_eq_ok_iff, overridden_iff, @eq_comm _ config]

/-- The paths of a file are read from its directory, and those of variables are not. -/
example :
    load (fun _ => .ok { standard with
        metadata := ⟨some "index", false⟩, logging := ⟨"warn", some "/log"⟩,
        registry := ⟨["a", "/b"], [], []⟩ })
      (fun _ => .ok "") (some "etc/main.toml")
      (fun name => if name = "AUTOACTIVATE_METADATA_PATH" then some "cache" else none) =
    .ok { standard with
      metadata := ⟨some "cache", false⟩, logging := ⟨"warn", some "/log"⟩,
      registry := ⟨["etc/a", "/b"], [], []⟩ } := by
  decide +kernel

end Config

/-- A run loads its configuration from the files as they stand. -/
theorem Session.readConfig_fileSystem (vars : Variables) (options : Options) (tree : FileTree) :
    readConfig FileTree.fileSystem vars options tree =
      (Config.load Config.parse tree.readText options.config vars.value?, tree) := by
  rfl

end Activation
