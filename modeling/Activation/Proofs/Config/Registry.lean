/-
The registry of a configuration.

A configuration lists candidates and modules that exist besides them, and names files
with more candidates. The registry that it describes holds all of them, or there is
none because a file could not be read.

* `Registry.candidates_foldl_withImports`, `isResolvable_foldl_withImports_iff`: what a
  registry gains by import lists one behind the other.
* `Config.Describes`: the registry that a configuration describes, given the texts of
  the files that it names.
* `describes_buildRegistry`: the registry is that, and fails over the first file that
  cannot be read.
-/
import Activation.Config
import Activation.Proofs.Traversal

namespace Activation

namespace Registry

variable {registry : Registry} {texts : List String} {id : ModuleId}

lemma candidates_foldl_withImports (registry : Registry) (texts : List String) :
    (texts.foldl withImports registry).candidates =
      registry.candidates ++ texts.flatMap importList := by
  induction texts generalizing registry with
  | nil => simp
  | cons text texts ih =>
      rw [List.foldl_cons, ih, candidates_withImports, List.append_assoc, List.flatMap_cons]

lemma isResolvable_foldl_withImports_iff :
    (texts.foldl withImports registry).isResolvable id = true ↔
      registry.isResolvable id = true ∨ id ∈ texts.flatMap importList := by
  induction texts generalizing registry with
  | nil => simp
  | cons text texts ih =>
      rw [List.foldl_cons, ih, isResolvable_withImports_iff, List.flatMap_cons, List.mem_append,
        or_assoc]

end Registry

namespace Config

/-- The registry holds the candidates that a configuration lists and behind them those of its import
lists in turn, and besides these the modules exist that it declares available. -/
structure Describes (config : Config) (texts : List String) (registry : Registry) : Prop where
  candidates : registry.candidates = config.registry.candidates ++ texts.flatMap importList
  isResolvable : ∀ id, registry.isResolvable id = true ↔
    id ∈ registry.candidates ∨ id ∈ config.registry.available

lemma describes_foldl (config : Config) (texts : List String) :
    config.Describes texts (texts.foldl Registry.withImports
      ((Registry.ofCandidates config.registry.candidates).withAvailable
        config.registry.available)) where
  candidates := Registry.candidates_foldl_withImports _ texts
  isResolvable id := by
    rw [Registry.isResolvable_foldl_withImports_iff, Registry.isResolvable_withAvailable_iff,
      Registry.isResolvable_ofCandidates_iff, Registry.candidates_foldl_withImports,
      Registry.candidates_withAvailable, Registry.candidates_ofCandidates, List.mem_append]
    exact or_right_comm

/-- The files are read in turn, whatever they add. -/
lemma buildRegistry_eq (config : Config) (files : FileReader) :
    config.buildRegistry files =
      (config.registry.imports.mapM fun path => (files path).mapError (.importList path)).map
        fun texts => texts.foldl Registry.withImports
          ((Registry.ofCandidates config.registry.candidates).withAvailable
            config.registry.available) := by
  rw [buildRegistry, ← foldlM_eq]
  congr 1
  funext registry path
  rw [addImports]
  cases files path <;> rfl

/-- **The registry of a configuration** is the one that it describes with the files that it names,
and when one of these cannot be read it is the first such that is reported. -/
theorem describes_buildRegistry (config : Config) (files : FileReader) :
    (∀ registry, config.buildRegistry files = .ok registry → ∃ texts,
      List.Forall₂ (fun path contents => files path = .ok contents) config.registry.imports texts ∧
        config.Describes texts registry) ∧
      ∀ cause, config.buildRegistry files = .error cause ↔ ∃ before path behind fault,
        config.registry.imports = before ++ path :: behind ∧
          (∀ earlier ∈ before, ∃ contents, files earlier = .ok contents) ∧
          files path = .error fault ∧ cause = .importList path fault := by
  have hok : ∀ path contents, (files path).mapError (ConfigError.importList path) = .ok contents ↔
      files path = .ok contents := fun path contents => by
    cases files path <;> simp [Except.mapError]
  have herror : ∀ path cause, (files path).mapError (ConfigError.importList path) = .error cause ↔
      ∃ fault, files path = .error fault ∧ cause = .importList path fault := fun path cause => by
    cases files path <;> simp [Except.mapError, eq_comm]
  rw [buildRegistry_eq]
  refine ⟨fun registry h => ?_, fun cause => ?_⟩
  · obtain ⟨texts, htexts, rfl⟩ := map_eq_ok_iff.mp h
    rw [mapM_eq_ok_iff] at htexts
    simp only [hok] at htexts
    exact ⟨texts, htexts, describes_foldl config texts⟩
  · simp only [map_eq_error_iff, mapM_eq_error_iff, hok, herror, exists_and_left]

end Config

end Activation
