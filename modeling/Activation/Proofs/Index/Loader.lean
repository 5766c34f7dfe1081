/-
A loader in use.

What a loader keeps is for one environment. Between its loads the files may
change and loads may fail; what a load comes to is decided by the last one that
succeeded and by the files of its own moment.

* `Loader.Holds`, `Unusable`, `Yields`: the text that a source holds at a moment,
  why it is of no use, and the index that a reading of it gives.
* `Loader.read_eq_error_iff`, `yields_of_read`: readings in these terms.
* `Loader.load_of_kept`, `load_of_not_kept`: what is kept for the environment is
  served, and the source is read without it.
* `Loader.read_of_load_error`: a load fails as its reading does.
* `Loader.load_again`, `load_load`, `load_congr`: what becomes of a second load, and
  what of the files bears on a load.
* `Loader.Step`, `Usage`, `Loader.use`: loads among changes of the files.
* `Loading.Lawful`: what a load comes to behind earlier ones.
* `Usage.Sound`, `Usage.Sound.advance`: what a step keeps of a loader in use.
* `Loader.lawful_of_use`: every load of every use is lawful.
-/
import Mathlib.Data.List.Basic
import Mathlib.Data.List.Induction
import Mathlib.Tactic.Lemma
import Activation.Index.Loader

namespace Activation

namespace Loader

/-! ### Readings -/

/-- The text that a source holds while the files are as they are. -/
inductive Holds (loader : Loader) (files : FileReader) : String → Prop
  | text {contents : String} (hsource : loader.source = .text contents) : Holds loader files contents
  | file {path contents : String} (hsource : loader.source = .file path)
      (hfile : files path = .ok contents) : Holds loader files contents

/-- Why a source is of no use: there is none, its file cannot be read, or its text is malformed. -/
inductive Unusable (loader : Loader) (files : FileReader) : IndexFault → Prop
  | absent (hsource : loader.source = .absent) : Unusable loader files .noSource
  | unreadable {path : String} {cause : FileError} (hsource : loader.source = .file path)
      (hfile : files path = .error cause) : Unusable loader files (.unreadable path cause)
  | malformed {contents : String} {fault : IndexFault} (hholds : loader.Holds files contents)
      (hparse : Index.parse contents = .error fault) : Unusable loader files fault

/-- The index that a reading gives: the one that the whole text spells, or the empty one where the
source is of no use and the index is optional. -/
inductive Yields (loader : Loader) (files : FileReader) : Index → Prop
  | spelled {contents : String} {index : Index} (hholds : loader.Holds files contents)
      (hparse : Index.parse contents = .ok index) : Yields loader files index
  | spared {fault : IndexFault} (hoptional : loader.required = false)
      (hfault : loader.Unusable files fault) : Yields loader files .empty

variable {loader : Loader} {files : FileReader} {identity : Identity} {state after : LoaderState}
  {loaded : LoadedIndex} {index : Index} {fault : IndexFault} {cause : ResolveError}

/-- The source fails to give an index when it is of no use, unless it is absent and need not be
there. -/
lemma attempt_eq_error_iff :
    loader.attempt files = .error fault ↔
      loader.Unusable files fault ∧ (loader.source = .absent → loader.required = true) := by
  constructor
  · intro h
    rw [attempt] at h
    cases hsource : loader.source with
    | absent =>
        rw [hsource] at h
        cases hrequired : loader.required with
        | false => simp [hrequired] at h
        | true =>
            obtain rfl : IndexFault.noSource = fault := by simpa [hrequired] using h
            exact ⟨.absent hsource, fun _ => rfl⟩
    | text contents =>
        rw [hsource] at h
        exact ⟨.malformed (.text hsource) h, by simp⟩
    | file path =>
        rw [hsource] at h
        cases hfile : files path with
        | error cause =>
            obtain rfl : IndexFault.unreadable path cause = fault := by simpa [hfile] using h
            exact ⟨.unreadable hsource hfile, by simp⟩
        | ok contents =>
            exact ⟨.malformed (.file hsource hfile) (by simpa [hfile] using h), by simp⟩
    | prebuilt index => simp [hsource] at h
  · rintro ⟨hfault, hrequired⟩
    cases hfault with
    | absent hsource => simp [attempt, hsource, hrequired hsource]
    | unreadable hsource hfile => simp [attempt, hsource, hfile]
    | malformed hholds hparse =>
        cases hholds with
        | text hsource => simp [attempt, hsource, hparse]
        | file hsource hfile => simp [attempt, hsource, hfile, hparse]

/-- **A reading fails** when the index is required and its source is of no use. -/
lemma read_eq_error_iff :
    loader.read files = .error cause ↔
      loader.required = true ∧ ∃ fault, loader.Unusable files fault ∧ cause = .metadata fault := by
  constructor
  · intro h
    rw [read] at h
    cases hattempt : loader.attempt files with
    | ok index => simp [hattempt] at h
    | error fault =>
        cases hrequired : loader.required with
        | false => simp [hattempt, hrequired] at h
        | true =>
            refine ⟨rfl, fault, (attempt_eq_error_iff.mp hattempt).1, ?_⟩
            simpa [hattempt, hrequired, eq_comm] using h
  · rintro ⟨hrequired, fault, hfault, rfl⟩
    have hattempt : loader.attempt files = .error fault :=
      attempt_eq_error_iff.mpr ⟨hfault, fun _ => hrequired⟩
    simp [read, hattempt, hrequired]

/-- What the source holds is the index that the whole text spells, or nothing where there need be
no source. -/
lemma yields_of_attempt (hsource : ∀ index, loader.source ≠ .prebuilt index)
    (h : loader.attempt files = .ok index) : loader.Yields files index := by
  rw [attempt] at h
  cases hcase : loader.source with
  | absent =>
      cases hrequired : loader.required with
      | false =>
          obtain rfl : Index.empty = index := by simpa [hcase, hrequired] using h
          exact .spared hrequired (.absent hcase)
      | true => simp [hcase, hrequired] at h
  | text contents => exact .spelled (.text hcase) (by simpa [hcase] using h)
  | file path =>
      cases hfile : files path with
      | error cause => simp [hcase, hfile] at h
      | ok contents => exact .spelled (.file hcase hfile) (by simpa [hcase, hfile] using h)
  | prebuilt index => exact absurd hcase (hsource index)

/-- **A reading that succeeds** gives what the source yields, and never a part of it. -/
lemma yields_of_read (hsource : ∀ index, loader.source ≠ .prebuilt index)
    (h : loader.read files = .ok index) : loader.Yields files index := by
  rw [read] at h
  cases hattempt : loader.attempt files with
  | ok held =>
      obtain rfl : held = index := by simpa [hattempt] using h
      exact yields_of_attempt hsource hattempt
  | error fault =>
      cases hrequired : loader.required with
      | true => simp [hattempt, hrequired] at h
      | false =>
          obtain rfl : Index.empty = index := by simpa [hattempt, hrequired] using h
          exact .spared hrequired (attempt_eq_error_iff.mp hattempt).1

/-! ### Loads -/

/-- A fresh reading that fails changes nothing; one that succeeds is a new instance, kept for the
environment. -/
lemma reload_cases (loader : Loader) (files : FileReader) (identity : Identity)
    (state : LoaderState) :
    (∃ cause, loader.read files = .error cause ∧
      loader.reload files identity state = (.error cause, state)) ∨
    ∃ index, loader.read files = .ok index ∧
      loader.reload files identity state =
        (.ok ⟨state.made, index⟩, ⟨some (identity, ⟨state.made, index⟩), state.made + 1⟩) := by
  rw [reload]
  cases loader.read files with
  | error cause => exact Or.inl ⟨cause, rfl, rfl⟩
  | ok index => exact Or.inr ⟨index, rfl, rfl⟩

/-- An index built beforehand is served as the one instance there is. -/
lemma load_of_prebuilt (h : loader.source = .prebuilt index) :
    loader.load files identity state = (.ok ⟨0, index⟩, state) := by
  rw [load, h]

/-- What is kept for the environment is served. -/
lemma load_of_kept (hsource : ∀ index, loader.source ≠ .prebuilt index)
    (h : state.kept = some (identity, loaded)) :
    loader.load files identity state = (.ok loaded, state) := by
  rw [load, h]
  cases hcase : loader.source with
  | prebuilt index => exact absurd hcase (hsource index)
  | absent => simp
  | text contents => simp
  | file path => simp

/-- Where nothing is kept for the environment, the source is read. -/
lemma load_of_not_kept (hsource : ∀ index, loader.source ≠ .prebuilt index)
    (h : ∀ loaded, state.kept ≠ some (identity, loaded)) :
    loader.load files identity state = loader.reload files identity state := by
  rw [load]
  cases hkept : state.kept with
  | none =>
      cases hcase : loader.source with
      | prebuilt index => exact absurd hcase (hsource index)
      | absent => rfl
      | text contents => rfl
      | file path => rfl
  | some kept =>
      obtain ⟨keptFor, loaded⟩ := kept
      have hfor : keptFor ≠ identity := by
        rintro rfl
        exact h loaded hkept
      cases hcase : loader.source with
      | prebuilt index => exact absurd hcase (hsource index)
      | absent => simp [hfor]
      | text contents => simp [hfor]
      | file path => simp [hfor]

/-- A load serves an index that is served again whatever the files hold by then; or it fails, as its
reading does, and changes nothing. -/
lemma load_cases (loader : Loader) (files : FileReader) (identity : Identity)
    (state : LoaderState) :
    (∃ loaded after, loader.load files identity state = (.ok loaded, after) ∧
      ∀ later, loader.load later identity after = (.ok loaded, after)) ∨
    ∃ cause, loader.load files identity state = (.error cause, state) ∧
      loader.read files = .error cause := by
  by_cases hprebuilt : ∃ index, loader.source = .prebuilt index
  · obtain ⟨index, hindex⟩ := hprebuilt
    exact Or.inl ⟨_, _, load_of_prebuilt hindex, fun _ => load_of_prebuilt hindex⟩
  · have hsource : ∀ index, loader.source ≠ .prebuilt index := fun index hindex =>
      hprebuilt ⟨index, hindex⟩
    by_cases hkept : ∃ kept, state.kept = some (identity, kept)
    · obtain ⟨kept, hkept⟩ := hkept
      exact Or.inl ⟨_, _, load_of_kept hsource hkept, fun _ => load_of_kept hsource hkept⟩
    · rw [load_of_not_kept hsource fun kept hk => hkept ⟨kept, hk⟩]
      rcases reload_cases loader files identity state with
        ⟨cause, hread, hreload⟩ | ⟨index, -, hreload⟩
      · exact Or.inr ⟨cause, hreload, hread⟩
      · exact Or.inl ⟨_, _, hreload, fun _ => load_of_kept hsource rfl⟩

/-- A load fails as its reading does. -/
lemma read_of_load_error (h : loader.load files identity state = (.error cause, after)) :
    loader.read files = .error cause := by
  rcases load_cases loader files identity state with ⟨_, _, hload, -⟩ | ⟨first, hload, hread⟩
  · rw [hload] at h
    cases h
  · rw [hload] at h
    obtain rfl : first = cause := Except.error.inj (Prod.mk.inj h).1
    exact hread

/-- **An index that is loaded is served again**, whatever the files hold by then, and nothing
changes. -/
theorem load_again {later : FileReader}
    (h : loader.load files identity state = (.ok loaded, after)) :
    loader.load later identity after = (.ok loaded, after) := by
  rcases load_cases loader files identity state with ⟨_, _, hload, hagain⟩ | ⟨_, hload, -⟩
  · obtain ⟨hloaded, rfl⟩ := Prod.mk.inj (hload.symm.trans h)
    rw [hagain, hloaded]
  · rw [hload] at h
    cases h

/-- A load that fails leaves what is kept as it is. -/
lemma eq_of_load_error (h : loader.load files identity state = (.error cause, after)) :
    after = state := by
  rcases load_cases loader files identity state with ⟨_, _, hload, -⟩ | ⟨_, hload, -⟩
  · rw [hload] at h
    cases h
  · exact (Prod.mk.inj (h.symm.trans hload)).2

/-- A second load comes to what the first did. -/
lemma load_load (loader : Loader) (files : FileReader) (identity : Identity)
    (state : LoaderState) :
    loader.load files identity (loader.load files identity state).2 =
      loader.load files identity state := by
  cases h : loader.load files identity state with
  | mk result after =>
      cases result with
      | ok loaded => exact load_again h
      | error cause => rw [eq_of_load_error h, h, eq_of_load_error h]

/-- The source is the same to two ways that files may be. -/
def SameSource (loader : Loader) (files other : FileReader) : Prop :=
  ∀ path, loader.source = .file path → files path = other path

/-- Nothing of the files but the source bears on a load. -/
lemma load_congr {other : FileReader} (h : loader.SameSource files other) (identity : Identity)
    (state : LoaderState) :
    loader.load files identity state = loader.load other identity state := by
  have hattempt : loader.attempt files = loader.attempt other := by
    rw [attempt, attempt]
    cases hsource : loader.source with
    | file path => simp only [h path hsource]
    | absent => rfl
    | text contents => rfl
    | prebuilt index => rfl
  have hread : loader.read files = loader.read other := by rw [read, read, hattempt]
  simp only [load, reload, hread]

end Loader

/-! ### Uses -/

/-- One load: the files at its moment, the environment it was for, and what it came to. -/
structure Loading where
  files : FileReader
  identity : Identity
  result : Except ResolveError LoadedIndex

/-- What happens while a loader is in use. -/
inductive Loader.Step where
  /-- The files are other ones from now on. -/
  | change (files : FileReader)
  /-- The index is loaded for an environment. -/
  | load (identity : Identity)

/-- A loader in use: the files as they stand, what the loader keeps, and its loads so far. -/
structure Usage where
  files : FileReader
  state : LoaderState
  loadings : List Loading

namespace Loader

/-- A use after one more step. -/
def advance (loader : Loader) (usage : Usage) : Step → Usage
  | .change files => { usage with files }
  | .load identity =>
    let (result, state) := loader.load usage.files identity usage.state
    ⟨usage.files, state, usage.loadings ++ [⟨usage.files, identity, result⟩]⟩

/-- The use that a new loader is put to by steps in turn. -/
def use (loader : Loader) (files : FileReader) (steps : List Step) : Usage :=
  steps.foldl loader.advance ⟨files, .initial, []⟩

end Loader

namespace Loading

/-- What a load that succeeded returned, with the environment it was for. -/
def success? (loading : Loading) : Option (Identity × LoadedIndex) :=
  match loading.result with
  | .ok loaded => some (loading.identity, loaded)
  | .error _ => none

/-- What loads that succeeded returned, in order. -/
def successes (loadings : List Loading) : List (Identity × LoadedIndex) :=
  loadings.filterMap success?

/-- What the last load that succeeded returned. -/
def latest (loadings : List Loading) : Option (Identity × LoadedIndex) :=
  (successes loadings).getLast?

/-- The load returned an instance that earlier ones had returned. -/
def Returned (earlier : List Loading) (loaded : LoadedIndex) : Prop :=
  ∃ success ∈ successes earlier, success.2.serial = loaded.serial

/-- What a load comes to behind earlier ones: an instance returned before is returned exactly when
the last load that succeeded was for the same environment, and it is the one that load returned.
Otherwise the source is read, as it is at that moment, into a new instance; and the load fails
exactly when the index is required and the source is of no use. -/
structure Lawful (loader : Loader) (earlier : List Loading) (loading : Loading) : Prop where
  served : ∀ loaded, loading.result = .ok loaded ∧ Returned earlier loaded ↔
    latest earlier = some (loading.identity, loaded)
  fresh : (∀ loaded, latest earlier ≠ some (loading.identity, loaded)) →
    ∀ loaded, loading.result = .ok loaded →
      ¬ Returned earlier loaded ∧ loader.Yields loading.files loaded.index
  fails : ∀ cause, loading.result = .error cause ↔
    loader.required = true ∧ (∀ loaded, latest earlier ≠ some (loading.identity, loaded)) ∧
      ∃ fault, loader.Unusable loading.files fault ∧ cause = .metadata fault

variable {loadings earlier : List Loading} {loading : Loading} {loaded : LoadedIndex}
  {cause : ResolveError}

lemma success?_of_ok (h : loading.result = .ok loaded) :
    loading.success? = some (loading.identity, loaded) := by
  rw [success?, h]

lemma success?_of_error (h : loading.result = .error cause) : loading.success? = none := by
  rw [success?, h]

lemma successes_concat (loadings : List Loading) (loading : Loading) :
    successes (loadings ++ [loading]) = successes loadings ++ loading.success?.toList := by
  rw [successes, successes, List.filterMap_append]
  cases h : loading.success? <;> simp [h]

lemma mem_successes_concat {success : Identity × LoadedIndex} :
    success ∈ successes (loadings ++ [loading]) ↔
      success ∈ successes loadings ∨ loading.success? = some success := by
  rw [successes_concat, List.mem_append, Option.mem_toList]

/-- A load that succeeds is the last one that did. -/
lemma latest_concat_of_ok (h : loading.result = .ok loaded) :
    latest (loadings ++ [loading]) = some (loading.identity, loaded) := by
  rw [latest, successes_concat, success?_of_ok h]
  exact List.getLast?_concat

/-- A load that fails is not the last one that succeeded. -/
lemma latest_concat_of_error (h : loading.result = .error cause) :
    latest (loadings ++ [loading]) = latest loadings := by
  rw [latest, successes_concat, success?_of_error h, Option.toList_none, List.append_nil, latest]

/-- What is latest was returned. -/
lemma returned_of_latest {identity : Identity} (h : latest loadings = some (identity, loaded)) :
    Returned loadings loaded :=
  ⟨_, List.mem_of_getLast? h, rfl⟩

namespace Lawful

variable {loader : Loader}

/-- A load may return again what the last one returned that succeeded, if that was for the same
environment. -/
lemma of_latest (hlatest : latest earlier = some (loading.identity, loaded))
    (hresult : loading.result = .ok loaded) : loading.Lawful loader earlier := by
  refine ⟨fun other => ?_, fun hnot => absurd hlatest (hnot loaded), fun cause => ?_⟩
  · rw [hresult, hlatest]
    constructor
    · rintro ⟨hother, -⟩
      rw [Except.ok.inj hother]
    · intro hother
      obtain rfl : loaded = other := by simpa using hother
      exact ⟨rfl, returned_of_latest hlatest⟩
  · rw [hresult]
    constructor
    · intro h
      cases h
    · rintro ⟨-, hnot, -⟩
      exact absurd hlatest (hnot loaded)

section Read

variable (hnot : ∀ loaded, latest earlier ≠ some (loading.identity, loaded))
include hnot

/-- Otherwise it may read the source into a new instance. -/
lemma of_read_ok (hsource : ∀ index, loader.source ≠ .prebuilt index)
    (hread : loader.read loading.files = .ok loaded.index) (hnew : ¬ Returned earlier loaded)
    (hresult : loading.result = .ok loaded) : loading.Lawful loader earlier := by
  refine ⟨fun other => ⟨?_, fun hother => absurd hother (hnot other)⟩, ?_, fun cause => ?_⟩
  · rintro ⟨hother, hreturned⟩
    obtain rfl := Except.ok.inj (hresult.symm.trans hother)
    exact absurd hreturned hnew
  · intro _ other hother
    obtain rfl := Except.ok.inj (hresult.symm.trans hother)
    exact ⟨hnew, Loader.yields_of_read hsource hread⟩
  · rw [hresult]
    constructor
    · intro h
      cases h
    · rintro ⟨hrequired, -, hfault⟩
      have herror := Loader.read_eq_error_iff.mpr ⟨hrequired, hfault⟩
      rw [hread] at herror
      cases herror

/-- Or it fails as the reading does. -/
lemma of_read_error (hread : loader.read loading.files = .error cause)
    (hresult : loading.result = .error cause) : loading.Lawful loader earlier := by
  refine ⟨fun other => ⟨?_, fun hother => absurd hother (hnot other)⟩, ?_, fun other => ?_⟩
  · rintro ⟨hother, -⟩
    rw [hresult] at hother
    cases hother
  · intro _ other hother
    rw [hresult] at hother
    cases hother
  · have hother : loading.result = .error other ↔ loader.read loading.files = .error other := by
      rw [hresult, hread, Except.error.injEq, Except.error.injEq]
    rw [hother, Loader.read_eq_error_iff]
    constructor
    · rintro ⟨hrequired, hfault⟩
      exact ⟨hrequired, hnot, hfault⟩
    · rintro ⟨hrequired, -, hfault⟩
      exact ⟨hrequired, hfault⟩

end Read

end Lawful

end Loading

namespace Usage

open Loading

/-- What holds of a loader in use: what it keeps is what the last load that succeeded returned, it
has counted the instances it made, and its loads were lawful. -/
structure Sound (loader : Loader) (usage : Usage) : Prop where
  kept : usage.state.kept = latest usage.loadings
  counted : ∀ success ∈ successes usage.loadings, success.2.serial < usage.state.made
  lawful : ∀ earlier loading later, usage.loadings = earlier ++ loading :: later →
    loading.Lawful loader earlier

namespace Sound

variable {loader : Loader} {usage : Usage} {identity : Identity} {files : FileReader}

/-- A use begins with no loads. -/
lemma initial (loader : Loader) (files : FileReader) : Sound loader ⟨files, .initial, []⟩ := by
  refine ⟨rfl, fun success hsuccess => absurd hsuccess List.not_mem_nil, ?_⟩
  intro earlier loading later h
  simp at h

/-- No load returned the instance that is made next. -/
lemma not_returned (h : usage.Sound loader) (index : Index) :
    ¬ Returned usage.loadings ⟨usage.state.made, index⟩ := by
  rintro ⟨success, hsuccess, hserial⟩
  have hlt : success.2.serial < usage.state.made := h.counted success hsuccess
  rw [hserial] at hlt
  exact Nat.lt_irrefl _ hlt

/-- A load serves what the last one returned that succeeded, if that was for the same environment,
and reads the source otherwise. -/
lemma load_cases (h : usage.Sound loader) (hsource : ∀ index, loader.source ≠ .prebuilt index)
    (identity : Identity) :
    (∃ kept, latest usage.loadings = some (identity, kept) ∧
      loader.load usage.files identity usage.state = (.ok kept, usage.state)) ∨
    (∀ kept, latest usage.loadings ≠ some (identity, kept)) ∧
      loader.load usage.files identity usage.state =
        loader.reload usage.files identity usage.state := by
  by_cases hlatest : ∃ kept, latest usage.loadings = some (identity, kept)
  · obtain ⟨kept, hkept⟩ := hlatest
    exact Or.inl ⟨kept, hkept, Loader.load_of_kept hsource (h.kept.trans hkept)⟩
  · have hnot : ∀ kept, latest usage.loadings ≠ some (identity, kept) := fun kept hkept =>
      hlatest ⟨kept, hkept⟩
    refine Or.inr ⟨hnot, Loader.load_of_not_kept hsource fun kept => ?_⟩
    rw [h.kept]
    exact hnot kept

/-- Behind sound loads, one more that is lawful leaves all of them lawful. -/
lemma lawful_concat (h : usage.Sound loader) {next : Loading}
    (hnext : next.Lawful loader usage.loadings) (earlier : List Loading) (loading : Loading)
    (later : List Loading) (hsplit : usage.loadings ++ [next] = earlier ++ loading :: later) :
    loading.Lawful loader earlier := by
  rcases List.eq_nil_or_concat' later with rfl | ⟨later, last, rfl⟩
  · obtain ⟨rfl, hlast⟩ := List.append_inj' hsplit rfl
    obtain rfl : next = loading := by simpa using hlast
    exact hnext
  · rw [← List.cons_append, ← List.append_assoc] at hsplit
    obtain ⟨hsplit, -⟩ := List.append_inj' hsplit rfl
    exact h.lawful earlier loading later hsplit

/-- A load that returns an instance is sound when the instance is kept and counted. -/
lemma concat_of_ok (h : usage.Sound loader) {next : Loading} {loaded : LoadedIndex}
    {state : LoaderState} (hresult : next.result = .ok loaded)
    (hnext : next.Lawful loader usage.loadings)
    (hkept : state.kept = some (next.identity, loaded)) (hmade : usage.state.made ≤ state.made)
    (hcounted : loaded.serial < state.made) :
    Sound loader ⟨usage.files, state, usage.loadings ++ [next]⟩ := by
  refine ⟨hkept.trans (latest_concat_of_ok hresult).symm, fun success hsuccess => ?_,
    h.lawful_concat hnext⟩
  rcases mem_successes_concat.mp hsuccess with hold | hlast
  · exact Nat.lt_of_lt_of_le (h.counted success hold) hmade
  · rw [success?_of_ok hresult] at hlast
    obtain rfl := Option.some.inj hlast
    exact hcounted

/-- A load that fails is sound when it changes nothing. -/
lemma concat_of_error (h : usage.Sound loader) {next : Loading} {cause : ResolveError}
    (hresult : next.result = .error cause) (hnext : next.Lawful loader usage.loadings) :
    Sound loader ⟨usage.files, usage.state, usage.loadings ++ [next]⟩ := by
  refine ⟨h.kept.trans (latest_concat_of_error hresult).symm, fun success hsuccess => ?_,
    h.lawful_concat hnext⟩
  rcases mem_successes_concat.mp hsuccess with hold | hlast
  · exact h.counted success hold
  · rw [success?_of_error hresult] at hlast
    cases hlast

/-- **A step** keeps a use sound. -/
lemma advance (h : usage.Sound loader) (hsource : ∀ index, loader.source ≠ .prebuilt index)
    (step : Loader.Step) : (loader.advance usage step).Sound loader := by
  cases step with
  | change files => exact ⟨h.kept, h.counted, h.lawful⟩
  | load identity =>
      rcases h.load_cases hsource identity with ⟨kept, hlatest, hload⟩ | ⟨hnot, hload⟩
      · rw [Loader.advance, hload]
        have hserial : kept.serial < usage.state.made :=
          h.counted (identity, kept) (List.mem_of_getLast? hlatest)
        exact h.concat_of_ok rfl (.of_latest hlatest rfl) (h.kept.trans hlatest) (Nat.le_refl _)
          hserial
      · rcases Loader.reload_cases loader usage.files identity usage.state with
          ⟨cause, hread, hreload⟩ | ⟨index, hread, hreload⟩
        · rw [Loader.advance, hload, hreload]
          exact h.concat_of_error rfl (.of_read_error hnot hread rfl)
        · rw [Loader.advance, hload, hreload]
          exact h.concat_of_ok rfl (.of_read_ok hnot hsource hread (h.not_returned index) rfl) rfl
            (Nat.le_succ _) (Nat.lt_succ_self _)

end Sound

end Usage

namespace Loader

open Loading

variable {loader : Loader}

/-- Steps in turn keep the use of a new loader sound. -/
lemma sound_use (hsource : ∀ index, loader.source ≠ .prebuilt index) (files : FileReader)
    (steps : List Step) : (loader.use files steps).Sound loader := by
  induction steps using List.reverseRecOn with
  | nil => exact .initial loader files
  | append_singleton steps step ih =>
      rw [use, List.foldl_append]
      exact ih.advance hsource step

/-- A loader of an index built beforehand serves its one instance. -/
lemma result_of_prebuilt {index : Index} (h : loader.source = .prebuilt index) (files : FileReader)
    (steps : List Step) :
    ∀ loading ∈ (loader.use files steps).loadings, loading.result = .ok ⟨0, index⟩ := by
  induction steps using List.reverseRecOn with
  | nil => exact List.forall_mem_nil _
  | append_singleton steps step ih =>
      rw [use, List.foldl_append]
      cases step with
      | change files => exact ih
      | load identity =>
          have hload : ∀ files state, loader.load files identity state = (.ok ⟨0, index⟩, state) :=
            fun _ _ => load_of_prebuilt h
          intro loading hloading
          simp only [List.foldl_cons, List.foldl_nil, advance, hload, List.mem_append,
            List.mem_singleton] at hloading
          rcases hloading with hold | rfl
          · exact ih loading hold
          · rfl

/-- A load that fails leaves the next one to serve what is kept for its environment. -/
lemma served_behind_failure {earlier later : List Loading} {failed next : Loading}
    {cause : ResolveError} {kept : LoadedIndex} {usage : Usage} (h : usage.Sound loader)
    (hsplit : usage.loadings = earlier ++ failed :: next :: later)
    (hfailed : failed.result = .error cause)
    (hkept : latest earlier = some (next.identity, kept)) : next.result = .ok kept := by
  have hnext : next.Lawful loader (earlier ++ [failed]) := by
    refine h.lawful _ next later ?_
    rw [hsplit, List.append_assoc]
    rfl
  exact ((hnext.served kept).mpr ((latest_concat_of_error hfailed).trans hkept)).1

/-- **A loader in use**, while the files change: a load serves what the last one returned that
succeeded, if that was for the same environment, and otherwise reads the source of its moment; it
fails only for want of a source that is required, and a failure leaves what is kept to be served. An
index built beforehand is served as one instance throughout. -/
theorem lawful_of_use (loader : Loader) (files : FileReader) (steps : List Step) :
    (∀ index, loader.source = .prebuilt index →
      ∀ loading ∈ (loader.use files steps).loadings, loading.result = .ok ⟨0, index⟩) ∧
    ((∀ index, loader.source ≠ .prebuilt index) →
      ∀ earlier loading later, (loader.use files steps).loadings = earlier ++ loading :: later →
        loading.Lawful loader earlier ∧
        ∀ cause next rest kept, loading.result = .error cause → later = next :: rest →
          latest earlier = some (next.identity, kept) → next.result = .ok kept) := by
  refine ⟨fun index h => result_of_prebuilt h files steps, fun hsource => ?_⟩
  intro earlier loading later hsplit
  have hsound : (loader.use files steps).Sound loader := sound_use hsource files steps
  refine ⟨hsound.lawful earlier loading later hsplit, ?_⟩
  rintro cause next rest kept hfailed rfl hkept
  exact served_behind_failure hsound hsplit hfailed hkept

/-- A loader that needs the index of a file. -/
def needy : Loader := ⟨.file "index", true⟩

/-- The file is missing, then there, then malformed, then there again with another priority, and
two environments take turns. -/
def unsteady : List Step :=
  [.load ⟨1⟩, .change fun _ => .ok "m.Priority=1", .load ⟨1⟩,
    .change fun _ => .ok "m.Priority=1\nm", .load ⟨2⟩, .load ⟨1⟩,
    .change fun _ => .ok "m.Priority=2", .load ⟨2⟩, .load ⟨1⟩]

/-- The index that gives one module a priority. -/
def ofPriority (priority : String) : Index := (Index.empty.insert ⟨"m", "Priority", priority⟩).2

theorem lawful_of_use_unsteady :
    let missing : FileReader := fun _ => .error .notFound
    let malformed : FileReader := fun _ => .ok "m.Priority=1\nm"
    let earlier : List Loading :=
      [⟨missing, ⟨1⟩, .error (.metadata (.unreadable "index" .notFound))⟩,
        ⟨fun _ => .ok "m.Priority=1", ⟨1⟩, .ok ⟨0, ofPriority "1"⟩⟩]
    let failed : Loading := ⟨malformed, ⟨2⟩, .error (.metadata (.malformedLine 2 "m"))⟩
    let next : Loading := ⟨malformed, ⟨1⟩, .ok ⟨0, ofPriority "1"⟩⟩
    let later : List Loading :=
      [⟨fun _ => .ok "m.Priority=2", ⟨2⟩, .ok ⟨1, ofPriority "2"⟩⟩,
        ⟨fun _ => .ok "m.Priority=2", ⟨1⟩, .ok ⟨2, ofPriority "2"⟩⟩]
    (∀ loading ∈ ((Loader.mk (.prebuilt .empty) true).use missing unsteady).loadings,
      loading.result = .ok ⟨0, .empty⟩) ∧
    (∀ index, needy.source ≠ .prebuilt index) ∧
    (needy.use missing unsteady).loadings = earlier ++ failed :: next :: later ∧
    latest earlier = some (next.identity, ⟨0, ofPriority "1"⟩) ∧
    failed.Lawful needy earlier ∧ next.result = .ok ⟨0, ofPriority "1"⟩ := by
  intro missing malformed earlier failed next later
  have hsource : ∀ index, needy.source ≠ .prebuilt index := by simp [needy]
  have hloadings : (needy.use missing unsteady).loadings = earlier ++ failed :: next :: later := rfl
  have hlatest : latest earlier = some (next.identity, ⟨0, ofPriority "1"⟩) := rfl
  obtain ⟨hlawful, hnext⟩ := (lawful_of_use needy missing unsteady).2 hsource earlier failed
    (next :: later) hloadings
  exact ⟨(lawful_of_use _ missing unsteady).1 .empty rfl, hsource, hloadings, hlatest, hlawful,
    hnext _ next later _ rfl rfl hlatest⟩

end Loader

end Activation
