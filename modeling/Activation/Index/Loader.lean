/-
Loading the index.

The index is read once for an environment and kept until it is asked for under
another one.

* `IndexSource`, `Loader`: where the index comes from, and whether a run may go
  on without it.
* `Loader.read`: the index the source holds at a moment; an optional index that
  is absent, unreadable or malformed is the empty one.
* `LoadedIndex`, `LoaderState`: an index with the number of the load that made
  it, and what is kept between loads.
* `Loader.load`: the kept index if the environment is the one it was loaded
  under, else a fresh reading; a failure leaves what is kept.
-/
import Activation.Environment
import Activation.Index.Text

namespace Activation

/-- Where an index comes from. -/
inductive IndexSource where
  /-- There is none; every module has neutral facts. -/
  | absent
  /-- A text in memory. -/
  | text (contents : String)
  /-- A file. -/
  | file (path : String)
  /-- An index built beforehand. -/
  | prebuilt (index : Index)
deriving Inhabited

/-- A source and whether a run depends on it. -/
structure Loader where
  source : IndexSource
  required : Bool
deriving Inhabited

/-- An index with the number of the load that made it. -/
structure LoadedIndex where
  serial : Nat
  index : Index
deriving DecidableEq, Inhabited

/-- What a loader keeps: the last index loaded with the environment it was loaded under, and the
number of indexes made so far. -/
structure LoaderState where
  kept : Option (Identity × LoadedIndex)
  made : Nat
deriving DecidableEq

/-- The state before the first load. -/
def LoaderState.initial : LoaderState := ⟨none, 0⟩

instance : Inhabited LoaderState := ⟨.initial⟩

/-- Reading a file by its path, as the files stand at a moment. -/
abbrev FileReader := String → Except FileError String

namespace Loader

/-- What the source holds, or why it is unusable. -/
def attempt (loader : Loader) (files : FileReader) : Except IndexFault Index :=
  match loader.source with
  | .absent => if loader.required then .error .noSource else .ok .empty
  | .text contents => Index.parse contents
  | .file path =>
    match files path with
    | .error cause => .error (.unreadable path cause)
    | .ok contents => Index.parse contents
  | .prebuilt index => .ok index

/-- The index of this moment; the empty one stands in for an unusable index that is optional. -/
def read (loader : Loader) (files : FileReader) : Except ResolveError Index :=
  match loader.attempt files with
  | .ok index => .ok index
  | .error fault => if loader.required then .error (.metadata fault) else .ok .empty

/-- A fresh reading, kept for an environment when it succeeds. -/
def reload (loader : Loader) (files : FileReader) (identity : Identity) (state : LoaderState) :
    Except ResolveError LoadedIndex × LoaderState :=
  match loader.read files with
  | .error cause => (.error cause, state)
  | .ok index =>
    let loaded : LoadedIndex := ⟨state.made, index⟩
    (.ok loaded, ⟨some (identity, loaded), state.made + 1⟩)

/-- The index for an environment. -/
def load (loader : Loader) (files : FileReader) (identity : Identity) (state : LoaderState) :
    Except ResolveError LoadedIndex × LoaderState :=
  match loader.source, state.kept with
  | .prebuilt index, _ => (.ok ⟨0, index⟩, state)
  | _, some (keptFor, loaded) =>
    if keptFor = identity then (.ok loaded, state) else loader.reload files identity state
  | _, none => loader.reload files identity state

end Loader

end Activation
