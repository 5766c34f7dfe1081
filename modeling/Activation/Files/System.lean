/-
File systems.

A run does three things to files. They are given in any monad, so that the same
run works on the files of a machine and on a tree held in memory.

* `FileSystem`: reading a file, making one directory, and asking for one.
* `FileSystem.makeDirectories`: a directory and all that is missing above it.
* `FileTree.fileSystem`: a tree as a file system.
* `FileTree.placeDirectory`, `FileTree.placeFile`: a directory and a file put at a
  path, with all that is missing above them.
-/
import Activation.Files.Tree

namespace Activation

/-- What a run does to files. -/
structure FileSystem (m : Type → Type) where
  read : String → m (Except FileError ByteArray)
  /-- Makes a directory whose parent is there. -/
  makeDirectory : String → m (Except FileError Unit)
  isDirectory : String → m Bool

namespace FileSystem

variable {m : Type → Type} [Monad m] (files : FileSystem m)

/-- The outcome of making a directory; one that is there already is no failure. -/
def settle (path : String) : Except FileError Unit → m (Except FileError Unit)
  | .ok () => return .ok ()
  | .error cause => return if ← files.isDirectory path then .ok () else .error cause

/-- A directory made at a path together with those missing above it, where `depth` bounds the
number of components. Directories made before a failure stay. -/
def makeDirectoriesWithin : Nat → String → m (Except FileError Unit)
  | 0, _ => return .ok ()
  | depth + 1, path => do
    if path = "" then return .ok ()
    else match ← files.makeDirectory path with
      | .error .notFound =>
        match Path.parent? path with
        | none => return .error (.other "failed to create whole tree")
        | some parent =>
          match ← makeDirectoriesWithin depth parent with
          | .error cause => return .error cause
          | .ok () => files.settle path (← files.makeDirectory path)
      | outcome => files.settle path outcome

/-- A directory made at a path together with those missing above it; one that is there already
is left as it is. -/
def makeDirectories (path : String) : m (Except FileError Unit) :=
  files.makeDirectoriesWithin (path.length + 1) path

end FileSystem

/-- A tree as a file system. -/
def FileTree.fileSystem : FileSystem (StateM FileTree) where
  read path tree := (tree.read path, tree)
  makeDirectory path tree :=
    match tree.makeDirectory path with
    | .ok made => (.ok (), made)
    | .error cause => (.error cause, tree)
  isDirectory path tree := (tree.isDirectory path, tree)

/-- The tree with a directory at a path and those above it, as far as they can be made. -/
def FileTree.placeDirectory (tree : FileTree) (path : String) : FileTree :=
  (FileTree.fileSystem.makeDirectories path tree).2

/-- The tree with a file at a path and the directories above it, as far as they can be made. -/
def FileTree.placeFile (tree : FileTree) (path : String) (bytes : ByteArray) : FileTree :=
  (tree.placeDirectory ((Path.parent? path).getD "")).write path bytes

end Activation
