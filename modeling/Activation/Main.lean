/-
The program.

* `systemFiles`: the files of the machine.
* `systemVariables`: the variables the process was started with.
* `main`: one run over them, its output on the two streams and its ending in the
  exit code.
-/
import Activation.Session

namespace Activation

/-- The cause of a failed operation on files. -/
def fileError : IO.Error → FileError
  | .noFileOrDirectory _ _ _ => .notFound
  | .alreadyExists _ _ _ => .alreadyExists
  | .inappropriateType _ code _ => if code = 20 ∨ -code = 20 then .notDirectory else .isDirectory
  | cause => .other cause.toString

/-- What an operation on a path gives, with the cause if it fails. -/
def attempted {α : Type} (path : String) (operation : IO α) : IO (Except FileError α) := do
  if path.toList.contains '\x00' then return .error .nulInPath
  match ← operation.toBaseIO with
  | .ok value => return .ok value
  | .error cause => return .error (fileError cause)

/-- The files of the machine. -/
def systemFiles : FileSystem IO where
  read path := attempted path (IO.FS.readBinFile path)
  makeDirectory path := attempted path (IO.FS.createDir path)
  isDirectory path := do
    match ← attempted path (IO.FS.readBinFile path) with
    | .error .isDirectory => return true
    | _ => return false

/-- The variables the process was started with, as far as they are text. -/
def systemVariables : IO Variables := do
  match ← systemFiles.read "/proc/self/environ" with
  | .error _ => return .empty
  | .ok bytes =>
    return ⟨(Text.cutBehind 0 bytes.toList).filterMap fun part =>
      (String.fromUTF8? ⟨(part.takeWhile (· ≠ 0)).toArray⟩).map String.toList⟩

/-- What goes to the error stream. -/
def complaint : Ending → String
  | .success => ""
  | .failure cause => "error: " ++ cause.message ++ "\n"
  | .misuse => Session.helpText

end Activation

open Activation in
/-- Runs the program on its arguments. -/
def main (arguments : List String) : IO UInt32 := do
  let output ← Session.run systemFiles (← systemVariables) arguments
  IO.print output.text
  IO.eprint (complaint output.ending)
  return output.ending.code.toUInt32
