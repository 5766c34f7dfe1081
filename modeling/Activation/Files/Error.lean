/-
Why a file operation fails.

* `FileError`: the causes.
* `FileError.message`: their wording, the system's own text and number where the
  system reports the cause.
-/

namespace Activation

/-- Why reading a file or making a directory fails. -/
inductive FileError where
  /-- Nothing has that path. -/
  | notFound
  /-- A directory stands where a file is wanted. -/
  | isDirectory
  /-- A file stands where the path goes on. -/
  | notDirectory
  /-- Something other than a directory stands where a directory is to be made. -/
  | alreadyExists
  /-- The file is no text. -/
  | notUtf8
  /-- The path holds a character that no path can. -/
  | nulInPath
  /-- A cause outside this list, in the system's words. -/
  | other (description : String)
deriving DecidableEq, Inhabited

/-- The wording of a cause. -/
def FileError.message : FileError → String
  | .notFound => "No such file or directory (os error 2)"
  | .isDirectory => "Is a directory (os error 21)"
  | .notDirectory => "Not a directory (os error 20)"
  | .alreadyExists => "File exists (os error 17)"
  | .notUtf8 => "stream did not contain valid UTF-8"
  | .nulInPath => "file name contained an unexpected NUL byte"
  | .other description => description

end Activation
