/-
Paths as texts.

A path is a text whose components are separated by `/`. Nothing here looks at
the file system, and a path is kept as it was written, apart from the parts
that an operation removes.

* `Path.isAbsolute`: whether the path starts at the root.
* `Path.parent?`: the path without its last component.
* `Path.join`: a path read from a directory.
-/
import Activation.Text.Split

namespace Activation.Path

/-- Whether a path starts at the root. -/
def isAbsolute (path : String) : Bool :=
  path.toList.head? == some '/'

/-- The components between separators, empty ones included. -/
def pieces (path : String) : List String :=
  (Text.split '/' path.toList).map String.ofList

/-- The components without trailing separators and trailing `.`, which name nothing. -/
def dropIdle (components : List String) : List String :=
  (components.reverse.dropWhile fun piece => piece == "" || piece == ".").reverse

/-- A path as its fixed front and the rest: the front is `/` of an absolute path, a leading
`.` component, or empty. -/
def cutFront (path : String) : String × String :=
  match path.toList with
  | '/' :: rest => ("/", String.ofList rest)
  | ['.'] => (".", "")
  | '.' :: '/' :: rest => (".", String.ofList ('/' :: rest))
  | _ => ("", path)

/-- The path without its last component, trailing separators and trailing `.`; none for the
root and the empty path. -/
def parent? (path : String) : Option String :=
  let (front, rest) := cutFront path
  match dropIdle (pieces rest) with
  | [] => if front == "." then some "" else none
  | components => some (front ++ "/".intercalate (dropIdle components.dropLast))

/-- A path read from the directory `base`: an absolute one as it is. -/
def join (base path : String) : String :=
  if isAbsolute path || base == "" then path
  else if base.toList.getLast? == some '/' then base ++ path
  else base ++ "/" ++ path

end Activation.Path
