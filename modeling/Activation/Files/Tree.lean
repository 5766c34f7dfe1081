/-
File trees held in memory.

A tree stands for the contents of a working directory. Around it there are
directories of which nothing is known, so every name looked up there is absent.

* `FileTree`: files with their bytes, directories with their children.
* `FileTree.read`: the bytes of the file at a path.
* `FileTree.makeDirectory`, `FileTree.isDirectory`: a directory made, and asked for.
* `FileTree.write`, `FileTree.remove`: a file put at a path, and taken away.
* `FileTree.directories`: the directories at the top.
* `decodeText`, `decodeLines`: bytes as text, and the whole lines before the
  first one that is no text.
-/
import Activation.Files.Error
import Activation.Files.Path

namespace Activation

/-- The bytes of a file as text. -/
def decodeText (bytes : ByteArray) : Except FileError String :=
  match String.fromUTF8? bytes with
  | some text => .ok text
  | none => .error .notUtf8

/-- The text of the lines before the first line that is no text. -/
def decodeLines (bytes : ByteArray) : String :=
  match String.fromUTF8? bytes with
  | some text => text
  | none =>
    let texts := (Text.cutBehind 10 bytes.toList).map fun line =>
      String.fromUTF8? (ByteArray.mk line.toArray)
    String.join ((texts.takeWhile Option.isSome).filterMap id)

/-- A file with its bytes, or a directory with its children by name. -/
inductive FileTree where
  | file (bytes : ByteArray)
  | directory (children : List (String × FileTree))

namespace FileTree

instance : Inhabited FileTree := ⟨.directory []⟩

/-- The children of a directory; a file has none. -/
def children : FileTree → List (String × FileTree)
  | .file _ => []
  | .directory children => children

/-- The child of that name. -/
def child? (tree : FileTree) (name : String) : Option FileTree :=
  tree.children.lookup name

/-- What stands at the end of a chain of names. -/
def at? (tree : FileTree) : List String → Option FileTree
  | [] => some tree
  | name :: names => (tree.child? name).bind (·.at? names)

/-- A place a path leads to: inside the working directory under a chain of names, or in one of
the directories around it. -/
inductive Place where
  | inside (names : List String)
  | outside

/-- The place one component further; only a directory has a next place. -/
def advance (tree : FileTree) : Place → String → Except FileError Place
  | .outside, component =>
    if component == "" || component == "." || component == ".." then .ok .outside
    else .error .notFound
  | .inside names, component =>
    match tree.at? names with
    | none => .error .notFound
    | some (.file _) => .error .notDirectory
    | some (.directory children) =>
      if component == "" || component == "." then .ok (.inside names)
      else if component == ".." then
        if names.isEmpty then .ok .outside else .ok (.inside names.dropLast)
      else if (children.lookup component).isSome then .ok (.inside (names ++ [component]))
      else .error .notFound

/-- The place some components lead to. -/
def follow (tree : FileTree) (path : String) (components : List String) : Except FileError Place :=
  components.foldlM tree.advance (if Path.isAbsolute path then .outside else .inside [])

/-- The place of a path, with nothing at the empty path. -/
def locate (tree : FileTree) (path : String) : Except FileError Place :=
  if path == "" then .error .notFound
  else if path.toList.contains '\x00' then .error .nulInPath
  else tree.follow path (Path.pieces path)

/-- The bytes of the file at a path. -/
def read (tree : FileTree) (path : String) : Except FileError ByteArray := do
  match ← tree.locate path with
  | .outside => .error .isDirectory
  | .inside names =>
    match tree.at? names with
    | some (.file bytes) => .ok bytes
    | some (.directory _) => .error .isDirectory
    | none => .error .notFound

/-- The text of the file at a path. -/
def readText (tree : FileTree) (path : String) : Except FileError String := do
  decodeText (← tree.read path)

/-- Whether a directory stands at a path. -/
def isDirectory (tree : FileTree) (path : String) : Bool :=
  match tree.locate path with
  | .error _ => false
  | .ok .outside => true
  | .ok (.inside names) =>
    match tree.at? names with
    | some (.directory _) => true
    | _ => false

/-- The children with the one of that name set. -/
def setChild (name : String) (child : FileTree) :
    List (String × FileTree) → List (String × FileTree)
  | [] => [(name, child)]
  | entry :: rest =>
    if entry.1 == name then (name, child) :: rest else entry :: setChild name child rest

/-- The tree with a node at the end of a chain of names. -/
def put (node : FileTree) : List String → FileTree → FileTree
  | [], _ => node
  | name :: names, here =>
    .directory (setChild name (put node names ((here.child? name).getD default)) here.children)

/-- The tree without what stands at the end of a chain of names. -/
def erase : List String → FileTree → FileTree
  | [], here => here
  | [name], here => .directory (here.children.filter fun entry => entry.1 != name)
  | name :: names, here =>
    match here.child? name with
    | some child => .directory (setChild name (erase names child) here.children)
    | none => here

/-- Where a file can stand that a path leads to: the name at the end of the path in a directory
of the tree. -/
def destination? (tree : FileTree) (path : String) : Option (List String) :=
  let components := Path.pieces path
  match components.getLast?, tree.follow path components.dropLast with
  | some last, .ok (.inside names) =>
    match tree.at? names with
    | some (.directory _) =>
      if last ∈ ["", ".", ".."] ∨ path.toList.contains '\x00' then none else some (names ++ [last])
    | _ => none
  | _, _ => none

/-- The tree with a file at a path, in place of another file if there is one; nothing changes
where the file cannot stand. -/
def write (tree : FileTree) (path : String) (bytes : ByteArray) : FileTree :=
  match tree.destination? path with
  | none => tree
  | some names =>
    match tree.at? names with
    | some (.directory _) => tree
    | _ => put (.file bytes) names tree

/-- The tree without the file at a path; a directory stays. -/
def remove (tree : FileTree) (path : String) : FileTree :=
  match tree.destination? path with
  | none => tree
  | some names =>
    match tree.at? names with
    | some (.file _) => erase names tree
    | _ => tree

/-- One directory made at a path whose parent is there. -/
def makeDirectory (tree : FileTree) (path : String) : Except FileError FileTree := do
  if path == "" then .error .notFound
  else if path.toList.contains '\x00' then .error .nulInPath
  else
    let components := (Path.pieces path).reverse.dropWhile (· == "") |>.reverse
    match components.getLast? with
    | none => .error .alreadyExists
    | some last =>
      let above ← tree.follow path components.dropLast
      let above ← tree.advance above "."
      if last == "." || last == ".." then .error .alreadyExists
      else match above with
        | .outside => .ok tree
        | .inside names =>
          if (tree.at? (names ++ [last])).isSome then .error .alreadyExists
          else .ok (put (.directory []) (names ++ [last]) tree)

/-- The names of the directories at the top of the tree. -/
def directories (tree : FileTree) : List String :=
  tree.children.filterMap fun entry =>
    match entry.2 with
    | .directory _ => some entry.1
    | .file _ => none

end FileTree

end Activation
