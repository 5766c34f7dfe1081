/-
TOML documents as trees.

A document is a table whose parts were written in three ways: under a header,
by dotted keys, and inside braces. How a table came to be decides what may be
added to it later, so each table remembers its origin.

* `Origin`, `Node`: the kinds of tables and of values.
* `Node.addKey`: a value put under a dotted key.
* `Node.openTable`, `Node.openElement`, `Node.within`: a table header, a header
  of an array of tables, and a change in the table that a header opened.
-/

namespace Activation.Toml

/-- How a table was written. -/
inductive Origin where
  /-- Under a header of its own, or the document itself. -/
  | header
  /-- As a part of the header of another table. -/
  | implied
  /-- By a dotted key. -/
  | dotted
  /-- Inside braces. -/
  | braces
deriving DecidableEq, Inhabited

/-- A value of a document. -/
inductive Node where
  | string (text : String)
  | integer (value : Int)
  | float (literal : String)
  | boolean (value : Bool)
  | datetime (text : String)
  | array (elements : List Node)
  | table (origin : Origin) (entries : List (String × Node))
  /-- The tables under headers with double brackets. -/
  | tables (elements : List Node)

instance : Inhabited Node := ⟨.boolean false⟩

/-- The entries of a table by key, in the order they were written. -/
abbrev Entries := List (String × Node)

namespace Node

/-- Changes what stands at a key, or puts something there; none when the change is refused. -/
def enter (key : String) (change : Option Node → Option Node) : Entries → Option Entries
  | [] => (change none).map fun node => [(key, node)]
  | entry :: rest =>
    if entry.1 = key then (change (some entry.2)).map fun node => (key, node) :: rest
    else (enter key change rest).map (entry :: ·)

/-- Puts a value at a key that has none. -/
def addNew (key : String) (value : Node) : Entries → Option Entries :=
  enter key fun found => if found.isNone then some value else none

/-- Changes the last of several nodes. -/
def changeLast (change : Node → Option Node) : List Node → Option (List Node)
  | [] => none
  | [last] => (change last).map ([·])
  | node :: nodes => (changeLast change nodes).map (node :: ·)

/-- Puts a value at a key of the table at the end of a path that starts in `table`. Tables on the
path are made as needed; only tables that no header and no braces made can be passed, and the
last must have been made by a dotted key. -/
def addAlong (key : String) (value : Node) : List String → Node → Option Node
  | [], .table .dotted entries => (addNew key value entries).map (.table .dotted)
  | [], _ => none
  | step :: path, .table origin entries =>
    (enter step (fun found =>
      match found with
      | none => addAlong key value path (.table .dotted [])
      | some (.table .implied inner) => addAlong key value path (.table .implied inner)
      | some (.table .dotted inner) => addAlong key value path (.table .dotted inner)
      | some (.tables elements) => (changeLast (addAlong key value path) elements).map .tables
      | some _ => none) entries).map (.table origin)
  | _ :: _, _ => none

/-- Puts a value under a dotted key, given as the path of tables and the last part. -/
def addKey (path : List String) (key : String) (value : Node) (entries : Entries) :
    Option Entries :=
  if path.isEmpty then addNew key value entries
  else match addAlong key value path (.table .header entries) with
    | some (.table _ entries) => some entries
    | _ => none

/-- Changes the entries of the table that a header's path leads to. Tables on the path are made
as needed, and of an array of tables the last is meant; nothing leads into a value. -/
def within (change : Entries → Option Entries) : List String → Entries → Option Entries
  | [], entries => change entries
  | step :: path, entries =>
    enter step (fun found =>
      match found with
      | none => (within change path []).map (.table .implied)
      | some (.table .braces _) => none
      | some (.table origin inner) => (within change path inner).map (.table origin)
      | some (.tables elements) =>
        (changeLast (fun element =>
          match element with
          | .table origin inner => (within change path inner).map (.table origin)
          | _ => none) elements).map .tables
      | some _ => none) entries

/-- A table header: the table is new, or was so far only part of other headers. -/
def openTable (path : List String) (key : String) : Entries → Option Entries :=
  within (enter key fun found =>
    match found with
    | none => some (.table .header [])
    | some (.table .implied inner) => some (.table .header inner)
    | some _ => none) path

/-- A header of an array of tables: one more table at its end. -/
def openElement (path : List String) (key : String) : Entries → Option Entries :=
  within (enter key fun found =>
    match found with
    | none => some (.tables [.table .header []])
    | some (.tables elements) => some (.tables (elements ++ [.table .header []]))
    | some _ => none) path

end Node

end Activation.Toml
