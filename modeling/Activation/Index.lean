/-
The metadata index.

What decides whether and where a module activates is read from an index, so
that no module has to be started to find out.

* `OrderingFacts`: the facts of one module that bear on the order.
* `Assignment`: one attribute given to one module.
* `Index`: the facts and the raw attributes of every module.
* `Index.insert`: one more assignment. A priority or flag of the wrong type is
  refused; the index then holds neutral facts for the module, which is what it
  answers for a module it does not know.
* `Index.factsOf`, `attribute?`, `attributes?`, `contains`, `size`: the views.
-/
import Activation.Error
import Activation.Property
import Activation.Table
import Activation.Text.Decimal

namespace Activation

/-- The facts of one module that bear on the order. -/
structure OrderingFacts where
  /-- Modules of a lower priority come earlier. -/
  priority : Int
  /-- The modules it must precede. -/
  before : IdSet
  /-- The modules it must follow. -/
  after : IdSet
  /-- It precedes every module without this flag. -/
  beforeAll : Bool
  /-- It follows every module without this flag. -/
  afterAll : Bool
deriving DecidableEq

/-- The facts of a module of which nothing is said. -/
def OrderingFacts.neutral : OrderingFacts := ⟨0, .empty, .empty, false, false⟩

instance : Inhabited OrderingFacts := ⟨.neutral⟩

/-- One attribute given to one module. -/
structure Assignment where
  id : ModuleId
  name : String
  value : String
deriving DecidableEq, Inhabited

namespace Assignment

/-- The value as a priority. -/
def priority (a : Assignment) : Except IndexFault Int :=
  match Text.int32? a.value.toList with
  | some priority => .ok priority
  | none => .error (.notInteger a.id a.name a.value)

/-- The value as a flag. -/
def flag (a : Assignment) : Except IndexFault Bool :=
  match Property.boolean? a.value with
  | some flag => .ok flag
  | none => .error (.notBoolean a.id a.name a.value)

end Assignment

/-- The facts after an assignment to their module: the lists grow, the other facts are replaced,
and an attribute of another name says nothing about the order. -/
def OrderingFacts.assign (facts : OrderingFacts) (a : Assignment) : Except IndexFault OrderingFacts :=
  if a.name = "Priority" then
    a.priority.map fun priority => { facts with priority }
  else if a.name = "Before" then
    .ok { facts with before := facts.before.insertMany (Property.entries a.value) }
  else if a.name = "After" then
    .ok { facts with after := facts.after.insertMany (Property.entries a.value) }
  else if a.name = "BeforeAll" then
    a.flag.map fun beforeAll => { facts with beforeAll }
  else if a.name = "AfterAll" then
    a.flag.map fun afterAll => { facts with afterAll }
  else .ok facts

/-- The facts and the raw attributes of modules. -/
structure Index where
  facts : Table OrderingFacts
  values : Table (Table String)
deriving DecidableEq

namespace Index

/-- The index that says nothing. -/
def empty : Index := ⟨.empty, .empty⟩

instance : Inhabited Index := ⟨empty⟩

/-- The ordering facts of a module. -/
def factsOf (index : Index) (id : ModuleId) : OrderingFacts :=
  (index.facts.find? id).getD .neutral

/-- The attributes of a module, if it has any. -/
def attributes? (index : Index) (id : ModuleId) : Option (Table String) :=
  index.values.find? id

/-- The value of one attribute of a module. -/
def attribute? (index : Index) (id : ModuleId) (name : String) : Option String :=
  (index.attributes? id).bind (·.find? name)

/-- Whether any attribute of the module is recorded. -/
def contains (index : Index) (id : ModuleId) : Bool :=
  index.values.contains id

/-- The number of modules with attributes. -/
def size (index : Index) : Nat := index.values.size

/-- Whether no module has attributes. -/
def isEmpty (index : Index) : Bool := index.values.isEmpty

/-- The index with the facts of a module entered, as neutral ones unless they are there. -/
def enter (index : Index) (id : ModuleId) : Index :=
  { index with facts := index.facts.insertNew id .neutral }

/-- The index with the facts of a module replaced. -/
def setFacts (index : Index) (id : ModuleId) (facts : OrderingFacts) : Index :=
  { index with facts := index.facts.insert id facts }

/-- The index with the raw value of an assignment recorded. -/
def record (index : Index) (a : Assignment) : Index :=
  let attributes := (index.attributes? a.id).getD .empty
  { index with values := index.values.insert a.id (attributes.insert a.name a.value) }

/-- The index after one assignment; a refused one leaves its module entered. -/
def insert (index : Index) (a : Assignment) : Except IndexFault Unit × Index :=
  let entered := index.enter a.id
  match (entered.factsOf a.id).assign a with
  | .error fault => (.error fault, entered)
  | .ok facts => (.ok (), (entered.setFacts a.id facts).record a)

/-- The index after assignments in order, unless one is refused. -/
def insertAll (index : Index) (assignments : List Assignment) : Except IndexFault Index :=
  assignments.foldlM (fun index a => (index.insert a).1.map fun _ => (index.insert a).2) index

end Index

end Activation
