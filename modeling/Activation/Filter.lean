/-
Condition filters.

Filters prune candidates in bulk, by the index and whatever they were made
from. Each sees all candidates in order; a candidate that an earlier filter has
rejected is shown as an empty slot, and what is answered for it is ignored.

* `Filter`, `Filter.ofPredicate`: a named judgement of a row of slots, and the
  filter that asks a question of every live slot on its own.
* `Slot`: a candidate with the name of the filter that rejected it.
* `Filter.apply`, `runFilters`: one filter on the slots, and filters in turn
  with a record of what each was shown; the first to fail ends the run.
* `FilterOutcome`, `FilterOutcome.ofSlots`, `ofRun`: who passed and who was
  rejected by which filter; where nobody was rejected the candidates are handed on
  as they came.
* `Filter.listing`: the names of filters in a row, as they are shown for debugging.
-/
import Activation.Error
import Activation.Index
import Activation.Text.Quoted

namespace Activation

/-- A condition filter: a name, and an answer for every slot or a failure in its own words. -/
structure Filter where
  name : String
  judge : List (Option ModuleId) → Index → Except String (List Bool)

instance : Inhabited Filter := ⟨"", fun _ _ => .ok []⟩

/-- The filter that puts a question to each live slot and lets empty ones pass. -/
def Filter.ofPredicate (name : String) (question : ModuleId → Index → Except String Bool) :
    Filter where
  name := name
  judge slots index := slots.mapM fun slot =>
    match slot with
    | some id => question id index
    | none => .ok true

/-- A candidate and the filter that rejected it, if one did. -/
structure Slot where
  id : ModuleId
  rejectedBy : Option String
deriving DecidableEq, Inhabited

namespace Slot

/-- A candidate that no filter has judged. -/
def fresh (id : ModuleId) : Slot := ⟨id, none⟩

/-- Whether a filter has rejected the candidate. -/
def isRejected (slot : Slot) : Bool := slot.rejectedBy.isSome

/-- What a filter is shown: the id of a live candidate. -/
def shown (slot : Slot) : Option ModuleId :=
  if slot.rejectedBy.isNone then some slot.id else none

/-- The slot after a filter's answer; only a live candidate is rejected by a negative one. -/
def answered (filter : String) (slot : Slot) (passes : Bool) : Slot :=
  if !passes && slot.rejectedBy.isNone then { slot with rejectedBy := some filter } else slot

end Slot

/-- The slots after one filter. -/
def Filter.apply (filter : Filter) (index : Index) (slots : List Slot) :
    Except ResolveError (List Slot) :=
  match filter.judge (slots.map Slot.shown) index with
  | .error detail => .error (.filter filter.name detail)
  | .ok answers =>
    if answers.length = slots.length then
      .ok (List.zipWith (Slot.answered filter.name) slots answers)
    else .error (.filterArity filter.name slots.length answers.length)

/-- A run of filters: what each that was called was shown, in order, and the slots at the end. -/
structure FilterRun where
  shown : List (List (Option ModuleId))
  slots : Except ResolveError (List Slot)

/-- Filters in order on slots, up to the first that fails. -/
def runFilters (index : Index) : List Filter → List Slot → FilterRun
  | [], slots => ⟨[], .ok slots⟩
  | filter :: filters, slots =>
    match filter.apply index slots with
    | .error cause => ⟨[slots.map Slot.shown], .error cause⟩
    | .ok next =>
      let rest := runFilters index filters next
      ⟨slots.map Slot.shown :: rest.shown, rest.slots⟩

/-- A rejected candidate and the filter that rejected it. -/
structure Rejection where
  id : ModuleId
  filter : String
deriving DecidableEq, Inhabited

/-- The candidates that passed and those that did not, each in their order. -/
structure FilterOutcome where
  accepted : List ModuleId
  rejected : List Rejection
deriving DecidableEq, Inhabited

namespace FilterOutcome

/-- The outcome that slots show. -/
def ofSlots (slots : List Slot) : FilterOutcome where
  accepted := (slots.filter fun slot => slot.rejectedBy.isNone).map Slot.id
  rejected := slots.filterMap fun slot => slot.rejectedBy.map (Rejection.mk slot.id)

/-- The outcome for candidates whose slots have been through the filters. If none was skipped on the
way, all are accepted as they came. -/
def ofRun (candidates : List ModuleId) (slots : List Slot) : FilterOutcome :=
  let skipped := slots.any Slot.isRejected
  if skipped then ofSlots slots else ⟨candidates, []⟩

/-- Whether any candidate was rejected. -/
def filteredAny (outcome : FilterOutcome) : Bool := !outcome.rejected.isEmpty

end FilterOutcome

/-- What filters in order make of candidates. -/
def filterCandidates (filters : List Filter) (index : Index) (candidates : List ModuleId) :
    Except ResolveError FilterOutcome :=
  (runFilters index filters (candidates.map Slot.fresh)).slots.map (FilterOutcome.ofRun candidates)

/-- The names of filters in the order in which they are called, as they are shown for debugging. -/
def Filter.listing (filters : List Filter) : String :=
  Text.quotedList (filters.map Filter.name)

end Activation
