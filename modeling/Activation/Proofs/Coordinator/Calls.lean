/-
A coordinator in use.

Calls come in any order, and a selection is kept until the next registration.
What a call returns is a function of the registrations before it all the same.

* `Coordinator.Call`, `Answer`: the calls, and what they return.
* `Coordinator.perform`, `performAll`: a call, and calls in turn.
* `Coordinator.registrations`, `answer`: the registrations among calls, and what
  a call returns when nothing but registrations went before it.
* `Coordinator.Represents`: the coordinator is what registrations make it, but
  for a kept selection, which is the one they lead to.
* `Represents.perform`, `Represents.performAll`: a call keeps it so, and so do
  calls in turn.
* `Coordinator.performAll_eq_mapIdx`: every call of a run returns what it would
  after the registrations before it alone.
-/
import Activation.Proofs.Coordinator

namespace Activation

namespace Coordinator

/-- A call of a coordinator. -/
inductive Call where
  | process (site : Site) (entry : Entry)
  | selectImports
  | entryCount
deriving DecidableEq

/-- What a call returns; a registration returns nothing. -/
inductive Answer where
  | registered
  | selected (result : Except ResolveError (List Import))
  | counted (entries : Nat)
deriving DecidableEq

/-- A call: what it returns, and the coordinator after it. -/
def perform (coordinator : Coordinator) : Call → Answer × Coordinator
  | .process site entry => (.registered, coordinator.process site entry)
  | .selectImports => (.selected coordinator.selectImports.1, coordinator.selectImports.2)
  | .entryCount => (.counted coordinator.entryCount, coordinator)

/-- Calls in turn: what each returns, and the coordinator after the last. -/
def performAll (coordinator : Coordinator) : List Call → List Answer × Coordinator
  | [] => ([], coordinator)
  | call :: calls =>
    let next := coordinator.perform call
    let rest := next.2.performAll calls
    (next.1 :: rest.1, rest.2)

/-- The registration that a call makes, if it makes one. -/
def Call.registration? : Call → Option (Site × Entry)
  | .process site entry => some (site, entry)
  | .selectImports => none
  | .entryCount => none

/-- The registrations among calls. -/
def registrations (calls : List Call) : List (Site × Entry) :=
  calls.filterMap Call.registration?

/-- What a call returns on a new coordinator that has made some registrations and nothing else. -/
def answer (index : Index) (made : List (Site × Entry)) : Call → Answer
  | .process _ _ => .registered
  | .selectImports => .selected (ofCalls index made).selectImports.1
  | .entryCount => .counted made.length

variable {index : Index} {made : List (Site × Entry)} {coordinator : Coordinator}

lemma registrations_cons (call : Call) (calls : List Call) :
    registrations (call :: calls) = registrations [call] ++ registrations calls :=
  List.filterMap_append (l := [call])

/-- Apart from the selection it keeps, the coordinator is what the registrations make it; and the
selection it keeps is the one they lead to. -/
structure Represents (coordinator : Coordinator) (index : Index) (made : List (Site × Entry)) :
    Prop where
  registered : { coordinator with selected := none } = ofCalls index made
  kept : ∀ imports, coordinator.selected = some imports →
    (ofCalls index made).selectImports.1 = .ok imports

namespace Represents

/-- A new coordinator has made no registrations. -/
lemma new (index : Index) : (new index).Represents index [] :=
  ⟨rfl, fun _ h => nomatch h⟩

/-- A registration adds to the ones made and drops the kept selection. -/
lemma process (h : coordinator.Represents index made) (site : Site) (entry : Entry) :
    (coordinator.process site entry).Represents index (made ++ [(site, entry)]) := by
  refine ⟨?_, fun _ hkept => nomatch hkept⟩
  have hmade : ofCalls index (made ++ [(site, entry)]) =
      (ofCalls index made).process site entry := ofCalls_concat (site, entry)
  rw [hmade, ← h.registered]
  rfl

/-- A selection, kept or made afresh, is the one the registrations lead to. -/
lemma selectImports_eq (h : coordinator.Represents index made) :
    coordinator.selectImports.1 = (ofCalls index made).selectImports.1 := by
  cases hselected : coordinator.selected with
  | some imports =>
      have hserved : coordinator.selectImports = (.ok imports, coordinator) := by
        rw [selectImports, hselected]
      rw [h.kept imports hselected, hserved]
  | none =>
      have hself : { coordinator with selected := none } = coordinator := by
        rw [← hselected]
      rw [← h.registered, hself]

/-- A selection that succeeds is kept, and one that fails keeps nothing. -/
lemma selectImports (h : coordinator.Represents index made) :
    coordinator.selectImports.2.Represents index made := by
  have hresult := h.selectImports_eq
  cases hselected : coordinator.selected with
  | some imports =>
      have hserved : coordinator.selectImports.2 = coordinator := by
        rw [Coordinator.selectImports, hselected]
      rw [hserved]
      exact h
  | none =>
      rw [Coordinator.selectImports, hselected] at hresult ⊢
      cases hempty : coordinator.entries.isEmpty with
      | true => exact h
      | false =>
          cases hselection : coordinator.selection with
          | error cause => exact h
          | ok imports =>
              simp only [hempty, hselection, Bool.false_eq_true, if_false] at hresult ⊢
              refine ⟨h.registered, fun kept hkept => ?_⟩
              obtain rfl : imports = kept := Option.some.inj hkept
              exact hresult.symm

/-- There are as many entries as registrations. -/
lemma entryCount (h : coordinator.Represents index made) :
    coordinator.entryCount = made.length := by
  have hentries : coordinator.entries = (ofCalls index made).entries := by
    rw [← h.registered]
  rw [Coordinator.entryCount, hentries, entries_ofCalls, List.length_map]

/-- **A call** returns what the registrations before it make it return, and counts itself if it is
one. -/
lemma perform (h : coordinator.Represents index made) (call : Call) :
    (coordinator.perform call).1 = answer index made call ∧
      (coordinator.perform call).2.Represents index (made ++ registrations [call]) := by
  cases call with
  | process site entry => exact ⟨rfl, h.process site entry⟩
  | selectImports =>
      have hnone : registrations [Call.selectImports] = [] := rfl
      rw [hnone, List.append_nil]
      exact ⟨congrArg Answer.selected h.selectImports_eq, h.selectImports⟩
  | entryCount =>
      have hnone : registrations [Call.entryCount] = [] := rfl
      rw [hnone, List.append_nil]
      exact ⟨congrArg Answer.counted h.entryCount, h⟩

/-- **Calls in turn**, each counted in for those behind it. -/
lemma performAll (h : coordinator.Represents index made) (calls : List Call) :
    (coordinator.performAll calls).1 =
        calls.mapIdx (fun n call => answer index (made ++ registrations (calls.take n)) call) ∧
      (coordinator.performAll calls).2.Represents index (made ++ registrations calls) := by
  induction calls generalizing coordinator made with
  | nil =>
      have hnone : registrations [] = [] := rfl
      rw [hnone, List.append_nil]
      exact ⟨rfl, h⟩
  | cons call calls ih =>
      obtain ⟨hanswer, hnext⟩ := h.perform call
      obtain ⟨hanswers, hlast⟩ := ih hnext
      rw [List.append_assoc, ← registrations_cons] at hlast
      have hbefore : ∀ n, made ++ registrations ((call :: calls).take (n + 1)) =
          made ++ registrations [call] ++ registrations (calls.take n) := fun n => by
        rw [List.take_succ_cons, registrations_cons, List.append_assoc]
      have hfirst : made ++ registrations ((call :: calls).take 0) = made := List.append_nil made
      refine ⟨?_, hlast⟩
      simp only [Coordinator.performAll, List.mapIdx_cons, hanswer, hanswers, hbefore, hfirst]

end Represents

/-- **No answer is stale**: in any run of calls on a new coordinator, whether its selections succeed
or fail, every call returns what it would after the registrations before it alone. -/
theorem performAll_eq_mapIdx (index : Index) (calls : List Call) :
    (performAll (new index) calls).1 =
      calls.mapIdx fun n call => answer index (registrations (calls.take n)) call := by
  simpa only [List.nil_append] using ((Represents.new index).performAll calls).1

end Coordinator

end Activation
