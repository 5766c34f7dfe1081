/-
The registry of modules.

* `Catalog`: what resolution sees of any registry, the candidates in order of
  discovery, repetitions included, and a test for the modules that exist. A host
  brings a catalog of its own, and nothing ties the two parts together: it may
  deny its own candidates.
* `Registry`, `Registry.catalog`: the registry that is assembled from listed ids,
  and the catalog it amounts to, in which every candidate exists.
* `importList`, `Registry.withImports`: candidates listed one to a line, a `#`
  starting a comment.
* `candidates_withImports`, `isResolvable_withImports_iff` and the like: what each
  way to assemble a registry adds to it.
* `distinct`: a list without the repetitions, in order of first occurrence, with
  `mem_distinct` and `nodup_distinct` for its members and `pairwise_idxOf_distinct`
  for their order.
-/
import Activation.IdSet
import Activation.Text.Blank
import Activation.Text.Split

namespace Activation

/-- The elements of a list that do not stand in `seen`, each at its first occurrence. -/
def distinctFrom (seen : List ModuleId) : List ModuleId → List ModuleId
  | [] => []
  | id :: ids =>
    if id ∈ seen then distinctFrom seen ids else id :: distinctFrom (id :: seen) ids

/-- The elements of a list, each at its first occurrence. -/
def distinct (ids : List ModuleId) : List ModuleId :=
  distinctFrom [] ids

theorem mem_distinctFrom {seen ids : List ModuleId} {id : ModuleId} :
    id ∈ distinctFrom seen ids ↔ id ∈ ids ∧ id ∉ seen := by
  induction ids generalizing seen with
  | nil => simp [distinctFrom]
  | cons head ids ih =>
    rw [distinctFrom]
    split
    · rename_i hseen
      rw [ih, List.mem_cons]
      refine ⟨fun h => ⟨Or.inr h.1, h.2⟩, fun h => ⟨h.1.resolve_left ?_, h.2⟩⟩
      rintro rfl
      exact h.2 hseen
    · rename_i hseen
      rw [List.mem_cons, ih, List.mem_cons, List.mem_cons]
      constructor
      · rintro (rfl | h)
        · exact ⟨Or.inl rfl, hseen⟩
        · exact ⟨Or.inr h.1, fun hid => h.2 (Or.inr hid)⟩
      · rintro ⟨rfl | h, hid⟩
        · exact Or.inl rfl
        · by_cases heq : id = head
          · exact Or.inl heq
          · exact Or.inr ⟨h, not_or.mpr ⟨heq, hid⟩⟩

@[simp] theorem mem_distinct {ids : List ModuleId} {id : ModuleId} :
    id ∈ distinct ids ↔ id ∈ ids := by
  simp [distinct, mem_distinctFrom]

theorem nodup_distinctFrom (seen ids : List ModuleId) : (distinctFrom seen ids).Nodup := by
  induction ids generalizing seen with
  | nil => exact List.nodup_nil
  | cons head ids ih =>
    rw [distinctFrom]
    split
    · exact ih seen
    · refine List.nodup_cons.mpr ⟨fun h => ?_, ih _⟩
      exact (mem_distinctFrom.mp h).2 List.mem_cons_self

theorem nodup_distinct (ids : List ModuleId) : (distinct ids).Nodup := nodup_distinctFrom [] ids

theorem pairwise_idxOf_distinctFrom (seen ids : List ModuleId) :
    (distinctFrom seen ids).Pairwise fun a b => ids.idxOf a < ids.idxOf b := by
  induction ids generalizing seen with
  | nil => exact List.Pairwise.nil
  | cons head ids ih =>
    have hlater : ∀ a, a ≠ head → (head :: ids).idxOf a = ids.idxOf a + 1 := by
      intro a ha
      rw [List.idxOf_cons, beq_false_of_ne (Ne.symm ha), cond_false]
    -- what is listed behind the head differs from it, so that all positions move by one
    have hbehind : ∀ seen, head ∈ seen →
        (distinctFrom seen ids).Pairwise fun a b => (head :: ids).idxOf a < (head :: ids).idxOf b := by
      intro seen hhead
      refine (ih seen).imp_of_mem fun {a b} ha hb hab => ?_
      have hfresh : ∀ c ∈ distinctFrom seen ids, c ≠ head := by
        rintro c hc rfl
        exact (mem_distinctFrom.mp hc).2 hhead
      rw [hlater a (hfresh a ha), hlater b (hfresh b hb)]
      exact Nat.succ_lt_succ hab
    rw [distinctFrom]
    split
    · rename_i hseen
      exact hbehind seen hseen
    · refine List.pairwise_cons.mpr ⟨fun b hb => ?_, hbehind _ List.mem_cons_self⟩
      have hne : b ≠ head := by
        rintro rfl
        exact (mem_distinctFrom.mp hb).2 List.mem_cons_self
      rw [hlater b hne, List.idxOf_cons_self]
      exact Nat.succ_pos _

/-- First occurrences keep their order. -/
theorem pairwise_idxOf_distinct (ids : List ModuleId) :
    (distinct ids).Pairwise fun a b => ids.idxOf a < ids.idxOf b :=
  pairwise_idxOf_distinctFrom [] ids

/-- The id on a line of an import list, which is empty on a blank or comment line. -/
def importLine (line : List Char) : List Char :=
  Text.trim (line.takeWhile (· ≠ '#'))

/-- The ids of an import list. -/
def importList (contents : String) : List ModuleId :=
  (((Text.lines contents.toList).map importLine).filter (· ≠ [])).map String.ofList

/-- What resolution sees of a registry. -/
structure Catalog where
  /-- The candidates in order of discovery. -/
  candidates : List ModuleId
  /-- Whether a module of that id exists, be it a candidate or not. -/
  isResolvable : ModuleId → Bool

/-- The modules a deployment knows: those it discovered, and others that exist. -/
structure Registry where
  candidates : List ModuleId
  available : IdSet
deriving DecidableEq, Inhabited

namespace Registry

/-- The registry of discovered candidates. -/
def ofCandidates (ids : List ModuleId) : Registry := ⟨ids, .empty⟩

/-- The registry with modules that exist and are no candidates. -/
def withAvailable (registry : Registry) (ids : List ModuleId) : Registry :=
  { registry with available := registry.available.insertMany ids }

/-- The registry with the candidates of an import list behind its own. -/
def withImports (registry : Registry) (contents : String) : Registry :=
  { registry with candidates := registry.candidates ++ importList contents }

/-- Whether a module of that id exists. -/
def isResolvable (registry : Registry) (id : ModuleId) : Bool :=
  decide (id ∈ registry.available) || decide (id ∈ registry.candidates)

/-- The registry as resolution sees it. -/
def catalog (registry : Registry) : Catalog := ⟨registry.candidates, registry.isResolvable⟩

instance : Coe Registry Catalog := ⟨catalog⟩

@[simp] theorem candidates_catalog (registry : Registry) :
    registry.catalog.candidates = registry.candidates := rfl

@[simp] theorem isResolvable_catalog (registry : Registry) (id : ModuleId) :
    registry.catalog.isResolvable id = registry.isResolvable id := rfl

variable {registry : Registry} {ids : List ModuleId} {contents : String} {id : ModuleId}

theorem isResolvable_iff :
    registry.isResolvable id = true ↔ id ∈ registry.available ∨ id ∈ registry.candidates := by
  rw [isResolvable, Bool.or_eq_true, decide_eq_true_eq, decide_eq_true_eq]

/-- Every candidate exists. -/
theorem isResolvable_of_mem (h : id ∈ registry.candidates) : registry.isResolvable id = true :=
  isResolvable_iff.mpr (.inr h)

/-- What exists besides the candidates was declared available. -/
theorem isResolvable_and_not_mem_iff :
    registry.isResolvable id = true ∧ id ∉ registry.candidates ↔
      id ∈ registry.available ∧ id ∉ registry.candidates := by
  rw [isResolvable_iff]
  exact and_congr_left fun h => or_iff_left h

/-! ### Assembled registries -/

@[simp] theorem candidates_ofCandidates (ids : List ModuleId) :
    (ofCandidates ids).candidates = ids := rfl

@[simp] theorem candidates_withAvailable (registry : Registry) (ids : List ModuleId) :
    (registry.withAvailable ids).candidates = registry.candidates := rfl

@[simp] theorem candidates_withImports (registry : Registry) (contents : String) :
    (registry.withImports contents).candidates = registry.candidates ++ importList contents := rfl

/-- Discovered candidates exist, and nothing else does. -/
theorem isResolvable_ofCandidates_iff : (ofCandidates ids).isResolvable id = true ↔ id ∈ ids := by
  rw [isResolvable_iff, candidates_ofCandidates]
  exact or_iff_right (IdSet.not_mem_empty id)

/-- Modules that are declared available exist besides those that did before. -/
theorem isResolvable_withAvailable_iff :
    (registry.withAvailable ids).isResolvable id = true ↔
      registry.isResolvable id = true ∨ id ∈ ids := by
  rw [isResolvable_iff, isResolvable_iff, withAvailable, IdSet.mem_insertMany, or_assoc, or_comm]

/-- The modules of an import list exist besides those that did before. -/
theorem isResolvable_withImports_iff :
    (registry.withImports contents).isResolvable id = true ↔
      registry.isResolvable id = true ∨ id ∈ importList contents := by
  rw [isResolvable_iff, isResolvable_iff, candidates_withImports, List.mem_append, ← or_assoc]
  rfl

end Registry

end Activation
