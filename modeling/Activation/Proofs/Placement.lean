/-
Placing under constraints.

Elements are placed one at a time. An element is open when it is not placed and
everything that must come before it is; a greedy placement takes the lowest open
element each time. Nothing here knows how the open elements are found.

* `Open`, `Lowest`, `Stuck`: what can be placed next, what a greedy placement
  takes, and that nothing is left to take.
* `Steps`: a list of which each element could be taken in its turn.
* `Arranges`, `First`: an order of all members that respects the constraints,
  and the lexicographically least one; by `Arranges.steps` and `Steps.arranges`
  an arrangement is a placement of every member.
* `Steps.not_mem_of_cycle`, `exists_cycle_of_stuck`: what a stuck placement
  leaves out is what a cycle leads to.
* `Steps.eq_or_lex`: no arrangement comes before the greedy one.
* `Steps.of_pairwise`: members that are sorted in agreement with the constraints are
  placed greedily.
* `Closed`, `Steps.congr_chains`: with every placed element, what must come before it
  is placed, so that a greedy placement goes by the chains of constraints alone.
-/
import Mathlib.Data.List.Basic
import Mathlib.Order.WellFoundedSet

namespace Activation.Placement

variable {α β : Type} {members : List α} {before lt : α → α → Prop} {a b c : α}
  {placed rest order : List α}

/-- The element can be placed next. -/
structure Open (members : List α) (before : α → α → Prop) (placed : List α) (a : α) : Prop where
  mem : a ∈ members
  fresh : a ∉ placed
  ready : ∀ b, before b a → b ∈ placed

/-- The element can be placed next, and no lower one can. -/
structure Lowest (members : List α) (before lt : α → α → Prop) (placed : List α) (a : α) : Prop
    extends Open members before placed a where
  least : ∀ b, Open members before placed b → ¬ lt b a

/-- No element can be placed next. -/
def Stuck (members : List α) (before : α → α → Prop) (placed : List α) : Prop :=
  ∀ a, ¬ Open members before placed a

/-- After the elements of a first list, each element of a second one is taken in its turn. -/
inductive Steps (next : List α → α → Prop) : List α → List α → Prop where
  | nil {placed : List α} : Steps next placed []
  | cons {placed rest : List α} {a : α} :
      next placed a → Steps next (placed ++ [a]) rest → Steps next placed (a :: rest)

/-- An order of the members, each listed once, in which every constraint is respected. -/
structure Arranges [DecidableEq α] (members : List α) (before : α → α → Prop) (order : List α) :
    Prop where
  nodup : order.Nodup
  mem_iff : ∀ a, a ∈ order ↔ a ∈ members
  respects : ∀ a b, before a b → order.idxOf a < order.idxOf b

/-- The lexicographically least arrangement. -/
structure First [DecidableEq α] (members : List α) (before lt : α → α → Prop) (order : List α) :
    Prop extends Arranges members before order where
  least : ∀ other, Arranges members before other → other = order ∨ List.Lex lt order other

/-- What is open depends on which elements are members, not on how they are listed. -/
lemma open_congr {same : List α} (hsame : ∀ a, a ∈ same ↔ a ∈ members) :
    Open same before placed a ↔ Open members before placed a :=
  ⟨fun h => ⟨(hsame a).mp h.mem, h.fresh, h.ready⟩,
    fun h => ⟨(hsame a).mpr h.mem, h.fresh, h.ready⟩⟩

/-- Of two lowest open elements neither is below the other, so they are one. -/
lemma Lowest.unique (htri : ∀ a b, ¬ lt a b → ¬ lt b a → a = b)
    (ha : Lowest members before lt placed a) (hb : Lowest members before lt placed b) : a = b :=
  htri a b (hb.least a ha.toOpen) (ha.least b hb.toOpen)

/-! ### Steps -/

namespace Steps

variable {next : List α → α → Prop}

/-- A weaker test for the next element lets the same steps pass. -/
lemma mono {next' : List α → α → Prop} (himp : ∀ placed a, next placed a → next' placed a)
    (h : Steps next placed rest) : Steps next' placed rest := by
  induction h with
  | nil => exact nil
  | cons ha _ ih => exact cons (himp _ _ ha) ih

/-- Steps are carried along a map that carries the test for the next element. -/
lemma map {f : α → β} {next' : List β → β → Prop}
    (himp : ∀ placed a, next placed a → next' (placed.map f) (f a))
    (h : Steps next placed rest) : Steps next' (placed.map f) (rest.map f) := by
  induction h with
  | nil => exact nil
  | cons ha _ ih =>
      rw [List.map_append] at ih
      exact cons (himp _ _ ha) ih

/-- Each element was next in its turn. -/
lemma next_of_append {front back : List α} (h : Steps next placed (front ++ a :: back)) :
    next (placed ++ front) a := by
  induction front generalizing placed with
  | nil =>
      cases h with
      | cons ha _ => rwa [List.append_nil]
  | cons b front ih =>
      cases h with
      | cons _ hrest =>
          have h := ih hrest
          rwa [List.append_assoc] at h

/-- A list is a placement if each of its elements is next behind those listed before it. -/
lemma of_splits (h : ∀ front a back, order = front ++ a :: back → next front a) :
    Steps next [] order := by
  suffices key : ∀ rest placed, order = placed ++ rest → Steps next placed rest from
    key order [] rfl
  intro rest
  induction rest with
  | nil => exact fun _ _ => .nil
  | cons a rest ih =>
      intro placed heq
      exact .cons (h placed a rest heq) (ih _ (by simp [heq]))

/-- Where at most one element is next, two lists of steps that go on until none is are equal. -/
lemma unique {other : List α} (hdet : ∀ placed a b, next placed a → next placed b → a = b)
    (h : Steps next placed rest) (hend : ∀ a, ¬ next (placed ++ rest) a)
    (hother : Steps next placed other) (hotherend : ∀ a, ¬ next (placed ++ other) a) :
    rest = other := by
  induction h generalizing other with
  | nil =>
      cases hother with
      | nil => rfl
      | cons ha _ => exact absurd ha (by simpa using hend _)
  | @cons placed rest a ha _ ih =>
      cases hother with
      | nil => exact absurd ha (by simpa using hotherend a)
      | @cons _ other b hb hother =>
          obtain rfl : a = b := hdet placed a b ha hb
          exact congrArg (a :: ·) (ih (by simpa using hend) hother (by simpa using hotherend))

/-- What is placed later was not placed before. -/
lemma not_mem (h : Steps (Open members before) placed rest) : ∀ a ∈ rest, a ∉ placed := by
  induction h with
  | nil => simp
  | cons ha _ ih =>
      intro b hb
      rcases List.mem_cons.mp hb with rfl | hb
      · exact ha.fresh
      · exact fun hmem => ih b hb (List.mem_append_left _ hmem)

/-- Nothing is placed twice. -/
lemma nodup (h : Steps (Open members before) placed rest) : rest.Nodup := by
  induction h with
  | nil => exact List.nodup_nil
  | cons _ hrest ih =>
      exact List.nodup_cons.mpr ⟨fun hmem => hrest.not_mem _ hmem (by simp), ih⟩

/-- Only members are placed. -/
lemma mem_members (h : Steps (Open members before) placed rest) : ∀ a ∈ rest, a ∈ members := by
  induction h with
  | nil => simp
  | cons ha _ ih => exact List.forall_mem_cons.mpr ⟨ha.mem, ih⟩

/-- **The greedy placement comes first**: any other placement of as many elements is above it in
the lexicographic order. -/
theorem eq_or_lex {other : List α} (htri : ∀ a b, ¬ lt a b → ¬ lt b a → a = b)
    (h : Steps (Lowest members before lt) placed rest)
    (hother : Steps (Open members before) placed other) (hlen : other.length = rest.length) :
    other = rest ∨ List.Lex lt rest other := by
  induction h generalizing other with
  | nil => exact Or.inl (List.length_eq_zero_iff.mp hlen)
  | @cons placed rest a ha _ ih =>
      cases hother with
      | nil => simp at hlen
      | @cons _ other b hb hother =>
          by_cases hab : lt a b
          · exact Or.inr (.rel hab)
          · -- the greedy choice is not above `b`, so both took the same element
            obtain rfl : a = b := htri a b hab (ha.least b hb)
            have hlen : other.length = rest.length := by simpa using hlen
            exact (ih hother hlen).imp (congrArg _) .cons

variable [DecidableEq α]

/-- What must come before a placed element is placed, and placed earlier. -/
lemma idxOf_lt (h : Steps (Open members before) [] order) (hab : before a b) (hb : b ∈ order) :
    a ∈ order ∧ order.idxOf a < order.idxOf b := by
  obtain ⟨front, back, rfl⟩ := List.append_of_mem hb
  have hopen : Open members before front b := h.next_of_append
  have ha : a ∈ front := hopen.ready a hab
  refine ⟨List.mem_append_left _ ha, ?_⟩
  rw [List.idxOf_append_of_mem ha, List.idxOf_append_of_notMem hopen.fresh]
  exact Nat.lt_add_right _ (List.idxOf_lt_length_iff.mpr ha)

/-- The same along a chain of constraints. -/
lemma idxOf_lt_of_transGen (h : Steps (Open members before) [] order)
    (hab : Relation.TransGen before a b) (hb : b ∈ order) :
    a ∈ order ∧ order.idxOf a < order.idxOf b := by
  induction hab with
  | single hab => exact h.idxOf_lt hab hb
  | tail _ hbc ih =>
      obtain ⟨hmem, hlt⟩ := h.idxOf_lt hbc hb
      exact ⟨(ih hmem).1, (ih hmem).2.trans hlt⟩

/-- An element that a cycle leads to is never placed. -/
lemma not_mem_of_cycle (h : Steps (Open members before) [] order)
    (hcycle : Relation.TransGen before c c) (hca : Relation.ReflTransGen before c a) :
    a ∉ order := by
  intro ha
  have hc : c ∈ order := by
    rcases Relation.reflTransGen_iff_eq_or_transGen.mp hca with rfl | hca
    · exact ha
    · exact (h.idxOf_lt_of_transGen hca ha).1
  exact Nat.lt_irrefl _ (h.idxOf_lt_of_transGen hcycle hc).2

/-- A placement of every member is an arrangement. -/
lemma arranges (h : Steps (Open members before) [] order) (hall : ∀ a ∈ members, a ∈ order)
    (hdom : ∀ a b, before a b → b ∈ members) : Arranges members before order where
  nodup := h.nodup
  mem_iff a := ⟨h.mem_members a, hall a⟩
  respects a b hab := (h.idxOf_lt hab (hall b (hdom a b hab))).2

end Steps

/-! ### Arrangements -/

/-- An arrangement places every element in its turn. -/
lemma Arranges.steps [DecidableEq α] (h : Arranges members before order) :
    Steps (Open members before) [] order := by
  refine .of_splits fun front a back heq => ?_
  have hnodup : (front ++ a :: back).Nodup := heq ▸ h.nodup
  have hfresh : a ∉ front := fun ha =>
    (List.nodup_append.mp hnodup).2.2 a ha a List.mem_cons_self rfl
  have hmem : a ∈ members := (h.mem_iff a).mp (by simp [heq])
  refine ⟨hmem, hfresh, fun b hba => ?_⟩
  by_contra hb
  have hlt := h.respects b a hba
  rw [heq, List.idxOf_append_of_notMem hb, List.idxOf_append_of_notMem hfresh,
    List.idxOf_cons_self] at hlt
  omega

/-- Constraints that can be respected have no cycle. -/
lemma Arranges.acyclic [DecidableEq α] (hdom : ∀ a b, before a b → a ∈ members)
    (h : Arranges members before order) (a : α) : ¬ Relation.TransGen before a a := by
  intro hcycle
  have ha : a ∈ members := by
    obtain ⟨b, hab, _⟩ := Relation.TransGen.head'_iff.mp hcycle
    exact hdom a b hab
  exact h.steps.not_mem_of_cycle hcycle .refl ((h.mem_iff a).mpr ha)

/-- Arrangements of the same members are of one length. -/
lemma Arranges.length_eq [DecidableEq α] {other : List α} (h : Arranges members before order)
    (hother : Arranges members before other) : other.length = order.length := by
  refine ((List.perm_ext_iff_of_nodup hother.nodup h.nodup).mpr fun a => ?_).length_eq
  rw [hother.mem_iff, h.mem_iff]

/-- There is at most one least arrangement. -/
lemma First.unique [DecidableEq α] {other : List α} (hasymm : ∀ a b, lt a b → ¬ lt b a)
    (h : First members before lt order) (hother : First members before lt other) :
    other = order := by
  rcases h.least other hother.toArranges with heq | hlt
  · exact heq
  rcases hother.least order h.toArranges with heq | hgt
  · exact heq.symm
  · exact absurd hgt (List.lex_asymm (fun {a b} hab => hasymm a b hab) hlt)

/-- A greedy placement of every member is the least arrangement. -/
theorem Steps.first [DecidableEq α] (htri : ∀ a b, ¬ lt a b → ¬ lt b a → a = b)
    (hdom : ∀ a b, before a b → b ∈ members)
    (h : Steps (Lowest members before lt) [] order) (hall : ∀ a ∈ members, a ∈ order) :
    First members before lt order := by
  have harranges : Arranges members before order :=
    (h.mono fun _ _ hlow => hlow.toOpen).arranges hall hdom
  exact ⟨harranges, fun other hother => h.eq_or_lex htri hother.steps (harranges.length_eq hother)⟩

/-- **Sorted members are placed greedily**, where constraints point upwards in the order they are
sorted by, and elements that no constraint ties are in the order of `lt`. -/
theorem Steps.of_pairwise {key : α → α → Prop} (hbefore : ∀ a b, before a b → key a b)
    (hkey : ∀ a ∈ members, ∀ b ∈ members, key a b → before a b ∨ lt a b)
    (hkeyasymm : ∀ a b, key a b → ¬ key b a) (hltasymm : ∀ a b, lt a b → ¬ lt b a)
    (hdom : ∀ a b, before a b → a ∈ members) (h : order.Pairwise key)
    (hmem : ∀ a, a ∈ order ↔ a ∈ members) : Steps (Lowest members before lt) [] order := by
  refine .of_splits fun front a back heq => ?_
  obtain ⟨-, hback, hfront⟩ := List.pairwise_append.mp (heq ▸ h)
  have hbelow : ∀ b ∈ front, key b a := fun b hb => hfront b hb a List.mem_cons_self
  have habove : ∀ b ∈ back, key a b := (List.pairwise_cons.mp hback).1
  have hplace : ∀ b ∈ members, b ∈ front ∨ b = a ∨ b ∈ back := fun b hb => by
    have hb : b ∈ order := (hmem b).mpr hb
    rwa [heq, List.mem_append, List.mem_cons] at hb
  have ha : a ∈ members := (hmem a).mp (by simp [heq])
  have hfresh : a ∉ front := fun ha => hkeyasymm a a (hbelow a ha) (hbelow a ha)
  refine ⟨⟨ha, hfresh, fun b hba => ?_⟩, fun b hb hlt => ?_⟩
  · have hup : key b a := hbefore b a hba
    rcases hplace b (hdom b a hba) with hb | rfl | hb
    · exact hb
    · exact absurd hup (hkeyasymm _ _ hup)
    · exact absurd hup (hkeyasymm _ _ (habove b hb))
  · rcases hplace b hb.mem with hplaced | rfl | hlater
    · exact hb.fresh hplaced
    · exact hltasymm _ _ hlt hlt
    · -- an element sorted behind `a` is tied to it by a constraint, or not below it
      rcases hkey a ha b hb.mem (habove b hlater) with hab | hab
      · exact hfresh (hb.ready a hab)
      · exact hltasymm _ _ hab hlt

/-! ### Chains of constraints -/

/-- With every placed element, what must come before it is placed. -/
def Closed (before : α → α → Prop) (placed : List α) : Prop :=
  ∀ a b, before a b → b ∈ placed → a ∈ placed

lemma closed_nil : Closed before [] := fun _ _ _ hb => absurd hb List.not_mem_nil

/-- Placing an open element keeps a placement closed. -/
lemma Closed.concat (h : Closed before placed) (ha : Open members before placed a) :
    Closed before (placed ++ [a]) := by
  intro b c hbc hc
  rcases List.mem_append.mp hc with hc | hc
  · exact List.mem_append_left _ (h b c hbc hc)
  · rw [List.mem_singleton.mp hc] at hbc
    exact List.mem_append_left _ (ha.ready b hbc)

/-- Whatever a chain of constraints puts before a placed element is placed. -/
lemma Closed.transGen (h : Closed before placed) :
    Closed (Relation.TransGen before) placed := by
  intro a b hab hb
  induction hab using Relation.TransGen.head_induction_on with
  | single hab => exact h _ _ hab hb
  | head hac _ ih => exact h _ _ hac ih

/-- In a closed placement an element is open when every chain that leads to it starts with a
placed one. -/
lemma Closed.open_transGen_iff (h : Closed before placed) :
    Open members (Relation.TransGen before) placed a ↔ Open members before placed a := by
  constructor
  · exact fun ha => ⟨ha.mem, ha.fresh, fun b hba => ha.ready b (.single hba)⟩
  · intro ha
    refine ⟨ha.mem, ha.fresh, fun b hba => ?_⟩
    obtain ⟨c, hbc, hca⟩ := Relation.TransGen.tail'_iff.mp hba
    have hc : c ∈ placed := ha.ready c hca
    rcases Relation.reflTransGen_iff_eq_or_transGen.mp hbc with rfl | hbc
    · exact hc
    · exact h.transGen b c hbc hc

section Chains

variable {other : α → α → Prop}
  (hsame : ∀ a b, Relation.TransGen before a b ↔ Relation.TransGen other a b)
include hsame

/-- Constraints with the same chains leave the same elements open. -/
lemma Closed.open_congr (h : Closed before placed) :
    Open members other placed a ↔ Open members before placed a := by
  have hother : Closed other placed := fun a b hab =>
    h.transGen a b ((hsame a b).mpr (.single hab))
  have heq : Relation.TransGen other = Relation.TransGen before := by
    ext a b
    exact (hsame a b).symm
  rw [← hother.open_transGen_iff, heq, h.open_transGen_iff]

/-- **A greedy placement goes by the chains of constraints**: it is one under any others with the
same chains, and stays closed. -/
theorem Steps.congr_chains (h : Steps (Lowest members before lt) placed rest)
    (hclosed : Closed before placed) :
    Steps (Lowest members other lt) placed rest ∧ Closed before (placed ++ rest) := by
  induction h with
  | nil => exact ⟨.nil, by rwa [List.append_nil]⟩
  | @cons placed rest a ha _ ih =>
      obtain ⟨hsteps, hend⟩ := ih (hclosed.concat ha.toOpen)
      have hlowest : Lowest members other lt placed a :=
        ⟨(hclosed.open_congr hsame).mpr ha.toOpen,
          fun b hb => ha.least b ((hclosed.open_congr hsame).mp hb)⟩
      exact ⟨.cons hlowest hsteps, by rwa [List.append_assoc] at hend⟩

end Chains

/-! ### Stuck placements -/

/-- **A stuck placement means a cycle**: what is left out is what a cycle leads to. -/
theorem exists_cycle_of_stuck (hdom : ∀ a b, before a b → a ∈ members)
    (h : Stuck members before placed) (ha : a ∈ members) (hfresh : a ∉ placed) :
    ∃ c, Relation.TransGen before c c ∧ Relation.ReflTransGen before c a := by
  by_contra hno
  -- among the elements left out that no cycle leads to, the chains of constraints are well-founded
  set left : Set α := {x | x ∈ members ∧ x ∉ placed ∧
    ¬ ∃ c, Relation.TransGen before c c ∧ Relation.ReflTransGen before c x} with hleft
  let chain (x y : α) : Prop := Relation.TransGen before x y ∧ x ∈ left
  have hirrefl : ∀ x, ¬ chain x x := fun x hx => hx.2.2.2 ⟨x, hx.1, .refl⟩
  have htrans : ∀ x y z, chain x y → chain y z → chain x z := fun _ _ _ hxy hyz =>
    ⟨hxy.1.trans hyz.1, hxy.2⟩
  have : IsStrictOrder α chain := { irrefl := hirrefl, trans := htrans }
  have hfinite : left.Finite := members.finite_toSet.subset fun x hx => hx.1
  refine (hfinite.wellFoundedOn (r := chain)).induction (P := fun _ => False) ⟨ha, hfresh, hno⟩ ?_
  intro x hx ih
  refine h x ⟨hx.1, hx.2.1, fun b hbx => ?_⟩
  by_contra hb
  have hbleft : b ∈ left :=
    ⟨hdom b x hbx, hb, fun ⟨c, hcycle, hcb⟩ => hx.2.2 ⟨c, hcycle, hcb.tail hbx⟩⟩
  exact ih b hbleft ⟨.single hbx, hbleft⟩

end Activation.Placement
