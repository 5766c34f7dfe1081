/-
Strictly increasing lists.

Sets of ids, sorted maps and the pool of modules that are ready to be placed
are all lists in strictly increasing order, so that equal contents are equal
lists.

* `Increasing.insert`: an element put at its place, unless it is there already.
* `mem_insert`, `pairwise_insert`: what insertion adds, and that it keeps the
  order.
-/

namespace Activation.Increasing

variable {α : Type} (lt : α → α → Prop) [DecidableRel lt]

/-- Puts `a` before the first element above it; an element level with `a` stays in its stead. -/
def insert (a : α) : List α → List α
  | [] => [a]
  | b :: bs =>
    if lt a b then a :: b :: bs
    else if lt b a then b :: insert a bs
    else b :: bs

variable {lt}

/-- Insertion adds nothing but the new element. -/
theorem eq_or_mem_of_mem_insert {a b : α} {bs : List α} (h : b ∈ insert lt a bs) :
    b = a ∨ b ∈ bs := by
  induction bs with
  | nil => exact Or.inl (List.mem_singleton.mp h)
  | cons c cs ih =>
    simp only [insert] at h
    split at h
    · exact List.mem_cons.mp h
    · split at h
      · rcases List.mem_cons.mp h with rfl | h
        · exact Or.inr List.mem_cons_self
        · exact (ih h).imp_right (List.mem_cons_of_mem c)
      · exact Or.inr h

/-- Under a total order insertion adds exactly the new element. -/
theorem mem_insert (total : ∀ a b, ¬ lt a b → ¬ lt b a → a = b) {a b : α} {bs : List α} :
    b ∈ insert lt a bs ↔ b = a ∨ b ∈ bs := by
  refine ⟨eq_or_mem_of_mem_insert, ?_⟩
  induction bs with
  | nil => simp [insert]
  | cons c cs ih =>
    simp only [insert]
    split
    · simp
    · split
      · rintro (h | h)
        · exact List.mem_cons_of_mem c (ih (Or.inl h))
        · rcases List.mem_cons.mp h with rfl | h
          · exact List.mem_cons_self
          · exact List.mem_cons_of_mem c (ih (Or.inr h))
      · rename_i h₁ h₂
        rintro (rfl | h)
        · exact total _ _ h₁ h₂ ▸ List.mem_cons_self
        · exact h

/-- Insertion keeps a list increasing. -/
theorem pairwise_insert (trans : ∀ a b c, lt a b → lt b c → lt a c) (a : α) {bs : List α}
    (h : bs.Pairwise lt) : (insert lt a bs).Pairwise lt := by
  induction bs with
  | nil => simp [insert]
  | cons c cs ih =>
    obtain ⟨hc, hcs⟩ := List.pairwise_cons.mp h
    simp only [insert]
    split
    · rename_i hac
      refine List.pairwise_cons.mpr ⟨fun b hb => ?_, h⟩
      rcases List.mem_cons.mp hb with rfl | hb
      · exact hac
      · exact trans _ _ _ hac (hc b hb)
    · split
      · rename_i hca
        refine List.pairwise_cons.mpr ⟨fun b hb => ?_, ih hcs⟩
        rcases eq_or_mem_of_mem_insert hb with rfl | hb
        · exact hca
        · exact hc b hb
      · exact h

end Activation.Increasing
