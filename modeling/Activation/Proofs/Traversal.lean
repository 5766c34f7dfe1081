/-
Results of traversals.

A list is gone through step by step, up to the first step that fails.

* `map_eq_ok_iff`, `map_eq_error_iff`: a result under a function.
* `mapM_eq_ok_iff`, `mapM_eq_error_iff`: a traversal comes to what its steps come
  to, and fails as the first of them that does.
* `mapM_congr`: steps that come to the same make the same traversal.
* `foldlM_eq`: steps that may fail, but whose failure does not hang on the state,
  are a traversal in front of steps that do not fail.
-/
import Mathlib.Data.List.Forall2
import Mathlib.Tactic.Lemma

namespace Activation

/-! ### Results -/

lemma map_eq_ok_iff {ε α β : Type} {f : α → β} {result : Except ε α} {b : β} :
    result.map f = .ok b ↔ ∃ a, result = .ok a ∧ f a = b := by
  cases result <;> simp [Except.map]

lemma exists_map_eq_ok_iff {ε α β : Type} {f : α → β} {result : Except ε α} :
    (∃ b, result.map f = .ok b) ↔ ∃ a, result = .ok a := by
  cases result <;> simp [Except.map]

lemma map_eq_error_iff {ε α β : Type} {f : α → β} {result : Except ε α} {cause : ε} :
    result.map f = .error cause ↔ result = .error cause := by
  cases result <;> simp [Except.map]

/-! ### Traversals -/

/-- A traversal that succeeds lists what its steps come to. -/
lemma mapM_eq_ok_iff {ε α β : Type} {f : α → Except ε β} {xs : List α} {ys : List β} :
    xs.mapM f = .ok ys ↔ List.Forall₂ (fun x y => f x = .ok y) xs ys := by
  induction xs generalizing ys with
  | nil =>
      rw [List.mapM_nil, List.forall₂_nil_left_iff]
      exact ⟨fun h => (Except.ok.inj h).symm, fun h => h ▸ rfl⟩
  | cons x xs ih =>
      rw [List.mapM_cons, List.forall₂_cons_left_iff]
      cases hx : f x with
      | error cause => simp [bind, Except.bind]
      | ok y =>
          cases hxs : xs.mapM f with
          | error cause =>
              simp [bind, Except.bind, ← ih, hxs]
          | ok tail =>
              simp [bind, Except.bind, pure, Except.pure, ← ih, hxs, eq_comm]

/-- Steps that come to the same on every member make the same traversal. -/
lemma mapM_congr {ε α β : Type} {f g : α → Except ε β} {xs : List α} (h : ∀ x ∈ xs, f x = g x) :
    xs.mapM f = xs.mapM g := by
  induction xs with
  | nil => rfl
  | cons x xs ih =>
      obtain ⟨hx, hxs⟩ := List.forall_mem_cons.mp h
      rw [List.mapM_cons, List.mapM_cons, hx, ih hxs]

/-- A traversal succeeds when each of its steps does. -/
lemma exists_mapM_eq_ok_iff {ε α β : Type} {f : α → Except ε β} {xs : List α} :
    (∃ ys, xs.mapM f = .ok ys) ↔ ∀ x ∈ xs, ∃ y, f x = .ok y := by
  simp only [mapM_eq_ok_iff]
  induction xs with
  | nil => simp
  | cons x xs ih =>
      rw [List.forall_mem_cons, ← ih]
      simp only [List.forall₂_cons_left_iff]
      constructor
      · rintro ⟨_, y, ys, hy, hys, rfl⟩
        exact ⟨⟨y, hy⟩, ys, hys⟩
      · rintro ⟨⟨y, hy⟩, ys, hys⟩
        exact ⟨y :: ys, y, ys, hy, hys, rfl⟩

/-- A traversal fails as the first of its steps that does. -/
lemma mapM_eq_error_iff {ε α β : Type} {f : α → Except ε β} {xs : List α} {cause : ε} :
    xs.mapM f = .error cause ↔
      ∃ before x behind, xs = before ++ x :: behind ∧
        (∀ earlier ∈ before, ∃ y, f earlier = .ok y) ∧ f x = .error cause := by
  induction xs with
  | nil => simp [pure, Except.pure]
  | cons x xs ih =>
      rw [List.mapM_cons]
      constructor
      · intro h
        cases hx : f x with
        | error first =>
            rw [hx] at h
            obtain rfl : first = cause := Except.error.inj h
            exact ⟨[], x, xs, rfl, List.forall_mem_nil _, hx⟩
        | ok y =>
            have htail : xs.mapM f = .error cause := by
              rw [hx] at h
              cases hxs : xs.mapM f with
              | error later => rw [hxs] at h; exact h
              | ok tail => rw [hxs] at h; cases h
            obtain ⟨before, failing, behind, rfl, hbefore, hfailing⟩ := ih.mp htail
            exact ⟨x :: before, failing, behind, rfl,
              List.forall_mem_cons.mpr ⟨⟨y, hx⟩, hbefore⟩, hfailing⟩
      · rintro ⟨before, failing, behind, hxs, hbefore, hfailing⟩
        cases before with
        | nil =>
            obtain ⟨rfl, rfl⟩ := List.cons.inj hxs
            rw [hfailing]
            rfl
        | cons first before =>
            obtain ⟨rfl, rfl⟩ := List.cons.inj hxs
            obtain ⟨⟨y, hy⟩, hbefore⟩ := List.forall_mem_cons.mp hbefore
            rw [hy, ih.mpr ⟨before, failing, behind, rfl, hbefore, hfailing⟩]
            rfl

/-- Renaming the failure of a traversal renames it at each step. -/
lemma mapError_mapM {ε ε' α β : Type} (g : ε → ε') (f : α → Except ε β) (xs : List α) :
    (xs.mapM f).mapError g = xs.mapM fun x => (f x).mapError g := by
  induction xs with
  | nil => rfl
  | cons x xs ih =>
      rw [List.mapM_cons, List.mapM_cons, ← ih]
      cases f x with
      | error cause => rfl
      | ok y => cases xs.mapM f <;> rfl

/-- Steps whose failures do not hang on the state: they are checked first and then taken. -/
lemma foldlM_eq {ε σ α β : Type} (check : α → Except ε β) (next : σ → β → σ) (xs : List α) (s : σ) :
    xs.foldlM (fun s x => (check x).map (next s)) s =
      (xs.mapM check).map fun ys => ys.foldl next s := by
  induction xs generalizing s with
  | nil => rfl
  | cons x xs ih =>
      rw [List.foldlM_cons, List.mapM_cons]
      cases check x with
      | error cause => rfl
      | ok y =>
          have hstep : (Except.ok y : Except ε β).map (next s) = .ok (next s y) := rfl
          rw [hstep]
          calc xs.foldlM (fun s x => (check x).map (next s)) (next s y)
              = (xs.mapM check).map fun ys => ys.foldl next (next s y) := ih (next s y)
            _ = _ := by cases xs.mapM check <;> rfl

end Activation
