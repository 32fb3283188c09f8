import Mathlib.Data.List.Forall2
import Mathlib.Tactic.Common

/-!
# Lists side by side

Two lists are often compared element by element, by `List.Forall₂`: what was read with what it was read
from, what was made with what it was made for.  A list is walked through by `mapM`, with a step that may
find nothing or stop, and what the walk gives stands side by side with what it went through.
-/

namespace OpTiming

variable {α β γ : Type}

/-- What related elements have in common stands in the same places. -/
lemma map_eq_map_of_forall₂ {R : α → β → Prop} {f : α → γ} {g : β → γ}
    (h : ∀ a b, R a b → f a = g b) {xs : List α} {ys : List β} (hR : List.Forall₂ R xs ys) :
    xs.map f = ys.map g := by
  rw [← List.forall₂_eq_eq_eq, List.forall₂_map_left_iff, List.forall₂_map_right_iff]
  exact hR.imp h

/-- A walk all of whose steps succeed succeeds. -/
lemma exists_mapM_eq_ok {ε : Type} {R : α → β → Prop} {step : α → Except ε β} {xs : List α}
    (h : ∀ x ∈ xs, ∃ y, step x = .ok y ∧ R x y) :
    ∃ ys, xs.mapM step = .ok ys ∧ List.Forall₂ R xs ys := by
  induction xs with
  | nil => exact ⟨[], rfl, .nil⟩
  | cons x xs ih =>
    obtain ⟨hx, hxs⟩ := List.forall_mem_cons.mp h
    obtain ⟨y, hy, hR⟩ := hx
    obtain ⟨ys, hys, hRs⟩ := ih hxs
    refine ⟨y :: ys, ?_, .cons hR hRs⟩
    rw [List.mapM_cons, hy, hys]
    rfl

/-- **A walk finds something** iff each of its steps does. -/
lemma mapM_eq_some_iff {find : α → Option β} {xs : List α} {ys : List β} :
    xs.mapM find = some ys ↔ List.Forall₂ (fun x y => find x = some y) xs ys := by
  induction xs generalizing ys with
  | nil => simp [eq_comm]
  | cons x xs ih =>
    rw [List.mapM_cons, List.forall₂_cons_left_iff]
    simp only [← ih, Option.bind_eq_bind, Option.bind_eq_some_iff, Option.pure_def, Option.some.injEq]
    constructor
    · rintro ⟨y, hy, rest, hrest, rfl⟩
      exact ⟨y, rest, hy, hrest, rfl⟩
    · rintro ⟨y, rest, hy, hrest, rfl⟩
      exact ⟨y, hy, rest, hrest, rfl⟩

lemma mapM_eq_none_iff {find : α → Option β} {xs : List α} :
    xs.mapM find = none ↔ ∃ x ∈ xs, find x = none := by
  induction xs with
  | nil => simp
  | cons x xs ih =>
    rw [List.mapM_cons, List.exists_mem_cons_iff, ← ih]
    cases find x <;> cases xs.mapM find <;> simp

end OpTiming
