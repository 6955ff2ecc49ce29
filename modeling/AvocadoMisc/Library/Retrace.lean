import Mathlib.Data.List.Basic

/-!
# Runs that retrace their path

A run applies operations one after the other. Its path is the states before the first
operation and after each of them. When every operation has an inverse, the inverses in
opposite order lead back through the same states.
-/

namespace AvocadoMisc.Library.Retrace

universe u v
variable {σ : Type u} {α : Type v} (apply : σ → α → σ)

/-- The states that a run goes through, from its start to its end. -/
def path (start : σ) (operations : List α) : List σ := operations.scanl apply start

/-- Where a run ends. -/
def finish (start : σ) (operations : List α) : σ := operations.foldl apply start

/-- The operations that undo a run. -/
def undo (inverse : α → α) (operations : List α) : List α := operations.reverse.map inverse

/-- The path of the first operation and the others. -/
theorem path_cons (start : σ) (operation : α) (rest : List α) :
    path apply start (operation :: rest) = start :: path apply (apply start operation) rest :=
  List.scanl_cons

/-- A state on the path is the end of a first part of the run. -/
theorem mem_path {start state : σ} {operations : List α} :
    state ∈ path apply start operations ↔
      ∃ done left, operations = done ++ left ∧ state = finish apply start done := by
  induction operations generalizing start with
  | nil =>
    simp only [path, List.scanl_nil, List.mem_singleton]
    constructor
    · rintro rfl
      exact ⟨[], [], rfl, rfl⟩
    · rintro ⟨done, left, split, rfl⟩
      rw [(List.append_eq_nil_iff.mp split.symm).1]
      rfl
  | cons operation rest inductionHypothesis =>
    rw [path_cons, List.mem_cons]
    constructor
    · rintro (rfl | later)
      · exact ⟨[], operation :: rest, rfl, rfl⟩
      · obtain ⟨done, left, rfl, rfl⟩ := inductionHypothesis.mp later
        exact ⟨operation :: done, left, rfl, rfl⟩
    · rintro ⟨done, left, split, rfl⟩
      cases done with
      | nil => exact .inl rfl
      | cons first done =>
        obtain ⟨rfl, rfl⟩ := List.cons.inj split
        exact .inr (inductionHypothesis.mpr ⟨done, left, rfl, rfl⟩)

variable {apply} {inverse : α → α}
  (cancel : ∀ state operation, apply (apply state operation) (inverse operation) = state)
include cancel

/-- Undoing a run leads back to its start. -/
theorem finish_undo (start : σ) (operations : List α) :
    finish apply (finish apply start operations) (undo inverse operations) = start := by
  induction operations generalizing start with
  | nil => rfl
  | cons operation rest inductionHypothesis =>
    have back := inductionHypothesis (apply start operation)
    simp only [finish, undo, List.reverse_cons, List.map_append, List.foldl_append,
      List.foldl_cons, List.map_cons, List.map_nil, List.foldl_nil] at back ⊢
    rw [back, cancel]

/-- It goes through the states of the run in opposite order. -/
theorem path_undo (start : σ) (operations : List α) :
    path apply (finish apply start operations) (undo inverse operations) =
      (path apply start operations).reverse := by
  induction operations generalizing start with
  | nil => rfl
  | cons operation rest inductionHypothesis =>
    have back := finish_undo cancel (apply start operation) rest
    have earlier := inductionHypothesis (apply start operation)
    simp only [path, finish, undo, List.reverse_cons, List.map_append, List.scanl_append,
      List.foldl_cons, List.scanl_cons, List.map_cons, List.map_nil] at back earlier ⊢
    rw [earlier, back]
    simp [cancel]

end AvocadoMisc.Library.Retrace
