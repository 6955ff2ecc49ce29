import Mathlib.Data.Nat.Init

/-!
# Polling

A loop looks at something that changes from poll to poll, at most as many times as a number says.
Its body either returns a value or goes on. What is looked at is a history, and a poll reads the
entry of its number. The number of polls made is part of the result.
-/

namespace AvocadoMisc.Library.Polling

universe u v
variable {α : Type u} {β : Type v}

/-- Poll until the body returns a value or no tries are left. -/
def poll (body : α → Option β) (history : Nat → α) : (tries made : Nat) → Option β × Nat
  | 0, made => (none, made)
  | tries + 1, made =>
    match body (history made) with
    | some value => (some value, made + 1)
    | none => poll body history tries (made + 1)

variable {body : α → Option β} {history : Nat → α} {tries made : Nat}

/-- Either a poll returns a value, and those before it none, or all polls are made without one.

Proof: by induction on the number of tries. -/
theorem poll_cases (body : α → Option β) (history : Nat → α) (tries made : Nat) :
    (∃ k value, k < tries ∧ body (history (made + k)) = some value ∧
      (∀ j < k, body (history (made + j)) = none) ∧
      poll body history tries made = (some value, made + k + 1)) ∨
    (∀ k < tries, body (history (made + k)) = none) ∧
      poll body history tries made = (none, made + tries) := by
  induction tries generalizing made with
  | zero => exact Or.inr ⟨by simp, rfl⟩
  | succ tries inductionHypothesis =>
    cases first : body (history made) with
    | some value =>
      exact Or.inl ⟨0, value, Nat.succ_pos tries, first, by simp, by rw [poll, first]⟩
    | none =>
      have goesOn : poll body history (tries + 1) made = poll body history tries (made + 1) := by
        rw [poll, first]
      rcases inductionHypothesis (made + 1) with ⟨k, value, below, returned, before, result⟩ |
        ⟨nothing, result⟩
      · refine Or.inl ⟨k + 1, value, by omega, ?_, fun j earlier => ?_, ?_⟩
        · rwa [Nat.add_right_comm made 1 k] at returned
        · cases j with
          | zero => exact first
          | succ j =>
            have later := before j (by omega)
            rwa [Nat.add_right_comm made 1 j] at later
        · rw [goesOn, result]
          congr 1
          omega
      · refine Or.inr ⟨fun k below => ?_, ?_⟩
        · cases k with
          | zero => exact first
          | succ k =>
            have later := nothing k (by omega)
            rwa [Nat.add_right_comm made 1 k] at later
        · rw [goesOn, result]
          congr 1
          omega

/-- There is no value exactly when no poll returns one. -/
theorem poll_fst_eq_none_iff :
    (poll body history tries made).1 = none ↔ ∀ k < tries, body (history (made + k)) = none := by
  rcases poll_cases body history tries made with ⟨k, value, below, returned, -, result⟩ |
    ⟨nothing, result⟩
  · rw [result]
    constructor
    · intro none
      cases none
    · intro nothing
      rw [nothing k below] at returned
      cases returned
  · rw [result]
    exact ⟨fun _ => nothing, fun _ => rfl⟩

/-- A loop whose body always returns makes one poll. -/
theorem poll_of_always {value : α → β} (always : ∀ entry, body entry = some (value entry))
    (some_tries : 0 < tries) :
    poll body history tries made = (some (value (history made)), made + 1) := by
  obtain ⟨fewer, rfl⟩ : ∃ fewer, tries = fewer + 1 := ⟨tries - 1, by omega⟩
  rw [poll, always]

end AvocadoMisc.Library.Polling
