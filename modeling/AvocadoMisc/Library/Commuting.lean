import Mathlib.Data.List.Basic

/-!
# Folds whose steps mostly commute

A fold over a list in which some elements are special, and every other element commutes with all.
Then the special elements may be taken first, so two orders of the same elements give the same
result when the special ones come in the same order.
-/

namespace AvocadoMisc.Library.Commuting

variable {σ α : Type*} {step : σ → α → σ} {special : α → Bool}

/-- Two elements may be exchanged, in any state. -/
def Commutes (step : σ → α → σ) (a b : α) : Prop :=
  ∀ state, step (step state a) b = step (step state b) a

/-- An element that commutes with all of a list may be taken last instead of first. -/
theorem foldl_past {a : α} {list : List α} (commutes : ∀ b ∈ list, Commutes step a b) (state : σ) :
    list.foldl step (step state a) = step (list.foldl step state) a := by
  induction list generalizing state with
  | nil => rfl
  | cons b rest inductionHypothesis =>
    rw [List.foldl_cons, List.foldl_cons, commutes b (by simp) state]
    exact inductionHypothesis (fun c member => commutes c (List.mem_cons_of_mem b member)) _

/-- The special elements may be taken first. -/
theorem foldl_filter {list : List α}
    (commutes : ∀ a ∈ list, ∀ b ∈ list, special a = false → special b = true → Commutes step a b)
    (state : σ) :
    list.foldl step state =
      (list.filter fun a => !special a).foldl step ((list.filter special).foldl step state) := by
  induction list generalizing state with
  | nil => rfl
  | cons a rest inductionHypothesis =>
    have later := inductionHypothesis (fun b inRest c cInRest => commutes b
      (List.mem_cons_of_mem a inRest) c (List.mem_cons_of_mem a cInRest)) (step state a)
    rw [List.foldl_cons, later]
    cases kind : special a with
    | true =>
      rw [List.filter_cons_of_pos kind, List.filter_cons_of_neg (by simp [kind]), List.foldl_cons]
    | false =>
      have moved : (rest.filter special).foldl step (step state a) =
          step ((rest.filter special).foldl step state) a :=
        foldl_past (fun b member => commutes a (by simp) b
          (List.mem_cons_of_mem a (List.mem_of_mem_filter member)) kind
          (List.mem_filter.mp member).2) state
      rw [List.filter_cons_of_neg (by simp [kind]), List.filter_cons_of_pos (by simp [kind]),
        List.foldl_cons, moved]

/-- In another order too the special elements may be taken first, and then the others as before. -/
theorem foldl_filter_of_perm {first second : List α} (perm : first.Perm second)
    (commutes : ∀ a ∈ first, ∀ b ∈ first, special a = false → a = b ∨ Commutes step a b)
    (state : σ) :
    second.foldl step state =
      (first.filter fun a => !special a).foldl step
        ((second.filter special).foldl step state) := by
  have apart : ∀ a ∈ second, ∀ b ∈ second, special a = false → special b = true →
      Commutes step a b := by
    intro a aIn b bIn plain isSpecial
    rcases commutes a (perm.mem_iff.mpr aIn) b (perm.mem_iff.mpr bIn) plain with rfl | commute
    · rw [plain] at isSpecial
      cases isSpecial
    · exact commute
  rw [foldl_filter apart]
  refine (List.Perm.foldl_eq' (perm.filter _) (fun a member b bMember state => ?_) _).symm
  have plain : special a = false := by simpa using (List.mem_filter.mp member).2
  rcases commutes a (List.mem_of_mem_filter member) b (List.mem_of_mem_filter bMember) plain with
    rfl | commute
  · rfl
  · exact commute state

/-- Two orders that agree on the special elements give the same result. -/
theorem foldl_eq_of_perm {first second : List α} (perm : first.Perm second)
    (commutes : ∀ a ∈ first, ∀ b ∈ first, special a = false → a = b ∨ Commutes step a b)
    (sameOrder : first.filter special = second.filter special) (state : σ) :
    first.foldl step state = second.foldl step state := by
  rw [foldl_filter_of_perm (List.Perm.refl first) commutes, foldl_filter_of_perm perm commutes,
    sameOrder]

end AvocadoMisc.Library.Commuting
