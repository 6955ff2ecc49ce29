import Mathlib.Data.List.Chain

/-!
# Loops over a list that they shrink

A loop goes through a list by position and removes values from this list while it runs. When the
value at a position is removed the values behind it move up, and the loop goes on with the next
position. So the value behind a removed one is never looked at.

`seen` are the values that the loop looks at and keeps, and `left` are the values that are in the
list in the end, up to their order: what is removed is the first value that is equal to the one at
the position. Nothing is left that should have been removed exactly when no two such values are
next to each other.
-/

namespace AvocadoMisc.Library.ShrinkingLoops

universe u
variable {α : Type u} (keep : α → Bool)

/-- Go through a list from a position on and remove the values that are not kept. The result is
what was kept of the values that were looked at, and the list in the end. -/
def shrinkFrom [DecidableEq α] (values : List α) (index : Nat) : List α × List α :=
  if inside : index < values.length then
    if keep values[index] then
      let rest := shrinkFrom values (index + 1)
      (values[index] :: rest.1, rest.2)
    else shrinkFrom (values.erase values[index]) (index + 1)
  else ([], values)
termination_by values.length - index
decreasing_by
  · omega
  · have shorter : (values.erase values[index]).length ≤ values.length :=
      List.erase_sublist.length_le
    omega

/-- What is looked at and kept. -/
def seen : List α → List α
  | [] => []
  | [value] => if keep value then [value] else []
  | value :: next :: others =>
    if keep value then value :: seen (next :: others) else seen others

/-- What is left. -/
def left : List α → List α
  | [] => []
  | [value] => if keep value then [value] else []
  | value :: next :: others =>
    if keep value then value :: left (next :: others) else next :: left others

/-! ### The loop -/

section Loop

variable [DecidableEq α]

/-- The loop ends behind the last position. -/
theorem shrinkFrom_of_length_le {values : List α} {index : Nat} (behind : values.length ≤ index) :
    shrinkFrom keep values index = ([], values) := by
  rw [shrinkFrom, dif_neg (by omega)]

/-- A value that is kept. -/
theorem shrinkFrom_keep {value : α} (kept : keep value = true) (done rest : List α) :
    shrinkFrom keep (done ++ value :: rest) done.length =
      (value :: (shrinkFrom keep ((done ++ [value]) ++ rest) (done ++ [value]).length).1,
        (shrinkFrom keep ((done ++ [value]) ++ rest) (done ++ [value]).length).2) := by
  rw [shrinkFrom, dif_pos (by simp)]
  simp [kept]

/-- When a value is removed, the part of the list that is done has lost it or has taken it in. The
rest is the same, up to its first value, which is done without a look. -/
theorem exists_shrinkFrom_remove {value : α} (removed : keep value = false)
    (done rest : List α) :
    ∃ cleared : List α, cleared.Perm done ∧
      shrinkFrom keep (done ++ value :: rest) done.length =
        shrinkFrom keep (cleared ++ rest) (done.length + 1) := by
  have round : shrinkFrom keep (done ++ value :: rest) done.length =
      shrinkFrom keep ((done ++ value :: rest).erase value) (done.length + 1) := by
    rw [shrinkFrom, dif_pos (by simp)]
    simp [removed]
  by_cases earlier : value ∈ done
  · refine ⟨done.erase value ++ [value], ?_, ?_⟩
    · exact (List.perm_append_singleton value _).trans (List.perm_cons_erase earlier).symm
    · rw [round, List.erase_append_left _ earlier, List.append_assoc, List.singleton_append]
  · refine ⟨done, List.Perm.refl done, ?_⟩
    rw [round, List.erase_append_right _ earlier, List.erase_cons_head]

/-- What the loop makes of the rest of a list.

Proof: by induction on the rest, with the next value when one is removed. -/
theorem shrinkFrom_append (done rest : List α) :
    (shrinkFrom keep (done ++ rest) done.length).1 = seen keep rest ∧
      (shrinkFrom keep (done ++ rest) done.length).2.Perm (done ++ left keep rest) := by
  induction rest using seen.induct keep generalizing done with
  | case1 =>
    rw [List.append_nil, shrinkFrom_of_length_le keep (Nat.le_refl _)]
    exact ⟨rfl, by rw [left, List.append_nil]⟩
  | case2 value kept =>
    rw [shrinkFrom_keep keep kept, List.append_nil,
      shrinkFrom_of_length_le keep (Nat.le_refl _), seen, left, if_pos kept]
    exact ⟨rfl, List.Perm.refl _⟩
  | case3 value removed =>
    obtain ⟨cleared, perm, round⟩ :=
      exists_shrinkFrom_remove keep (eq_false_of_ne_true removed) done []
    rw [round, List.append_nil, shrinkFrom_of_length_le keep (by rw [perm.length_eq]; omega),
      seen, left, if_neg removed, List.append_nil]
    exact ⟨rfl, perm⟩
  | case4 value next others kept inductionHypothesis =>
    obtain ⟨looked, remains⟩ := inductionHypothesis (done ++ [value])
    rw [shrinkFrom_keep keep kept, seen, left, if_pos kept, if_pos kept]
    exact ⟨congrArg (value :: ·) looked, by simpa using remains⟩
  | case5 value next others removed inductionHypothesis =>
    obtain ⟨cleared, perm, round⟩ :=
      exists_shrinkFrom_remove keep (eq_false_of_ne_true removed) done (next :: others)
    obtain ⟨looked, remains⟩ := inductionHypothesis (cleared ++ [next])
    have position : (cleared ++ [next]).length = done.length + 1 := by
      rw [List.length_append, perm.length_eq, List.length_singleton]
    rw [position, List.append_assoc, List.singleton_append] at looked remains
    rw [round, seen, left, if_neg removed, if_neg removed]
    refine ⟨looked, remains.trans ?_⟩
    rw [List.append_assoc, List.singleton_append]
    exact perm.append_right _

/-- The whole loop. -/
theorem shrinkFrom_zero (values : List α) :
    (shrinkFrom keep values 0).1 = seen keep values ∧
      (shrinkFrom keep values 0).2.Perm (left keep values) :=
  shrinkFrom_append keep [] values

end Loop

/-! ### What is left and what is seen -/

/-- What is kept is left, although the loop passes over the value behind each one that it removes:
the loop removes only values that it has looked at. -/
theorem mem_left {value : α} {values : List α} (kept : keep value = true)
    (member : value ∈ values) : value ∈ left keep values := by
  induction values using left.induct keep with
  | case1 => cases member
  | case2 first isKept =>
    rw [left, if_pos isKept]
    exact member
  | case3 first removed =>
    obtain rfl := List.mem_singleton.mp member
    exact absurd kept removed
  | case4 first next others isKept inductionHypothesis =>
    rw [left, if_pos isKept]
    rcases List.mem_cons.mp member with rfl | later
    · exact List.mem_cons_self
    · exact List.mem_cons_of_mem first (inductionHypothesis later)
  | case5 first next others removed inductionHypothesis =>
    rw [left, if_neg removed]
    rcases List.mem_cons.mp member with rfl | later
    · exact absurd kept removed
    · rcases List.mem_cons.mp later with rfl | further
      · exact List.mem_cons_self
      · exact List.mem_cons_of_mem next (inductionHypothesis further)

/-- Nothing is added. -/
theorem left_subset (values : List α) : left keep values ⊆ values := by
  induction values using left.induct keep with
  | case1 => exact List.Subset.refl _
  | case2 first isKept =>
    rw [left, if_pos isKept]
    exact List.Subset.refl _
  | case3 first removed =>
    rw [left, if_neg removed]
    exact List.nil_subset _
  | case4 first next others isKept inductionHypothesis =>
    rw [left, if_pos isKept]
    exact List.cons_subset_cons first inductionHypothesis
  | case5 first next others removed inductionHypothesis =>
    rw [left, if_neg removed]
    exact List.Subset.trans (List.cons_subset_cons next inductionHypothesis)
      (List.subset_cons_self first _)

/-- When all values are to be kept, all are left. -/
theorem left_eq_self {values : List α} (all : ∀ value ∈ values, keep value = true) :
    left keep values = values := by
  induction values using left.induct keep with
  | case1 => rfl
  | case2 first isKept => rw [left, if_pos isKept]
  | case3 first removed => exact absurd (all first List.mem_cons_self) removed
  | case4 first next others isKept inductionHypothesis =>
    rw [left, if_pos isKept,
      inductionHypothesis fun value member => all value (List.mem_cons_of_mem first member)]
  | case5 first next others removed => exact absurd (all first List.mem_cons_self) removed

/-- All that is left is to be kept exactly when of two values next to each other one is. -/
theorem forall_left_iff (values : List α) :
    (∀ value ∈ left keep values, keep value = true) ↔
      values.IsChain fun first second => keep first = true ∨ keep second = true := by
  induction values using left.induct keep with
  | case1 => simp [left]
  | case2 first isKept => simp [left, isKept]
  | case3 first removed => simp [left, removed]
  | case4 first next others isKept inductionHypothesis =>
    rw [left, if_pos isKept, List.forall_mem_cons, inductionHypothesis, List.isChain_cons_cons]
    simp [isKept]
  | case5 first next others removed inductionHypothesis =>
    rw [left, if_neg removed, List.forall_mem_cons, inductionHypothesis, List.isChain_cons_cons]
    constructor
    · rintro ⟨isKept, chain⟩
      refine ⟨.inr isKept, ?_⟩
      cases others with
      | nil => exact List.isChain_singleton next
      | cons third further => exact List.isChain_cons_cons.mpr ⟨.inl isKept, chain⟩
    · rintro ⟨one, chain⟩
      exact ⟨one.resolve_left removed, chain.tail⟩

/-- Exactly the values to be kept are left when no two to be removed are next to each other. -/
theorem forall_mem_left_iff (values : List α) :
    (∀ value, value ∈ left keep values ↔ value ∈ values ∧ keep value = true) ↔
      values.IsChain fun first second => keep first = true ∨ keep second = true := by
  rw [← forall_left_iff]
  constructor
  · exact fun exact value isLeft => ((exact value).mp isLeft).2
  · intro kept value
    constructor
    · exact fun isLeft => ⟨left_subset _ _ isLeft, kept value isLeft⟩
    · exact fun ⟨member, isKept⟩ => mem_left _ isKept member

/-- The values to be kept that are not directly behind one to be removed. What is told is whether
the value in front of the list is to be kept. -/
def unshadowed (kept : Bool) : List α → List α
  | [] => []
  | value :: rest =>
    if kept && keep value then value :: unshadowed (keep value) rest
    else unshadowed (keep value) rest

/-- They are what is seen when no two values to be removed are next to each other. -/
theorem seen_eq_unshadowed {values : List α}
    (chain : values.IsChain fun first second => keep first = true ∨ keep second = true) :
    seen keep values = unshadowed keep true values := by
  induction values using seen.induct keep with
  | case1 => rfl
  | case2 first isKept => simp [seen, unshadowed, isKept]
  | case3 first removed => simp [seen, unshadowed, removed]
  | case4 first next others isKept inductionHypothesis =>
    rw [seen, if_pos isKept, inductionHypothesis chain.tail]
    conv_rhs => rw [unshadowed]
    simp [isKept]
  | case5 first next others removed inductionHypothesis =>
    have isKept : keep next = true := by
      have one := (List.isChain_cons_cons.mp chain).1
      exact one.resolve_left removed
    rw [seen, if_neg removed, inductionHypothesis chain.tail.tail]
    simp [unshadowed, removed, isKept]

end AvocadoMisc.Library.ShrinkingLoops
