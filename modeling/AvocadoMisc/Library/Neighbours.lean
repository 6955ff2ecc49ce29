import Mathlib.Data.List.Induction
import Mathlib.Order.Lattice

/-!
# Neighbours in a sorted list

A value is looked up in a list by its first position, and its neighbours are the values at the
positions before and after. A position before the first one counts from the end of the list, so
the last value is in front of the first. There is nothing behind the last one.

When the list is sorted, what is in front of a value is the greatest of the smaller values, or the
greatest of all if no value is smaller, and what is behind it is the least of the others that are
not smaller.
-/

namespace AvocadoMisc.Library.Neighbours

universe u
variable {α : Type u}

section Positions

variable [DecidableEq α]

/-- The value in front of the first position of a value. -/
def inFront (values : List α) (x : α) : Option α :=
  if values.idxOf x = 0 then values.getLast? else values[values.idxOf x - 1]?

/-- The value behind it. -/
def behind (values : List α) (x : α) : Option α := values[values.idxOf x + 1]?

/-- The first position of a value is behind the values in front of it. -/
theorem idxOf_of_not_mem {front : List α} {x : α} (absent : x ∉ front) (back : List α) :
    (front ++ x :: back).idxOf x = front.length := by
  rw [List.idxOf_append, if_neg absent, List.idxOf_cons_self, Nat.zero_add]

/-- In front of a first position there is the last value. -/
theorem inFront_cons (x : α) (back : List α) : inFront (x :: back) x = (x :: back).getLast? := by
  rw [inFront, List.idxOf_cons_self, if_pos rfl]

/-- In front of another position there is the last one of the values before it. -/
theorem inFront_append {front : List α} {x : α} (absent : x ∉ front) (some_front : front ≠ [])
    (back : List α) : inFront (front ++ x :: back) x = front.getLast? := by
  have positive : front.length ≠ 0 := fun none => some_front (List.length_eq_zero_iff.mp none)
  rw [inFront, idxOf_of_not_mem absent, if_neg positive, List.getElem?_append_left (by omega),
    List.getLast?_eq_getElem?]

/-- Behind a position there is the first one of the values after it. -/
theorem behind_append {front : List α} {x : α} (absent : x ∉ front) (back : List α) :
    behind (front ++ x :: back) x = back.head? := by
  rw [behind, idxOf_of_not_mem absent, List.getElem?_append_right (by omega),
    List.head?_eq_getElem?]
  simp

end Positions

section Sorted

variable [LinearOrder α] {sorted others : List α} {x : α}

/-- The last value of a sorted list is the greatest one. -/
theorem getLast?_eq_some_iff (ordered : sorted.Pairwise (· ≤ ·)) (y : α) :
    sorted.getLast? = some y ↔ y ∈ sorted ∧ ∀ z ∈ sorted, z ≤ y := by
  induction sorted using List.reverseRecOn with
  | nil => simp
  | append_singleton front last =>
    have below : ∀ z ∈ front ++ [last], z ≤ last := by
      intro z member
      rcases List.mem_append.mp member with inFront | isLast
      · exact (List.pairwise_append.mp ordered).2.2 z inFront last List.mem_cons_self
      · exact le_of_eq (List.mem_singleton.mp isLast)
    rw [List.getLast?_concat, Option.some_inj]
    constructor
    · rintro rfl
      exact ⟨by simp, below⟩
    · rintro ⟨member, greatest⟩
      exact le_antisymm (greatest last (by simp)) (below y member)

/-- The first value of a sorted list is the least one. -/
theorem head?_eq_some_iff (ordered : sorted.Pairwise (· ≤ ·)) (y : α) :
    sorted.head? = some y ↔ y ∈ sorted ∧ ∀ z ∈ sorted, y ≤ z := by
  cases sorted with
  | nil => simp
  | cons first rest =>
    have above : ∀ z ∈ first :: rest, first ≤ z := by
      intro z member
      rcases List.mem_cons.mp member with rfl | inRest
      · exact le_refl z
      · exact (List.pairwise_cons.mp ordered).1 z inRest
    rw [List.head?_cons, Option.some_inj]
    constructor
    · rintro rfl
      exact ⟨List.mem_cons_self, above⟩
    · rintro ⟨member, least⟩
      exact le_antisymm (above y member) (least first List.mem_cons_self)

/-- A sorted list at the first position of a value: what is in front is smaller, and what is behind
is not. A second occurrence of the value is behind. -/
theorem exists_split (perm : sorted.Perm (x :: others)) (ordered : sorted.Pairwise (· ≤ ·)) :
    ∃ front back, sorted = front ++ x :: back ∧ x ∉ front ∧
      (∀ z, z ∈ front ↔ z ∈ others ∧ z < x) ∧ (∀ z, z ∈ back ↔ z ∈ others ∧ x ≤ z) := by
  have member : x ∈ sorted := perm.mem_iff.mpr List.mem_cons_self
  obtain ⟨front, back, rfl, absent⟩ := List.eq_append_cons_of_mem member
  obtain ⟨_, later, across⟩ := List.pairwise_append.mp ordered
  have below : ∀ z ∈ front, z < x := by
    intro z inFront
    apply lt_of_le_of_ne (across z inFront x List.mem_cons_self)
    rintro rfl
    exact absent inFront
  have above : ∀ z ∈ back, x ≤ z := (List.pairwise_cons.mp later).1
  have rest : (front ++ back).Perm others := (List.perm_middle.symm.trans perm).cons_inv
  refine ⟨front, back, rfl, absent, fun z => ?_, fun z => ?_⟩
  · rw [← rest.mem_iff, List.mem_append]
    constructor
    · exact fun inFront => ⟨.inl inFront, below z inFront⟩
    · exact fun ⟨either, smaller⟩ =>
        either.resolve_right fun inBack => absurd (above z inBack) (not_le_of_gt smaller)
  · rw [← rest.mem_iff, List.mem_append]
    constructor
    · exact fun inBack => ⟨.inr inBack, above z inBack⟩
    · exact fun ⟨either, greater⟩ =>
        either.resolve_left fun inFront => absurd (below z inFront) (not_lt_of_ge greater)

-- The positions may be found by any way to decide an equation.
variable [DecidableEq α]

/-- What is in front of a value in a sorted list: the largest of those below it. If there is none
the position is -1, which is the last one, so it is the largest of all. -/
theorem inFront_eq_some_iff (perm : sorted.Perm (x :: others))
    (ordered : sorted.Pairwise (· ≤ ·)) (y : α) :
    inFront sorted x = some y ↔
      (y ∈ others ∧ y < x ∧ ∀ z ∈ others, z < x → z ≤ y) ∨
      ((∀ z ∈ others, x ≤ z) ∧ y ∈ x :: others ∧ ∀ z ∈ x :: others, z ≤ y) := by
  obtain ⟨front, back, rfl, absent, below, above⟩ := exists_split perm ordered
  by_cases first : front = []
  · have noneBelow : ∀ z ∈ others, x ≤ z := by
      intro z member
      by_contra smaller
      have inFront := (below z).mpr ⟨member, lt_of_not_ge smaller⟩
      rw [first] at inFront
      cases inFront
    subst first
    rw [List.nil_append] at ordered perm ⊢
    rw [inFront_cons, getLast?_eq_some_iff ordered]
    simp only [perm.mem_iff]
    constructor
    · exact fun greatest => .inr ⟨noneBelow, greatest⟩
    · rintro (⟨member, smaller, _⟩ | ⟨_, greatest⟩)
      · exact absurd (noneBelow y member) (not_le_of_gt smaller)
      · exact greatest
  · obtain ⟨z, inFront⟩ := List.exists_mem_of_ne_nil front first
    obtain ⟨isOther, smaller⟩ := (below z).mp inFront
    rw [inFront_append absent first,
      getLast?_eq_some_iff (List.pairwise_append.mp ordered).1]
    simp only [below, and_imp]
    constructor
    · exact fun ⟨⟨member, smallerY⟩, greatest⟩ => .inl ⟨member, smallerY, greatest⟩
    · rintro (⟨member, smallerY, greatest⟩ | ⟨noneBelow, _⟩)
      · exact ⟨⟨member, smallerY⟩, greatest⟩
      · exact absurd (noneBelow z isOther) (not_le_of_gt smaller)

/-- What is behind a value in a sorted list. -/
theorem behind_eq_some_iff (perm : sorted.Perm (x :: others))
    (ordered : sorted.Pairwise (· ≤ ·)) (y : α) :
    behind sorted x = some y ↔ y ∈ others ∧ x ≤ y ∧ ∀ z ∈ others, x ≤ z → y ≤ z := by
  obtain ⟨front, back, rfl, absent, below, above⟩ := exists_split perm ordered
  have later : back.Pairwise (· ≤ ·) :=
    (List.pairwise_cons.mp (List.pairwise_append.mp ordered).2.1).2
  rw [behind_append absent, head?_eq_some_iff later]
  simp only [above, and_imp, and_assoc]

end Sorted

end AvocadoMisc.Library.Neighbours
