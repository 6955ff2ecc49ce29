import Mathlib.Data.List.Basic
import Mathlib.Data.List.Pairwise

/-!
# Canonical range lists

A set of numbers as a list of ranges, in order and with a gap between any two of them. Such a
list is determined by its set.
-/

namespace AvocadoMisc.Library.Ranges

/-- The numbers from a first to a last one. -/
@[ext]
structure Range where
  first : Nat
  last : Nat
  ordered : first ≤ last
deriving DecidableEq

/-- A number lies in the range. -/
def Range.Contains (range : Range) (n : Nat) : Prop := range.first ≤ n ∧ n ≤ range.last

/-- Ranges in order, with a gap between them. -/
structure RangeList where
  ranges : List Range
  separated : ranges.Pairwise fun earlier later => earlier.last + 1 < later.first

/-- A number lies in one of the ranges. -/
def Covers (ranges : List Range) (n : Nat) : Prop := ∃ range ∈ ranges, range.Contains n

/-- The set that a range list denotes. -/
def RangeList.Denotes (list : RangeList) (n : Nat) : Prop := Covers list.ranges n

/-- A number lies in one range only. -/
theorem RangeList.range_unique (list : RangeList) {range other : Range}
    (member : range ∈ list.ranges) (also : other ∈ list.ranges) {n : Nat}
    (inside : range.Contains n) (insideToo : other.Contains n) : range = other := by
  have apart : list.ranges.Pairwise fun one two =>
      one.last + 1 < two.first ∨ two.last + 1 < one.first :=
    list.separated.imp Or.inl
  have symmetric : Std.Symm fun one two : Range =>
      one.last + 1 < two.first ∨ two.last + 1 < one.first := ⟨fun _ _ => Or.symm⟩
  by_contra differ
  have gap := apart.forall member also differ
  obtain ⟨low, high⟩ := inside
  obtain ⟨lowToo, highToo⟩ := insideToo
  omega

/-- The list of one range. -/
def RangeList.single (range : Range) : RangeList := ⟨[range], List.pairwise_singleton _ range⟩

/-- It denotes the numbers in the range. -/
@[simp] theorem denotes_single (range : Range) (n : Nat) :
    (RangeList.single range).Denotes n ↔ range.Contains n := by
  simp [RangeList.Denotes, RangeList.single, Covers]

section Separated

variable {range : Range} {rest : List Range}
  (separated : (range :: rest).Pairwise fun earlier later => earlier.last + 1 < later.first)
include separated

/-- The first range begins with the least number. -/
theorem first_le_of_covers {n : Nat} (covered : Covers (range :: rest) n) : range.first ≤ n := by
  obtain ⟨other, member, low, _⟩ := covered
  have ordered := range.ordered
  rcases List.mem_cons.mp member with rfl | later
  · exact low
  · have gap := (List.pairwise_cons.mp separated).1 other later
    omega

/-- After its end there is a gap. -/
theorem not_covers_succ : ¬ Covers (range :: rest) (range.last + 1) := by
  rintro ⟨other, member, low, high⟩
  rcases List.mem_cons.mp member with rfl | later
  · omega
  · have gap := (List.pairwise_cons.mp separated).1 other later
    omega

/-- The other ranges cover the numbers beyond it. -/
theorem covers_rest_iff {n : Nat} :
    Covers rest n ↔ Covers (range :: rest) n ∧ range.last < n := by
  constructor
  · rintro ⟨other, member, low, high⟩
    have gap := (List.pairwise_cons.mp separated).1 other member
    exact ⟨⟨other, List.mem_cons_of_mem range member, low, high⟩, by omega⟩
  · rintro ⟨⟨other, member, low, high⟩, beyond⟩
    rcases List.mem_cons.mp member with rfl | later
    · omega
    · exact ⟨other, later, low, high⟩

end Separated

/-- The first number of the first range is covered, and everything up to its end. -/
theorem covers_first {range : Range} {rest : List Range} {n : Nat} (inside : range.Contains n) :
    Covers (range :: rest) n :=
  ⟨range, List.mem_cons_self, inside⟩

/-- Separated ranges that cover the same numbers are the same. Separated means that at least one
number is left out between two ranges, since ranges that touch could be written as one. -/
theorem ranges_unique {first second : List Range}
    (separated : first.Pairwise fun earlier later => earlier.last + 1 < later.first)
    (other : second.Pairwise fun earlier later => earlier.last + 1 < later.first)
    (same : ∀ n, Covers first n ↔ Covers second n) : first = second := by
  induction first generalizing second with
  | nil =>
    cases second with
    | nil => rfl
    | cons range rest =>
      have covered := (same range.first).mpr (covers_first ⟨Nat.le_refl _, range.ordered⟩)
      simp [Covers] at covered
  | cons range rest inductionHypothesis =>
    cases second with
    | nil =>
      have covered := (same range.first).mp (covers_first ⟨Nat.le_refl _, range.ordered⟩)
      simp [Covers] at covered
    | cons alike others =>
      have lows : range.first = alike.first := by
        apply Nat.le_antisymm
        · exact first_le_of_covers separated
            ((same _).mpr (covers_first ⟨Nat.le_refl _, alike.ordered⟩))
        · exact first_le_of_covers other
            ((same _).mp (covers_first ⟨Nat.le_refl _, range.ordered⟩))
      have ordered := range.ordered
      have also := alike.ordered
      have highs : range.last = alike.last := by
        -- The first one to end has a gap where the other one goes on.
        rcases Nat.lt_trichotomy range.last alike.last with shorter | equal | longer
        · refine absurd ((same _).mpr (covers_first ?_)) (not_covers_succ separated)
          exact ⟨by omega, by omega⟩
        · exact equal
        · refine absurd ((same _).mp (covers_first ?_)) (not_covers_succ other)
          exact ⟨by omega, by omega⟩
      obtain rfl : range = alike := Range.ext lows highs
      rw [inductionHypothesis separated.of_cons other.of_cons]
      intro n
      rw [covers_rest_iff separated, covers_rest_iff other, same]

/-- Range lists that denote the same set are the same. -/
theorem RangeList.unique {first second : RangeList}
    (same : ∀ n, first.Denotes n ↔ second.Denotes n) : first.ranges = second.ranges :=
  ranges_unique first.separated second.separated same

end AvocadoMisc.Library.Ranges
