import Mathlib.Algebra.BigOperators.Group.Finset.Piecewise
import Mathlib.Algebra.Order.BigOperators.Group.Finset
import Mathlib.Data.Fintype.BigOperators

/-!
# Totals over the parties of a system

A step of a system usually changes one party. The total of a weight over all
parties then changes by that party's weight. The laws are stated without
subtraction, so they serve natural numbers and machine words alike.
-/

namespace AvocadoMisc.Library.Accounting

open Finset

universe u v w
variable {ι : Type u} {σ : Type v} {M : Type w} [Fintype ι]

/-- The total weight of all parties. -/
def total [AddCommMonoid M] (weight : σ → M) (parts : ι → σ) : M :=
  ∑ party, weight (parts party)

/-- Replacing one party exchanges its weight. -/
theorem total_update [AddCommMonoid M] [DecidableEq ι] (weight : σ → M) (parts : ι → σ)
    (who : ι) (part : σ) :
    total weight (Function.update parts who part) + weight (parts who) =
      total weight parts + weight part := by
  have moved : ∀ party, weight (Function.update parts who part party) =
      Function.update (fun party => weight (parts party)) who (weight part) party := by
    intro party
    by_cases same : party = who
    · subst party; simp
    · simp [same]
  unfold total
  simp only [moved]
  rw [Finset.sum_update_of_mem (Finset.mem_univ who),
    ← Finset.add_sum_erase Finset.univ (fun party => weight (parts party)) (Finset.mem_univ who),
    Finset.sdiff_singleton_eq_erase]
  ac_rfl

/-- Replacing one party by one of the same weight keeps the total. -/
theorem total_update_same [AddCommMonoid M] [DecidableEq ι] (weight : σ → M) (parts : ι → σ)
    (who : ι) (part : σ) (same : weight part = weight (parts who)) :
    total weight (Function.update parts who part) = total weight parts := by
  unfold total
  apply Finset.sum_congr rfl
  intro party _
  by_cases here : party = who
  · subst party; simpa using same
  · simp [here]

/-- Lowering one weight lowers the total. -/
theorem total_update_lt [DecidableEq ι] (weight : σ → Nat) (parts : ι → σ) (who : ι) (part : σ)
    (lower : weight part < weight (parts who)) :
    total weight (Function.update parts who part) < total weight parts := by
  have moved := total_update weight parts who part
  omega

/-- Weightless parties have no total. -/
theorem total_eq_zero [AddCommMonoid M] (weight : σ → M) (parts : ι → σ)
    (none : ∀ party, weight (parts party) = 0) : total weight parts = 0 :=
  Finset.sum_eq_zero fun party _ => none party

/-- A smaller weight has a smaller total. -/
theorem total_le (lower upper : σ → Nat) (parts : ι → σ)
    (below : ∀ part, lower part ≤ upper part) : total lower parts ≤ total upper parts :=
  Finset.sum_le_sum fun party _ => below (parts party)

/-- No party outweighs the total. -/
theorem weight_le_total (weight : σ → Nat) (parts : ι → σ) (who : ι) :
    weight (parts who) ≤ total weight parts :=
  Finset.single_le_sum (f := fun party => weight (parts party))
    (fun _ _ => Nat.zero_le _) (Finset.mem_univ who)

/-! ### Places in use -/

/-- A place in use counts one. -/
def used : Option σ → Nat
  | none => 0
  | some _ => 1

/-- The number of places in use. -/
def occupancy (parts : ι → Option σ) : Nat := total used parts

/-- Taking a free place. -/
theorem occupancy_take [DecidableEq ι] {parts : ι → Option σ} {who : ι} (free : parts who = none)
    (part : σ) : occupancy (Function.update parts who (some part)) = occupancy parts + 1 := by
  have moved := total_update used parts who (some part)
  rw [free] at moved
  exact moved

/-- Freeing a place. -/
theorem occupancy_free [DecidableEq ι] {parts : ι → Option σ} {who : ι} {part : σ}
    (taken : parts who = some part) :
    occupancy (Function.update parts who none) + 1 = occupancy parts := by
  have moved := total_update used parts who none
  rw [taken] at moved
  exact moved

/-- Exchanging what is in a place. -/
theorem occupancy_replace [DecidableEq ι] {parts : ι → Option σ} {who : ι} {part : σ}
    (taken : parts who = some part) (other : σ) :
    occupancy (Function.update parts who (some other)) = occupancy parts := by
  apply total_update_same
  rw [taken]
  rfl

/-- Free places are not counted. -/
theorem occupancy_eq_zero {parts : ι → Option σ} (free : ∀ who, parts who = none) :
    occupancy parts = 0 := by
  apply total_eq_zero
  intro who
  rw [free who]
  rfl

/-- When nothing is counted, all places are free. -/
theorem free_of_occupancy {parts : ι → Option σ} (zero : occupancy parts = 0) (who : ι) :
    parts who = none := by
  have most := weight_le_total used parts who
  cases place : parts who with
  | none => rfl
  | some part =>
    rw [place, show total used parts = 0 from zero] at most
    exact absurd most (Nat.not_succ_le_zero 0)

/-- There are no more places in use than places. -/
theorem occupancy_le (parts : ι → Option σ) : occupancy parts ≤ Fintype.card ι := by
  have all := total_le used (fun _ => 1) parts (by
    intro part
    cases part <;> simp [used])
  calc occupancy parts ≤ total (fun _ : Option σ => 1) parts := all
    _ = Fintype.card ι := by simp [total]

end AvocadoMisc.Library.Accounting
