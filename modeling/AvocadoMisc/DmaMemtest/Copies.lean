import Mathlib.Algebra.Order.Archimedean.Basic
import Mathlib.Data.Rat.Floor
import Mathlib.Tactic.Linarith
import Mathlib.Tactic.NormNum
import AvocadoMisc.DmaMemtest.Comparison

/-!
# The number of copies of the DMA memory test

`get_sim_cps` counts how many copies of the tarball make the system swap: one and a half times as
many as there is room for, with a correction for what is left over and one for small memories. The
free memory and the size of a copy are in MiB, and the memory need not be a whole number of them.

The division of one and a half times the memory is rounded down. When less than one copy fits, or
only a little more than one, half a copy is nothing.
-/

namespace AvocadoMisc.DmaMemtest.Copies

open Comparison (Text)

/-! ### The count -/

/-- `get_sim_cps`. A size of zero is no divisor. -/
def getSimCps (mem : ℚ) (estSize : ℕ) : Option ℤ :=
  if estSize = 0 then none
  else
    let simCps := ⌊3 / 2 * mem / estSize⌋
    let simCps :=
      if ((estSize / 2 : ℕ) : ℚ) ≤ mem - estSize * ⌊mem / estSize⌋ then simCps + 1 else simCps
    let simCps := if ⌊mem / 32⌋ < 1 then simCps + 1 else simCps
    some simCps

/-- The message when the disk has no room for the copies. -/
def noSpace (simCps : ℤ) : Text :=
  "Space not available to extract the ".toList ++ (toString simCps).toList ++
    " linux tars\nMount and Use other partitions in dir_to_extract arg to run the test".toList

/-- What stops `setUp`. -/
inductive Stop where
  | zeroDivision
  | cancelled (message : Text)
  deriving DecidableEq

/-- The end of `setUp`: the size that `du` finds, the number of copies, and their room on disk. -/
def setUp (mem : ℚ) (duBytes freespace : ℕ) : Except Stop ℤ :=
  let estSize := duBytes / 1048576
  match getSimCps mem estSize with
  | none => .error .zeroDivision
  | some simCps =>
    let diskFreeMb := freespace / 1024 / 1024
    if (diskFreeMb : ℤ) < estSize * simCps then .error (.cancelled (noSpace simCps)) else .ok simCps

/-- The copies that `test` unpacks and compares. -/
def copies (simCps : ℤ) : List ℕ := List.range simCps.toNat

/-- Some copy is compared, and all copies together are larger than the free memory. -/
def Swaps (mem : ℚ) (estSize : ℕ) : Prop :=
  ∃ simCps, getSimCps mem estSize = some simCps ∧ copies simCps ≠ [] ∧ mem < simCps * estSize

/-! ### Whole copies in the memory -/

section Counting

variable {mem : ℚ} {estSize : ℕ}

/-- The floor of a quotient, by multiples of the divisor. -/
theorem floor_quotient (positive : 0 < estSize) (x : ℚ) (n : ℤ) :
    ⌊x / estSize⌋ = n ↔ n * estSize ≤ x ∧ x < (n + 1) * estSize := by
  have divisor : (0 : ℚ) < estSize := Nat.cast_pos.mpr positive
  rw [Int.floor_eq_iff, le_div_iff₀ divisor, div_lt_iff₀ divisor]

/-- Half of the size, rounded down. -/
theorem half_bounds (estSize : ℕ) :
    2 * ((estSize / 2 : ℕ) : ℚ) ≤ estSize ∧ (estSize : ℚ) ≤ 2 * ((estSize / 2 : ℕ) : ℚ) + 1 := by
  have below : 2 * (estSize / 2) ≤ estSize := Nat.mul_div_le estSize 2
  have above : estSize ≤ 2 * (estSize / 2) + 1 := by omega
  exact ⟨by exact_mod_cast below, by exact_mod_cast above⟩

/-- The memories that count as small. -/
theorem small_iff : ⌊mem / 32⌋ < 1 ↔ mem < 32 := by
  rw [Int.floor_lt, div_lt_iff₀ (by norm_num)]
  norm_num

/-- The copies exceed the memory exactly when there are more of them than fit. -/
theorem exceeds_iff (positive : 0 < estSize) (simCps : ℤ) :
    mem < simCps * estSize ↔ ⌊mem / estSize⌋ < simCps := by
  have divisor : (0 : ℚ) < estSize := Nat.cast_pos.mpr positive
  rw [Int.floor_lt, div_lt_iff₀ divisor]

/-- The count for a size that is a divisor. -/
theorem getSimCps_eq (positive : 0 < estSize) :
    getSimCps mem estSize = some (⌊3 / 2 * mem / estSize⌋ +
      (if ((estSize / 2 : ℕ) : ℚ) ≤ mem - estSize * ⌊mem / estSize⌋ then 1 else 0) +
      (if mem < 32 then 1 else 0)) := by
  have divisor : estSize ≠ 0 := Nat.ne_of_gt positive
  simp only [getSimCps, if_neg divisor, small_iff]
  split <;> split <;> simp

/-- Enough copies are counted exactly when there are more of them than fit. -/
theorem swaps_iff_fits (enough : 1 ≤ mem) (positive : 0 < estSize) :
    Swaps mem estSize ↔ ⌊mem / estSize⌋ < ⌊3 / 2 * mem / estSize⌋ +
      (if ((estSize / 2 : ℕ) : ℚ) ≤ mem - estSize * ⌊mem / estSize⌋ then 1 else 0) +
      (if mem < 32 then 1 else 0) := by
  have nonnegative : 0 ≤ ⌊mem / estSize⌋ := Int.floor_nonneg.mpr (by positivity)
  simp only [Swaps, getSimCps_eq positive, Option.some_inj, exists_eq_left',
    exceeds_iff positive, copies, ne_eq, List.range_eq_nil]
  constructor
  · exact fun both => both.2
  · intro exceeds
    refine ⟨fun none_counted => ?_, exceeds⟩
    have count := Int.toNat_eq_zero.mp none_counted
    omega

/-- Where two copies fit, half of the memory is at least one more. -/
theorem floor_lt_of_two (positive : 0 < estSize) (two : 2 * (estSize : ℚ) ≤ mem) :
    ⌊mem / estSize⌋ < ⌊3 / 2 * mem / estSize⌋ := by
  have divisor : (0 : ℚ) < estSize := Nat.cast_pos.mpr positive
  have fits : ⌊mem / estSize⌋ * (estSize : ℚ) ≤ mem :=
    ((floor_quotient positive mem _).mp rfl).1
  apply Int.lt_of_add_one_le
  rw [Int.le_floor, le_div_iff₀ divisor]
  push_cast
  linarith

/-- Where one copy fits, another one is counted from four thirds of it on. -/
theorem floor_of_one (positive : 0 < estSize) (one : (estSize : ℚ) ≤ mem)
    (below : mem < 2 * estSize) :
    ⌊mem / estSize⌋ = 1 ∧
      ⌊3 / 2 * mem / estSize⌋ = if 4 * (estSize : ℚ) ≤ 3 * mem then 2 else 1 := by
  refine ⟨?_, ?_⟩
  · rw [floor_quotient positive]
    push_cast
    constructor <;> linarith
  · rw [floor_quotient positive]
    split <;> push_cast <;> constructor <;> linarith

/-- Where none fits, one is counted from two thirds of it on. -/
theorem floor_of_none (positive : 0 < estSize) (enough : 1 ≤ mem) (below : mem < estSize) :
    ⌊mem / estSize⌋ = 0 ∧
      ⌊3 / 2 * mem / estSize⌋ = if 2 * (estSize : ℚ) ≤ 3 * mem then 1 else 0 := by
  refine ⟨?_, ?_⟩
  · rw [floor_quotient positive]
    push_cast
    constructor <;> linarith
  · rw [floor_quotient positive]
    split <;> push_cast <;> constructor <;> linarith

/-! ### Which memories are filled -/

/-- Enough copies are counted in small memories, where half a copy but no whole one fits, and where
a third of a copy more than one fits.

Proof: by the number of copies that fit. For none of them the remainder is the memory itself. For
one, a remainder of half a copy is more than a third of it, unless the copy has 1 MiB. -/
theorem swaps_iff (enough : 1 ≤ mem) (positive : 1 ≤ estSize) :
    Swaps mem estSize ↔ mem < 32 ∨ (((estSize / 2 : ℕ) : ℚ) ≤ mem ∧ mem < estSize) ∨
      4 * (estSize : ℚ) ≤ 3 * mem := by
  obtain ⟨halfBelow, halfAbove⟩ := half_bounds estSize
  rw [swaps_iff_fits enough positive]
  by_cases small : mem < 32
  · have more : ⌊mem / estSize⌋ ≤ ⌊3 / 2 * mem / estSize⌋ := by
      apply Int.floor_le_floor
      apply div_le_div_of_nonneg_right _ (Nat.cast_nonneg estSize)
      linarith
    rw [if_pos small]
    refine iff_of_true ?_ (.inl small)
    split <;> omega
  · rw [if_neg small, or_iff_right small, add_zero]
    rcases lt_or_ge mem estSize with none_fits | one
    · obtain ⟨fits, counted⟩ := floor_of_none positive enough none_fits
      rw [fits, counted, Int.cast_zero, mul_zero, sub_zero, and_iff_left none_fits]
      by_cases half : ((estSize / 2 : ℕ) : ℚ) ≤ mem
      · rw [if_pos half]
        refine iff_of_true ?_ (.inl half)
        split <;> decide
      · have few : ¬2 * (estSize : ℚ) ≤ 3 * mem := fun most => half (by linarith)
        have fewer : ¬4 * (estSize : ℚ) ≤ 3 * mem := fun all => few (by linarith)
        rw [if_neg half, if_neg few, or_iff_right half]
        exact iff_of_false (by decide) fewer
    · rw [or_iff_right fun below => not_lt.mpr one below.2]
      rcases lt_or_ge mem (2 * estSize) with below | two
      · obtain ⟨fits, counted⟩ := floor_of_one positive one below
        rw [fits, counted, Int.cast_one, mul_one]
        by_cases third : 4 * (estSize : ℚ) ≤ 3 * mem
        · rw [if_pos third]
          refine iff_of_true ?_ third
          split <;> decide
        · have rest : ¬((estSize / 2 : ℕ) : ℚ) ≤ mem - estSize := fun half => by linarith
          rw [if_neg third, if_neg rest]
          exact iff_of_false (by decide) third
      · have third : 4 * (estSize : ℚ) ≤ 3 * mem := by linarith
        have exceeds := floor_lt_of_two positive two
        refine iff_of_true ?_ third
        split <;> omega

/-- `setUp` goes on with as many copies as there is room for on the disk. -/
theorem setUp_ok {duBytes freespace : ℕ} {simCps : ℤ}
    (result : setUp mem duBytes freespace = .ok simCps) :
    getSimCps mem (duBytes / 1048576) = some simCps ∧
      (duBytes / 1048576 : ℕ) * simCps * 1048576 ≤ freespace := by
  rw [setUp] at result
  split at result
  case h_1 => cases result
  case h_2 counted isCount =>
    dsimp only at result
    split at result
    case isTrue => cases result
    case isFalse room =>
      cases result
      refine ⟨isCount, ?_⟩
      have whole : freespace / 1024 / 1024 * 1048576 ≤ freespace := by omega
      have mebibytes : ((freespace / 1024 / 1024 : ℕ) : ℤ) * 1048576 ≤ freespace := by
        exact_mod_cast whole
      linarith

end Counting

/-- A memory of 100 MiB and copies of 50 MiB. -/
theorem swaps_hundred : (1 : ℚ) ≤ 100 ∧ 1 ≤ 50 ∧
    (Swaps 100 50 ↔ (100 : ℚ) < 32 ∨ (((50 / 2 : ℕ) : ℚ) ≤ 100 ∧ (100 : ℚ) < (50 : ℕ)) ∨
      4 * ((50 : ℕ) : ℚ) ≤ 3 * 100) :=
  ⟨by norm_num, by decide, swaps_iff (by norm_num) (by decide)⟩

/-- A memory of 100 MiB, and a copy of 250 MiB: none is unpacked. With a copy of 90 MiB there is
one, which fits. -/
theorem no_swap : getSimCps 100 250 = some 0 ∧ getSimCps 100 90 = some 1 ∧
    ¬ ∀ (mem : ℚ) (estSize : ℕ), 1 ≤ mem → 1 ≤ estSize → Swaps mem estSize := by
  have none : getSimCps 100 250 = some 0 := by decide +kernel
  refine ⟨none, by decide +kernel, fun always => ?_⟩
  obtain ⟨simCps, counted, some_copy, _⟩ := always 100 250 (by norm_num) (by decide)
  rw [none, Option.some_inj] at counted
  subst counted
  exact some_copy rfl

end AvocadoMisc.DmaMemtest.Copies
