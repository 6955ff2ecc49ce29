import AvocadoMisc.Dlpar.MemoryMix

/-!
# The memory add and remove tests

`test_mem_add` adds chunks up to the maximum of the partition and `test_mem_rem` removes chunks
from it, in both cases all but the last of the list of `mem_payload_data`.

For adding, the room up to the maximum is filled exactly. For removing, the target is the next
multiple of the block size above the intended share, so the whole list is more than the share by
at most a block. The last chunk, which is not removed, is at least a block.
-/

namespace AvocadoMisc.Dlpar.MemoryPayload

open Library.Retrace Dlpar.Partition MemoryMix

/-- The quantity is a positive multiple of the block size. -/
def WholeBlocks (lmb quantity : ℚ) : Prop := ∃ blocks : Nat, 0 < blocks ∧ quantity = blocks * lmb

/-- The block size divides a quantity, which may be negative. -/
def Divides (lmb quantity : ℚ) : Prop := ∃ blocks : ℤ, quantity = blocks * lmb

/-- The commands of `test_mem_rem`. -/
def memRem (memRemove : List ℚ) : List Command :=
  memRemove.dropLast.map fun mem => ⟨.remove, .memory, mem⟩

/-- The share of the memory that the test intends to remove. -/
def intendedShare (idle : Bool) (currMem : ℚ) : ℚ :=
  if idle then currMem * (8 / 10) else currMem * (4 / 10)

/-- What the list of chunks to add promises: whole blocks that add up to the room under the maximum,
which no part of the list from the front exceeds and the whole list reaches. -/
structure Fills (currMem lmb maxValue : ℚ) (chunks : List ℚ) : Prop where
  whole : ∀ chunk ∈ chunks, WholeBlocks lmb chunk
  total : chunks.sum = maxValue - currMem
  within : ∀ added : List ℚ, added.IsPrefix chunks → currMem + added.sum ≤ maxValue
  reached : currMem + chunks.sum = maxValue

/-- What the list of chunks to remove promises: there is one at least, they are whole blocks, and
all but the last are within the intended share, so that the rest of the memory stays. -/
structure Spares (idle : Bool) (currMem lmb : ℚ) (chunks : List ℚ) : Prop where
  nonempty : chunks ≠ []
  whole : ∀ chunk ∈ chunks, WholeBlocks lmb chunk
  share : chunks.dropLast.sum ≤ intendedShare idle currMem
  kept : ∀ start : Allocation, start .memory = currMem →
    ∀ state ∈ path perform start (memRem chunks),
      currMem - intendedShare idle currMem ≤ state .memory

variable {lmb currMem maxValue : ℚ} {chunks : List ℚ}

/-- A number of whole blocks is at least one block. -/
theorem lmb_le_of_wholeBlocks (positive : 0 < lmb) {chunk : ℚ} (whole : WholeBlocks lmb chunk) :
    lmb ≤ chunk := by
  obtain ⟨blocks, nonempty, rfl⟩ := whole
  have one : (1 : ℚ) ≤ blocks := by exact_mod_cast nonempty
  calc lmb = 1 * lmb := (one_mul lmb).symm
    _ ≤ blocks * lmb := mul_le_mul_of_nonneg_right one (le_of_lt positive)

/-- Some chunks of a list are no more than all of them. -/
theorem sum_le_of_prefix (positive : 0 < lmb) (whole : ∀ chunk ∈ chunks, WholeBlocks lmb chunk)
    {some_chunks : List ℚ} (first : some_chunks.IsPrefix chunks) :
    some_chunks.sum ≤ chunks.sum := by
  obtain ⟨rest, rfl⟩ := first
  have nonnegative : 0 ≤ rest.sum := List.sum_nonneg fun chunk member =>
    le_trans (le_of_lt positive)
      (lmb_le_of_wholeBlocks positive (whole chunk (List.mem_append_right _ member)))
  rw [List.sum_append]
  linarith

/-- The memory add test. Whatever the current memory and a maximum other than zero that is not
less, when the block size divides the room between them the list fills the room exactly.

The numbers are exact, where the test has those of floating point. A maximum below the current
memory is not covered. -/
theorem memPayloadData_fills (idle : Bool) (positive : 0 < lmb) (order : currMem ≤ maxValue)
    (limited : 0 < maxValue) (divides : Divides lmb (maxValue - currMem)) :
    ∃ chunks, memPayloadData idle currMem lmb maxValue = some chunks ∧
      Fills currMem lmb maxValue chunks := by
  obtain ⟨blocks, room⟩ := divides
  have nonnegative : 0 ≤ blocks := by
    by_contra negative
    have below : (blocks : ℚ) < 0 := by exact_mod_cast not_le.mp negative
    have less := mul_neg_of_neg_of_pos below positive
    linarith
  obtain ⟨left, rfl⟩ := Int.eq_ofNat_of_zero_le nonnegative
  rw [Int.cast_natCast] at room
  obtain ⟨chunks, found, whole, total⟩ := memPayloadLoop_spec positive room
  have quotient : (maxValue - currMem) / lmb = left := by
    rw [room]
    exact mul_div_cancel_right₀ _ (ne_of_gt positive)
  have sum : chunks.sum = maxValue - currMem := total.trans room.symm
  refine ⟨chunks, ?_, whole, sum, fun added first => ?_, by rw [sum]; ring⟩
  · rw [memPayloadData, if_neg (ne_of_gt limited), quotient, Int.floor_natCast,
      Int.toNat_natCast]
    exact found
  · have part := sum_le_of_prefix positive whole first
    linarith

/-- Two blocks and a half that may become six and a half. -/
theorem memPayloadData_fills_four : ∃ chunks, memPayloadData true 640 256 1664 = some chunks ∧
    Fills 640 256 1664 chunks :=
  memPayloadData_fills true (by norm_num) (by norm_num) (by norm_num) ⟨4, by norm_num⟩

/-- Without a maximum the list makes up the next multiple of the block size above the share. -/
theorem memPayloadData_share (idle : Bool) (positive : 0 < lmb) (some_memory : 0 < currMem) :
    ∃ (blocks : Nat) (chunks : List ℚ), memPayloadData idle currMem lmb 0 = some chunks ∧
      (∀ chunk ∈ chunks, WholeBlocks lmb chunk) ∧ chunks.sum = (blocks + 1 : Nat) * lmb ∧
      blocks * lmb ≤ intendedShare idle currMem := by
  have share : 0 ≤ intendedShare idle currMem := by
    unfold intendedShare
    split <;> positivity
  have floorNonneg : 0 ≤ ⌊intendedShare idle currMem / lmb⌋ :=
    Int.floor_nonneg.mpr (div_nonneg share (le_of_lt positive))
  obtain ⟨blocks, floor⟩ := Int.eq_ofNat_of_zero_le floorNonneg
  have target : intendedShare idle currMem +
      (lmb - remainder (intendedShare idle currMem) lmb) = (blocks + 1 : Nat) * lmb := by
    rw [remainder, floor]
    push_cast
    ring
  have quotient : ((blocks + 1 : Nat) : ℚ) * lmb / lmb = (blocks + 1 : Nat) :=
    mul_div_cancel_right₀ _ (ne_of_gt positive)
  obtain ⟨chunks, found, whole, total⟩ := memPayloadLoop_spec positive
    (show ((blocks + 1 : Nat) : ℚ) * lmb - 0 = (blocks + 1 : Nat) * lmb from sub_zero _)
  refine ⟨blocks, chunks, ?_, whole, total, ?_⟩
  · have unfolded : memPayloadData idle currMem lmb 0 =
        memPayloadLoop (intendedShare idle currMem +
          (lmb - remainder (intendedShare idle currMem) lmb))
          (⌊(intendedShare idle currMem +
            (lmb - remainder (intendedShare idle currMem) lmb)) / lmb⌋.toNat + 1) 0 lmb :=
      if_pos rfl
    rw [unfolded, target, quotient, Int.floor_natCast, Int.toNat_natCast]
    exact found
  · have below := Int.floor_le (intendedShare idle currMem / lmb)
    rw [floor, Int.cast_natCast, le_div_iff₀ positive] at below
    exact below

/-- Removing chunks takes no more than their sum at any time. -/
theorem memRem_path (nonnegative : ∀ chunk ∈ chunks, 0 ≤ chunk) (start : Allocation) :
    ∀ state ∈ path perform start (chunks.map fun mem => ⟨.remove, .memory, mem⟩),
      start .memory - chunks.sum ≤ state .memory := by
  intro state visited
  obtain ⟨done, left, split, rfl⟩ := (mem_path perform).mp visited
  obtain ⟨first, second, rfl, rfl, rfl⟩ := List.map_eq_append_iff.mp split
  have removed (list : List ℚ) :
      totalChange .memory (list.map fun mem => (⟨.remove, .memory, mem⟩ : Command)) =
        -list.sum := by
    induction list with
    | nil => rfl
    | cons mem rest inductionHypothesis =>
      rw [List.map_cons, totalChange, List.map_cons, List.sum_cons, ← totalChange,
        inductionHypothesis, List.sum_cons, if_pos rfl, Command.change]
      ring
  have rest : 0 ≤ second.sum := List.sum_nonneg fun chunk member =>
    nonnegative chunk (List.mem_append_right _ member)
  rw [finish_eq, removed, List.sum_append]
  linarith

/-- The memory remove test. Whatever the current memory, the block size and the load, the list is
not empty, and what is removed is at most the intended share.

The numbers are exact, where the test has those of floating point, and every command is taken to
succeed.

Proof: the list exceeds the share by at most a block, and the last chunk, which is not removed, is
at least one. -/
theorem memPayloadData_spares (idle : Bool) (positive : 0 < lmb) (some_memory : 0 < currMem) :
    ∃ chunks, memPayloadData idle currMem lmb 0 = some chunks ∧
      Spares idle currMem lmb chunks := by
  obtain ⟨blocks, chunks, found, whole, total, share⟩ :=
    memPayloadData_share idle positive some_memory
  have nonempty : chunks ≠ [] := by
    rintro rfl
    have more : (0 : ℚ) < (blocks + 1 : Nat) * lmb :=
      mul_pos (Nat.cast_pos.mpr (Nat.succ_pos _)) positive
    rw [List.sum_nil] at total
    linarith
  have last : lmb ≤ chunks.getLast nonempty :=
    lmb_le_of_wholeBlocks positive (whole _ (List.getLast_mem nonempty))
  -- the last chunk makes up for the block that the target is too high
  have removed : chunks.dropLast.sum ≤ intendedShare idle currMem := by
    have split : chunks.dropLast.sum + chunks.getLast nonempty = chunks.sum := by
      conv_rhs => rw [← List.dropLast_append_getLast nonempty, List.sum_append,
        List.sum_singleton]
    rw [total] at split
    push_cast at split
    linarith
  refine ⟨chunks, found, nonempty, whole, removed, fun start current state visited => ?_⟩
  have nonnegative : ∀ chunk ∈ chunks.dropLast, 0 ≤ chunk := fun chunk member =>
    le_trans (le_of_lt positive)
      (lmb_le_of_wholeBlocks positive (whole chunk (List.mem_of_mem_dropLast member)))
  have above := memRem_path nonnegative start state visited
  rw [current] at above
  linarith

/-- A partition of ten blocks under load. -/
theorem memPayloadData_spares_ten : ∃ chunks, memPayloadData false 2560 256 0 = some chunks ∧
    Spares false 2560 256 chunks :=
  memPayloadData_spares false (by norm_num) (by norm_num)

end AvocadoMisc.Dlpar.MemoryPayload
