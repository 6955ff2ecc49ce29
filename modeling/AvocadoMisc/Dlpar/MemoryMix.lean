import AvocadoMisc.Dlpar.Payloads

/-!
# The memory mix test

`mem_payload_data` lists chunks of memory: the first is one block, and each next one is
twice the last, or what is left up to the maximum when that is less. `test_mem_mix` adds
each chunk and removes four fifths of it, rounded up by a whole block even when they are
blocks already. A chunk is a number of blocks, at least one, so what is removed never
exceeds it.

A maximum of zero means that there is none, and then the load that `htxcmdline` reports
selects a share of the current memory in its place.
-/

namespace AvocadoMisc.Dlpar.MemoryMix

open Library.Retrace Dlpar.Partition Payloads

/-- The loop of `mem_payload_data`. It has no result when the fuel runs out. -/
def memPayloadLoop (maxValue : ℚ) : Nat → ℚ → ℚ → Option (List ℚ)
  | 0, _, _ => none
  | fuel + 1, currentSum, indexValue =>
    if currentSum + indexValue ≤ maxValue then
      let currentSum := currentSum + indexValue
      let remainingCapacity := maxValue - currentSum
      if remainingCapacity ≤ 0 then some [indexValue]
      else
        let nextValue :=
          if remainingCapacity < indexValue then remainingCapacity
          else min (indexValue * 2) remainingCapacity
        (memPayloadLoop maxValue fuel currentSum nextValue).map (indexValue :: ·)
    else some []

/-- The remainder of `%` with a positive divisor. -/
def remainder (value divisor : ℚ) : ℚ := value - divisor * ⌊value / divisor⌋

/-- `mem_payload_data`. `idle` says whether the output of `htxcmdline` contains `IDLE`. -/
def memPayloadData (idle : Bool) (currMem lmb maxValue : ℚ) : Option (List ℚ) :=
  if maxValue = 0 then
    let share := if idle then currMem * (8 / 10) else currMem * (4 / 10)
    let maxValue := share + (lmb - remainder share lmb)
    memPayloadLoop maxValue (⌊maxValue / lmb⌋.toNat + 1) 0 lmb
  else memPayloadLoop maxValue (⌊(maxValue - currMem) / lmb⌋.toNat + 1) currMem lmb

/-- What `test_mem_mix` removes after a chunk. -/
def removal (lmb chunk : ℚ) : ℚ :=
  let share : ℚ := truncate (chunk * (8 / 10))
  share + (lmb - remainder share lmb)

/-- The commands of `test_mem_mix`. -/
def memMix (lmb : ℚ) (memAdd : List ℚ) : List Command :=
  memAdd.flatMap fun chunk => [⟨.add, .memory, chunk⟩, ⟨.remove, .memory, removal lmb chunk⟩]

/-- The quantity is a positive number of blocks. -/
def Blocks (lmb : Nat) (quantity : ℚ) : Prop := ∃ blocks : Nat, 0 < blocks ∧
  quantity = blocks * lmb

/-- The contract of the memory mix test: requests are whole blocks, no removal exceeds the
chunk before it, and the partition's memory stays between what it had and its maximum. -/
structure MixContract (currMem maxMem lmb : Nat) (memAdd : List ℚ) : Prop where
  requests : ∀ command ∈ memMix lmb memAdd, Blocks lmb command.quantity
  removals : ∀ chunk ∈ memAdd, removal lmb chunk ≤ chunk
  within : ∀ start : Allocation, start .memory = currMem →
    ∀ state ∈ path perform start (memMix lmb memAdd),
      (currMem : ℚ) ≤ state .memory ∧ state .memory ≤ maxMem

/-! ### Chunks and removals in blocks -/

/-- Of a number of blocks four fifths are removed, rounded down, and one block more. -/
theorem removal_blocks {lmb : Nat} (positive : 0 < lmb) (blocks : Nat) :
    removal lmb (blocks * lmb : ℚ) = ((4 * blocks / 5 + 1 : Nat) : ℚ) * lmb := by
  have share : truncate ((blocks * lmb : ℚ) * (8 / 10)) = (4 * (blocks * lmb) / 5 : Nat) := by
    have nonnegative : (0 : ℚ) ≤ (blocks * lmb : ℚ) * (8 / 10) := by positivity
    have quotient : (blocks * lmb : ℚ) * (8 / 10) =
        ((4 * (blocks * lmb) : Nat) : ℚ) / (5 : Nat) := by
      push_cast
      ring
    rw [truncate, if_pos nonnegative, quotient, Rat.floor_natCast_div_natCast]
    norm_cast
  have fifths : 4 * (blocks * lmb) / 5 / lmb = 4 * blocks / 5 := by
    rw [Nat.div_div_eq_div_mul, ← Nat.mul_assoc, Nat.mul_div_mul_right _ _ positive]
  have quotient : ⌊((4 * (blocks * lmb) / 5 : Nat) : ℚ) / (lmb : ℚ)⌋ =
      ((4 * blocks / 5 : Nat) : ℤ) := by
    rw [Rat.floor_natCast_div_natCast, ← fifths]
    norm_cast
  rw [removal, share, Int.cast_natCast, remainder, quotient, Int.cast_natCast, Nat.cast_succ]
  ring

/-- What is removed after a chunk of blocks is whole blocks, and no more than the chunk. -/
theorem removal_spec {lmb : Nat} (positive : 0 < lmb) {chunk : ℚ} (whole : Blocks lmb chunk) :
    Blocks lmb (removal lmb chunk) ∧ removal lmb chunk ≤ chunk := by
  obtain ⟨blocks, nonempty, rfl⟩ := whole
  rw [removal_blocks positive]
  refine ⟨⟨4 * blocks / 5 + 1, Nat.succ_pos _, rfl⟩, ?_⟩
  have fewer : 4 * blocks / 5 + 1 ≤ blocks := by omega
  have cast : ((4 * blocks / 5 + 1 : Nat) : ℚ) ≤ blocks := by exact_mod_cast fewer
  exact mul_le_mul_of_nonneg_right cast (Nat.cast_nonneg lmb)

/-- The next chunk, in blocks: what is left, or twice the last chunk when that is less. -/
theorem next_blocks {lmb : ℚ} (positive : 0 < lmb) {index left : Nat} :
    (if (left * lmb : ℚ) < index * lmb then (left * lmb : ℚ)
      else min (index * lmb * 2) (left * lmb)) = (min (2 * index) left : Nat) * lmb := by
  have twice : (index * lmb * 2 : ℚ) = ((2 * index : Nat) : ℚ) * lmb := by
    push_cast
    ring
  rw [twice, ← min_mul_of_nonneg _ _ (le_of_lt positive), ← Nat.cast_min]
  split_ifs with less
  · have fewer : left < index := by
      exact_mod_cast lt_of_mul_lt_mul_right less (le_of_lt positive)
    rw [Nat.min_eq_right (by omega)]
  · rfl

/-- While there is room for the next chunk, the loop fills all of it with whole blocks. Every turn
takes a block at least, so fuel for one turn for each block is enough.

Proof: by induction on the fuel. -/
theorem memPayloadLoop_fills {maxValue lmb : ℚ} (positive : 0 < lmb) (fuel left index : Nat)
    {currentSum : ℚ} (room : maxValue - currentSum = left * lmb) (nonempty : 0 < index)
    (fits : index ≤ left) (enough : left ≤ fuel) :
    ∃ chunks, memPayloadLoop maxValue fuel currentSum (index * lmb) = some chunks ∧
      (∀ chunk ∈ chunks, ∃ blocks : Nat, 0 < blocks ∧ chunk = blocks * lmb) ∧
      chunks.sum = left * lmb := by
  induction fuel generalizing left index currentSum with
  | zero => omega
  | succ fuel inductionHypothesis =>
    have order : (index * lmb : ℚ) ≤ left * lmb :=
      mul_le_mul_of_nonneg_right (Nat.cast_le.mpr fits) (le_of_lt positive)
    have within : currentSum + index * lmb ≤ maxValue := by linarith
    have later : maxValue - (currentSum + index * lmb) = (left - index : Nat) * lmb := by
      rw [Nat.cast_sub fits, sub_mul, ← room]
      ring
    rw [memPayloadLoop]
    dsimp only
    rw [if_pos within, later, next_blocks positive]
    split_ifs with exhausted
    · have full : index = left := by
        by_contra more
        have some_left : (0 : ℚ) < (left - index : Nat) := Nat.cast_pos.mpr (by omega)
        exact absurd exhausted (not_le_of_gt (mul_pos some_left positive))
      refine ⟨_, rfl, ?_, by rw [List.sum_singleton, full]⟩
      rw [List.forall_mem_singleton]
      exact ⟨index, nonempty, rfl⟩
    · have some_left : 0 < left - index := by
        by_contra none
        exact exhausted (by rw [Nat.eq_zero_of_not_pos none, Nat.cast_zero, zero_mul])
      obtain ⟨chunks, found, whole, sum⟩ := inductionHypothesis (left - index)
        (min (2 * index) (left - index)) later (by omega) (by omega) (by omega)
      refine ⟨index * lmb :: chunks, by rw [found]; rfl, ?_, ?_⟩
      · rw [List.forall_mem_cons]
        exact ⟨⟨index, nonempty, rfl⟩, whole⟩
      · rw [List.sum_cons, sum, ← later]
        linarith

/-- From one block on, the loop fills a room of whole blocks. -/
theorem memPayloadLoop_spec {maxValue lmb : ℚ} (positive : 0 < lmb) {left : Nat} {currentSum : ℚ}
    (room : maxValue - currentSum = left * lmb) :
    ∃ chunks, memPayloadLoop maxValue (left + 1) currentSum lmb = some chunks ∧
      (∀ chunk ∈ chunks, ∃ blocks : Nat, 0 < blocks ∧ chunk = blocks * lmb) ∧
      chunks.sum = left * lmb := by
  by_cases none : left = 0
  · have exceeds : ¬currentSum + lmb ≤ maxValue := by
      rw [none, Nat.cast_zero, zero_mul] at room
      linarith
    refine ⟨[], ?_, by simp, by rw [none]; simp⟩
    rw [memPayloadLoop]
    exact if_neg exceeds
  · have filled := memPayloadLoop_fills positive (left + 1) left 1 room Nat.one_pos (by omega)
      (by omega)
    rwa [Nat.cast_one, one_mul] at filled

/-! ### The run -/

/-- Adding chunks and removing no more than each keeps the memory between its start and what
all chunks add up to. -/
theorem memMix_path {lmb : ℚ} {chunks : List ℚ} {low high : ℚ}
    (bounds : ∀ chunk ∈ chunks, 0 ≤ removal lmb chunk ∧ removal lmb chunk ≤ chunk)
    {start : Allocation} (above : low ≤ start .memory)
    (below : start .memory + chunks.sum ≤ high) :
    ∀ state ∈ path perform start (memMix lmb chunks),
      low ≤ state .memory ∧ state .memory ≤ high := by
  induction chunks generalizing start with
  | nil =>
    rw [List.sum_nil, add_zero] at below
    simpa [memMix, path] using And.intro above below
  | cons chunk rest inductionHypothesis =>
    rw [List.forall_mem_cons] at bounds
    rw [List.sum_cons] at below
    obtain ⟨⟨nonnegative, less⟩, later⟩ := bounds
    have more : 0 ≤ rest.sum := List.sum_nonneg fun other member =>
      le_trans (later other member).1 (later other member).2
    have added : perform start ⟨.add, .memory, chunk⟩ .memory = start .memory + chunk := by
      simp [perform, Command.change]
    have removed : perform (perform start ⟨.add, .memory, chunk⟩)
        ⟨.remove, .memory, removal lmb chunk⟩ .memory =
          start .memory + chunk - removal lmb chunk := by
      simp [perform, Command.change, sub_eq_add_neg]
    have split : memMix lmb (chunk :: rest) = ⟨.add, .memory, chunk⟩ ::
        ⟨.remove, .memory, removal lmb chunk⟩ :: memMix lmb rest := rfl
    rw [split, path_cons, path_cons, List.forall_mem_cons, List.forall_mem_cons, added]
    refine ⟨⟨above, by linarith⟩, ⟨by linarith, by linarith⟩, ?_⟩
    apply inductionHypothesis later <;> rw [removed] <;> linarith

/-- Whole blocks that fit make the contract. -/
theorem mixContract_of_blocks {currMem maxMem lmb : Nat} (positive : 0 < lmb) {chunks : List ℚ}
    (whole : ∀ chunk ∈ chunks, Blocks lmb chunk) (fits : (currMem : ℚ) + chunks.sum ≤ maxMem) :
    MixContract currMem maxMem lmb chunks := by
  refine ⟨?_, fun chunk member => (removal_spec positive (whole chunk member)).2, ?_⟩
  · intro command member
    obtain ⟨chunk, inside, requested⟩ := List.mem_flatMap.mp member
    rcases List.mem_pair.mp requested with rfl | rfl
    · exact whole chunk inside
    · exact (removal_spec positive (whole chunk inside)).1
  · intro start current
    apply memMix_path _ (le_of_eq current.symm) (current ▸ fits)
    intro chunk member
    obtain ⟨⟨blocks, _, same⟩, less⟩ := removal_spec positive (whole chunk member)
    refine ⟨?_, less⟩
    rw [same]
    positivity

/-- The memory mix test. For every current memory and every maximum other than zero that is
not less, both multiples of the block size, the list of chunks exists and the contract
holds.

Every command is taken to succeed, and the numbers are exact, where the test has those of floating
point. A maximum of zero stands for none, so it is left out, as is a current memory above the
maximum. -/
theorem memory_mix_within_limits (idle : Bool) (currMem maxMem lmb : Nat) (positive : 0 < lmb)
    (current : lmb ∣ currMem) (maximum : lmb ∣ maxMem) (order : currMem ≤ maxMem)
    (limited : 0 < maxMem) :
    ∃ memAdd, memPayloadData idle currMem lmb maxMem = some memAdd ∧
      MixContract currMem maxMem lmb memAdd := by
  obtain ⟨sum, rfl⟩ := current
  obtain ⟨limit, rfl⟩ := maximum
  have below : sum ≤ limit := Nat.le_of_mul_le_mul_left order positive
  have nonzero : ((lmb * limit : Nat) : ℚ) ≠ 0 := Nat.cast_ne_zero.mpr (Nat.ne_of_gt limited)
  have cast : (lmb : ℚ) ≠ 0 := Nat.cast_ne_zero.mpr (Nat.ne_of_gt positive)
  have quotient : (((lmb * limit : Nat) : ℚ) - (lmb * sum : Nat)) / lmb = (limit - sum : Nat) := by
    rw [Nat.cast_sub below]
    push_cast
    field_simp
  have room : ((lmb * limit : Nat) : ℚ) - (lmb * sum : Nat) = (limit - sum : Nat) * lmb := by
    rw [Nat.cast_sub below]
    push_cast
    ring
  obtain ⟨chunks, found, whole, total⟩ := memPayloadLoop_spec (Nat.cast_pos.mpr positive) room
  refine ⟨chunks, ?_, mixContract_of_blocks positive whole ?_⟩
  · rw [memPayloadData, if_neg nonzero, quotient, Int.floor_natCast, Int.toNat_natCast]
    exact found
  · rw [total, ← room]
    linarith

/-- A partition of four blocks that may have nine. -/
theorem memory_mix_example : ∃ memAdd, memPayloadData true 1024 256 2304 = some memAdd ∧
    MixContract 1024 2304 256 memAdd := by
  exact_mod_cast memory_mix_within_limits true 1024 2304 256 (by decide) (by decide) (by decide)
    (by decide) (by decide)

/-- A maximum of zero counts as none: a block is added to a partition that may have no
memory. -/
theorem memory_mix_exceeds : ¬ ∀ (idle : Bool) (currMem maxMem lmb : Nat), 0 < lmb →
    lmb ∣ currMem → lmb ∣ maxMem → currMem ≤ maxMem →
    ∃ memAdd, memPayloadData idle currMem lmb maxMem = some memAdd ∧
      MixContract currMem maxMem lmb memAdd := by
  intro always
  obtain ⟨memAdd, found, contract⟩ := always true 0 0 1 (by decide) (by decide) (by decide)
    (by decide)
  have listed : memPayloadData true (0 : Nat) (1 : Nat) (0 : Nat) = some [1] := by
    decide +kernel
  obtain rfl := Option.some.inj (listed.symm.trans found)
  have visited : perform (fun _ => 0) ⟨.add, .memory, 1⟩ ∈
      path perform (fun _ => 0) (memMix (1 : Nat) [1]) :=
    (mem_path perform).mpr ⟨[⟨.add, .memory, 1⟩], _, rfl, rfl⟩
  have added := (contract.within (fun _ => 0) (by simp) _ visited).2
  norm_num [perform, Command.change] at added

end AvocadoMisc.Dlpar.MemoryMix
