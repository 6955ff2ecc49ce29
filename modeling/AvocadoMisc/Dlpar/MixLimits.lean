import AvocadoMisc.Dlpar.Payloads

/-!
# The mix test in dedicated mode

`test_mix_cpu` adds and at once removes each number of a random list, and at last their
sum. No step holds more than the sum, which `cpu_payload_data` has fitted under the
maximum.

When not even one processor fits, the payload is empty, its random list is empty too, and
the sum that is appended is zero: the only request is for no processor.
-/

namespace AvocadoMisc.Dlpar.MixLimits

open Library.Retrace Dlpar.Partition Payloads

/-- Add a quantity and remove it again. -/
def addAndRemove (resource : Resource) (quantity : ℚ) : List Command :=
  [⟨.add, resource, quantity⟩, ⟨.remove, resource, quantity⟩]

/-- The list that `test_mix_cpu` goes through: the random list and its sum. -/
def cpuMix (draws : Nat → Nat) (cpuPayload : List ℚ) : List Nat :=
  let mix := mixPayloadData draws cpuPayload
  mix ++ [mix.sum]

/-- The commands of `test_mix_cpu` in dedicated mode. -/
def dedicatedMix (draws : Nat → Nat) (cpuPayload : List ℚ) : List Command :=
  (cpuMix draws cpuPayload).flatMap fun cpu : Nat => addAndRemove .procs cpu

/-- The contract of the mix test for one outcome of the random draws: every number and request is
positive, the numbers add up to the payload, the partition stays within its maximum, and at the end
it has what it had at first. -/
structure MixContract (maxProcs currProc : ℤ) (cpuPayload : List ℚ) (draws : Nat → Nat) :
    Prop where
  positive : ∀ value ∈ mixPayloadData draws cpuPayload, 1 ≤ value
  sum : ((mixPayloadData draws cpuPayload).sum : ℤ) = truncate cpuPayload.sum
  requests : ∀ command ∈ dedicatedMix draws cpuPayload, 1 ≤ command.quantity
  bounded : ∀ start : Allocation, start .procs = currProc →
    ∀ state ∈ path perform start (dedicatedMix draws cpuPayload), state .procs ≤ maxProcs
  returns : ∀ start, finish perform start (dedicatedMix draws cpuPayload) = start

/-! ### Adding and removing -/

/-- Pairs of an addition and a removal lead back to the start and never hold more than the
largest quantity on top of it. -/
theorem addAndRemove_path (resource : Resource) {bound : ℚ} (nonnegative : 0 ≤ bound)
    (quantities : List ℚ) (small : ∀ quantity ∈ quantities, quantity ≤ bound)
    (start : Allocation) :
    finish perform start (quantities.flatMap (addAndRemove resource)) = start ∧
      ∀ state ∈ path perform start (quantities.flatMap (addAndRemove resource)),
        state resource ≤ start resource + bound := by
  induction quantities with
  | nil => simpa [finish, path] using nonnegative
  | cons quantity rest inductionHypothesis =>
    obtain ⟨ends, within⟩ := inductionHypothesis fun other member =>
      small other (List.mem_cons_of_mem quantity member)
    have back : perform (perform start ⟨.add, resource, quantity⟩)
        ⟨.remove, resource, quantity⟩ = start :=
      perform_inverse start ⟨.add, resource, quantity⟩
    rw [List.flatMap_cons]
    refine ⟨?_, ?_⟩
    · simpa only [finish, addAndRemove, List.cons_append, List.nil_append, List.foldl_cons, back]
        using ends
    · simp only [addAndRemove, List.cons_append, List.nil_append, path_cons, back,
        List.forall_mem_cons]
      refine ⟨by linarith, ?_, within⟩
      have limit := small quantity List.mem_cons_self
      simpa [perform, Command.change] using limit

/-! ### Payloads of whole processors -/

/-- The sum of a payload with step one is the sum of natural numbers. -/
theorem truncate_multiples (count : Nat) :
    truncate (multiples 1 1 count).sum = (List.range' 1 count).sum := by
  rw [multiples_sum, mul_one, truncate_natCast]

/-- The sum is positive as soon as the payload has a processor. -/
theorem one_le_sum {count : Nat} (nonempty : count ≠ 0) : 1 ≤ (List.range' 1 count).sum := by
  obtain ⟨rest, rfl⟩ := Nat.exists_eq_succ_of_ne_zero nonempty
  rw [List.range'_succ, List.sum_cons]
  exact Nat.le_add_right 1 _

/-- The random list has the sum of the payload. -/
theorem mixPayloadData_sum (draws : Nat → Nat) (count : Nat) :
    (mixPayloadData draws (multiples 1 1 count)).sum = (List.range' 1 count).sum := by
  rw [mixPayloadData, truncate_multiples, Int.toNat_natCast]
  exact (mixLoop_spec draws 0 _).1

/-- No request exceeds the sum of the payload. -/
theorem le_sum_of_mem_cpuMix {draws : Nat → Nat} {count cpu : Nat}
    (member : cpu ∈ cpuMix draws (multiples 1 1 count)) : cpu ≤ (List.range' 1 count).sum := by
  rw [← mixPayloadData_sum draws count]
  rcases List.mem_append.mp member with mixed | last
  · exact List.le_sum_of_mem mixed
  · exact Nat.le_of_eq (List.mem_singleton.mp last)

/-- The contract holds when the payload has a processor and fits, for every outcome of the draws: a
random list has no more than the payload in all. -/
theorem mixContract_of_fits {maxProcs currProc : ℤ} {count : Nat} (nonempty : count ≠ 0)
    (fits : (currProc : ℚ) + (multiples 1 1 count).sum ≤ maxProcs) (draws : Nat → Nat) :
    MixContract maxProcs currProc (multiples 1 1 count) draws := by
  have positive := (mixLoop_spec draws 0 (truncate (multiples 1 1 count).sum).toNat).2
  have quantities : dedicatedMix draws (multiples 1 1 count) =
      ((cpuMix draws (multiples 1 1 count)).map fun cpu : Nat => (cpu : ℚ)).flatMap
        (addAndRemove .procs) := by
    rw [List.flatMap_map]
    rfl
  have nonnegative : (0 : ℚ) ≤ ((List.range' 1 count).sum : Nat) := Nat.cast_nonneg _
  have path (start : Allocation) := addAndRemove_path .procs nonnegative
    ((cpuMix draws (multiples 1 1 count)).map fun cpu : Nat => (cpu : ℚ))
    (by
      intro quantity member
      obtain ⟨cpu, inside, rfl⟩ := List.mem_map.mp member
      exact_mod_cast le_sum_of_mem_cpuMix inside) start
  refine ⟨positive, ?_, ?_, ?_, ?_⟩
  · rw [truncate_multiples, mixPayloadData_sum]
  · intro command member
    obtain ⟨cpu, inside, requested⟩ := List.mem_flatMap.mp member
    have atLeast : (1 : ℚ) ≤ cpu := by
      rcases List.mem_append.mp inside with mixed | last
      · exact_mod_cast positive cpu mixed
      · rw [List.mem_singleton.mp last, mixPayloadData_sum]
        exact_mod_cast one_le_sum nonempty
    rcases List.mem_pair.mp requested with rfl | rfl <;> exact atLeast
  · intro start current state visited
    rw [quantities] at visited
    have within := (path start).2 state visited
    rw [multiples_sum, mul_one] at fits
    linarith
  · intro start
    rw [quantities]
    exact (path start).1

/-- A payload without processors breaks the contract: the sum is requested, and it is zero. -/
theorem not_mixContract_nil {maxProcs currProc : ℤ} (draws : Nat → Nat) :
    ¬ MixContract maxProcs currProc (multiples 1 1 0) draws := by
  intro contract
  have last : (mixPayloadData draws (multiples 1 1 0)).sum ∈ cpuMix draws (multiples 1 1 0) :=
    List.mem_append_right _ List.mem_cons_self
  have request := contract.requests _
    (List.mem_flatMap.mpr ⟨_, last, List.mem_cons_self⟩)
  rw [mixPayloadData_sum] at request
  norm_num at request

/-- The mix test in dedicated mode. For every maximum and current number of processors the
payload exists, and for every outcome of the random draws the contract holds exactly when
at least one processor fits under the maximum.

Every command is taken to succeed. The numbers are exact, where the test has those of floating
point.

Proof: no step holds more than the sum of the list, and this was fitted under the maximum. Without
room for one processor the only request is for none. -/
theorem mix_within_limits_iff (maxProcs currProc : ℤ) :
    ∃ cpuPayload, cpuPayloadData maxProcs currProc 1 = some cpuPayload ∧
      ∀ draws, MixContract maxProcs currProc cpuPayload draws ↔ currProc + 1 ≤ maxProcs := by
  obtain ⟨count, listed, fits, ended⟩ :=
    cpuPayloadData_eq (maxProcs : ℚ) (currProc : ℚ) one_pos
  refine ⟨multiples 1 1 count, listed, fun draws => ?_⟩
  constructor
  · intro contract
    have nonempty : count ≠ 0 := by
      rintro rfl
      exact not_mixContract_nil draws contract
    have one : (1 : ℚ) ≤ (List.range' 1 count).sum := by exact_mod_cast one_le_sum nonempty
    have limit := fits.resolve_left nonempty
    rw [multiples_sum, mul_one] at limit
    have within : (currProc : ℚ) + 1 ≤ maxProcs := by linarith
    exact_mod_cast within
  · intro room
    have within : (currProc : ℚ) + 1 ≤ maxProcs := by exact_mod_cast room
    have nonempty : count ≠ 0 := by
      rintro rfl
      rw [multiples_sum] at ended
      norm_num at ended
      linarith
    exact mixContract_of_fits nonempty (fits.resolve_left nonempty) draws

/-- At the maximum the mix test requests zero processors. -/
theorem mix_requests_zero : ¬ ∀ (maxProcs currProc : ℤ) cpuPayload draws,
    cpuPayloadData maxProcs currProc 1 = some cpuPayload →
    MixContract maxProcs currProc cpuPayload draws := by
  intro always
  have listed : cpuPayloadData (4 : ℤ) (4 : ℤ) 1 = some (multiples 1 1 0) := by
    decide +kernel
  exact not_mixContract_nil (fun _ => 0) (always 4 4 _ (fun _ => 0) listed)

end AvocadoMisc.Dlpar.MixLimits
