import AvocadoMisc.Dlpar.Payloads

/-!
# Adding and removing shared processors

In shared mode `test_cpu_add` lists virtual processors with step one, or two for a large
partition, and processing units with step 0.75. Both lists are cut to the shorter length,
and a pair is kept when the units are between a twentieth and all of the processors. The
k-th pair always has the quotient 0.75 or 0.375, so all are kept.

Each pair is added units first. `test_cpu_rm` takes the pairs from the last to the first
and removes processors first, which undoes the run command by command.
-/

namespace AvocadoMisc.Dlpar.SharedCpus

open Library.Retrace Dlpar.Partition Payloads

/-- The loop that keeps pairs with a quotient in range. It has no result when it divides by
zero. -/
def keepPairs : List ℚ → List ℚ → Option (List ℚ × List ℚ)
  | units :: procUnits, procs :: virtualProcs =>
    if procs = 0 then none
    else (keepPairs procUnits virtualProcs).map fun kept =>
      let result := units / procs
      if 1 / 20 ≤ result ∧ result ≤ 1 then ((truncate procs : ℚ) :: kept.1, units :: kept.2)
      else kept
  | _, _ => some ([], [])

/-- The lists `Vp` and `Pu` that `test_cpu_add` builds in shared mode. -/
def sharedLists (maxProcs currProc : ℤ) (maxProcUnits currProcUnits : ℚ) :
    Option (List ℚ × List ℚ) :=
  (cpuPayloadData maxProcs currProc (if maxProcs > 20 then 2 else 1)).bind fun virtualProcs =>
    (cpuPayloadData maxProcUnits currProcUnits (3 / 4)).bind fun procUnits =>
      if procUnits.length > virtualProcs.length then
        keepPairs (procUnits.take virtualProcs.length) virtualProcs
      else keepPairs procUnits (virtualProcs.take procUnits.length)

/-- The commands of `test_cpu_add` in shared mode. -/
def sharedAdd (vp pu : List ℚ) : List Command :=
  (vp.zip pu).flatMap fun pair => [⟨.add, .units, pair.2⟩, ⟨.add, .procs, pair.1⟩]

/-- The commands of `test_cpu_rm` in shared mode. -/
def sharedRemove (vp pu : List ℚ) : List Command :=
  (vp.reverse.zip pu.reverse).flatMap fun pair =>
    [⟨.remove, .procs, pair.1⟩, ⟨.remove, .units, pair.2⟩]

/-- The contract of adding and removing shared processors: the lists have one length and quotients
between a twentieth and one, both maximums hold in every state, and the removal goes back through
the states of the addition to the first one. -/
structure Retraces (maxProcs : ℤ) (maxProcUnits : ℚ) (start : Allocation) (vp pu : List ℚ) :
    Prop where
  lengths : vp.length = pu.length
  quotients : ∀ pair ∈ vp.zip pu, pair.1 ≠ 0 ∧ 1 / 20 ≤ pair.2 / pair.1 ∧ pair.2 / pair.1 ≤ 1
  procsBounded : ∀ state ∈ path perform start (sharedAdd vp pu), state .procs ≤ maxProcs
  unitsBounded : ∀ state ∈ path perform start (sharedAdd vp pu), state .units ≤ maxProcUnits
  retraced : path perform (finish perform start (sharedAdd vp pu)) (sharedRemove vp pu) =
    (path perform start (sharedAdd vp pu)).reverse
  restored : finish perform (finish perform start (sharedAdd vp pu)) (sharedRemove vp pu) = start

/-! ### Removing undoes adding -/

/-- The removal of lists of one length is the undone addition. -/
theorem sharedRemove_eq_undo {vp pu : List ℚ} (lengths : vp.length = pu.length) :
    sharedRemove vp pu = undo Command.inverse (sharedAdd vp pu) := by
  have backwards : vp.reverse.zip pu.reverse = (vp.zip pu).reverse := by
    rw [List.zip_eq_zipWith, List.zip_eq_zipWith, List.reverse_zipWith lengths]
  rw [sharedRemove, sharedAdd, undo, backwards, List.reverse_flatMap, List.map_flatMap]
  rfl

/-- So it leads back through the same states. -/
theorem retraces_of_lengths {vp pu : List ℚ} (lengths : vp.length = pu.length)
    (start : Allocation) :
    path perform (finish perform start (sharedAdd vp pu)) (sharedRemove vp pu) =
        (path perform start (sharedAdd vp pu)).reverse ∧
      finish perform (finish perform start (sharedAdd vp pu)) (sharedRemove vp pu) = start := by
  rw [sharedRemove_eq_undo lengths]
  exact ⟨path_undo perform_inverse start _, finish_undo perform_inverse start _⟩

/-! ### The lists -/

/-- The quotient of the two lists is the quotient of their steps, and in range. -/
theorem quotient_bounds {step i : Nat} (steps : step = 1 ∨ step = 2) (positive : 0 < i) :
    (i : ℚ) * step ≠ 0 ∧ 1 / 20 ≤ (i * (3 / 4) : ℚ) / (i * step) ∧
      (i * (3 / 4) : ℚ) / (i * step) ≤ 1 := by
  have nonzero : (i : ℚ) ≠ 0 := Nat.cast_ne_zero.mpr (Nat.ne_of_gt positive)
  rw [mul_div_mul_left _ _ nonzero]
  rcases steps with rfl | rfl <;> norm_num <;> exact Nat.ne_of_gt positive

/-- All pairs are kept. -/
theorem keepPairs_multiples {step : Nat} (steps : step = 1 ∨ step = 2) (first count : Nat)
    (positive : 0 < first) :
    keepPairs (multiples (3 / 4) first count) (multiples step first count) =
      some (multiples step first count, multiples (3 / 4) first count) := by
  induction count generalizing first with
  | zero => rfl
  | succ count inductionHypothesis =>
    obtain ⟨nonzero, low, high⟩ := quotient_bounds steps positive
    have later := inductionHypothesis (first + 1) (Nat.succ_pos first)
    have whole : (truncate ((first : ℚ) * step) : ℚ) = first * step := by
      rw [← Nat.cast_mul, truncate_natCast, Int.cast_natCast]
    simp only [multiples, List.range'_succ, List.map_cons] at later ⊢
    rw [keepPairs, if_neg nonzero, later, Option.map_some]
    dsimp only
    rw [if_pos ⟨low, high⟩, whole]

/-- Cutting a list of multiples gives a shorter one. -/
theorem multiples_take (step : ℚ) (first count length : Nat) :
    (multiples step first count).take length = multiples step first (min length count) := by
  rw [multiples, multiples, ← List.map_take]
  rcases Nat.le_total length count with shorter | longer
  · rw [List.take_range'_of_length_ge shorter, Nat.min_eq_left shorter]
  · rw [List.take_range'_of_length_le longer, Nat.min_eq_right longer]

/-- A shorter list has no larger sum. -/
theorem multiples_sum_le {step : ℚ} (positive : 0 < step) {fewer count : Nat}
    (less : fewer ≤ count) : (multiples step 1 fewer).sum ≤ (multiples step 1 count).sum := by
  rw [← Nat.min_eq_left less, ← multiples_take]
  apply (List.take_sublist fewer _).sum_le_sum
  intro value member
  exact le_of_lt (pos_of_mem_multiples positive member)

/-- The lists of `test_cpu_add`: as many multiples of both steps as fit both maxima. The longer list
is cut, so a list may have fewer than would fit its own maximum. -/
theorem sharedLists_eq (maxProcs currProc : ℤ) (maxProcUnits currProcUnits : ℚ) :
    ∃ (step : Nat) (count : Nat), (step = 1 ∨ step = 2) ∧
      sharedLists maxProcs currProc maxProcUnits currProcUnits =
        some (multiples step 1 count, multiples (3 / 4) 1 count) ∧
      (currProc ≤ maxProcs → (currProc : ℚ) + (multiples step 1 count).sum ≤ maxProcs) ∧
      (currProcUnits ≤ maxProcUnits →
        currProcUnits + (multiples (3 / 4) 1 count).sum ≤ maxProcUnits) := by
  obtain ⟨step, steps, chosen⟩ : ∃ step : Nat, (step = 1 ∨ step = 2) ∧
      (if maxProcs > 20 then 2 else 1 : ℚ) = step := by
    split_ifs
    · exact ⟨2, .inr rfl, rfl⟩
    · exact ⟨1, .inl rfl, by norm_num⟩
  have positive : (0 : ℚ) < step := by
    rcases steps with rfl | rfl <;> norm_num
  obtain ⟨procs, virtual, procsFit, _⟩ := cpuPayloadData_eq (maxProcs : ℚ) currProc positive
  obtain ⟨units, listed, unitsFit, _⟩ :=
    cpuPayloadData_eq maxProcUnits currProcUnits (show (0 : ℚ) < 3 / 4 by norm_num)
  refine ⟨step, min procs units, steps, ?_, ?_, ?_⟩
  · rw [sharedLists, chosen, virtual, Option.bind_some, listed, Option.bind_some,
      length_multiples, length_multiples, multiples_take, multiples_take]
    split_ifs with longer
    · rw [Nat.min_eq_left (Nat.le_of_lt longer)]
      exact keepPairs_multiples steps 1 procs Nat.one_pos
    · rw [Nat.min_comm, Nat.min_eq_right (Nat.le_of_not_lt longer)]
      exact keepPairs_multiples steps 1 units Nat.one_pos
  · intro order
    have shorter := multiples_sum_le positive (Nat.min_le_left procs units)
    have cast : (currProc : ℚ) ≤ maxProcs := Int.cast_le.mpr order
    rcases procsFit with rfl | fits
    · simpa [multiples] using cast
    · linarith
  · intro order
    have shorter := multiples_sum_le (show (0 : ℚ) < 3 / 4 by norm_num)
      (Nat.min_le_right procs units)
    rcases unitsFit with rfl | fits
    · simpa [multiples] using order
    · linarith

/-! ### The run -/

/-- The lists add their sums. -/
theorem totalChange_sharedAdd (vp pu : List ℚ) (lengths : vp.length = pu.length) :
    totalChange .procs (sharedAdd vp pu) = vp.sum ∧
      totalChange .units (sharedAdd vp pu) = pu.sum := by
  induction vp generalizing pu with
  | nil =>
    obtain rfl := List.length_eq_zero_iff.mp lengths.symm
    exact ⟨rfl, rfl⟩
  | cons procs vp inductionHypothesis =>
    cases pu with
    | nil => simp at lengths
    | cons units pu =>
      obtain ⟨procsSum, unitsSum⟩ := inductionHypothesis pu (Nat.succ.inj lengths)
      have split : sharedAdd (procs :: vp) (units :: pu) =
          [⟨.add, .units, units⟩, ⟨.add, .procs, procs⟩] ++ sharedAdd vp pu := rfl
      rw [split, totalChange_append, totalChange_append, procsSum, unitsSum]
      simp [totalChange, Command.change]

/-- Every pair of the lists is a pair of equal multiples of the two steps. -/
theorem mem_zip_multiples {step : ℚ} {count : Nat} {pair : ℚ × ℚ}
    (member : pair ∈ (multiples step 1 count).zip (multiples (3 / 4) 1 count)) :
    ∃ i : Nat, 0 < i ∧ pair = ((i : ℚ) * step, (i : ℚ) * (3 / 4)) := by
  rw [multiples, multiples, List.zip_map'] at member
  obtain ⟨i, inside, rfl⟩ := List.mem_map.mp member
  exact ⟨i, (List.mem_range'_1.mp inside).1, rfl⟩

/-- The lists are added by positive quantities. -/
theorem change_pos_of_mem_sharedAdd {step count : Nat} (steps : step = 1 ∨ step = 2)
    {command : Command}
    (member : command ∈ sharedAdd (multiples step 1 count) (multiples (3 / 4) 1 count)) :
    0 < command.change := by
  obtain ⟨pair, inside, requested⟩ := List.mem_flatMap.mp member
  obtain ⟨i, positive, rfl⟩ := mem_zip_multiples inside
  have cast : (0 : ℚ) < i := Nat.cast_pos.mpr positive
  have wide : (0 : ℚ) < step := by
    rcases steps with rfl | rfl <;> norm_num
  rcases List.mem_pair.mp requested with rfl | rfl
  · change (0 : ℚ) < i * (3 / 4)
    positivity
  · change (0 : ℚ) < i * step
    positivity

/-- Adding and removing shared processors. For all limits, and all current processors and
processing units within them, `test_cpu_add` builds its lists without dividing by zero, and
adding and then removing them keeps the contract.

Every command is taken to succeed, and the numbers are exact, where the test has those of floating
point. Current values above the limits are not covered. -/
theorem shared_cpus_retrace (maxProcs currProc : ℤ) (maxProcUnits currProcUnits : ℚ)
    (procsOrder : currProc ≤ maxProcs) (unitsOrder : currProcUnits ≤ maxProcUnits) :
    ∃ vp pu, sharedLists maxProcs currProc maxProcUnits currProcUnits = some (vp, pu) ∧
      ∀ start : Allocation, start .procs = currProc → start .units = currProcUnits →
        Retraces maxProcs maxProcUnits start vp pu := by
  obtain ⟨step, count, steps, lists, procsFit, unitsFit⟩ :=
    sharedLists_eq maxProcs currProc maxProcUnits currProcUnits
  have lengths : (multiples step 1 count).length = (multiples (3 / 4) 1 count).length := by
    simp
  refine ⟨_, _, lists, fun start procs units => ?_⟩
  obtain ⟨procsSum, unitsSum⟩ := totalChange_sharedAdd _ _ lengths
  have adds : ∀ command ∈ sharedAdd (multiples step 1 count) (multiples (3 / 4) 1 count),
      0 ≤ command.change := fun command member =>
    le_of_lt (change_pos_of_mem_sharedAdd steps member)
  obtain ⟨retraced, restored⟩ := retraces_of_lengths lengths start
  refine ⟨lengths, ?_, ?_, ?_, retraced, restored⟩
  · intro pair member
    obtain ⟨i, positive, rfl⟩ := mem_zip_multiples member
    exact quotient_bounds steps positive
  · intro state visited
    have below := path_le_finish adds .procs state visited
    have fits := procsFit procsOrder
    rw [finish_eq, procsSum, procs] at below
    linarith
  · intro state visited
    have below := path_le_finish adds .units state visited
    have fits := unitsFit unitsOrder
    rw [finish_eq, unitsSum, units] at below
    linarith

/-- A small partition with room for three pairs. -/
theorem shared_cpus_retrace_example : ∃ vp pu, sharedLists 8 2 5 (1 / 2) = some (vp, pu) ∧
    ∀ start : Allocation, start .procs = (2 : ℤ) → start .units = 1 / 2 →
      Retraces 8 5 start vp pu :=
  shared_cpus_retrace 8 2 5 (1 / 2) (by decide) (by norm_num)

end AvocadoMisc.Dlpar.SharedCpus
