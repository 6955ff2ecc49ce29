import Mathlib.Algebra.BigOperators.Ring.Finset
import Mathlib.Algebra.Order.Floor.Ring
import Mathlib.Data.Rat.Floor
import AvocadoMisc.Dlpar.Partition

/-!
# Lists of quantities to add and remove

`cpu_payload_data` lists multiples of a step, from zero on, for as long as the partition
with all of them does not exceed its maximum; the zero is then left out. So the list is
`step, 2 step, …, k step` with the largest `k` whose sum fits.

`mix_payload_data` cuts the sum of such a list at random into positive integers.
`random.randint(1, n)` is `1 + draw % n` for an unknown draw, which is any number from
1 to `n`.

The loop of `cpu_payload_data` runs on fuel that is computed from its arguments;
`cpuPayloadData_eq` says that the fuel is always enough.
-/

namespace AvocadoMisc.Dlpar.Payloads

open Dlpar.Partition

/-! ### `cpu_payload_data` -/

/-- The loop of `cpu_payload_data`. It has no result when the fuel runs out. -/
def cpuPayloadLoop (maxValue step : ℚ) : Nat → ℚ → ℚ → Option (List ℚ)
  | 0, _, _ => none
  | fuel + 1, currentSum, index =>
    if currentSum + index > maxValue then some []
    else (cpuPayloadLoop maxValue step fuel (currentSum + index) (index + step)).map (index :: ·)

/-- `cpu_payload_data`, for a positive step. -/
def cpuPayloadData (maxValue currProc step : ℚ) : Option (List ℚ) :=
  (cpuPayloadLoop maxValue step (⌊(maxValue - currProc) / step⌋.toNat + 3) currProc 0).map
    fun indexList => indexList.filter fun value => value ≠ 0

/-- The multiples of a step, from a first one on. -/
def multiples (step : ℚ) (first count : Nat) : List ℚ :=
  (List.range' first count).map fun i : Nat => (i : ℚ) * step

/-- As many as asked for. -/
@[simp] theorem length_multiples (step : ℚ) (first count : Nat) :
    (multiples step first count).length = count := by
  simp [multiples]

/-- Enough fuel, once the index is not less than a step: every turn takes a step off what is
left of the maximum. -/
theorem cpuPayloadLoop_isSome {maxValue step : ℚ} (positive : 0 < step) (fuel : Nat)
    (currentSum index : ℚ) (large : step ≤ index) (enough : maxValue - currentSum < fuel * step) :
    ∃ indexList, cpuPayloadLoop maxValue step (fuel + 1) currentSum index = some indexList := by
  induction fuel generalizing currentSum index with
  | zero =>
    have exceeded : currentSum + index > maxValue := by
      rw [Nat.cast_zero, zero_mul] at enough
      linarith
    exact ⟨[], if_pos exceeded⟩
  | succ fuel inductionHypothesis =>
    rw [cpuPayloadLoop]
    split_ifs with exceeded
    · exact ⟨[], rfl⟩
    · have fewer : maxValue - (currentSum + index) < fuel * step := by
        rw [Nat.cast_succ, add_mul, one_mul] at enough
        linarith
      obtain ⟨rest, found⟩ :=
        inductionHypothesis (currentSum + index) (index + step) (by linarith) fewer
      exact ⟨index :: rest, by rw [found]; rfl⟩

/-- What the loop lists: consecutive multiples of the step that fit together, up to the first
one that does not. -/
theorem cpuPayloadLoop_spec {maxValue step : ℚ} {fuel : Nat} {currentSum : ℚ} {n : Nat}
    {indexList : List ℚ}
    (finished : cpuPayloadLoop maxValue step fuel currentSum (n * step) = some indexList) :
    ∃ count, indexList = multiples step n count ∧
      (count = 0 ∨ currentSum + indexList.sum ≤ maxValue) ∧
      maxValue < currentSum + indexList.sum + (n + count : Nat) * step := by
  induction fuel generalizing currentSum n indexList with
  | zero => simp [cpuPayloadLoop] at finished
  | succ fuel inductionHypothesis =>
    rw [cpuPayloadLoop] at finished
    split_ifs at finished with exceeded
    · obtain rfl := Option.some.inj finished
      exact ⟨0, rfl, .inl rfl, by simpa using exceeded⟩
    · obtain ⟨rest, found, rfl⟩ := Option.map_eq_some_iff.mp finished
      rw [show (n : ℚ) * step + step = (n + 1 : Nat) * step by push_cast; ring] at found
      obtain ⟨count, same, fits, ended⟩ := inductionHypothesis found
      refine ⟨count + 1, ?_, .inr ?_, ?_⟩
      · rw [multiples, List.range'_succ, List.map_cons, same, multiples]
      · rw [List.sum_cons]
        rcases fits with none | fits
        · rw [same, none]
          simpa [multiples] using le_of_not_gt exceeded
        · linarith
      · rw [List.sum_cons]
        rw [show n + (count + 1) = n + 1 + count by omega]
        linarith

/-- Multiples of a step add up to a multiple of it. -/
theorem multiples_sum (step : ℚ) (first count : Nat) :
    (multiples step first count).sum = (List.range' first count).sum * step := by
  rw [multiples, List.sum_map_mul_right, Nat.cast_list_sum]

/-- Later multiples of a positive step are positive. -/
theorem pos_of_mem_multiples {step : ℚ} (positive : 0 < step) {count : Nat} {value : ℚ}
    (member : value ∈ multiples step 1 count) : 0 < value := by
  obtain ⟨i, inside, rfl⟩ := List.mem_map.mp member
  have large : 0 < i := (List.mem_range'_1.mp inside).1
  have cast : (0 : ℚ) < i := Nat.cast_pos.mpr large
  exact mul_pos cast positive

/-- `cpu_payload_data` terminates for every positive step. Its list is `step, …, k step`. If
it lists anything, the partition with all of it does not exceed the maximum, and with the
next multiple it would. -/
theorem cpuPayloadData_eq (maxValue currProc : ℚ) {step : ℚ} (positive : 0 < step) :
    ∃ count, cpuPayloadData maxValue currProc step = some (multiples step 1 count) ∧
      (count = 0 ∨ currProc + (multiples step 1 count).sum ≤ maxValue) ∧
      maxValue < currProc + (multiples step 1 count).sum + (count + 1 : Nat) * step := by
  have enough : maxValue - currProc <
      (⌊(maxValue - currProc) / step⌋.toNat + 1 : Nat) * step := by
    have quotient := Int.lt_floor_add_one ((maxValue - currProc) / step)
    have floor : (⌊(maxValue - currProc) / step⌋ : ℚ) ≤
        (⌊(maxValue - currProc) / step⌋.toNat : ℚ) := by
      exact_mod_cast Int.self_le_toNat _
    rw [div_lt_iff₀ positive] at quotient
    push_cast
    nlinarith
  have terminates : ∃ indexList, cpuPayloadLoop maxValue step
      (⌊(maxValue - currProc) / step⌋.toNat + 3) currProc ((0 : Nat) * step) =
        some indexList := by
    rw [cpuPayloadLoop]
    split_ifs with exceeded
    · exact ⟨[], rfl⟩
    · obtain ⟨rest, found⟩ := cpuPayloadLoop_isSome positive
        (⌊(maxValue - currProc) / step⌋.toNat + 1) (currProc + (0 : Nat) * step)
        ((0 : Nat) * step + step) (by simp) (by simpa using enough)
      exact ⟨_, by rw [found]; rfl⟩
  obtain ⟨indexList, finished⟩ := terminates
  obtain ⟨count, same, fits, ended⟩ := cpuPayloadLoop_spec finished
  rw [Nat.cast_zero, zero_mul] at finished
  rw [Nat.zero_add] at ended
  rw [cpuPayloadData, finished, Option.map_some]
  cases count with
  | zero =>
    obtain rfl : indexList = [] := same
    simp only [List.sum_nil, add_zero, Nat.cast_zero, zero_mul] at ended
    refine ⟨0, rfl, .inl rfl, ?_⟩
    simp only [multiples, List.range'_zero, List.map_nil, List.sum_nil]
    push_cast
    linarith
  | succ count =>
    have split : indexList = 0 :: multiples step 1 count := by
      rw [same, multiples, List.range'_succ, List.map_cons, Nat.cast_zero, zero_mul]
      rfl
    have kept : indexList.filter (fun value => value ≠ 0) = multiples step 1 count := by
      rw [split, List.filter_cons_of_neg (by simp), List.filter_eq_self]
      intro value member
      simpa using ne_of_gt (pos_of_mem_multiples positive member)
    have sum : indexList.sum = (multiples step 1 count).sum := by
      rw [split, List.sum_cons, zero_add]
    rw [sum] at fits ended
    exact ⟨count, by rw [kept], .inr (fits.resolve_left (Nat.succ_ne_zero count)), ended⟩

/-- The numbers of multiples that the room up to the maximum has space for. -/
def Fits (maxValue currProc step : ℚ) : Set Nat :=
  { k | currProc + step * (k * (k + 1) / 2) ≤ maxValue }

/-- The contract of the list: it is `step, …, k step` with the largest `k` that fits, and nothing
when not even the first multiple fits. A longer list would not fit. -/
structure PayloadContract (maxValue currProc step : ℚ) (k : Nat) (indexList : List ℚ) : Prop where
  listed : indexList = multiples step 1 k
  largest : currProc ≤ maxValue → IsGreatest (Fits maxValue currProc step) k
  empty : maxValue < currProc + step → indexList = []
  within : currProc ≤ maxValue → indexList.sum ≤ maxValue - currProc
  longer : ∀ n, k < n → maxValue < currProc + (multiples step 1 n).sum

/-- The first multiples add up to a triangular number of steps. -/
theorem multiples_triangular (step : ℚ) (k : Nat) :
    (multiples step 1 k).sum = step * (k * (k + 1) / 2) := by
  induction k with
  | zero => simp [multiples]
  | succ k inductionHypothesis =>
    have next : multiples step 1 (k + 1) = multiples step 1 k ++ [((k + 1 : Nat) : ℚ) * step] := by
      rw [multiples, List.range'_1_concat, List.map_append, ← multiples, Nat.add_comm 1 k]
      rfl
    rw [next, List.sum_append, inductionHypothesis, List.sum_singleton]
    push_cast
    ring

/-- More multiples add up to more. -/
theorem multiples_sum_le {step : ℚ} (positive : 0 < step) {k n : Nat} (more : k ≤ n) :
    (multiples step 1 k).sum ≤ (multiples step 1 n).sum := by
  have cast : (k : ℚ) ≤ n := Nat.cast_le.mpr more
  have nonnegative : (0 : ℚ) ≤ k := Nat.cast_nonneg k
  rw [multiples_triangular, multiples_triangular]
  gcongr

/-- `cpu_payload_data` keeps the contract for every positive step.

The numbers are exact, where the test has those of floating point. The current number may be above
the maximum, and then nothing is listed. A step of zero or less is not covered, because the loop
need not end.

Proof: the fuel is enough, and the loop goes on exactly while the sum of the multiples fits. -/
theorem cpuPayloadData_contract (maxValue currProc : ℚ) {step : ℚ} (positive : 0 < step) :
    ∃ k indexList, cpuPayloadData maxValue currProc step = some indexList ∧
      PayloadContract maxValue currProc step k indexList := by
  obtain ⟨k, listed, fits, ended⟩ := cpuPayloadData_eq maxValue currProc positive
  have next : (multiples step 1 (k + 1)).sum =
      (multiples step 1 k).sum + (k + 1 : Nat) * step := by
    rw [multiples_triangular, multiples_triangular]
    push_cast
    ring
  have longer : ∀ n, k < n → maxValue < currProc + (multiples step 1 n).sum := by
    intro n more
    have least := multiples_sum_le positive (Nat.succ_le_of_lt more)
    rw [Nat.succ_eq_add_one, next] at least
    linarith
  have within (room : currProc ≤ maxValue) : currProc + (multiples step 1 k).sum ≤ maxValue := by
    rcases fits with rfl | fits
    · simpa [multiples] using room
    · exact fits
  refine ⟨k, _, listed, rfl, fun room => ⟨?_, ?_⟩, fun exceeds => ?_, fun room => ?_, longer⟩
  · rw [Fits, Set.mem_ofPred_eq, ← multiples_triangular]
    exact within room
  · intro n inside
    rw [Fits, Set.mem_ofPred_eq, ← multiples_triangular] at inside
    by_contra more
    exact absurd inside (not_le_of_gt (longer n (not_le.mp more)))
  · rcases fits with rfl | fits
    · rfl
    · have first : k = 0 := by
        by_contra some_multiple
        have least := multiples_sum_le positive (Nat.pos_of_ne_zero some_multiple)
        have one : (multiples step 1 (Nat.succ 0)).sum = step := by simp [multiples]
        rw [one] at least
        linarith
      rw [first]
      rfl
  · have total := within room
    linarith

/-- Processors up to ten, from two on. -/
theorem cpuPayloadData_contract_ten : ∃ k indexList, cpuPayloadData 10 2 1 = some indexList ∧
    PayloadContract 10 2 1 k indexList :=
  cpuPayloadData_contract 10 2 (by norm_num)

/-- A partition that is above its maximum is given nothing, which is more than its room. -/
theorem cpuPayloadData_above_maximum : ¬ ∀ maxValue currProc step : ℚ, 0 < step →
    ∃ indexList, cpuPayloadData maxValue currProc step = some indexList ∧
      indexList.sum ≤ maxValue - currProc := by
  intro always
  obtain ⟨indexList, listed, within⟩ := always 0 1 1 (by norm_num)
  have nothing : cpuPayloadData 0 1 1 = some [] := by decide +kernel
  obtain rfl := Option.some.inj (nothing.symm.trans listed)
  norm_num at within

/-! ### `mix_payload_data` -/

/-- `int` of a number: towards zero. -/
def truncate (value : ℚ) : ℤ := if 0 ≤ value then ⌊value⌋ else ⌈value⌉

/-- A natural number is not changed. -/
@[simp] theorem truncate_natCast (n : Nat) : truncate n = n := by
  rw [truncate, if_pos (Nat.cast_nonneg n), Int.floor_natCast]

/-- `random.randint`, for an unknown draw. -/
def randint (draw low high : Nat) : Nat := low + draw % (high - low + 1)

/-- A random integer lies between its bounds. -/
theorem randint_bounds (draw : Nat) {low high : Nat} (order : low ≤ high) :
    low ≤ randint draw low high ∧ randint draw low high ≤ high := by
  have small : draw % (high - low + 1) < high - low + 1 := Nat.mod_lt draw (Nat.succ_pos _)
  unfold randint
  omega

/-- The loop of `mix_payload_data`. The draws are numbered. -/
def mixLoop (draws : Nat → Nat) (turn remainingSum : Nat) : List Nat :=
  if 0 < remainingSum then
    let value := randint (draws turn) 1 remainingSum
    value :: mixLoop draws (turn + 1) (remainingSum - value)
  else []
termination_by remainingSum
decreasing_by
  have bounds := randint_bounds (draws turn) (show 1 ≤ remainingSum by omega)
  omega

/-- `mix_payload_data`. -/
def mixPayloadData (draws : Nat → Nat) (values : List ℚ) : List Nat :=
  mixLoop draws 0 (truncate values.sum).toNat

/-- The loop cuts the sum into positive numbers. -/
theorem mixLoop_spec (draws : Nat → Nat) (turn remainingSum : Nat) :
    (mixLoop draws turn remainingSum).sum = remainingSum ∧
      ∀ value ∈ mixLoop draws turn remainingSum, 1 ≤ value := by
  fun_induction mixLoop draws turn remainingSum with
  | case1 turn remainingSum more value inductionHypothesis =>
    obtain ⟨sum, positive⟩ := inductionHypothesis
    obtain ⟨low, high⟩ := randint_bounds (draws turn) (show 1 ≤ remainingSum by omega)
    rw [List.sum_cons, sum, List.forall_mem_cons]
    exact ⟨Nat.add_sub_cancel' high, low, positive⟩
  | case2 turn remainingSum ended =>
    simp only [List.sum_nil, List.not_mem_nil, false_implies, implies_true, and_true]
    omega

end AvocadoMisc.Dlpar.Payloads
