import AvocadoMisc.Library.Ranges

/-!
# Validating the affinity of an interrupt

`test_irq_balance` assigns the first processors of the online list to an interrupt and reads
back what the kernel made of it: a list of processors and ranges. `cpu_range_validation`
writes its own processors as one range, from the first to the last, and compares that with the
range at the start of what it read.

So it takes a gap in the numbers for a difference, and does not see what comes after the first
range. A single processor is never found equal; the test validates from two on.
-/

namespace AvocadoMisc.IrqBalance.AffinityCheck

open Library.Ranges

/-! ### The check -/

/-- `str` of a number. -/
def str (n : Nat) : List Char := Nat.toDigits 10 n

/-- `int` of digits. -/
def int (digits : List Char) : Nat := Nat.ofDigitChars 10 digits 0

/-- `re.match` of the pattern `(\d+)-(\d+)`, with its groups as numbers. Digits are not hyphens,
so both groups take all digits there are. -/
def matchRange (text : List Char) : Option (Nat × Nat) :=
  match text.dropWhile Char.isDigit with
  | '-' :: rest =>
    let start := text.takeWhile Char.isDigit
    let stop := rest.takeWhile Char.isDigit
    if start ≠ [] ∧ stop ≠ [] then some (int start, int stop) else none
  | _ => none

/-- `compare_range_strings`. -/
def compareRangeStrings (rangeStr1 rangeStr2 : List Char) : Bool :=
  match matchRange rangeStr1, matchRange rangeStr2 with
  | some (start1, end1), some (start2, end2) => start1 = start2 && end1 = end2
  | _, _ => false

/-- The processors that are assigned: there is at least one. -/
structure CpuRange where
  cpus : List Nat
  assigned : cpus ≠ []

/-- The first one. -/
def CpuRange.first (cpuRange : CpuRange) : Nat := cpuRange.cpus.head cpuRange.assigned

/-- The last one. -/
def CpuRange.last (cpuRange : CpuRange) : Nat := cpuRange.cpus.getLast cpuRange.assigned

/-- `cpu_range_validation`: whether it passes for what it reads. -/
def cpuRangeValidation (cpuRange : CpuRange) (systemAffinity : List Char) : Bool :=
  let irqAffinity := str cpuRange.first ++ '-' :: str cpuRange.last
  compareRangeStrings irqAffinity systemAffinity

/-- What `test_irq_balance` assigns: `cpu_list[:cpu_number+1]`. -/
def assign (cpuList : List Nat) (cpuNumber : Nat) (online : cpuNumber < cpuList.length) :
    CpuRange where
  cpus := cpuList.take (cpuNumber + 1)
  assigned := by
    rw [← List.length_pos_iff, List.length_take]
    omega

/-! ### What the kernel prints -/

/-- A range of more than one processor is printed with a hyphen. -/
def rangeText (range : Range) : List Char :=
  if range.first = range.last then str range.first else str range.first ++ '-' :: str range.last

/-- The ranges, separated by commas. -/
def smpAffinityList (affinity : RangeList) : List Char :=
  [','].intercalate (affinity.ranges.map rangeText)

/-- The kernel has exactly the assigned processors, in whatever ranges it prints them. -/
def SameCpus (cpuRange : CpuRange) (affinity : RangeList) : Prop :=
  ∀ cpu, affinity.Denotes cpu ↔ cpu ∈ cpuRange.cpus

/-! ### When it decides -/

/-- Every number between the first and the last processor is assigned. -/
def CpuRange.Gapless (cpuRange : CpuRange) : Prop :=
  ∀ cpu, cpuRange.first ≤ cpu → cpu ≤ cpuRange.last → cpu ∈ cpuRange.cpus

/-- The list begins with the range from the first to the last processor, and these are two. -/
def BeginsWith (affinity : RangeList) (cpuRange : CpuRange) : Prop :=
  cpuRange.first < cpuRange.last ∧
    ∃ range rest, affinity.ranges = range :: rest ∧
      range.first = cpuRange.first ∧ range.last = cpuRange.last

/-- For two or more processors without a gap, the range from the first to the last is not
followed by others. For one, or with a gap, the list does not begin with that range, and is not
the right one either. -/
structure Decides (cpuRange : CpuRange) (affinity : RangeList) : Prop where
  gapless : 1 < cpuRange.cpus.length → cpuRange.Gapless →
    BeginsWith affinity cpuRange → affinity.ranges.length = 1
  otherwise : ¬ (1 < cpuRange.cpus.length ∧ cpuRange.Gapless) →
    ¬ BeginsWith affinity cpuRange ∧ ¬ SameCpus cpuRange affinity

/-! ### Reading numbers -/

/-- What follows is no digit. -/
def NoDigit (tail : List Char) : Prop := ∀ c ∈ tail.head?, c.isDigit = false

/-- The digits at the start of a number and what follows are the number. -/
theorem digits_str {n : Nat} {tail : List Char} (ends : NoDigit tail) :
    (str n ++ tail).takeWhile Char.isDigit = str n ∧
      (str n ++ tail).dropWhile Char.isDigit = tail := by
  have digits : ∀ c ∈ str n, c.isDigit = true := fun c member =>
    Nat.isDigit_of_mem_toDigits (by decide) (by decide) member
  rw [List.takeWhile_append_of_pos digits, List.dropWhile_append_of_pos digits]
  cases tail with
  | nil => simp
  | cons c others =>
    have stops : c.isDigit = false := ends c rfl
    simp [stops]

/-- Numbers are read back. -/
theorem int_str (n : Nat) : int (str n) = n := Nat.ofDigitChars_ten_toDigits

/-- A range is matched. -/
theorem matchRange_range {first last : Nat} {tail : List Char} (ends : NoDigit tail) :
    matchRange (str first ++ '-' :: str last ++ tail) = some (first, last) := by
  have hyphen : NoDigit ('-' :: (str last ++ tail)) := by
    rintro c ⟨⟩
    decide
  obtain ⟨start, rest⟩ := digits_str (n := first) hyphen
  obtain ⟨stop, _⟩ := digits_str (n := last) ends
  rw [List.append_assoc, List.cons_append, matchRange, rest]
  simp only [start, stop]
  rw [if_pos ⟨Nat.toDigits_ne_nil, Nat.toDigits_ne_nil⟩, int_str, int_str]

/-- A single number is not. -/
theorem matchRange_single {n : Nat} {tail : List Char} (ends : NoDigit tail)
    (further : tail.head? ≠ some '-') : matchRange (str n ++ tail) = none := by
  rw [matchRange, (digits_str ends).2]
  split
  · next rest => exact absurd rfl further
  · rfl

/-- What is printed begins with the first range, and a comma or the end comes after it. -/
theorem smpAffinityList_split {affinity : RangeList} {range : Range} {rest : List Range}
    (listed : affinity.ranges = range :: rest) {ending : List Char}
    (terminated : ending = [] ∨ ending = ['\n']) :
    ∃ tail, smpAffinityList affinity ++ ending = rangeText range ++ tail ∧ NoDigit tail ∧
      tail.head? ≠ some '-' := by
  cases rest with
  | nil =>
    refine ⟨ending, by rw [smpAffinityList, listed]; simp, ?_, ?_⟩
    · rcases terminated with rfl | rfl
      · rintro c ⟨⟩
      · rintro c ⟨⟩
        decide
    · rcases terminated with rfl | rfl <;> decide
  | cons next others =>
    refine ⟨',' :: ([','].intercalate ((next :: others).map rangeText) ++ ending), ?_, ?_, ?_⟩
    · rw [smpAffinityList, listed, List.map_cons, List.map_cons, List.intercalate_cons_cons]
      simp
    · rintro c ⟨⟩
      decide
    · simp

/-- The check passes for a list that begins with the range from the first to the last
processor. -/
theorem validation_iff (cpuRange : CpuRange) (affinity : RangeList) {ending : List Char}
    (terminated : ending = [] ∨ ending = ['\n']) :
    cpuRangeValidation cpuRange (smpAffinityList affinity ++ ending) = true ↔
      BeginsWith affinity cpuRange := by
  have own : matchRange (str cpuRange.first ++ '-' :: str cpuRange.last) =
      some (cpuRange.first, cpuRange.last) := by
    rw [← List.append_nil (str cpuRange.first ++ _)]
    exact matchRange_range (by rintro c ⟨⟩)
  rw [cpuRangeValidation, compareRangeStrings, own, BeginsWith]
  cases listed : affinity.ranges with
  | nil =>
    have unmatched : matchRange (smpAffinityList affinity ++ ending) = none := by
      rw [smpAffinityList, listed]
      rcases terminated with rfl | rfl <;> rfl
    simp [unmatched]
  | cons range rest =>
    obtain ⟨tail, text, ends, further⟩ := smpAffinityList_split listed terminated
    rw [text, rangeText]
    split_ifs with single
    · rw [matchRange_single ends further]
      simp only [Bool.false_eq_true, false_iff, not_and, not_exists]
      rintro several other others ⟨⟩ begins ends
      omega
    · have ordered := range.ordered
      rw [matchRange_range ends]
      simp only [Bool.and_eq_true, decide_eq_true_eq]
      constructor
      · rintro ⟨firsts, lasts⟩
        exact ⟨by omega, range, rest, rfl, firsts.symm, lasts.symm⟩
      · rintro ⟨_, other, others, ⟨⟩, firsts, lasts⟩
        exact ⟨firsts.symm, lasts.symm⟩

/-! ### Sets of processors -/

/-- Sorted processors lie between the first and the last one. -/
theorem between_of_mem {cpuRange : CpuRange} (sorted : cpuRange.cpus.Pairwise (· < ·)) {cpu : Nat}
    (member : cpu ∈ cpuRange.cpus) : cpuRange.first ≤ cpu ∧ cpu ≤ cpuRange.last := by
  have head : cpuRange.first :: cpuRange.cpus.tail = cpuRange.cpus :=
    List.cons_head_tail cpuRange.assigned
  have last : cpuRange.cpus.dropLast ++ [cpuRange.last] = cpuRange.cpus :=
    List.dropLast_concat_getLast cpuRange.assigned
  constructor
  · rw [← head] at sorted member
    rcases List.mem_cons.mp member with same | later
    · exact Nat.le_of_eq same.symm
    · exact Nat.le_of_lt ((List.pairwise_cons.mp sorted).1 cpu later)
  · rw [← last] at sorted member
    rcases List.mem_append.mp member with earlier | final
    · exact Nat.le_of_lt ((List.pairwise_append.mp sorted).2.2 cpu earlier cpuRange.last
        List.mem_cons_self)
    · exact Nat.le_of_eq (List.mem_singleton.mp final)

/-- The first and the last one differ when there are two, and only then. -/
theorem first_lt_last_iff {cpuRange : CpuRange} (sorted : cpuRange.cpus.Pairwise (· < ·)) :
    cpuRange.first < cpuRange.last ↔ 1 < cpuRange.cpus.length := by
  obtain ⟨cpus, assigned⟩ := cpuRange
  match cpus with
  | [cpu] => simp [CpuRange.first, CpuRange.last]
  | cpu :: next :: rest =>
    have less : cpu < next := (List.pairwise_cons.mp sorted).1 next List.mem_cons_self
    have further : next ≤ CpuRange.last ⟨cpu :: next :: rest, assigned⟩ :=
      (between_of_mem sorted (List.mem_cons_of_mem cpu List.mem_cons_self)).2
    constructor
    · intro _
      simp
    · intro _
      exact Nat.lt_of_lt_of_le less further

/-- The range from the first to the last one. -/
def span (cpuRange : CpuRange) (sorted : cpuRange.cpus.Pairwise (· < ·)) : Range where
  first := cpuRange.first
  last := cpuRange.last
  ordered := (between_of_mem sorted (List.head_mem cpuRange.assigned)).2

/-- Without a gap the processors are the ones in that range. -/
theorem contains_span_iff {cpuRange : CpuRange} (sorted : cpuRange.cpus.Pairwise (· < ·))
    (gapless : cpuRange.Gapless) (cpu : Nat) :
    (span cpuRange sorted).Contains cpu ↔ cpu ∈ cpuRange.cpus := by
  constructor
  · rintro ⟨low, high⟩
    exact gapless cpu low high
  · exact between_of_mem sorted

/-- Then the right list has that range only. -/
theorem sameCpus_iff_of_gapless {cpuRange : CpuRange} (sorted : cpuRange.cpus.Pairwise (· < ·))
    (several : 1 < cpuRange.cpus.length) (gapless : cpuRange.Gapless) (affinity : RangeList) :
    SameCpus cpuRange affinity ↔
      BeginsWith affinity cpuRange ∧ affinity.ranges.length = 1 := by
  constructor
  · intro same
    have listed : affinity.ranges = (RangeList.single (span cpuRange sorted)).ranges :=
      RangeList.unique fun cpu => by
        rw [denotes_single, contains_span_iff sorted gapless, same]
    exact ⟨⟨(first_lt_last_iff sorted).mpr several, _, _, listed, rfl, rfl⟩, by rw [listed]; rfl⟩
  · rintro ⟨⟨_, range, rest, listed, first, last⟩, alone⟩ cpu
    rw [listed, List.length_cons, Nat.succ_inj] at alone
    obtain rfl := List.length_eq_zero_iff.mp alone
    obtain rfl : range = span cpuRange sorted := Range.ext first last
    rw [← contains_span_iff sorted gapless, RangeList.Denotes, listed, ← denotes_single]
    rfl

/-- A list that begins with that range and has the same processors shows that there is no gap. -/
theorem gapless_of_beginsWith {cpuRange : CpuRange} {affinity : RangeList}
    (begins : BeginsWith affinity cpuRange) (same : SameCpus cpuRange affinity) :
    cpuRange.Gapless := by
  obtain ⟨_, range, rest, listed, first, last⟩ := begins
  intro cpu low high
  apply (same cpu).mp
  rw [RangeList.Denotes, listed]
  exact covers_first ⟨by omega, by omega⟩

/-- The check by itself. -/
theorem validation_correct_iff {cpuRange : CpuRange} (sorted : cpuRange.cpus.Pairwise (· < ·))
    (affinity : RangeList) :
    (BeginsWith affinity cpuRange ↔ SameCpus cpuRange affinity) ↔ Decides cpuRange affinity := by
  by_cases regular : 1 < cpuRange.cpus.length ∧ cpuRange.Gapless
  · rw [sameCpus_iff_of_gapless sorted regular.1 regular.2]
    constructor
    · intro agrees
      exact ⟨fun _ _ begins => (agrees.mp begins).2, fun irregular => absurd regular irregular⟩
    · intro decided
      exact ⟨fun begins => ⟨begins, decided.gapless regular.1 regular.2 begins⟩, And.left⟩
  · constructor
    · intro agrees
      refine ⟨fun several gapless => absurd ⟨several, gapless⟩ regular, fun _ => ?_⟩
      have never : ¬ BeginsWith affinity cpuRange := fun begins =>
        regular ⟨(first_lt_last_iff sorted).mp begins.1,
          gapless_of_beginsWith begins (agrees.mp begins)⟩
      exact ⟨never, fun same => never (agrees.mpr same)⟩
    · intro decided
      obtain ⟨never, different⟩ := decided.otherwise regular
      exact iff_of_false never different

/-- Validating the affinity. For every sorted list of online processors, all first processors of
it and every list that the kernel prints, the check passes exactly for the assigned processors
if and only if it decides for these.

The list of the kernel may have any number of ranges and single processors, with a newline behind it
or not. Assignments other than the first processors are not covered, since the test makes none. -/
theorem affinity_check_iff (cpuList : List Nat) (sorted : cpuList.Pairwise (· < ·))
    (cpuNumber : Nat) (online : cpuNumber < cpuList.length) (affinity : RangeList)
    (ending : List Char) (terminated : ending = [] ∨ ending = ['\n']) :
    (cpuRangeValidation (assign cpuList cpuNumber online)
        (smpAffinityList affinity ++ ending) = true ↔
          SameCpus (assign cpuList cpuNumber online) affinity) ↔
      Decides (assign cpuList cpuNumber online) affinity := by
  rw [validation_iff _ affinity terminated]
  exact validation_correct_iff (sorted.sublist (List.take_sublist _ _)) affinity

/-- The check decides for four processors without a gap and the range that they are. -/
theorem affinity_check_gapless :
    cpuRangeValidation (assign [0, 1, 2, 3, 4] 3 (by decide)) "0-3\n".toList = true ↔
      SameCpus (assign [0, 1, 2, 3, 4] 3 (by decide)) (RangeList.single ⟨0, 3, by decide⟩) := by
  have text : "0-3\n".toList =
      smpAffinityList (RangeList.single ⟨0, 3, by decide⟩) ++ ['\n'] := by decide
  rw [text]
  apply (affinity_check_iff [0, 1, 2, 3, 4] (by decide) 3 (by decide) _ ['\n'] (.inr rfl)).mpr
  constructor
  · intro _ _ _
    rfl
  · intro irregular
    refine absurd ⟨by decide, fun cpu _ high => ?_⟩ irregular
    have small : cpu ≤ 3 := high
    simp only [assign, List.take, List.mem_cons, List.not_mem_nil]
    omega

/-- What the kernel prints for two processors with a gap. -/
def sparse : RangeList := ⟨[⟨0, 0, by decide⟩, ⟨8, 8, by decide⟩], by decide⟩

/-- Two processors with a gap are what the kernel has, but the check fails. -/
theorem affinity_check_fails_with_gap :
    ¬ ∀ (cpuList : List Nat) (_ : cpuList.Pairwise (· < ·)) (cpuNumber : Nat)
      (online : cpuNumber < cpuList.length) (affinity : RangeList),
      (cpuRangeValidation (assign cpuList cpuNumber online) (smpAffinityList affinity) = true ↔
        SameCpus (assign cpuList cpuNumber online) affinity) := by
  intro always
  have agrees := always [0, 8] (by decide) 1 (by decide) sparse
  have rejected : cpuRangeValidation (assign [0, 8] 1 (by decide)) (smpAffinityList sparse) =
      false := by decide
  rw [rejected] at agrees
  apply Bool.false_ne_true
  apply agrees.mpr
  intro cpu
  simp [RangeList.Denotes, Covers, sparse, Range.Contains, assign]
  omega

end AvocadoMisc.IrqBalance.AffinityCheck
