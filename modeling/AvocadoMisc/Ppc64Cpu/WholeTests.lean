import AvocadoMisc.Ppc64Cpu.Printing

/-!
# The tests of `ppc64_cpu` as a whole

Each test changes the SMT mode and the number of online cores many times, some by chance, and
verifies the state in between. Then `tearDown` sets all cores online in the mode of the beginning.

When the command does what is documented, no test fails: whatever is chosen by chance, every
verification passes, and in the end all cores are online with all threads.
-/

namespace AvocadoMisc.Ppc64Cpu.WholeTests

open Library.NumberTexts Library.Scripts Library.Text Info SystemState Commands

/-- What `setUp` reads. -/
structure Settings where
  maxSmtValue : Int
  totalCores : Nat

/-- `all_smt_values`, by `_generate_smt_values`. -/
def Settings.allSmtValues (settings : Settings) : List Text :=
  off :: ((List.range (settings.maxSmtValue - 1).toNat).map fun i => decimal (i + 2)) ++ [on]

/-- `expected_smt`. -/
def Settings.expectedSmt (settings : Settings) (smtVal : Text) : Text :=
  if smtVal = off then off
  else if smtVal ≠ on then smtVal else str settings.maxSmtValue

variable (tool : Tool)

/-- `setUp`, from where it sets the highest mode. -/
def setUp : Script Settings := do
  system tool (.smt on)
  let state ← get
  let smtOp := tool.smt state.machine
  demand (contains "is not SMT capable".toList smtOp = false)
    (.cancelled "Machine is not SMT capable".toList)
  demand (contains "Inconsistent state".toList smtOp = false)
    (.cancelled "Machine has mix of ST and SMT cores".toList)
  let currSmt ← read (currentSmt smtOp)
  modify fun state => { state with currSmt := some currSmt, failures := [] }
  let maxSmtValue ← read (int currSmt)
  let totalCores ← readCoresPresent tool
  pure { maxSmtValue := maxSmtValue, totalCores := totalCores.toNat }

/-- `tearDown`. -/
def tearDown : Script PUnit := do
  ignored tool .coresOnAll
  let state ← get
  let currSmt ← read state.currSmt
  ignored tool (.smt currSmt)

/-- `_reset_system_state`. -/
def resetSystemState : Script PUnit := do
  system tool .coresOnAll
  system tool (.smt on)

/-- Note a failure unless something holds. -/
def noteUnless (condition : Prop) [Decidable condition] (failure : Text) : Script PUnit :=
  if condition then pure ⟨⟩ else append failure

/-- Fail unless something holds. -/
def failUnless (condition : Prop) [Decidable condition] (message : Text) : Script PUnit :=
  demand condition (.failed message [])

/-- The failure of a core count that a mode changed. -/
def changedCores (smtVal : Text) (before after : Int) : Text :=
  "SMT=".toList ++ smtVal ++ " changed core count from ".toList ++ str before ++
    " to ".toList ++ str after

/-! ### The tests -/

/-- `'2'` and `'4'`. -/
def two : Text := ['2']
def four : Text := ['4']

/-- The values that some tests name. -/
def namedValues : List Text := [off, two, four, on]

/-- A part of the cores, in percent, but at least one. -/
def percent (totalCores p : Nat) : Nat := max 1 (totalCores * p / 100)

/-- `test_smt_loop`. -/
def smtLoop (loop : Nat) : Script PUnit :=
  forEach (fun _ => do
    system tool (.smt off)
    system tool (.smt on)) (List.range (loop - 1))

/-- `test_single_core_smt`. What is compared is the text behind the equals sign, before and after
the mode is changed. -/
def singleCoreSmt : Script PUnit := do
  resetSystemState tool
  system tool (.coresOn 1)
  let before ← get
  let op1 := afterEquals (tool.coresOn before.machine)
  system tool (.smt two)
  system tool (.smt four)
  let after ← get
  let op2 := afterEquals (tool.coresOn after.machine)
  failUnless (op1 = op2) "SMT with Single core test failed".toList

/-- `test_smt_with_core_operations`, with the numbers of cores taken as percentages of those that
are present. The first verification that fails ends it. -/
def smtWithCoreOperations : Script PUnit := do
  let coresInfo ← getCoresInfo tool
  forEach (fun numCores => do
    system tool (.coresOn numCores)
    forEach (fun smtVal => do
      system tool (.smt smtVal)
      let verified ← verify tool none (some (numCores : Int))
      failUnless (verified = true) ("Verification failed for cores=".toList ++
        decimal numCores ++ ", SMT=".toList ++ smtVal)) namedValues)
    ([10, 25, 50, 75, 100].map (percent coresInfo.coresPresent.toNat))

/-- What is chosen by chance in an iteration of `test_parallel_smt_core_stress`. -/
inductive StressChoice where
  | smt (smtVal : Text)
  | cores (numCores : Nat)
  | both (smtVal : Text) (numCores : Nat)

/-- The operation of an iteration. Where both are changed, the mode is changed first and must leave
the number of online cores. -/
def StressChoice.operate : StressChoice → Script PUnit
  | .smt smtVal => system tool (.smt smtVal)
  | .cores numCores => system tool (.coresOn numCores)
  | .both smtVal numCores => do
    let coresBefore ← getCoresInfo tool
    system tool (.smt smtVal)
    let coresAfter ← getCoresInfo tool
    failUnless (coresBefore.coresOn = coresAfter.coresOn)
      ("SMT change affected core count! Before: ".toList ++ str coresBefore.coresOn ++
        ", After: ".toList ++ str coresAfter.coresOn)
    system tool (.coresOn numCores)

/-- `test_parallel_smt_core_stress`. -/
def parallelSmtCoreStress (choices : List StressChoice) : Script PUnit := do
  let _ ← getCoresInfo tool
  forEach (fun numbered => do
    numbered.1.operate tool
    let verified ← verify tool none none
    failUnless (verified = true) ("Verification failed at iteration ".toList ++
      decimal (numbered.2 + 1))) choices.zipIdx

/-- `test_core_range_operations`. Counts above the number of cores are passed over, and each of the
others is read back and verified. -/
def coreRangeOperations : Script PUnit := do
  let coresInfo ← getCoresInfo tool
  forEach (fun (count : Nat) =>
    if (count : Int) > coresInfo.coresPresent then pure ⟨⟩
    else do
      system tool (.coresOn count)
      let actualCores ← readCoresOn tool
      failUnless (actualCores = count) ("Core count mismatch! Expected: ".toList ++
        decimal count ++ ", Got: ".toList ++ str actualCores)
      let verified ← verify tool none (some (count : Int))
      failUnless (verified = true) ("Verification failed for ".toList ++ decimal count ++
        " cores".toList))
    [1, 2, min 4 coresInfo.coresPresent.toNat, min 8 coresInfo.coresPresent.toNat]

/-- `test_all_smt_operations`. -/
def allSmtOperations (settings : Settings) : Script PUnit := do
  forEach (fun smtVal => do
    let exitStatus ← run tool (.smt smtVal)
    if exitStatus ≠ 0 then append ("Failed to set SMT=".toList ++ smtVal)
    else do
      let verified ← verify tool (some (settings.expectedSmt smtVal)) none
      noteUnless (verified = true) ("Verification failed for SMT=".toList ++ smtVal))
    settings.allSmtValues
  failIfFailures "All SMT operations test failed".toList

/-- `unique_scenarios`: the numbers of cores. -/
def coreCounts (totalCores : Nat) : List Nat :=
  (([1] ++ (if totalCores > 1 then [2] else []) ++
    [10, 25, 50, 75, 100].map (percent totalCores)).filter (· ≤ totalCores)).eraseDups

/-- `test_dynamic_core_operations`. Failures are collected, those of the command as those of the
verification, and fail the test at its end. -/
def dynamicCoreOperations (settings : Settings) : Script PUnit := do
  system tool .coresOnAll
  forEach (fun coresCount => do
    let exitStatus ← run tool (.coresOn coresCount)
    if exitStatus ≠ 0 then append ("Failed to set cores-on=".toList ++ decimal coresCount)
    else do
      let verified ← verify tool none (some (coresCount : Int))
      noteUnless (verified = true) ("Verification failed for cores-on=".toList ++
        decimal coresCount))
    (coreCounts settings.totalCores)
  system tool .coresOnAll
  failIfFailures "Dynamic core operations test failed".toList

/-- A mode with some cores online, of `test_smt_core_interaction`. The answer of the verification
is not looked at. -/
def interactionRound (settings : Settings) (testCoreCount : Nat) (coresBefore : Int)
    (smtVal : Text) : Script PUnit := do
  ignored tool (.smt smtVal)
  let coresAfter ← getCoresInfo tool
  noteUnless (coresBefore = coresAfter.coresOn)
    (changedCores smtVal coresBefore coresAfter.coresOn)
  let _ ← verify tool (some (settings.expectedSmt smtVal)) (some (testCoreCount : Int))
  pure ⟨⟩

/-- `test_smt_core_interaction`, with half of the cores online and five iterations at most. Failures
are collected and fail the test at its end. -/
def smtCoreInteraction (settings : Settings) (stressIterations : Nat) : Script PUnit := do
  resetSystemState tool
  let testCoreCount := max 1 (settings.totalCores / 2)
  forEach (fun _ => do
    system tool (.coresOn testCoreCount)
    let coresBefore ← getCoresInfo tool
    forEach (interactionRound tool settings testCoreCount coresBefore.coresOn)
      settings.allSmtValues
    system tool .coresOnAll) (List.range (min 5 (stressIterations / 4)))
  failIfFailures "SMT-Core interaction test failed".toList

/-- What is chosen by chance in an iteration of `test_random_stress`. -/
inductive RandomChoice where
  | smt (smtVal : Text)
  | coreCount (coresCount : Nat)
  | verify

/-- An iteration of `test_random_stress`. A change of the mode must leave the number of cores, and a
change of that number the mode. -/
def RandomChoice.operate (choice : RandomChoice) (iteration : Nat) : Script PUnit :=
  match choice with
  | .smt smtVal => do
    let coresBefore ← getCoresInfo tool
    ignored tool (.smt smtVal)
    let coresAfter ← getCoresInfo tool
    noteUnless (coresBefore.coresOn = coresAfter.coresOn)
      ("SMT change affected core count: was ".toList ++ str coresBefore.coresOn ++
        ", now ".toList ++ str coresAfter.coresOn)
  | .coreCount coresCount => do
    let smtBefore ← getCurrentSmt tool
    ignored tool (.coresOn coresCount)
    let smtAfter ← getCurrentSmt tool
    noteUnless (smtBefore = smtAfter) ("Core operation affected SMT: was ".toList ++
      smtBefore ++ ", now ".toList ++ smtAfter)
  | .verify => do
    let verified ← Commands.verify tool none none
    noteUnless (verified = true) ("Verification failed at iteration ".toList ++
      decimal (iteration + 1))

/-- `test_random_stress`. -/
def randomStress (runRandomStress : Bool) (choices : List RandomChoice) : Script PUnit :=
  if runRandomStress = false then pure ⟨⟩
  else do
    resetSystemState tool
    forEach (fun numbered => numbered.1.operate tool numbered.2) choices.zipIdx
    failIfFailures "Random stress test failed".toList

/-- A mode with some cores online: the number of cores is compared, and the state is verified. -/
def smtRound (settings : Settings) (actualCores : Int) (smtVal : Text) : Script PUnit := do
  ignored tool (.smt smtVal)
  let coresAfter ← getCoresInfo tool
  noteUnless (coresAfter.coresOn = actualCores)
    (changedCores smtVal actualCores coresAfter.coresOn)
  let verified ← verify tool (some (settings.expectedSmt smtVal)) (some actualCores)
  noteUnless (verified = true) ("Verification failed for SMT=".toList ++ smtVal ++
    " with ".toList ++ str actualCores ++ " cores".toList)

/-- `test_core_counts`, before it is sorted. -/
def progressiveCounts (totalCores : Nat) : List Nat :=
  ([2, 3, max 2 (totalCores / 2), max 2 (totalCores * 75 / 100), totalCores]).eraseDups

/-- `test_progressive_core_online_with_smt`. With fewer than three cores nothing is done. Each
number of cores is tried with every mode, from one core on. -/
def progressiveCoreOnlineWithSmt (settings : Settings) : Script PUnit :=
  if settings.totalCores < 3 then pure ⟨⟩
  else do
    system tool (.coresOn 1)
    forEach (fun smtVal => do
      ignored tool (.smt smtVal)
      let verified ← verify tool (some (settings.expectedSmt smtVal)) (some 1)
      noteUnless (verified = true) ("Verification failed for SMT=".toList ++ smtVal ++
        " with 1 core".toList)) settings.allSmtValues
    forEach (fun coreCount => do
      system tool (.coresOn coreCount)
      let coresInfo ← getCoresInfo tool
      forEach (smtRound tool settings coresInfo.coresOn) settings.allSmtValues)
      ((progressiveCounts settings.totalCores).mergeSort fun a b => decide (a ≤ b))
    system tool .coresOnAll
    failIfFailures "Progressive core online test failed".toList

/-- A mode with specific cores offline. Here the verification expects the number of cores that was
read after the mode was set. -/
def offlineRound (settings : Settings) (actualOnlineCores : Int) (smtVal : Text) :
    Script PUnit := do
  ignored tool (.smt smtVal)
  let coresAfterSmt ← getCoresInfo tool
  let coresOnlineAfter := coresAfterSmt.coresOn
  noteUnless (coresOnlineAfter = actualOnlineCores) ("SMT=".toList ++ smtVal ++
    " changed online core count from ".toList ++ str actualOnlineCores ++ " to ".toList ++
    str coresOnlineAfter)
  let verified ← verify tool (some (settings.expectedSmt smtVal)) (some coresOnlineAfter)
  noteUnless (verified = true) ("Verification failed for SMT=".toList ++ smtVal ++
    " with specific cores offline".toList)

/-- `test_specific_cores_offline_with_smt`, with the cores that are chosen in each iteration. If
they cannot be taken offline the iteration is passed over. -/
def specificCoresOfflineWithSmt (settings : Settings) (choices : List (List Nat)) :
    Script PUnit :=
  if settings.totalCores < 5 then pure ⟨⟩
  else do
    resetSystemState tool
    forEach (fun coresToOffline => do
      system tool .coresOnAll
      let exitStatus ← run tool
        (.offlineCores (coresToOffline.mergeSort fun a b => decide (a ≤ b)))
      if exitStatus ≠ 0 then pure ⟨⟩
      else do
        let coresInfo ← getCoresInfo tool
        forEach (offlineRound tool settings coresInfo.coresOn) settings.allSmtValues) choices
    resetSystemState tool
    failIfFailures "Specific cores offline test failed".toList

/-! ### Contracts of the parts -/

section Contracts

variable {tool : Tool} {maxSmt total cores threads : Nat}

/-- Something holds, and nothing is noted. -/
theorem ensures_noteUnless {before : Run → Prop} {condition : Prop} [Decidable condition]
    {failure : Text} (holds : condition) :
    Ensures before (noteUnless condition failure) fun _ => before := by
  rw [noteUnless, if_pos holds]
  exact Ensures.pure fun _ assumed => assumed

/-- The mode of a value. -/
theorem exists_means (capable : 2 ≤ maxSmt) {settings : Settings}
    (same : settings.maxSmtValue = maxSmt) {smtVal : Text}
    (member : smtVal ∈ settings.allSmtValues) :
    ∃ newThreads, Means maxSmt smtVal newThreads ∧
      settings.expectedSmt smtVal = modeText newThreads := by
  have notOne : maxSmt ≠ 1 := by omega
  simp only [Settings.allSmtValues, List.cons_append, List.mem_cons, List.mem_append,
    List.mem_map, List.mem_range, List.not_mem_nil, or_false] at member
  rcases member with rfl | ⟨i, inRange, rfl⟩ | rfl
  · exact ⟨1, Or.inl ⟨rfl, rfl⟩, by simp [Settings.expectedSmt, modeText]⟩
  · refine ⟨i + 2, Or.inr (Or.inr ⟨rfl, by omega, by omega⟩), ?_⟩
    have digits := decimal_digits (i + 2)
    have notOff : decimal (i + 2) ≠ off := fun same =>
      absurd (digits 'o' (same ▸ by simp [off])) (by decide)
    have notOn : decimal (i + 2) ≠ on := fun same =>
      absurd (digits 'o' (same ▸ by simp [on])) (by decide)
    simp [Settings.expectedSmt, modeText, notOff, notOn]
  · refine ⟨maxSmt, Or.inr (Or.inl ⟨rfl, rfl⟩), ?_⟩
    simp [Settings.expectedSmt, modeText, same, notOne, on, off, str]

/-- The values that some tests name have modes. -/
theorem exists_means_named (capable : 4 ≤ maxSmt) {smtVal : Text} (member : smtVal ∈ namedValues) :
    ∃ newThreads, Means maxSmt smtVal newThreads := by
  simp only [namedValues, List.mem_cons, List.not_mem_nil, or_false] at member
  rcases member with rfl | rfl | rfl | rfl
  · exact ⟨1, Or.inl ⟨rfl, rfl⟩⟩
  · exact ⟨2, Or.inr (Or.inr ⟨rfl, by omega, by omega⟩)⟩
  · exact ⟨4, Or.inr (Or.inr ⟨rfl, by omega, by omega⟩)⟩
  · exact ⟨maxSmt, Or.inr (Or.inl ⟨rfl, rfl⟩)⟩

/-- The highest mode. -/
theorem means_on : Means maxSmt on maxSmt := Or.inr (Or.inl ⟨rfl, rfl⟩)

/-- The mode without threads. -/
theorem means_off : Means maxSmt off 1 := Or.inl ⟨rfl, rfl⟩

variable (documented : Documented tool maxSmt)
include documented

/-- Setting the mode. -/
theorem system_smt {smtVal : Text} {newThreads : Nat} (means : Means maxSmt smtVal newThreads) :
    Ensures (Standing maxSmt total cores threads) (system tool (.smt smtVal))
      fun _ => Standing maxSmt total cores newThreads :=
  ensures_system (run_smt documented means)

/-- Setting the mode without looking at the exit status. -/
theorem ignored_smt {smtVal : Text} {newThreads : Nat} (means : Means maxSmt smtVal newThreads) :
    Ensures (Standing maxSmt total cores threads) (ignored tool (.smt smtVal))
      fun _ => Standing maxSmt total cores newThreads :=
  ensures_ignored ((run_smt documented means).imp fun _ _ holds => holds.2)

/-- Setting the number of online cores. -/
theorem system_coresOn {count : Nat} (some_ : 1 ≤ count) (enough : count ≤ total) :
    Ensures (Standing maxSmt total cores threads) (system tool (.coresOn count))
      fun _ => Standing maxSmt total count threads :=
  ensures_system (run_coresOn documented some_ enough)

/-- Setting all cores online. -/
theorem system_coresOnAll :
    Ensures (Standing maxSmt total cores threads) (system tool .coresOnAll)
      fun _ => Standing maxSmt total total threads :=
  ensures_system (run_coresOnAll documented)

/-- The clean state. -/
theorem ensures_resetSystemState :
    Ensures (Standing maxSmt total cores threads) (resetSystemState tool)
      fun _ => Standing maxSmt total total maxSmt :=
  (system_coresOnAll documented).bind fun _ => system_smt documented means_on

end Contracts

/-! ### Contracts of the tests -/

/-- So many cores are online, in some mode. -/
def Cores (maxSmt total cores : Nat) (state : Run) : Prop :=
  ∃ threads, Standing maxSmt total cores threads state

/-- Some cores are online, in some mode. -/
def Stands (maxSmt total : Nat) (state : Run) : Prop := ∃ cores, Cores maxSmt total cores state

section Tests

variable {tool : Tool} {maxSmt total cores threads : Nat}

/-- What stands in some mode. -/
theorem standing_cores {state : Run} (standing : Standing maxSmt total cores threads state) :
    Cores maxSmt total cores state := ⟨threads, standing⟩

/-- What stands with some cores. -/
theorem standing_stands {state : Run} (standing : Standing maxSmt total cores threads state) :
    Stands maxSmt total state := ⟨cores, threads, standing⟩

/-- A loop in which some cores stay online. -/
theorem ensures_forEach_cores {α : Type} {body : α → Script PUnit} {values : List α}
    (round : ∀ value ∈ values, ∀ threads,
      Ensures (Standing maxSmt total cores threads) (body value)
        fun _ => Cores maxSmt total cores) :
    Ensures (Standing maxSmt total cores threads) (forEach body values)
      fun _ => Cores maxSmt total cores :=
  (Ensures.forEach fun value member => Ensures.exists (round value member)).weaken
    (fun _ => standing_cores) fun _ _ holds => holds

/-- A loop in which cores are set on- and offline. -/
theorem ensures_forEach_stands {α : Type} {body : α → Script PUnit} {values : List α}
    (round : ∀ value ∈ values, ∀ cores threads,
      Ensures (Standing maxSmt total cores threads) (body value) fun _ => Stands maxSmt total) :
    Ensures (Standing maxSmt total cores threads) (forEach body values)
      fun _ => Stands maxSmt total :=
  (Ensures.forEach fun value member => Ensures.exists fun cores => Ensures.exists
    (round value member cores)).weaken (fun _ => standing_stands) fun _ _ holds => holds

/-- What comes after a loop, in whatever mode and with whatever cores. -/
theorem ensures_after_stands {script : Script PUnit} {after : PUnit → Run → Prop}
    (ensured : ∀ cores threads, Ensures (Standing maxSmt total cores threads) script after) :
    Ensures (Stands maxSmt total) script after :=
  Ensures.exists fun cores => Ensures.exists fun threads => ensured cores threads

/-- Part of the cores, but at least one. -/
theorem percent_bounds (someCores : 1 ≤ total) {p : Nat} (part : p ≤ 100) :
    1 ≤ percent total p ∧ percent total p ≤ total := by
  have atMost : total * p / 100 ≤ total :=
    Nat.div_le_of_le_mul (by nlinarith)
  exact ⟨Nat.le_max_left _ _, Nat.max_le.mpr ⟨someCores, atMost⟩⟩

/-- The numbers of cores are in range. -/
theorem mem_coreCounts {totalCores count : Nat} (member : count ∈ coreCounts totalCores) :
    1 ≤ count ∧ count ≤ totalCores := by
  simp only [coreCounts, List.mem_eraseDups, List.mem_filter, decide_eq_true_eq] at member
  refine ⟨?_, member.2⟩
  have listed := member.1
  by_cases more : totalCores > 1
  · simp [more, percent] at listed
    omega
  · simp [more, percent] at listed
    omega

/-- The numbers of cores that come online step by step are in range. -/
theorem mem_progressiveCounts {totalCores count : Nat} (many : 3 ≤ totalCores)
    (member : count ∈ progressiveCounts totalCores) : 1 ≤ count ∧ count ≤ totalCores := by
  simp only [progressiveCounts, List.mem_eraseDups, List.mem_cons, List.not_mem_nil,
    or_false] at member
  omega

variable (documented : Documented tool maxSmt)
include documented

/-- The loop over the modes. -/
theorem ensures_smtLoop (loop : Nat) :
    Ensures (Standing maxSmt total cores threads) (smtLoop tool loop)
      fun _ => Stands maxSmt total := by
  refine ensures_forEach_stands fun _ _ cores threads => ?_
  refine (system_smt documented means_off).bind fun _ => ?_
  exact (system_smt documented means_on).imp fun _ _ => standing_stands

/-- One core stays one core. -/
theorem ensures_singleCoreSmt (capable : 4 ≤ maxSmt) (someCores : 1 ≤ total) :
    Ensures (Standing maxSmt total cores threads) (singleCoreSmt tool)
      fun _ => Stands maxSmt total := by
  obtain ⟨print, prints⟩ := documented.coresOnPrinted
  have looks (threads : Nat) : Ensures (Standing maxSmt total 1 threads)
      (get : Script Run) fun result state => onlineCores result.machine = 1 ∧
        Standing maxSmt total 1 threads state :=
    Ensures.get fun _ standing => ⟨standing.online, standing⟩
  obtain ⟨twoThreads, meansTwo⟩ := exists_means_named capable (by simp [namedValues] : two ∈ _)
  obtain ⟨fourThreads, meansFour⟩ := exists_means_named capable (by simp [namedValues] : four ∈ _)
  refine (ensures_resetSystemState documented).bind fun _ => ?_
  refine (system_coresOn documented le_rfl someCores).bind fun _ => ?_
  refine (looks _).bind fun before => Ensures.assuming fun oneBefore => ?_
  refine (system_smt documented meansTwo).bind fun _ => ?_
  refine (system_smt documented meansFour).bind fun _ => ?_
  refine (looks _).bind fun after => Ensures.assuming fun oneAfter => ?_
  have same : tool.coresOn before.machine = tool.coresOn after.machine := by
    rw [prints, prints, oneBefore, oneAfter]
  exact (Ensures.demand (by rw [same])).imp fun _ _ => standing_stands

/-- The modes with parts of the cores. -/
theorem ensures_smtWithCoreOperations (capable : 4 ≤ maxSmt) (someCores : 1 ≤ total) :
    Ensures (Standing maxSmt total cores threads) (smtWithCoreOperations tool)
      fun _ => Stands maxSmt total := by
  refine (ensures_getCoresInfo documented).bind fun coresInfo => Ensures.assuming ?_
  rintro rfl
  refine ensures_forEach_stands fun numCores member cores threads => ?_
  have bounds : 1 ≤ numCores ∧ numCores ≤ total := by
    simp only [List.map_cons, List.map_nil, List.mem_cons, List.not_mem_nil, or_false,
      Int.toNat_natCast] at member
    rcases member with rfl | rfl | rfl | rfl | rfl <;> exact percent_bounds someCores (by decide)
  refine (system_coresOn documented bounds.1 bounds.2).bind fun _ => ?_
  refine (ensures_forEach_cores fun smtVal named threads => ?_).imp fun _ _ holds => ⟨_, holds⟩
  obtain ⟨newThreads, means⟩ := exists_means_named capable named
  refine (system_smt documented means).bind fun _ => ?_
  refine (ensures_verify documented (by simp) (by simp)).bind fun verified =>
    Ensures.assuming fun passed => ?_
  exact (Ensures.demand passed).imp fun _ _ => standing_cores

/-- What may be chosen in `test_parallel_smt_core_stress`. -/
def StressChoice.Valid (total : Nat) : StressChoice → Prop
  | .smt smtVal => smtVal ∈ namedValues
  | .cores numCores => 1 ≤ numCores ∧ numCores ≤ total
  | .both smtVal numCores => smtVal ∈ namedValues ∧ 1 ≤ numCores ∧ numCores ≤ total

/-- An operation by chance. -/
theorem ensures_stressChoice (capable : 4 ≤ maxSmt) {choice : StressChoice}
    (valid : choice.Valid total) :
    Ensures (Standing maxSmt total cores threads) (choice.operate tool)
      fun _ => Stands maxSmt total := by
  cases choice with
  | smt smtVal =>
    obtain ⟨newThreads, means⟩ := exists_means_named capable valid
    exact (system_smt documented means).imp fun _ _ => standing_stands
  | cores numCores =>
    exact (system_coresOn documented valid.1 valid.2).imp fun _ _ => standing_stands
  | both smtVal numCores =>
    obtain ⟨newThreads, means⟩ := exists_means_named capable valid.1
    refine (ensures_getCoresInfo documented).bind fun coresBefore => Ensures.assuming ?_
    rintro rfl
    refine (system_smt documented means).bind fun _ => ?_
    refine (ensures_getCoresInfo documented).bind fun coresAfter => Ensures.assuming ?_
    rintro rfl
    refine (Ensures.demand rfl).bind fun _ => ?_
    exact (system_coresOn documented valid.2.1 valid.2.2).imp fun _ _ => standing_stands

/-- The operations by chance, with a verification after each. -/
theorem ensures_parallelSmtCoreStress (capable : 4 ≤ maxSmt) {choices : List StressChoice}
    (valid : ∀ choice ∈ choices, choice.Valid total) :
    Ensures (Standing maxSmt total cores threads) (parallelSmtCoreStress tool choices)
      fun _ => Stands maxSmt total := by
  refine (ensures_getCoresInfo documented).bind fun coresInfo => Ensures.assuming fun _ => ?_
  refine ensures_forEach_stands fun numbered member cores threads => ?_
  have chosen : numbered.1 ∈ choices := List.fst_mem_of_mem_zipIdx member
  refine (ensures_stressChoice documented capable (valid _ chosen)).bind fun _ =>
    ensures_after_stands fun cores threads => ?_
  refine (ensures_verify documented (by simp) (by simp)).bind fun verified =>
    Ensures.assuming fun passed => ?_
  exact (Ensures.demand passed).imp fun _ _ => standing_stands

/-- The first numbers of cores. -/
theorem ensures_coreRangeOperations (someCores : 1 ≤ total) :
    Ensures (Standing maxSmt total cores threads) (coreRangeOperations tool)
      fun _ => Stands maxSmt total := by
  refine (ensures_getCoresInfo documented).bind fun coresInfo => Ensures.assuming ?_
  rintro rfl
  refine ensures_forEach_stands fun count member cores threads => ?_
  have positive : 1 ≤ count := by
    simp only [List.mem_cons, List.not_mem_nil, or_false, Int.toNat_natCast] at member
    omega
  refine Ensures.ite (fun _ => Ensures.pure fun _ => standing_stands) fun inRange => ?_
  refine (system_coresOn documented positive (by simpa using inRange)).bind fun _ => ?_
  refine (ensures_readCoresOn documented).bind fun actualCores => Ensures.assuming fun same => ?_
  refine (Ensures.demand same).bind fun _ => ?_
  refine (ensures_verify documented (by simp) (by simp)).bind fun verified =>
    Ensures.assuming fun passed => ?_
  exact (Ensures.demand passed).imp fun _ _ => standing_stands

/-- All modes. -/
theorem ensures_allSmtOperations {settings : Settings} (same : settings.maxSmtValue = maxSmt) :
    Ensures (Standing maxSmt total cores threads) (allSmtOperations tool settings)
      fun _ => Stands maxSmt total := by
  refine (ensures_forEach_stands fun smtVal member cores threads => ?_).bind fun _ =>
    ensures_after_stands fun cores threads => ensures_failIfFailures.imp fun _ _ => standing_stands
  obtain ⟨newThreads, means, expected⟩ := exists_means documented.capable same member
  refine (run_smt documented means).bind fun exitStatus => Ensures.assuming fun ran => ?_
  refine Ensures.ite (fun failed => absurd ran failed) fun _ => ?_
  refine (ensures_verify documented (by simp [expected]) (by simp)).bind fun verified =>
    Ensures.assuming fun passed => ?_
  exact (ensures_noteUnless passed).imp fun _ _ => standing_stands

/-- The numbers of cores by percentage. -/
theorem ensures_dynamicCoreOperations {settings : Settings} (same : settings.totalCores = total) :
    Ensures (Standing maxSmt total cores threads) (dynamicCoreOperations tool settings)
      fun _ => Stands maxSmt total := by
  refine (system_coresOnAll documented).bind fun _ => ?_
  refine (ensures_forEach_stands fun coresCount member cores threads => ?_).bind fun _ =>
    ensures_after_stands fun cores threads => ?_
  · have bounds := mem_coreCounts member
    rw [same] at bounds
    refine (run_coresOn documented bounds.1 bounds.2).bind fun exitStatus =>
      Ensures.assuming fun ran => ?_
    refine Ensures.ite (fun failed => absurd ran failed) fun _ => ?_
    refine (ensures_verify documented (by simp) (by simp)).bind fun verified =>
      Ensures.assuming fun passed => ?_
    exact (ensures_noteUnless passed).imp fun _ _ => standing_stands
  · refine (system_coresOnAll documented).bind fun _ => ?_
    exact ensures_failIfFailures.imp fun _ _ => standing_stands

/-- The modes with half of the cores. -/
theorem ensures_smtCoreInteraction {settings : Settings} (sameMax : settings.maxSmtValue = maxSmt)
    (sameTotal : settings.totalCores = total) (someCores : 1 ≤ total) (stressIterations : Nat) :
    Ensures (Standing maxSmt total cores threads)
      (smtCoreInteraction tool settings stressIterations) fun _ => Stands maxSmt total := by
  refine (ensures_resetSystemState documented).bind fun _ => ?_
  refine (ensures_forEach_stands fun _ _ cores threads => ?_).bind fun _ =>
    ensures_after_stands fun cores threads => ensures_failIfFailures.imp fun _ _ => standing_stands
  have half : 1 ≤ max 1 (settings.totalCores / 2) ∧ max 1 (settings.totalCores / 2) ≤ total := by
    omega
  refine (system_coresOn documented half.1 half.2).bind fun _ => ?_
  refine (ensures_getCoresInfo documented).bind fun coresBefore => Ensures.assuming ?_
  rintro rfl
  refine (ensures_forEach_cores fun smtVal member threads => ?_).bind fun _ =>
    Ensures.exists fun threads =>
      (system_coresOnAll documented).imp fun _ _ => standing_stands
  obtain ⟨newThreads, means, expected⟩ := exists_means documented.capable sameMax member
  refine (ignored_smt documented means).bind fun _ => ?_
  refine (ensures_getCoresInfo documented).bind fun coresAfter => Ensures.assuming ?_
  rintro rfl
  refine (ensures_noteUnless rfl).bind fun _ => ?_
  refine (ensures_verify documented (by simp [expected]) (by simp)).bind fun verified => ?_
  exact Ensures.pure fun _ holds => standing_cores holds.2

/-- What may be chosen in `test_random_stress`. -/
def RandomChoice.Valid (settings : Settings) : RandomChoice → Prop
  | .smt smtVal => smtVal ∈ settings.allSmtValues
  | .coreCount coresCount => 1 ≤ coresCount ∧ coresCount ≤ settings.totalCores
  | .verify => True

/-- An iteration by chance. Whichever operation is drawn, it notes no failure, and some cores are
online in some mode afterwards, which is what the next iteration needs. -/
theorem ensures_randomChoice {settings : Settings} (sameMax : settings.maxSmtValue = maxSmt)
    (sameTotal : settings.totalCores = total) {choice : RandomChoice}
    (valid : choice.Valid settings) (iteration : Nat) :
    Ensures (Standing maxSmt total cores threads) (choice.operate tool iteration)
      fun _ => Stands maxSmt total := by
  cases choice with
  | smt smtVal =>
    obtain ⟨newThreads, means, -⟩ := exists_means documented.capable sameMax valid
    refine (ensures_getCoresInfo documented).bind fun coresBefore => Ensures.assuming ?_
    rintro rfl
    refine (ignored_smt documented means).bind fun _ => ?_
    refine (ensures_getCoresInfo documented).bind fun coresAfter => Ensures.assuming ?_
    rintro rfl
    exact (ensures_noteUnless rfl).imp fun _ _ => standing_stands
  | coreCount coresCount =>
    have inRange : coresCount ≤ total := sameTotal ▸ valid.2
    refine (ensures_getCurrentSmt documented).bind fun smtBefore => Ensures.assuming ?_
    rintro rfl
    refine (ensures_ignored ((run_coresOn documented valid.1 inRange).imp
      fun _ _ holds => holds.2)).bind fun _ => ?_
    refine (ensures_getCurrentSmt documented).bind fun smtAfter => Ensures.assuming ?_
    rintro rfl
    exact (ensures_noteUnless rfl).imp fun _ _ => standing_stands
  | verify =>
    refine (ensures_verify documented (by simp) (by simp)).bind fun verified =>
      Ensures.assuming fun passed => ?_
    exact (ensures_noteUnless passed).imp fun _ _ => standing_stands

/-- The iterations by chance. -/
theorem ensures_randomStress {settings : Settings} (sameMax : settings.maxSmtValue = maxSmt)
    (sameTotal : settings.totalCores = total) (runRandomStress : Bool)
    {choices : List RandomChoice} (valid : ∀ choice ∈ choices, choice.Valid settings) :
    Ensures (Standing maxSmt total cores threads) (randomStress tool runRandomStress choices)
      fun _ => Stands maxSmt total := by
  refine Ensures.ite (fun _ => Ensures.pure fun _ => standing_stands) fun _ => ?_
  refine (ensures_resetSystemState documented).bind fun _ => ?_
  refine (ensures_forEach_stands fun numbered member cores threads => ?_).bind fun _ =>
    ensures_after_stands fun cores threads => ensures_failIfFailures.imp fun _ _ => standing_stands
  exact ensures_randomChoice documented sameMax sameTotal
    (valid _ (List.fst_mem_of_mem_zipIdx member)) numbered.2

/-- More and more cores come online. With each number of cores all the modes are set, and neither
the number nor the mode is other than expected, so no failure is noted. -/
theorem ensures_progressiveCoreOnlineWithSmt {settings : Settings}
    (sameMax : settings.maxSmtValue = maxSmt) (sameTotal : settings.totalCores = total) :
    Ensures (Standing maxSmt total cores threads) (progressiveCoreOnlineWithSmt tool settings)
      fun _ => Stands maxSmt total := by
  refine Ensures.ite (fun _ => Ensures.pure fun _ => standing_stands) fun many => ?_
  refine (system_coresOn documented le_rfl (by omega)).bind fun _ => ?_
  refine (ensures_forEach_cores fun smtVal member threads => ?_).bind fun _ =>
    Ensures.exists fun threads => ?_
  · obtain ⟨newThreads, means, expected⟩ := exists_means documented.capable sameMax member
    refine (ignored_smt documented means).bind fun _ => ?_
    refine (ensures_verify documented (by simp [expected]) (by simp)).bind fun verified =>
      Ensures.assuming fun passed => ?_
    exact (ensures_noteUnless passed).imp fun _ _ => standing_cores
  refine (ensures_forEach_stands fun coreCount member cores threads => ?_).bind fun _ =>
    ensures_after_stands fun cores threads => ?_
  · have bounds := mem_progressiveCounts (by omega) (List.mem_mergeSort.mp member)
    refine (system_coresOn documented bounds.1 (sameTotal ▸ bounds.2)).bind fun _ => ?_
    refine (ensures_getCoresInfo documented).bind fun coresInfo => Ensures.assuming ?_
    rintro rfl
    refine (ensures_forEach_cores fun smtVal member threads => ?_).imp
      fun _ _ holds => ⟨_, holds⟩
    obtain ⟨newThreads, means, expected⟩ := exists_means documented.capable sameMax member
    refine (ignored_smt documented means).bind fun _ => ?_
    refine (ensures_getCoresInfo documented).bind fun coresAfter => Ensures.assuming ?_
    rintro rfl
    refine (ensures_noteUnless rfl).bind fun _ => ?_
    refine (ensures_verify documented (by simp [expected]) (by simp)).bind fun verified =>
      Ensures.assuming fun passed => ?_
    exact (ensures_noteUnless passed).imp fun _ _ => standing_cores
  · refine (system_coresOnAll documented).bind fun _ => ?_
    exact ensures_failIfFailures.imp fun _ _ => standing_stands

/-- Chosen cores go offline, but not all of them: the choices name fewer cores than there are, so
one is online whenever a mode is set and verified. -/
theorem ensures_specificCoresOfflineWithSmt {settings : Settings}
    (sameMax : settings.maxSmtValue = maxSmt) {choices : List (List Nat)}
    (fewer : ∀ coresToOffline ∈ choices, coresToOffline.length < total) :
    Ensures (Standing maxSmt total cores threads)
      (specificCoresOfflineWithSmt tool settings choices) fun _ => Stands maxSmt total := by
  refine Ensures.ite (fun _ => Ensures.pure fun _ => standing_stands) fun _ => ?_
  refine (ensures_resetSystemState documented).bind fun _ => ?_
  refine (ensures_forEach_stands fun coresToOffline member cores threads => ?_).bind fun _ =>
    ensures_after_stands fun cores threads => ?_
  · refine (system_coresOnAll documented).bind fun _ => ?_
    have named : (coresToOffline.mergeSort fun a b => decide (a ≤ b)).length < total := by
      rw [List.length_mergeSort]
      exact fewer coresToOffline member
    refine (run_offlineCores documented named).bind fun exitStatus =>
      Ensures.exists fun online => ?_
    refine Ensures.ite (fun _ => Ensures.pure fun _ => standing_stands) fun _ => ?_
    refine (ensures_getCoresInfo documented).bind fun coresInfo => Ensures.assuming ?_
    rintro rfl
    refine (ensures_forEach_cores fun smtVal member threads => ?_).imp
      fun _ _ holds => ⟨_, holds⟩
    obtain ⟨newThreads, means, expected⟩ := exists_means documented.capable sameMax member
    refine (ignored_smt documented means).bind fun _ => ?_
    refine (ensures_getCoresInfo documented).bind fun coresAfter => Ensures.assuming ?_
    rintro rfl
    refine (ensures_noteUnless rfl).bind fun _ => ?_
    refine (ensures_verify documented (by simp [expected]) (by simp)).bind fun verified =>
      Ensures.assuming fun passed => ?_
    exact (ensures_noteUnless passed).imp fun _ _ => standing_cores
  · refine (ensures_resetSystemState documented).bind fun _ => ?_
    exact ensures_failIfFailures.imp fun _ _ => standing_stands

end Tests

/-! ### No false alarms -/

/-- A test, with what is configured and chosen by chance, so that a result about all of them is
about every configuration and every choice. -/
inductive TestCase where
  | smtLoop (loop : Nat)
  | singleCoreSmt
  | smtWithCoreOperations
  | parallelSmtCoreStress (choices : List StressChoice)
  | coreRangeOperations
  | allSmtOperations
  | dynamicCoreOperations
  | smtCoreInteraction (stressIterations : Nat)
  | randomStress (runRandomStress : Bool) (choices : List RandomChoice)
  | progressiveCoreOnlineWithSmt
  | specificCoresOfflineWithSmt (choices : List (List Nat))

/-- The script of the test. -/
def TestCase.script (tool : Tool) (settings : Settings) : TestCase → Script PUnit
  | .smtLoop loop => WholeTests.smtLoop tool loop
  | .singleCoreSmt => WholeTests.singleCoreSmt tool
  | .smtWithCoreOperations => WholeTests.smtWithCoreOperations tool
  | .parallelSmtCoreStress choices => WholeTests.parallelSmtCoreStress tool choices
  | .coreRangeOperations => WholeTests.coreRangeOperations tool
  | .allSmtOperations => WholeTests.allSmtOperations tool settings
  | .dynamicCoreOperations => WholeTests.dynamicCoreOperations tool settings
  | .smtCoreInteraction stressIterations =>
    WholeTests.smtCoreInteraction tool settings stressIterations
  | .randomStress runRandomStress choices => WholeTests.randomStress tool runRandomStress choices
  | .progressiveCoreOnlineWithSmt => WholeTests.progressiveCoreOnlineWithSmt tool settings
  | .specificCoresOfflineWithSmt choices =>
    WholeTests.specificCoresOfflineWithSmt tool settings choices

/-- What is chosen is in range, and a test that names the mode `4` runs where there are four
threads. -/
def TestCase.Fits (maxSmt total : Nat) : TestCase → Prop
  | .singleCoreSmt | .smtWithCoreOperations => 4 ≤ maxSmt
  | .parallelSmtCoreStress choices => 4 ≤ maxSmt ∧ ∀ choice ∈ choices, choice.Valid total
  | .randomStress _ choices => ∀ choice ∈ choices, choice.Valid ⟨maxSmt, total⟩
  | .specificCoresOfflineWithSmt choices =>
    ∀ coresToOffline ∈ choices, coresToOffline.length < total
  | _ => True

/-- All cores are online, with all threads. -/
def Restored (maxSmt total : Nat) (machine : Machine) : Prop :=
  machine = List.replicate total maxSmt

/-- When all cores are online and have all threads, the machine is restored. -/
theorem restored_of_standing {maxSmt total : Nat} {state : Run}
    (standing : Standing maxSmt total total maxSmt state) :
    Restored maxSmt total state.machine := by
  refine List.eq_replicate_iff.mpr ⟨standing.length, fun count member => ?_⟩
  have allOnline : (state.machine.filter (0 < ·)) = state.machine :=
    List.filter_sublist.eq_of_length (standing.online.trans standing.length.symm)
  have online : 0 < count := by
    rw [← allOnline] at member
    simpa using (List.mem_filter.mp member).2
  rcases standing.even count member with offline | same
  · omega
  · exact same

section Alarms

variable {tool : Tool} {maxSmt total : Nat} (documented : Documented tool maxSmt)
include documented

/-- No test fails in the state that `setUp` leaves. -/
theorem ensures_script (testCase : TestCase) (fits : testCase.Fits maxSmt total)
    (someCores : 1 ≤ total) {cores threads : Nat} :
    Ensures (Standing maxSmt total cores threads) (testCase.script tool ⟨maxSmt, total⟩)
      fun _ => Stands maxSmt total := by
  cases testCase with
  | smtLoop loop => exact ensures_smtLoop documented loop
  | singleCoreSmt => exact ensures_singleCoreSmt documented fits someCores
  | smtWithCoreOperations => exact ensures_smtWithCoreOperations documented fits someCores
  | parallelSmtCoreStress choices =>
    exact ensures_parallelSmtCoreStress documented fits.1 fits.2
  | coreRangeOperations => exact ensures_coreRangeOperations documented someCores
  | allSmtOperations => exact ensures_allSmtOperations documented rfl
  | dynamicCoreOperations => exact ensures_dynamicCoreOperations documented rfl
  | smtCoreInteraction stressIterations =>
    refine ensures_smtCoreInteraction documented ?_ ?_ someCores stressIterations <;> rfl
  | randomStress runRandomStress choices =>
    exact ensures_randomStress documented rfl rfl runRandomStress fits
  | progressiveCoreOnlineWithSmt =>
    exact ensures_progressiveCoreOnlineWithSmt documented rfl rfl
  | specificCoresOfflineWithSmt choices =>
    exact ensures_specificCoresOfflineWithSmt documented rfl fits

/-- A machine with an online core. -/
def Running (total : Nat) (state : Run) : Prop :=
  state.machine.length = total ∧ 0 < onlineCores state.machine

/-- `setUp` finds the highest mode and the number of cores. It sets the mode `on` first, so what it
reads then is the highest one, and it forgets failures of before. -/
theorem ensures_setUp : Ensures (Running total) (setUp tool)
    fun settings state => settings = ⟨maxSmt, total⟩ ∧
      ∃ cores, Standing maxSmt total cores maxSmt state := by
  have capable := documented.capable
  -- the state after the mode is set, where failures of the beginning may still be on record
  let Set_ (state : Run) : Prop :=
    state.machine.length = total ∧ 0 < onlineCores state.machine ∧ EachHas maxSmt state.machine
  have setOn : Ensures (Running total) (run tool (.smt on))
      fun exitStatus state => exitStatus = 0 ∧ Set_ state := by
    refine ensures_run fun state running => ?_
    obtain ⟨after, answered, becomes⟩ := documented.smt state.machine on maxSmt means_on
    exact ⟨0, after, answered, rfl, becomes.length.trans running.1,
      becomes.online.symm ▸ running.2, becomes.even⟩
  have looks : Ensures Set_ (get : Script Run) fun result state =>
      (0 < onlineCores result.machine ∧ EachHas maxSmt result.machine) ∧ Set_ state :=
    Ensures.get fun _ set_ => ⟨set_.2, set_⟩
  refine (ensures_system setOn).bind fun _ => looks.bind fun seen => Ensures.assuming fun fact => ?_
  have text : modeText maxSmt = decimal maxSmt := if_neg (by omega)
  have mode : currentSmt (tool.smt seen.machine) = some (decimal maxSmt) := by
    rw [← text]
    exact currentSmt_of_endsWith (documented.shows seen.machine maxSmt fact.2 fact.1 (by omega)).smt
  have number : int (decimal maxSmt) = some (maxSmt : Int) :=
    int_blank_decimal (fun _ nothing => absurd nothing List.not_mem_nil) maxSmt
  refine (Ensures.demand (documented.smtCapable _)).bind fun _ => ?_
  refine (Ensures.demand (documented.consistent _ _ fact.2)).bind fun _ => ?_
  rw [mode]
  refine (ensures_read_some _).bind fun currSmt => Ensures.assuming ?_
  rintro rfl
  have stands : Ensures Set_ (modify fun state : Run =>
      { state with currSmt := some (decimal maxSmt), failures := [] } : Script PUnit)
      fun _ state => ∃ cores, Standing maxSmt total cores maxSmt state :=
    Ensures.modify fun state set_ => ⟨onlineCores state.machine, set_.2.2, set_.1, rfl, set_.2.1,
      ⟨by omega, le_rfl⟩, rfl, rfl⟩
  refine stands.bind fun _ => ?_
  rw [number]
  refine (ensures_read_some _).bind fun maxSmtValue => Ensures.assuming ?_
  rintro rfl
  have length (state : Run) (standing : ∃ cores, Standing maxSmt total cores maxSmt state) :
      state.machine.length = total := standing.choose_spec.length
  refine (ensures_readCoresPresent documented length).bind fun totalCores => Ensures.assuming ?_
  rintro rfl
  exact Ensures.pure fun state standing => ⟨rfl, standing⟩

/-- `tearDown` restores the machine. -/
theorem ensures_tearDown : Ensures (Stands maxSmt total) (tearDown tool)
    fun _ state => state.failures = [] ∧ Restored maxSmt total state.machine := by
  refine ensures_after_stands fun cores threads => ?_
  have capable := documented.capable
  have looks : Ensures (Standing maxSmt total total threads) (get : Script Run) fun result state =>
      result.currSmt = some (decimal maxSmt) ∧ Standing maxSmt total total threads state :=
    Ensures.get fun _ standing => ⟨standing.currSmt, standing⟩
  have allOnline : Ensures (Standing maxSmt total cores threads) (ignored tool .coresOnAll)
      fun _ => Standing maxSmt total total threads :=
    ensures_ignored ((run_coresOnAll documented).imp fun _ _ holds => holds.2)
  refine allOnline.bind fun _ => looks.bind fun seen => Ensures.assuming fun found => ?_
  rw [found]
  refine (ensures_read_some _).bind fun currSmt => Ensures.assuming ?_
  rintro rfl
  have means : Means maxSmt (decimal maxSmt) maxSmt := Or.inr (Or.inr ⟨rfl, capable, le_rfl⟩)
  exact (ignored_smt documented means).imp fun _ state standing =>
    ⟨standing.clean, restored_of_standing standing⟩

/-- Where the command does what is documented, no test is stopped and no failure is on record,
whatever is chosen by chance. After `tearDown` all cores are online with all threads.

The command is assumed to do what it documents on a machine with two threads to a core or more, and
one core is online at first. A machine without SMT and commands that fail are not covered.

Proof: every part of a test leaves a core online and the cores as many as they were, and it verifies
the state that it has just set. -/
theorem no_false_alarm (testCase : TestCase) (fits : testCase.Fits maxSmt total) (state : Run)
    (running : Running total state) :
    let body := setUp tool >>= fun settings => testCase.script tool settings
    stopped body state = none ∧ stopped (tearDown tool) (leaves body state) = none ∧
      (leaves (tearDown tool) (leaves body state)).failures = [] ∧
      Restored maxSmt total (leaves (tearDown tool) (leaves body state)).machine := by
  intro body
  have someCores : 1 ≤ total := by
    rw [← running.1]
    exact running.2.trans_le (List.length_filter_le _ _)
  have contract : Ensures (Running total) body fun _ => Stands maxSmt total := by
    refine (ensures_setUp documented).bind fun settings => Ensures.assuming ?_
    rintro rfl
    exact Ensures.exists fun cores => ensures_script documented testCase fits someCores
  obtain ⟨-, stands⟩ := contract.leaves running
  obtain ⟨-, clean, restored⟩ := (ensures_tearDown documented).leaves stands
  exact ⟨contract.stopped running, (ensures_tearDown documented).stopped stands, clean, restored⟩

end Alarms

/-- Two of five cores go offline, on a machine with four threads for each core. -/
theorem no_false_alarm_offline :
    let testCase : TestCase := .specificCoresOfflineWithSmt [[1, 3]]
    let body := setUp (Printing.printingTool 4) >>= fun settings =>
      testCase.script (Printing.printingTool 4) settings
    let state : Run := ⟨[2, 2, 0, 2, 2], [], none⟩
    stopped body state = none ∧
      stopped (tearDown (Printing.printingTool 4)) (leaves body state) = none ∧
      (leaves (tearDown (Printing.printingTool 4)) (leaves body state)).failures = [] ∧
      Restored 4 5 (leaves (tearDown (Printing.printingTool 4)) (leaves body state)).machine := by
  have documented : Documented (Printing.printingTool 4) 4 :=
    Printing.documented_printingTool (by decide)
  have fits : (TestCase.specificCoresOfflineWithSmt [[1, 3]]).Fits 4 5 := by
    intro coresToOffline member
    rw [List.mem_singleton.mp member]
    decide
  exact no_false_alarm documented _ fits _ ⟨rfl, by decide⟩

end AvocadoMisc.Ppc64Cpu.WholeTests
