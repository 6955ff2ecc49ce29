import Mathlib.Data.List.Basic
import Mathlib.Data.Nat.Bitwise

/-!
# Verdicts on the cpumask of a performance monitor

`perf_cpu_hotplug.py` takes processors offline one by one and looks each time whether the
cpumask of the event still names an online one. `test_cpumask_cpu_off_random` picks the processor
at random, `test_cpumask_cpu_off_sequence` takes the one that the cpumask names. Both stop at the
first step that their check refuses.

The check of the sequence is one chained comparison, `new == (event | new) not in online`. It
refuses an offline cpumask only if the number of the offlined processor has no bit that the new
number lacks. The random test does not look whether the processor it offlined is gone.
-/

namespace AvocadoMisc.PerfHotplug.Cpumask

/-! ### What the tests read -/

/-- The two events. -/
inductive Event where
  | hv_24x7
  | hv_gpci
deriving DecidableEq

/-- What the kernel and the random source answer, by the moment of the question. -/
structure Answers where
  cpumask : Event → Nat → Nat
  onlineList : Nat → List Nat
  choice : Nat → Nat

/-- One step of a test: the processor it offlined, and what it read after that. -/
structure Step where
  event : Event
  offlined : Nat
  newEventCpu : Nat
  onlineCpus : List Nat

/-- The fields of the test, the number of questions asked, and the steps taken. -/
structure State where
  onlineCpus : List Nat
  cpuOff : List Nat
  moment : Nat
  steps : List Step

/-- Reasons to fail. -/
inductive Failure where
  | offliningFailed
  | pointsToOffline (event : Event)
deriving DecidableEq

/-- The text of the failure. -/
def Failure.text : Failure → String
  | .offliningFailed => "CPU offlining failed"
  | .pointsToOffline .hv_24x7 => "hv_24x7 points to an offline cpu"
  | .pointsToOffline .hv_gpci => "hv_gpci points to an offline cpu"

/-- How a loop ends. `random.choice` of an empty list raises an `IndexError`. -/
inductive Outcome where
  | continues (state : State)
  | failed (failure : Failure) (state : State)
  | raised (state : State)

/-- The state in which it ends. -/
def Outcome.state : Outcome → State
  | .continues state => state
  | .failed _ state => state
  | .raised state => state

/-- The test fails. -/
def Outcome.fails : Outcome → Bool
  | .failed _ _ => true
  | _ => false

/-! ### The two tests -/

/-- Offline a processor and read the cpumask and the online list. -/
def offlineStep (answers : Answers) (event : Event) (cpu : Nat) (state : State) : Step × State :=
  let newEventCpu := answers.cpumask event state.moment
  let onlineCpus := answers.onlineList (state.moment + 1)
  let step := ⟨event, cpu, newEventCpu, onlineCpus⟩
  (step, ⟨onlineCpus, state.cpuOff ++ [cpu], state.moment + 2, state.steps ++ [step]⟩)

/-- The random test draws the processor from the online list. -/
def randomStep (answers : Answers) (event : Event) (state : State) : Option (Step × State) :=
  match state.onlineCpus with
  | [] => none
  | first :: others =>
    let cpuno := (first :: others).getD
      (answers.choice state.moment % (first :: others).length) first
    some (offlineStep answers event cpuno { state with moment := state.moment + 1 })

/-- Its check. -/
def randomCheck (step : Step) : Option Failure :=
  if step.newEventCpu ∉ step.onlineCpus then some (.pointsToOffline step.event) else none

/-- The sequential test takes the processor that the cpumask names. -/
def sequenceStep (answers : Answers) (event : Event) (state : State) : Option (Step × State) :=
  let eventCpu := answers.cpumask event state.moment
  some (offlineStep answers event eventCpu { state with moment := state.moment + 1 })

/-- Its check. The bitwise operator binds more than the comparisons, and these are chained. -/
def sequenceCheck (step : Step) : Option Failure :=
  if step.offlined ∈ step.onlineCpus then some .offliningFailed
  else if step.newEventCpu = (step.offlined ||| step.newEventCpu) ∧
      (step.offlined ||| step.newEventCpu) ∉ step.onlineCpus then
    some (.pointsToOffline step.event)
  else none

/-- A number of steps, each checked. The loop ends at the first step that cannot be taken or whose
check fails. -/
def offlineLoop (take : State → Option (Step × State)) (check : Step → Option Failure) :
    Nat → State → Outcome
  | 0, state => .continues state
  | remaining + 1, state =>
    match take state with
    | none => .raised state
    | some (step, after) =>
      match check step with
      | some failure => .failed failure after
      | none => offlineLoop take check remaining after

/-- The processors are brought back; each time the online list is read. -/
def onlineLoop (answers : Answers) : List Nat → State → State
  | [], state => state
  | _ :: rest, state =>
    onlineLoop answers rest
      { state with onlineCpus := answers.onlineList state.moment, moment := state.moment + 1 }

/-- A test: for each event all but one of the online processors are taken offline. -/
def testLoop (answers : Answers) (take : Event → State → Option (Step × State))
    (check : Step → Option Failure) : List Event → State → Outcome
  | [], state => .continues state
  | event :: rest, state =>
    match offlineLoop (take event) check (state.onlineCpus.length - 1) state with
    | .continues after => testLoop answers take check rest (onlineLoop answers after.cpuOff after)
    | stopped => stopped

/-- `self.events`. -/
def events : List Event := [.hv_24x7, .hv_gpci]

/-- The state after `setUp`. -/
def setUp (onlineCpus : List Nat) : State := ⟨onlineCpus, [], 0, []⟩

/-- `test_cpumask_cpu_off_random`. -/
def testCpumaskCpuOffRandom (answers : Answers) (onlineCpus : List Nat) : Outcome :=
  testLoop answers (randomStep answers) randomCheck events (setUp onlineCpus)

/-- `test_cpumask_cpu_off_sequence`. -/
def testCpumaskCpuOffSequence (answers : Answers) (onlineCpus : List Nat) : Outcome :=
  testLoop answers (sequenceStep answers) sequenceCheck events (setUp onlineCpus)

/-! ### What a verdict says -/

/-- The offlined processor is still online, or the cpumask names one that is not. -/
def Step.Wrong (step : Step) : Prop :=
  step.offlined ∈ step.onlineCpus ∨ step.newEventCpu ∉ step.onlineCpus

/-- The test fails exactly if one of its steps went wrong, whether or not it noticed that one. -/
def Sound (outcome : Outcome) : Prop :=
  outcome.fails = true ↔ ∃ step ∈ outcome.state.steps, step.Wrong

/-- What the sequential test notices: the offlined processor is still online, or the cpumask
names an offline one whose number has every bit of the offlined one's. -/
def Step.Noticed (step : Step) : Prop :=
  step.offlined ∈ step.onlineCpus ∨
    (step.newEventCpu ∉ step.onlineCpus ∧
      ∀ bit, step.offlined.testBit bit = true → step.newEventCpu.testBit bit = true)

/-! ### A test fails at the first step that its check refuses -/

/-- Taking a step records it. -/
def Records (take : State → Option (Step × State)) : Prop :=
  ∀ state step after, take state = some (step, after) → after.steps = state.steps ++ [step]

/-- The random test takes a step when some processor is online. The step is recorded, and it has the
list that is online after it. -/
theorem randomStep_cases (answers : Answers) (event : Event) (state : State) :
    (randomStep answers event state = none ∧ state.onlineCpus = []) ∨
      ∃ step after, randomStep answers event state = some (step, after) ∧
        after.steps = state.steps ++ [step] ∧ after.onlineCpus = step.onlineCpus := by
  unfold randomStep
  split
  · next none_online => exact .inl ⟨rfl, none_online⟩
  · exact .inr ⟨_, _, rfl, rfl, rfl⟩

/-- The random test records its steps. -/
theorem randomStep_records (answers : Answers) (event : Event) :
    Records (randomStep answers event) := by
  intro state step after taken
  rcases randomStep_cases answers event state with ⟨none, _⟩ | ⟨_, _, ran, recorded, _⟩
  · rw [none] at taken
    cases taken
  · rw [ran] at taken
    cases taken
    exact recorded

/-- So does the sequential test. -/
theorem sequenceStep_records (answers : Answers) (event : Event) :
    Records (sequenceStep answers event) := by
  intro state step after taken
  cases Option.some.inj taken
  rfl

/-- The loop fails exactly if its check refuses one of the steps so far.

Proof: by induction on the remaining steps. The loop goes on only with steps that the check
accepts, so a refused one is the last. -/
theorem offlineLoop_fails_iff {take : State → Option (Step × State)} (records : Records take)
    (check : Step → Option Failure) (remaining : Nat) (state : State)
    (accepted : ∀ step ∈ state.steps, check step = none) :
    (offlineLoop take check remaining state).fails = true ↔
      ∃ step ∈ (offlineLoop take check remaining state).state.steps, check step ≠ none := by
  induction remaining generalizing state with
  | zero => simpa [offlineLoop, Outcome.fails, Outcome.state] using accepted
  | succ remaining inductionHypothesis =>
    cases taken : take state with
    | none => simpa [offlineLoop, taken, Outcome.fails, Outcome.state] using accepted
    | some pair =>
      obtain ⟨step, after⟩ := pair
      have recorded := records state step after taken
      cases checked : check step with
      | some failure =>
        have refused : ∃ step ∈ after.steps, check step ≠ none :=
          ⟨step, by simp [recorded], by simp [checked]⟩
        simpa [offlineLoop, taken, checked, Outcome.fails, Outcome.state] using refused
      | none =>
        have acceptedAfter : ∀ step ∈ after.steps, check step = none := by
          intro earlier member
          rw [recorded] at member
          rcases List.mem_append.mp member with before | last
          · exact accepted earlier before
          · rw [List.mem_singleton.mp last]
            exact checked
        simpa only [offlineLoop, taken, checked] using inductionHypothesis after acceptedAfter

/-- Bringing processors back takes no step of the test. -/
theorem onlineLoop_steps (answers : Answers) (cpuOff : List Nat) (state : State) :
    (onlineLoop answers cpuOff state).steps = state.steps := by
  induction cpuOff generalizing state with
  | nil => rfl
  | cons cpus rest inductionHypothesis => exact inductionHypothesis _

/-- The same for the whole test. -/
theorem testLoop_fails_iff (answers : Answers)
    {take : Event → State → Option (Step × State)} (records : ∀ event, Records (take event))
    (check : Step → Option Failure) (events : List Event) (state : State)
    (accepted : ∀ step ∈ state.steps, check step = none) :
    (testLoop answers take check events state).fails = true ↔
      ∃ step ∈ (testLoop answers take check events state).state.steps, check step ≠ none := by
  induction events generalizing state with
  | nil => simpa [testLoop, Outcome.fails, Outcome.state] using accepted
  | cons event rest inductionHypothesis =>
    have looped := offlineLoop_fails_iff (records event) check (state.onlineCpus.length - 1)
      state accepted
    rw [testLoop]
    cases ended : offlineLoop (take event) check (state.onlineCpus.length - 1) state with
    | failed failure after => simpa only [ended] using looped
    | raised after => simpa only [ended] using looped
    | continues after =>
      refine inductionHypothesis _ fun step member => ?_
      rw [onlineLoop_steps] at member
      by_contra refused
      rw [ended] at looped
      exact Bool.noConfusion (looped.mpr ⟨step, member, refused⟩)

/-! ### What the checks notice -/

/-- The comparison of the two numbers compares their bits. -/
theorem eq_lor_iff (first second : Nat) :
    second = (first ||| second) ↔
      ∀ bit, first.testBit bit = true → second.testBit bit = true := by
  constructor
  · intro same bit set
    rw [same, Nat.testBit_or, set, Bool.true_or]
  · intro contained
    refine Nat.eq_of_testBit_eq fun bit => ?_
    have implied := contained bit
    rw [Nat.testBit_or]
    revert implied
    cases first.testBit bit <;> cases second.testBit bit <;> simp

/-- The sequential check refuses what is noticed. -/
theorem sequenceCheck_iff (step : Step) : sequenceCheck step ≠ none ↔ step.Noticed := by
  unfold sequenceCheck Step.Noticed
  by_cases stays : step.offlined ∈ step.onlineCpus
  · simp [stays]
  · simp only [stays, ↓reduceIte, false_or, ← eq_lor_iff]
    by_cases same : step.newEventCpu = (step.offlined ||| step.newEventCpu)
    · rw [← same]
      by_cases online : step.newEventCpu ∈ step.onlineCpus <;> simp [online]
    · simp [same]

/-- The random check refuses an offline cpumask. -/
theorem randomCheck_iff (step : Step) :
    randomCheck step ≠ none ↔ step.newEventCpu ∉ step.onlineCpus := by
  by_cases online : step.newEventCpu ∈ step.onlineCpus <;> simp [randomCheck, online]

/-- What is noticed went wrong. -/
theorem Step.Noticed.wrong {step : Step} (noticed : step.Noticed) : step.Wrong :=
  noticed.imp id And.left

/-! ### Verdicts -/

/-- A test that fails at what its check catches, and at nothing else, is sound when something
that went wrong comes with something that is caught. -/
theorem sound_iff_of_caught {outcome : Outcome} {Caught : Step → Prop}
    (verdict : outcome.fails = true ↔ ∃ step ∈ outcome.state.steps, Caught step)
    (wrong : ∀ step, Caught step → step.Wrong) :
    Sound outcome ↔
      ((∃ step ∈ outcome.state.steps, step.Wrong) → ∃ step ∈ outcome.state.steps, Caught step) := by
  rw [Sound, verdict]
  constructor
  · exact Iff.mpr
  · intro comes
    refine ⟨?_, comes⟩
    rintro ⟨step, member, caught⟩
    exact ⟨step, member, wrong step caught⟩

/-- The verdict of the sequential test is sound exactly when a run in which a step went wrong
has one that the check notices: an offlined processor that is still online, or an offline cpumask
whose number has all bits of the offlined one's. The verdict of the random test is sound exactly
when a run in which a step went wrong has one with an offline cpumask. -/
theorem verdict_sound_iff (answers : Answers) (onlineCpus : List Nat) :
    (Sound (testCpumaskCpuOffSequence answers onlineCpus) ↔
        ((∃ step ∈ (testCpumaskCpuOffSequence answers onlineCpus).state.steps, step.Wrong) →
          ∃ step ∈ (testCpumaskCpuOffSequence answers onlineCpus).state.steps, step.Noticed)) ∧
      (Sound (testCpumaskCpuOffRandom answers onlineCpus) ↔
        ((∃ step ∈ (testCpumaskCpuOffRandom answers onlineCpus).state.steps, step.Wrong) →
          ∃ step ∈ (testCpumaskCpuOffRandom answers onlineCpus).state.steps,
            step.newEventCpu ∉ step.onlineCpus)) := by
  have untouched : ∀ check : Step → Option Failure,
      ∀ step ∈ (setUp onlineCpus).steps, check step = none := by
    intro check step member
    simp [setUp] at member
  constructor
  · have verdict := testLoop_fails_iff answers (sequenceStep_records answers) sequenceCheck
      events (setUp onlineCpus) (untouched sequenceCheck)
    simp only [sequenceCheck_iff] at verdict
    exact sound_iff_of_caught verdict fun step noticed => noticed.wrong
  · have verdict := testLoop_fails_iff answers (randomStep_records answers) randomCheck
      events (setUp onlineCpus) (untouched randomCheck)
    simp only [randomCheck_iff] at verdict
    exact sound_iff_of_caught verdict fun step offline => .inr offline

/-- The random test never draws from an empty list: each event starts with at least two online
processors if it takes a step, and a step that is accepted leaves the cpumask's processor. -/
theorem random_draws {answers : Answers} {event : Event} {remaining : Nat} {state : State}
    (available : remaining ≠ 0 → state.onlineCpus ≠ []) (after : State) :
    offlineLoop (randomStep answers event) randomCheck remaining state ≠ .raised after := by
  induction remaining generalizing state with
  | zero => simp [offlineLoop]
  | succ remaining inductionHypothesis =>
    rcases randomStep_cases answers event state with
      ⟨_, none_online⟩ | ⟨step, next, taken, _, shown⟩
    · exact absurd none_online (available (Nat.succ_ne_zero remaining))
    · cases checked : randomCheck step with
      | some failure => simp [offlineLoop, taken, checked]
      | none =>
        have online : step.newEventCpu ∈ step.onlineCpus := by
          by_contra offline
          exact (randomCheck_iff step).mpr offline checked
        simp only [offlineLoop, taken, checked]
        refine inductionHypothesis fun _ => ?_
        rw [shown]
        exact List.ne_nil_of_mem online

/-- So it ends with a verdict. -/
theorem random_never_raises (answers : Answers) (onlineCpus : List Nat) (after : State) :
    testCpumaskCpuOffRandom answers onlineCpus ≠ .raised after := by
  suffices ∀ events state, testLoop answers (randomStep answers) randomCheck events state ≠
      .raised after from this events (setUp onlineCpus)
  intro events
  induction events with
  | nil => simp [testLoop]
  | cons event rest inductionHypothesis =>
    intro state
    have available : state.onlineCpus.length - 1 ≠ 0 → state.onlineCpus ≠ [] := by
      rintro several empty
      simp [empty] at several
    have draws := @random_draws answers event _ state available
    rw [testLoop]
    cases ended : offlineLoop (randomStep answers event) randomCheck
        (state.onlineCpus.length - 1) state with
    | failed failure stopped => simp
    | raised stopped => exact absurd ended (draws stopped)
    | continues stopped => exact inductionHypothesis _

/-! ### Two processors -/

/-- Processor 1 goes offline and the cpumask moves to processor 2, which is not online. -/
def movedAway : Answers where
  cpumask _ moment := if moment = 1 then 2 else if moment % 4 = 0 then 1 else 0
  onlineList moment := if moment % 4 = 3 then [0, 1] else [0]
  choice _ := 0

/-- Processor 1 is drawn and stays online. -/
def staysOnline : Answers where
  cpumask _ _ := 0
  onlineList _ := [0, 1]
  choice _ := 1

/-- Neither verdict is sound. -/
theorem wrong_steps_pass :
    ¬ (∀ answers onlineCpus, onlineCpus ≠ [] →
      Sound (testCpumaskCpuOffSequence answers onlineCpus)) ∧
    ¬ (∀ answers onlineCpus, onlineCpus ≠ [] →
      Sound (testCpumaskCpuOffRandom answers onlineCpus)) := by
  constructor
  · intro always
    have passes : (testCpumaskCpuOffSequence movedAway [0, 1]).fails = false := by decide
    have failed := (always movedAway [0, 1] (by decide)).mpr
      ⟨⟨.hv_24x7, 1, 2, [0]⟩, List.mem_cons_self, .inr (by decide)⟩
    exact Bool.noConfusion (passes.symm.trans failed)
  · intro always
    have passes : (testCpumaskCpuOffRandom staysOnline [0, 1]).fails = false := by decide
    have failed := (always staysOnline [0, 1] (by decide)).mpr
      ⟨⟨.hv_24x7, 1, 0, [0, 1]⟩, List.mem_cons_self, .inl (by decide)⟩
    exact Bool.noConfusion (passes.symm.trans failed)

end AvocadoMisc.PerfHotplug.Cpumask
