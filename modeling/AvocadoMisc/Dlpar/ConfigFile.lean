import AvocadoMisc.Library.Transitions
import AvocadoMisc.Dlpar.MixLimits
import AvocadoMisc.Dlpar.SharedCpus

/-!
# Handing the payload over in a file

`test_cpu_add` appends its payload to `config.txt` before it adds anything: one line in
dedicated mode, two in shared mode. `test_cpu_rm` and `test_mix_cpu` read the first lines
of the file, and only the mix test deletes it, at its end.

So a removal takes back what was added when it directly follows an addition of its mode that
completed and whose lines are the first in the file. After an aborted addition, an addition
to a file that begins differently, another removal or a mix test, the lines that it reads are
not what there is to remove.
-/

namespace AvocadoMisc.Dlpar.ConfigFile

open Library.Retrace Library.Transitions Dlpar.Partition Payloads MixLimits SharedCpus

/-- `lpar_mode`. -/
inductive Mode where
  | dedicated
  | shared
deriving DecidableEq

/-- What the management console reports as maximum. -/
structure Limits where
  maxProcs : ℤ
  maxProcUnits : ℚ

/-- A line of `config.txt`: a printed list. -/
abbrev Line := List ℚ

/-- What `test_cpu_add` writes and the commands that it then gives. -/
def addPlan (mode : Mode) (limits : Limits) (allocation : Allocation) :
    Option (List Line × List Command) :=
  match mode with
  | .dedicated =>
    (cpuPayloadData limits.maxProcs (truncate (allocation .procs)) 1).map fun cpuPayload =>
      ([cpuPayload], cpuPayload.map fun cpu => ⟨.add, .procs, truncate cpu⟩)
  | .shared =>
    (sharedLists limits.maxProcs (truncate (allocation .procs)) limits.maxProcUnits
      (allocation .units)).map fun lists => ([lists.1, lists.2], sharedAdd lists.1 lists.2)

/-- The commands of `test_cpu_rm`, from the lines it reads. A missing line raises. -/
def removePlan (mode : Mode) (lines : List Line) : Option (List Command) :=
  match mode, lines with
  | .dedicated, cpuPayload :: _ =>
    some (cpuPayload.map fun cpu => ⟨.remove, .procs, truncate cpu⟩)
  | .shared, vp :: pu :: _ => some (sharedRemove vp pu)
  | _, _ => none

/-- The commands of `test_mix_cpu` in shared mode. -/
def sharedMix (vp pu : List ℚ) : List Command :=
  (pu.zip vp).flatMap fun pair =>
    [⟨.add, .procs, truncate pair.2⟩, ⟨.add, .units, pair.1⟩, ⟨.remove, .units, pair.1⟩,
      ⟨.remove, .procs, truncate pair.2⟩]

/-- The commands of `test_mix_cpu`, from the lines it reads. A missing line raises. -/
def mixPlan (mode : Mode) (draws : Nat → Nat) (lines : List Line) : Option (List Command) :=
  match mode, lines with
  | .dedicated, cpuPayload :: _ => some (dedicatedMix draws cpuPayload)
  | .shared, vp :: pu :: _ => some (sharedMix vp pu)
  | _, _ => none

/-- What there is to know about a run of `test_cpu_add` afterwards. -/
structure Addition where
  mode : Mode
  before : Allocation
  lines : List Line
  performed : List Command
  completed : Bool

/-- The last run that did anything. -/
inductive LastRun where
  | other
  | added
  | removed (performed : List Command)

/-- The working directory with its `config.txt`, the partition, and the past: the most recent
addition and what the last run did. -/
structure World where
  config : Option (List Line)
  allocation : Allocation
  addition : Option Addition
  lastRun : LastRun

/-- The lines of `config.txt`. Reading a file that is not there raises, as does reading a line
that is not there. -/
def World.lines (world : World) : List Line := world.config.getD []

/-- A run of one of the tests. An addition may be refused at some command. -/
inductive Label where
  | add (mode : Mode) (limits : Limits) (refused : Option Nat)
  | remove (mode : Mode)
  | mix (mode : Mode) (draws : Nat → Nat)

/-- `test_cpu_add`. It writes the lines of its plan to the file and then performs the commands, up
to the one that is refused if there is one; what it has written stays. -/
def testCpuAdd (mode : Mode) (limits : Limits) (refused : Option Nat) (world : World) :
    Option World :=
  (addPlan mode limits world.allocation).map fun plan =>
    let performed := plan.2.take (refused.getD plan.2.length)
    { config := some (world.lines ++ plan.1)
      allocation := finish perform world.allocation performed
      addition := some {
        mode := mode
        before := world.allocation
        lines := plan.1
        performed := performed
        completed := performed.length = plan.2.length }
      lastRun := .added }

/-- `test_cpu_rm`. When it raises it has removed nothing. -/
def testCpuRm (mode : Mode) (world : World) : World :=
  let performed := (removePlan mode world.lines).getD []
  { world with
    allocation := finish perform world.allocation performed
    lastRun := .removed performed }

/-- `test_mix_cpu`. When it raises it leaves everything as it was. -/
def testMixCpu (mode : Mode) (draws : Nat → Nat) (world : World) : World :=
  match mixPlan mode draws world.lines with
  | none => world
  | some commands =>
    { world with
      config := none
      allocation := finish perform world.allocation commands
      lastRun := .other }

/-- One run. -/
def step (world : World) (label : Label) : Option World :=
  match label with
  | .add mode limits refused => testCpuAdd mode limits refused world
  | .remove mode => some (testCpuRm mode world)
  | .mix mode draws => some (testMixCpu mode draws world)

/-- No test has been run yet. There may be a file, and any allocation. -/
def Initial (world : World) : Prop := world.addition = none ∧ world.lastRun = .other

/-- A removal has taken back what the most recent addition added, and the partition is back
at what it had before that. -/
def Agrees (world : World) : Prop :=
  ∀ performed addition, world.lastRun = .removed performed → world.addition = some addition →
    (∀ resource, totalChange resource performed = -totalChange resource addition.performed) ∧
      world.allocation = addition.before

/-- The last run that did anything was an addition. -/
def LastRun.isAdded : LastRun → Bool
  | .added => true
  | _ => false

/-- When there has been an addition, a removal directly follows one of its mode that completed
and whose lines are the first in the file. -/
def follows (world : World) (label : Label) : Bool :=
  match label, world.addition with
  | .remove mode, some addition =>
    world.lastRun.isAdded && decide (addition.mode = mode) && addition.completed &&
      addition.lines.isPrefixOf world.lines
  | _, _ => true

/-! ### Plans -/

/-- An addition has a plan. It adds positive quantities, and from the lines that it writes a
removal of its mode plans to take back exactly what it adds. -/
theorem addPlan_spec (mode : Mode) (limits : Limits) (allocation : Allocation) :
    ∃ lines commands, addPlan mode limits allocation = some (lines, commands) ∧
      (∀ command ∈ commands, 0 < command.change) ∧
      ∃ removal, removePlan mode lines = some removal ∧
        ∀ resource, totalChange resource removal = -totalChange resource commands := by
  cases mode with
  | dedicated =>
    obtain ⟨count, listed, _⟩ :=
      cpuPayloadData_eq limits.maxProcs (truncate (allocation .procs)) one_pos
    refine ⟨_, _, by rw [addPlan, listed]; rfl, ?_, _, rfl, ?_⟩
    · intro command member
      obtain ⟨cpu, inside, rfl⟩ := List.mem_map.mp member
      obtain ⟨i, range, rfl⟩ := List.mem_map.mp inside
      have positive : (0 : ℚ) < i := Nat.cast_pos.mpr (List.mem_range'_1.mp range).1
      change (0 : ℚ) < truncate (i * 1)
      rw [mul_one, truncate_natCast, Int.cast_natCast]
      exact positive
    · intro resource
      rw [← totalChange_inverse, List.map_map]
      rfl
  | shared =>
    obtain ⟨step, count, steps, lists, _⟩ := sharedLists_eq limits.maxProcs
      (truncate (allocation .procs)) limits.maxProcUnits (allocation .units)
    have lengths : (multiples step 1 count).length = (multiples (3 / 4) 1 count).length := by
      simp
    refine ⟨_, _, by rw [addPlan, lists]; rfl, ?_, _, rfl, ?_⟩
    · intro command member
      exact change_pos_of_mem_sharedAdd steps member
    · intro resource
      rw [sharedRemove_eq_undo lengths]
      exact totalChange_undo resource _

/-- A removal reads the first lines only. -/
theorem removePlan_append {mode : Mode} {lines : List Line} {removal : List Command}
    (planned : removePlan mode lines = some removal) (more : List Line) :
    removePlan mode (lines ++ more) = some removal := by
  cases mode with
  | dedicated =>
    cases lines with
    | nil => cases planned
    | cons cpuPayload rest => exact planned
  | shared =>
    cases lines with
    | nil => cases planned
    | cons vp rest =>
      cases rest with
      | nil => cases planned
      | cons pu rest => exact planned

/-! ### Runs -/

/-- What is known of the most recent addition: while it is the last run, the partition has what
it added. If it completed, its lines tell how to take that back. -/
structure Pending (world : World) (addition : Addition) : Prop where
  has : world.lastRun = .added →
    world.allocation = finish perform addition.before addition.performed
  returns : addition.completed = true → ∃ removal,
    removePlan addition.mode addition.lines = some removal ∧
      ∀ resource, totalChange resource removal = -totalChange resource addition.performed

/-- The invariant: removals have agreed, and the most recent addition can be taken back. -/
structure Sound (world : World) : Prop where
  agrees : Agrees world
  pending : ∀ addition, world.addition = some addition → Pending world addition

/-- Every addition establishes it. -/
theorem testCpuAdd_sound {mode : Mode} {limits : Limits} {refused : Option Nat}
    {world after : World} (taken : testCpuAdd mode limits refused world = some after) :
    Sound after := by
  obtain ⟨lines, commands, planned, _, removal, reads, opposite⟩ :=
    addPlan_spec mode limits world.allocation
  rw [testCpuAdd, planned] at taken
  obtain rfl := Option.some.inj taken
  constructor
  · intro performed addition removed
    cases removed
  · intro addition recent
    obtain rfl := Option.some.inj recent
    constructor
    · intro _
      rfl
    · intro completed
      have whole : min (refused.getD commands.length) commands.length = commands.length := by
        rw [← List.length_take]
        exact of_decide_eq_true completed
      have all : commands.take (refused.getD commands.length) = commands :=
        List.take_of_length_le (by omega)
      exact ⟨removal, reads, by simpa only [all] using opposite⟩

/-- So does a removal that follows its addition. What it reads are the lines of that addition, so it
takes back what these say. -/
theorem testCpuRm_sound {mode : Mode} {world : World} (sound : Sound world)
    (meets : follows world (.remove mode) = true) : Sound (testCpuRm mode world) := by
  constructor
  · intro performed addition removed recent
    have added : world.addition = some addition := recent
    simp only [follows, added, Bool.and_eq_true, decide_eq_true_eq,
      List.isPrefixOf_iff_prefix] at meets
    obtain ⟨⟨⟨last, rfl⟩, completed⟩, more, first⟩ := meets
    obtain ⟨has, returns⟩ := sound.pending addition added
    obtain ⟨removal, reads, opposite⟩ := returns completed
    have planned : removePlan addition.mode world.lines = some removal := by
      rw [← first]
      exact removePlan_append reads more
    have gone : performed = removal := by
      have same := LastRun.removed.inj removed
      rw [planned] at same
      exact same.symm
    subst gone
    refine ⟨opposite, ?_⟩
    have held : world.allocation = finish perform addition.before addition.performed := by
      apply has
      cases ended : world.lastRun with
      | added => rfl
      | other => rw [ended] at last; cases last
      | removed => rw [ended] at last; cases last
    change finish perform world.allocation ((removePlan addition.mode world.lines).getD []) = _
    rw [planned, held]
    exact finish_restored opposite
  · intro addition recent
    refine ⟨fun last => ?_, (sound.pending addition recent).returns⟩
    cases last

/-- A mix test preserves it. -/
theorem testMixCpu_sound {mode : Mode} {draws : Nat → Nat} {world : World} (sound : Sound world) :
    Sound (testMixCpu mode draws world) := by
  rw [testMixCpu]
  cases mixPlan mode draws world.lines with
  | none => exact sound
  | some commands =>
    constructor
    · intro performed addition removed
      cases removed
    · intro addition recent
      refine ⟨fun last => ?_, (sound.pending addition recent).returns⟩
      cases last

/-- Nothing less than a completed addition will do: a removal that follows an addition which
found no lines agrees only if the addition completed. -/
theorem completed_of_agrees {mode : Mode} {limits : Limits} {refused : Option Nat}
    {world after : World} (empty : world.lines = [])
    (taken : testCpuAdd mode limits refused world = some after)
    (agrees : Agrees (testCpuRm mode after)) :
    ∀ addition, after.addition = some addition → addition.completed = true := by
  obtain ⟨lines, commands, planned, adds, removal, reads, opposite⟩ :=
    addPlan_spec mode limits world.allocation
  rw [testCpuAdd, planned] at taken
  obtain rfl := Option.some.inj taken
  intro addition recent
  obtain rfl := Option.some.inj recent
  obtain ⟨balanced, _⟩ := agrees _ _ rfl rfl
  have found : removePlan mode (world.lines ++ lines) = some removal := by
    rw [empty]
    exact reads
  apply decide_eq_true
  -- Otherwise the first command that is missing has changed its resource too little.
  cases missing : commands.drop (refused.getD commands.length) with
  | nil =>
    have nothing := List.drop_eq_nil_iff.mp missing
    exact (List.length_take).trans (Nat.min_eq_right nothing)
  | cons command rest =>
    have split : commands = commands.take (refused.getD commands.length) ++ (command :: rest) := by
      rw [← missing, List.take_append_drop]
    have inside : ∀ other ∈ command :: rest, other ∈ commands := fun other member => by
      rw [split]
      exact List.mem_append_right _ member
    have positive : 0 < command.change := adds command (inside command List.mem_cons_self)
    have later : 0 ≤ totalChange command.resource rest := totalChange_nonneg fun other member =>
      le_of_lt (adds other (inside other (List.mem_cons_of_mem command member)))
    have total := opposite command.resource
    have short := balanced command.resource
    change totalChange _ ((removePlan mode (world.lines ++ lines)).getD []) =
      -totalChange _ (commands.take (refused.getD commands.length)) at short
    rw [found, Option.getD_some, total, split, totalChange_append, ← split,
      ← List.singleton_append, totalChange_append] at short
    simp only [totalChange, List.map_cons, List.map_nil, if_pos, List.sum_cons,
      List.sum_nil] at short later
    linarith

/-- Handing the payload over. In every run whose removals, once there has been an addition,
directly follow an addition of their mode that completed and whose lines are the first in the
file, every removal takes back exactly what was added.

Commands may fail and a run may raise before it does anything. A removal after another removal,
after a mix test or after an addition that stopped on the way is not covered. -/
theorem config_agreement (world : World)
    (reached : Reachable step (fun world label => follows world label = true) Initial world) :
    Agrees world := by
  refine (reached.invariant Sound ?_ ?_).agrees
  · rintro world ⟨fresh, other⟩
    constructor
    · intro performed addition removed
      rw [other] at removed
      cases removed
    · intro addition recent
      rw [fresh] at recent
      cases recent
  · intro before label after _ sound meets taken
    cases label with
    | add mode limits refused => exact testCpuAdd_sound taken
    | remove mode =>
      obtain rfl := Option.some.inj taken
      exact testCpuRm_sound sound meets
    | mix mode draws =>
      obtain rfl := Option.some.inj taken
      exact testMixCpu_sound sound

/-- Two processors are added and removed again. -/
theorem config_agreement_example : ∃ world : World, Agrees world ∧
    world.allocation .procs = 4 ∧ world.lastRun.isAdded = false ∧ world.addition.isSome := by
  obtain ⟨world, reached, tested⟩ := replay_exhibits step
    (fun world label => follows world label = true) Initial
    [.add .dedicated ⟨7, 4⟩ none, .remove .dedicated]
    ⟨none, fun _ => 4, none, .other⟩
    (fun world => decide (world.allocation .procs = 4) && !world.lastRun.isAdded &&
      world.addition.isSome) ⟨rfl, rfl⟩ (by decide +kernel)
  simp only [Bool.and_eq_true, decide_eq_true_eq, Bool.not_eq_true'] at tested
  exact ⟨world, config_agreement world reached, tested.1.1, tested.1.2, tested.2⟩

/-- After a removal the partition has another number of processors than before the addition. -/
def unbalanced (world : World) : Bool :=
  match world.lastRun, world.addition with
  | .removed _, some addition => !decide (world.allocation .procs = addition.before .procs)
  | _, _ => false

/-- One of three processors is added before a refusal, and three are removed. -/
theorem config_disagreement :
    ¬ ∀ world, Reachable step Unrestricted Initial world → Agrees world := by
  intro always
  obtain ⟨world, reached, tested⟩ := replay_exhibits step (fun _ _ => True) Initial
    [.add .dedicated ⟨7, 4⟩ (some 1), .remove .dedicated] ⟨none, fun _ => 4, none, .other⟩
    unbalanced ⟨rfl, rfl⟩ (by decide +kernel)
  unfold unbalanced at tested
  split at tested
  · next performed addition last recent =>
    rw [(always world reached performed addition last recent).2] at tested
    simp at tested
  · cases tested

end AvocadoMisc.Dlpar.ConfigFile
