import AvocadoMisc.Library.Contracts
import AvocadoMisc.Ppc64Cpu.SystemState

/-!
# Commands and their contracts

The tests of `ppc64_cpu` change the SMT mode and the number of online cores, and read back what the
command prints. What the command does is a parameter. `Documented` says what it promises: a mode is
set on the online cores and leaves the number of them as it is, and a number of online cores is set
and leaves the mode.

Between two commands of a test the online cores have one number of threads, so each command has a
contract about the number of online cores and the mode.
-/

namespace AvocadoMisc.Ppc64Cpu.Commands

open Library.NumberTexts Library.Scripts Library.Text Info SystemState

/-- A call of `ppc64_cpu` that changes the machine. -/
inductive Command where
  | smt (value : Text)
  | coresOn (count : Nat)
  | coresOnAll
  | offlineCores (cores : List Nat)
  deriving DecidableEq

/-- The exit status and the machine after a command, and what is printed about a machine. -/
structure Tool where
  run : Command → Machine → Int × Machine
  info : Machine → Text
  smt : Machine → Text
  coresOn : Machine → Text
  coresPresent : Machine → Text
  onlineCount : Machine → Nat

/-- The machine, the failures so far, and the mode that `setUp` found. -/
structure Run where
  machine : Machine
  failures : List Text
  currSmt : Option Text

/-- Why a test is stopped. -/
inductive Ending where
  | cancelled (message : Text)
  | failed (message : Text) (failures : List Text)
  | cmdError
  | exception

/-- A part of a test. -/
abbrev Script := EStateM Ending Run

variable (tool : Tool)

/-- `process.run` with `ignore_status=True`: the exit status. -/
def run (command : Command) : Script Int := do
  let state ← get
  let answer := tool.run command state.machine
  modify fun state => { state with machine := answer.2 }
  pure answer.1

/-- `process.system`, which raises `CmdError` for an exit status other than zero. -/
def system (command : Command) : Script PUnit := do
  let exitStatus ← run tool command
  demand (exitStatus = 0) .cmdError

/-- `process.system` with `ignore_status=True`. -/
def ignored (command : Command) : Script PUnit := do
  let _ ← run tool command
  pure ⟨⟩

/-- `self.failures.append`. -/
def append (failure : Text) : Script PUnit :=
  modify fun state => { state with failures := state.failures ++ [failure] }

/-- `self.fail` where there are failures. -/
def failIfFailures (message : Text) : Script PUnit := do
  let state ← get
  demand (state.failures = []) (.failed message state.failures)

/-- What is read from an output, unless an exception is raised. -/
def read {α : Type} : Option α → Script α
  | some value => pure value
  | none => throw .exception

/-- What is printed about a machine. -/
def Tool.outputs (machine : Machine) : Outputs where
  info := tool.info machine
  smt := tool.smt machine
  coresOn := tool.coresOn machine
  onlineCount := tool.onlineCount machine

/-- `verify_system_state`. -/
def verify (expectedSmt : Option Text) (expectedCoresOn : Option Int) : Script Bool := do
  let state ← get
  read (verifySystemState (tool.outputs state.machine) expectedSmt expectedCoresOn)

/-- The number of online cores, as it is printed. -/
def readCoresOn : Script Int := do
  let state ← get
  read (coresOnOf (tool.coresOn state.machine))

/-- The number of all cores, as it is printed. -/
def readCoresPresent : Script Int := do
  let state ← get
  read (coresPresentOf (tool.coresPresent state.machine))

/-- What `get_cores_info` returns. -/
structure CoresInfo where
  coresOn : Int
  coresPresent : Int

/-- `get_cores_info`. -/
def getCoresInfo : Script CoresInfo := do
  let coresOn ← readCoresOn tool
  let coresPresent ← readCoresPresent tool
  pure { coresOn := coresOn, coresPresent := coresPresent }

/-- `get_current_smt`. It is `unknown` where an exception is raised. -/
def getCurrentSmt : Script Text := do
  let state ← get
  pure ((currentSmt (tool.smt state.machine)).getD "unknown".toList)

/-! ### What the command promises -/

/-- `'on'`. -/
def on : Text := ['o', 'n']

/-- How a number of threads is shown as a mode. -/
def modeText (threads : Nat) : Text := if threads = 1 then off else decimal threads

/-- The number of threads that a value of `--smt` stands for. -/
def Means (maxSmt : Nat) (value : Text) (threads : Nat) : Prop :=
  value = off ∧ threads = 1 ∨ value = on ∧ threads = maxSmt ∨
    value = decimal threads ∧ 2 ≤ threads ∧ threads ≤ maxSmt

/-- Every online core has so many online threads. -/
def EachHas (threads : Nat) (machine : Machine) : Prop :=
  ∀ count ∈ machine, count = 0 ∨ count = threads

/-- A machine is as it was, but for the cores that are online and for the mode. -/
structure Becomes (machine after : Machine) (cores threads : Nat) : Prop where
  length : after.length = machine.length
  even : EachHas threads after
  online : onlineCores after = cores

/-- What `ppc64_cpu` promises, on a machine with so many threads for each core. -/
structure Documented (tool : Tool) (maxSmt : Nat) : Prop where
  capable : 2 ≤ maxSmt
  smtCapable : ∀ machine, contains "is not SMT capable".toList (tool.smt machine) = false
  consistent : ∀ machine threads, EachHas threads machine →
    contains "Inconsistent state".toList (tool.smt machine) = false
  shows : ∀ machine threads, EachHas threads machine → 0 < onlineCores machine → 1 ≤ threads →
    Shows (tool.outputs machine) machine (modeText threads)
  coresOnPrinted : ∃ print : Nat → Text,
    ∀ machine, tool.coresOn machine = print (onlineCores machine)
  coresPresent : ∀ machine : Machine,
    EndsWithWord (tool.coresPresent machine) (decimal machine.length)
  smt : ∀ (machine : Machine) value threads, Means maxSmt value threads →
    ∃ after, tool.run (.smt value) machine = (0, after) ∧
      Becomes machine after (onlineCores machine) threads
  coresOn : ∀ (machine : Machine) threads cores, EachHas threads machine → 0 < onlineCores machine →
    1 ≤ threads → 1 ≤ cores → cores ≤ machine.length →
    ∃ after, tool.run (.coresOn cores) machine = (0, after) ∧ Becomes machine after cores threads
  coresOnAll : ∀ (machine : Machine) threads, EachHas threads machine → 0 < onlineCores machine →
    1 ≤ threads → ∃ after, tool.run .coresOnAll machine = (0, after) ∧
      Becomes machine after machine.length threads
  offlineCores : ∀ (machine : Machine) threads cores, EachHas threads machine → 1 ≤ threads →
    ∃ exitStatus after online, tool.run (.offlineCores cores) machine = (exitStatus, after) ∧
      Becomes machine after online threads ∧ onlineCores machine ≤ online + cores.length

/-! ### Contracts -/

/-- Where a test stands: so many cores are online, with so many threads each, and nothing failed. -/
structure Standing (maxSmt total cores threads : Nat) (state : Run) : Prop where
  even : EachHas threads state.machine
  length : state.machine.length = total
  online : onlineCores state.machine = cores
  someOnline : 0 < cores
  mode : 1 ≤ threads ∧ threads ≤ maxSmt
  clean : state.failures = []
  currSmt : state.currSmt = some (decimal maxSmt)

variable {tool : Tool} {maxSmt total cores threads : Nat}

/-- A machine that becomes another one. -/
theorem Standing.becomes {state : Run} {after : Machine} {online newThreads : Nat}
    (standing : Standing maxSmt total cores threads state)
    (becomes : Becomes state.machine after online newThreads) (someOnline : 0 < online)
    (mode : 1 ≤ newThreads ∧ newThreads ≤ maxSmt) :
    Standing maxSmt total online newThreads { state with machine := after } where
  even := becomes.even
  length := becomes.length.trans standing.length
  online := becomes.online
  someOnline := someOnline
  mode := mode
  clean := standing.clean
  currSmt := standing.currSmt

/-- Online cores are among all cores. -/
theorem Standing.cores_le {state : Run} (standing : Standing maxSmt total cores threads state) :
    cores ≤ total := by
  rw [← standing.online, ← standing.length]
  exact List.length_filter_le _ _

/-- A command that answers as promised. -/
theorem ensures_run {before : Run → Prop} {command : Command} {after : Int → Run → Prop}
    (answers : ∀ state, before state → ∃ exitStatus machine,
      tool.run command state.machine = (exitStatus, machine) ∧
        after exitStatus { state with machine := machine }) :
    Ensures before (run tool command) after := by
  intro state holds
  obtain ⟨exitStatus, machine, answered, promised⟩ := answers state holds
  refine ⟨exitStatus, { state with machine := machine }, ?_, promised⟩
  rw [run, get_bind_apply, modify_bind_apply, pure_apply, answered]

/-- A command whose exit status is zero does not raise. -/
theorem ensures_system {before after : Run → Prop} {command : Command}
    (ran : Ensures before (run tool command) fun exitStatus state =>
      exitStatus = 0 ∧ after state) :
    Ensures before (system tool command) fun _ => after := by
  refine ran.bind fun exitStatus state holds => ?_
  have passes : Ensures after (demand (exitStatus = 0) Ending.cmdError) fun _ => after :=
    Ensures.demand holds.1
  exact passes state holds.2

/-- A command whose exit status is ignored. -/
theorem ensures_ignored {before after : Run → Prop} {command : Command}
    (ran : Ensures before (run tool command) fun _ => after) :
    Ensures before (ignored tool command) fun _ => after :=
  ran.bind fun _ => Ensures.pure fun _ holds => holds

/-- What is read from an output that has it. -/
theorem ensures_read {α : Type} {before : Run → Prop} {output : Run → Option α} {value : α}
    (found : ∀ state, before state → output state = some value) :
    Ensures before (do let state ← get; read (output state)) fun result state =>
      result = value ∧ before state := by
  intro state holds
  refine ⟨value, state, ?_, rfl, holds⟩
  rw [get_bind_apply, found state holds]
  rfl

/-- A value that is there is read. -/
theorem ensures_read_some {α : Type} {before : Run → Prop} (value : α) :
    Ensures before (read (some value)) fun result state => result = value ∧ before state :=
  Ensures.pure fun _ holds => ⟨rfl, holds⟩

section Promises

variable (documented : Documented tool maxSmt)
include documented

/-- Setting the mode leaves the number of online cores. -/
theorem run_smt {value : Text} {newThreads : Nat} (means : Means maxSmt value newThreads) :
    Ensures (Standing maxSmt total cores threads) (run tool (.smt value))
      fun exitStatus state => exitStatus = 0 ∧ Standing maxSmt total cores newThreads state := by
  refine ensures_run fun state standing => ?_
  obtain ⟨after, answered, becomes⟩ := documented.smt state.machine value newThreads means
  have mode : 1 ≤ newThreads ∧ newThreads ≤ maxSmt := by
    have := documented.capable
    rcases means with ⟨-, rfl⟩ | ⟨-, rfl⟩ | ⟨-, atLeast, atMost⟩ <;> omega
  rw [standing.online] at becomes
  exact ⟨0, after, answered, rfl, standing.becomes becomes standing.someOnline mode⟩

/-- Setting the number of online cores leaves the mode. -/
theorem run_coresOn {count : Nat} (some_ : 1 ≤ count) (enough : count ≤ total) :
    Ensures (Standing maxSmt total cores threads) (run tool (.coresOn count))
      fun exitStatus state => exitStatus = 0 ∧ Standing maxSmt total count threads state := by
  refine ensures_run fun state standing => ?_
  obtain ⟨after, answered, becomes⟩ := documented.coresOn state.machine threads count
    standing.even (standing.online ▸ standing.someOnline) standing.mode.1 some_
    (standing.length ▸ enough)
  exact ⟨0, after, answered, rfl, standing.becomes becomes some_ standing.mode⟩

/-- All cores can be set online. -/
theorem run_coresOnAll :
    Ensures (Standing maxSmt total cores threads) (run tool .coresOnAll)
      fun exitStatus state => exitStatus = 0 ∧ Standing maxSmt total total threads state := by
  refine ensures_run fun state standing => ?_
  obtain ⟨after, answered, becomes⟩ := documented.coresOnAll state.machine threads
    standing.even (standing.online ▸ standing.someOnline) standing.mode.1
  rw [standing.length] at becomes
  exact ⟨0, after, answered, rfl,
    standing.becomes becomes (standing.someOnline.trans_le standing.cores_le) standing.mode⟩

/-- When fewer cores are named than are online, some stay online. -/
theorem run_offlineCores {named : List Nat} (fewer : named.length < cores) :
    Ensures (Standing maxSmt total cores threads) (run tool (.offlineCores named))
      fun _ state => ∃ online, Standing maxSmt total online threads state := by
  refine ensures_run fun state standing => ?_
  obtain ⟨exitStatus, after, online, answered, becomes, left⟩ :=
    documented.offlineCores state.machine threads named standing.even standing.mode.1
  rw [standing.online] at left
  exact ⟨exitStatus, after, answered, online,
    standing.becomes becomes (by omega) standing.mode⟩

/-- The number of online cores is read. -/
theorem ensures_readCoresOn :
    Ensures (Standing maxSmt total cores threads) (readCoresOn tool)
      fun result state => result = (cores : Int) ∧ Standing maxSmt total cores threads state := by
  refine ensures_read fun state standing => ?_
  have shows := documented.shows state.machine threads standing.even
    (standing.online ▸ standing.someOnline) standing.mode.1
  rw [← standing.online]
  exact coresOnOf_endsWithNumber shows.coresOn

/-- The number of all cores is read. -/
theorem ensures_readCoresPresent {before : Run → Prop}
    (length : ∀ state, before state → state.machine.length = total) :
    Ensures before (readCoresPresent tool) fun result state =>
      result = (total : Int) ∧ before state := by
  refine ensures_read fun state holds => ?_
  rw [← length state holds]
  exact coresPresentOf_endsWithWord (documented.coresPresent state.machine)

/-- The numbers of cores are read. -/
theorem ensures_getCoresInfo :
    Ensures (Standing maxSmt total cores threads) (getCoresInfo tool)
      fun result state => result = ⟨cores, total⟩ ∧
        Standing maxSmt total cores threads state := by
  refine (ensures_readCoresOn documented).bind fun coresOn => Ensures.assuming ?_
  rintro rfl
  refine (ensures_readCoresPresent documented fun _ standing => standing.length).bind
    fun coresPresent => Ensures.assuming ?_
  rintro rfl
  exact Ensures.pure fun _ standing => ⟨rfl, standing⟩

/-- The mode is read. -/
theorem ensures_getCurrentSmt :
    Ensures (Standing maxSmt total cores threads) (getCurrentSmt tool)
      fun result state => result = modeText threads ∧
        Standing maxSmt total cores threads state := by
  intro state standing
  have shows := documented.shows state.machine threads standing.even
    (standing.online ▸ standing.someOnline) standing.mode.1
  refine ⟨modeText threads, state, ?_, rfl, standing⟩
  rw [getCurrentSmt, get_bind_apply, pure_apply]
  have found : currentSmt (tool.smt state.machine) = some (modeText threads) :=
    currentSmt_of_endsWith shows.smt
  rw [found, Option.getD_some]

/-- The verification passes when it expects the mode and the number of cores that are there. -/
theorem ensures_verify {expectedSmt : Option Text} {expectedCoresOn : Option Int}
    (smt : ∀ value, expectedSmt = some value → value = modeText threads)
    (count : ∀ value, expectedCoresOn = some value → value = (cores : Int)) :
    Ensures (Standing maxSmt total cores threads) (verify tool expectedSmt expectedCoresOn)
      fun result state => result = true ∧ Standing maxSmt total cores threads state := by
  refine ensures_read fun state standing => ?_
  have shows := documented.shows state.machine threads standing.even
    (standing.online ▸ standing.someOnline) standing.mode.1
  have agrees : Agrees state.machine := by
    intro first inFirst second inSecond online alsoOnline
    rcases standing.even first inFirst with offline | same
    · omega
    · rcases standing.even second inSecond with alsoOffline | alsoSame
      · omega
      · rw [same, alsoSame]
  exact verifySystemState_accepts shows ⟨smt, standing.online.symm ▸ count, agrees⟩

end Promises

/-- Without failures the test does not fail. -/
theorem ensures_failIfFailures {message : Text} :
    Ensures (Standing maxSmt total cores threads) (failIfFailures message)
      fun _ => Standing maxSmt total cores threads := by
  intro state standing
  refine ⟨⟨⟩, state, ?_, standing⟩
  rw [failIfFailures, get_bind_apply, demand, if_pos standing.clean]
  rfl

end AvocadoMisc.Ppc64Cpu.Commands
