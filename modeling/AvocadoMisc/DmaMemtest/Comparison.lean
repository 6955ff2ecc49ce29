import Mathlib.Logic.Function.Basic
import AvocadoMisc.Library.Rounds
import AvocadoMisc.Library.Text
import AvocadoMisc.Library.Transitions

/-!
# Comparing the copies of the DMA memory test

`dma_memtest.py` unpacks a tarball several times and compares each copy with a base copy. In serial
mode it waits for each `diff` and looks at its exit status.

In parallel mode all `diff` processes run at once. Their output is read before they are waited for,
so that a difference that was not written by then goes unseen. And the directory to compare has the
name of the tarball with all the characters of `.tar.bz2` stripped from its ends. When the version
ends in one of these characters there is no such directory, and `diff` complains about every copy.
-/

namespace AvocadoMisc.DmaMemtest.Comparison

open Library.Rounds Library.Text Library.Transitions

/-! ### Copies and `diff` -/

/-- A character string. -/
abbrev Text := List Char

/-- What a process writes. -/
abbrev Bytes := List UInt8

/-- What a process writes to its two streams. -/
structure Output where
  stdout : Bytes
  stderr : Bytes
  deriving DecidableEq

/-- No output. -/
def Output.silent : Output := ⟨[], []⟩

/-- `diff -U3 -rN` on directories. It is silent, and its exit status is zero, when they have the
same contents. It complains when neither of them exists. -/
structure Diff (Tree : Type) where
  compare : Tree → Tree → Output
  compare_silent : ∀ first second, compare first second = .silent ↔ first = second
  missing : Text → Output
  missing_loud : ∀ name, missing name ≠ .silent
  status : Tree → Tree → Nat
  status_zero : ∀ first second, status first second = 0 ↔ first = second

variable {Tree : Type}

/-- The version in the name of the tarball, the base copy, the other copies and their number. -/
structure Setting (Tree : Type) where
  diff : Diff Tree
  version : Text
  base : Tree
  copies : Nat → Tree
  simCps : Nat

/-- The directory in the tarball. -/
def Setting.directory (setting : Setting Tree) : Text :=
  ['l', 'i', 'n', 'u', 'x', '-'] ++ setting.version

/-- The characters of `.tar.bz2`. -/
def stripped (c : Char) : Bool := ['.', 't', 'a', 'r', '.', 'b', 'z', '2'].contains c

/-- The variable `kernel_ver`. -/
def Setting.kernelVer (setting : Setting Tree) : Text :=
  strip stripped (setting.directory ++ ['.', 't', 'a', 'r', '.', 'b', 'z', '2'])

/-- Some copy is not like the base copy. -/
def Setting.Differs (setting : Setting Tree) : Prop :=
  ∃ j < setting.simCps, setting.copies j ≠ setting.base

/-! ### Serial mode -/

/-- The variable `nfail` after the comparisons in serial mode. -/
def serialNfail (setting : Setting Tree) : Nat :=
  rounds (fun nfail j =>
    if setting.diff.status setting.base (setting.copies j) = 0 then nfail else nfail + 1)
    setting.simCps 0

/-! ### Parallel mode -/

/-- What the process for a copy will have written in the end. -/
def Setting.output (setting : Setting Tree) (j : Nat) : Output :=
  if setting.kernelVer = setting.directory then setting.diff.compare setting.base (setting.copies j)
  else setting.diff.missing setting.kernelVer

/-- A process: what it has written, what it will write, and whether it has ended. -/
structure Proc where
  written : Output
  pending : Output
  ended : Bool

/-- The test starts the processes, and reads and waits for one after the other. -/
inductive Main where
  | starting (j : Nat)
  | readStdout (j : Nat)
  | readStderr (j : Nat) (outBuf : Bytes)
  | waiting (j : Nat) (outBuf : Bytes)
  | raised

/-- The processes, the place in the test, and its variable `nfail`. -/
structure State where
  procs : Nat → Proc
  main : Main
  nfail : Nat

/-- The streams of a process. -/
inductive Stream where
  | stdout
  | stderr

/-- What happens next: the test takes a step, a process writes some bytes, or it ends. -/
inductive Label where
  | main
  | write (j : Nat) (stream : Stream) (size : Nat)
  | finish (j : Nat)

/-- Whether `decode` comes to its end. -/
def decodes (bytes : Bytes) : Bool := (String.fromUTF8? ⟨bytes.toArray⟩).isSome

/-- Whether a process has been started. -/
def State.started (setting : Setting Tree) (state : State) (j : Nat) : Bool :=
  match state.main with
  | .starting next => decide (j < next)
  | _ => decide (j < setting.simCps)

/-- A process writes some bytes. -/
def Proc.write (stream : Stream) (size : Nat) (proc : Proc) : Proc :=
  match stream with
  | .stdout =>
    { proc with
      written := ⟨proc.written.stdout ++ proc.pending.stdout.take size, proc.written.stderr⟩
      pending := ⟨proc.pending.stdout.drop size, proc.pending.stderr⟩ }
  | .stderr =>
    { proc with
      written := ⟨proc.written.stdout, proc.written.stderr ++ proc.pending.stderr.take size⟩
      pending := ⟨proc.pending.stdout, proc.pending.stderr.drop size⟩ }

/-- A step of the test. The processes are started first, and then read one after the other: the
output, the errors, and the end. Text that cannot be decoded raises. -/
def mainStep (setting : Setting Tree) (state : State) : Option State :=
  match state.main with
  | .starting j =>
    some { state with main := if j < setting.simCps then .starting (j + 1) else .readStdout 0 }
  | .readStdout j =>
    if j < setting.simCps then
      some { state with
        main :=
          if decodes (state.procs j).written.stdout then
            .readStderr j (state.procs j).written.stdout
          else .raised }
    else none
  | .readStderr j outBuf =>
    some { state with
      main :=
        if decodes (state.procs j).written.stderr then
          .waiting j (outBuf ++ (state.procs j).written.stderr)
        else .raised }
  | .waiting j outBuf =>
    if (state.procs j).ended then
      some { state with
        main := .readStdout (j + 1)
        nfail := if outBuf ≠ [] then state.nfail + 1 else state.nfail }
    else none
  | .raised => none

/-- One step: of the test, or of a process that was started. A process writes in parts of any size
and ends when it has written everything. -/
def step (setting : Setting Tree) (state : State) : Label → Option State
  | .main => mainStep setting state
  | .write j stream size =>
    if state.started setting j ∧ (state.procs j).ended = false then
      some { state with procs := Function.update state.procs j ((state.procs j).write stream size) }
    else none
  | .finish j =>
    if state.started setting j ∧ (state.procs j).ended = false ∧
        (state.procs j).pending = .silent then
      some { state with
        procs := Function.update state.procs j { state.procs j with ended := true } }
    else none

/-- Before the first process is started. -/
def start (setting : Setting Tree) : State :=
  ⟨fun j => ⟨.silent, setting.output j, false⟩, .starting 0, 0⟩

/-- A run in parallel mode, to its end: main raised, or read from all processes. -/
structure Run (setting : Setting Tree) where
  events : List (Event State Label)
  trace : Trace (step setting) Unrestricted (start setting) events
  ended : (lastState (start setting) events).main = .raised ∨
    (lastState (start setting) events).main = .readStdout setting.simCps

/-- The test does not pass: it fails, or it raises. -/
def Run.Fails {setting : Setting Tree} (run : Run setting) : Prop :=
  (lastState (start setting) run.events).nfail ≠ 0 ∨
    (lastState (start setting) run.events).main = .raised

/-- A stream of a process is read when something has been written to it. -/
def Reads (setting : Setting Tree) (state : State) : Label → Prop
  | .main =>
    match state.main with
    | .readStdout j => j < setting.simCps ∧ (state.procs j).written.stdout ≠ []
    | .readStderr j _ => (state.procs j).written.stderr ≠ []
    | _ => False
  | _ => False

/-- In some step of the run something is read. -/
def Run.ReadsSomething {setting : Setting Tree} (run : Run setting) : Prop :=
  ∃ event ∈ run.events, Reads setting event.before event.label

/-! ### The name of the directory -/

/-- The name is kept exactly when the version does not end in a character of `.tar.bz2`. -/
theorem kernelVer_eq_iff (setting : Setting Tree) :
    setting.kernelVer = setting.directory ↔ ∀ c ∈ setting.version.getLast?, stripped c = false := by
  have front : (setting.directory ++ ['.', 't', 'a', 'r', '.', 'b', 'z', '2']).dropWhile stripped =
      setting.directory ++ ['.', 't', 'a', 'r', '.', 'b', 'z', '2'] := by
    have first : stripped 'l' = false := by decide
    simp [Setting.directory, first]
  have back : (setting.directory ++ ['.', 't', 'a', 'r', '.', 'b', 'z', '2']).rdropWhile stripped =
      setting.directory.rdropWhile stripped := by
    have all : ∀ c ∈ ['.', 't', 'a', 'r', '.', 'b', 'z', '2'].reverse, stripped c = true :=
      forall_of_check (by decide)
    rw [List.rdropWhile, List.reverse_append, List.dropWhile_append_of_pos all, List.rdropWhile]
  rw [Setting.kernelVer, strip, front, back, List.rdropWhile_eq_self_iff, Setting.directory]
  cases version : setting.version.getLast? with
  | none =>
    have empty : setting.version = [] := List.getLast?_eq_none_iff.mp version
    have dash : stripped '-' = false := by decide
    simp [empty, dash]
  | some c =>
    obtain ⟨rest, split⟩ := List.getLast?_eq_some_iff.mp version
    simp [split]

/-! ### Serial mode -/

/-- In serial mode a difference is always counted, because each comparison runs to its end and its
status is looked at. -/
theorem serialNfail_ne_zero_iff (setting : Setting Tree) :
    serialNfail setting ≠ 0 ↔ setting.Differs := by
  have initially : (0 : Nat) = 0 := rfl
  have kept : ∀ j < setting.simCps, ∀ nfail : Nat, nfail = 0 →
      setting.diff.status setting.base (setting.copies j) = 0 →
      (if setting.diff.status setting.base (setting.copies j) = 0 then nfail
        else nfail + 1) = 0 := by
    intro j _ nfail zero same
    rw [if_pos same, zero]
  constructor
  · intro counted
    by_contra same
    refine counted (@rounds_invariant _ _ (fun _ nfail => nfail = 0)
      (fun j => setting.diff.status setting.base (setting.copies j) = 0) _ _ initially kept ?_)
    intro j below
    rw [setting.diff.status_zero]
    by_contra differs
    exact same ⟨j, below, fun equal => differs equal.symm⟩
  · rintro ⟨j, below, differs⟩
    refine @rounds_failed _ _ (fun _ nfail => nfail = 0) (fun nfail => nfail ≠ 0)
      (fun j => setting.diff.status setting.base (setting.copies j) = 0) _ _ initially kept ?_ ?_
      ⟨j, below, fun same => differs ((setting.diff.status_zero _ _).mp same).symm⟩
    · intro k _ nfail _ fails
      rw [if_neg fails]
      omega
    · intro k nfail failed
      split <;> omega

/-! ### Parallel mode -/

/-- Something was read, or the test has raised. -/
def Alarm (state : State) : Prop :=
  state.nfail ≠ 0 ∨
    match state.main with
    | .readStderr _ outBuf => outBuf ≠ []
    | .waiting _ outBuf => outBuf ≠ []
    | .raised => True
    | _ => False

/-- Nothing is decoded to nothing. -/
theorem decodes_nil : decodes [] = true := by decide +kernel

/-- What a step of the test can do: start a comparison, read an output or an error output, wait for
a process, or raise. -/
theorem mainStep_cases {setting : Setting Tree} {before after : State}
    (taken : mainStep setting before = some after) :
    (∃ j, before.main = .starting j ∧
      after = { before with
        main := if j < setting.simCps then .starting (j + 1) else .readStdout 0 }) ∨
    (∃ j, before.main = .readStdout j ∧ j < setting.simCps ∧
      after = { before with
        main :=
          if decodes (before.procs j).written.stdout then
            .readStderr j (before.procs j).written.stdout
          else .raised }) ∨
    (∃ j outBuf, before.main = .readStderr j outBuf ∧
      after = { before with
        main :=
          if decodes (before.procs j).written.stderr then
            .waiting j (outBuf ++ (before.procs j).written.stderr)
          else .raised }) ∨
    (∃ j outBuf, before.main = .waiting j outBuf ∧
      after = { before with
        main := .readStdout (j + 1)
        nfail := if outBuf ≠ [] then before.nfail + 1 else before.nfail }) := by
  rw [mainStep] at taken
  cases place : before.main with
  | starting j =>
    rw [place] at taken
    cases taken
    exact .inl ⟨j, rfl, rfl⟩
  | readStdout j =>
    rw [place] at taken
    by_cases below : j < setting.simCps
    · simp only [if_pos below, Option.some.injEq] at taken
      exact .inr (.inl ⟨j, rfl, below, taken.symm⟩)
    · simp [if_neg below] at taken
  | readStderr j outBuf =>
    rw [place] at taken
    cases taken
    exact .inr (.inr (.inl ⟨j, outBuf, rfl, rfl⟩))
  | waiting j outBuf =>
    rw [place] at taken
    by_cases ended : (before.procs j).ended
    · simp only [if_pos ended, Option.some.injEq] at taken
      exact .inr (.inr (.inr ⟨j, outBuf, rfl, taken.symm⟩))
    · simp [ended] at taken
  | raised =>
    rw [place] at taken
    cases taken

/-- A write moves what is to be written. -/
theorem write_append (proc : Proc) (stream : Stream) (size : Nat) :
    (proc.write stream size).written.stdout ++ (proc.write stream size).pending.stdout =
        proc.written.stdout ++ proc.pending.stdout ∧
      (proc.write stream size).written.stderr ++ (proc.write stream size).pending.stderr =
        proc.written.stderr ++ proc.pending.stderr := by
  cases stream <;> simp [Proc.write, List.append_assoc]

/-- A step is one of the test, or a process changes without a loss and nothing is read. -/
theorem step_cases {setting : Setting Tree} {before after : State} {label : Label}
    (taken : step setting before label = some after) :
    (label = .main ∧ mainStep setting before = some after) ∨
    (¬Reads setting before label ∧ ∃ j proc,
      proc.written.stdout ++ proc.pending.stdout =
        (before.procs j).written.stdout ++ (before.procs j).pending.stdout ∧
      proc.written.stderr ++ proc.pending.stderr =
        (before.procs j).written.stderr ++ (before.procs j).pending.stderr ∧
      after = { before with procs := Function.update before.procs j proc }) := by
  cases label with
  | main => exact .inl ⟨rfl, taken⟩
  | write j stream size =>
    rw [step] at taken
    split at taken
    · cases taken
      obtain ⟨stdout, stderr⟩ := write_append (before.procs j) stream size
      exact .inr ⟨id, j, _, stdout, stderr, rfl⟩
    · cases taken
  | finish j =>
    rw [step] at taken
    split at taken
    · cases taken
      exact .inr ⟨id, j, { before.procs j with ended := true }, rfl, rfl, rfl⟩
    · cases taken

/-- A step of the test raises the alarm exactly when it reads something. -/
theorem alarm_mainStep {setting : Setting Tree} {before after : State}
    (taken : mainStep setting before = some after) :
    Alarm after ↔ Alarm before ∨ Reads setting before .main := by
  rcases mainStep_cases taken with ⟨j, place, rfl⟩ | ⟨j, place, below, rfl⟩ |
    ⟨j, outBuf, place, rfl⟩ | ⟨j, outBuf, place, rfl⟩
  · by_cases below : j < setting.simCps <;> simp [Alarm, Reads, place, below]
  · by_cases decoded : decodes (before.procs j).written.stdout
    · simp [Alarm, Reads, place, below, decoded]
    · have something : (before.procs j).written.stdout ≠ [] :=
        fun nothing => decoded (nothing ▸ decodes_nil)
      simp [Alarm, Reads, place, below, decoded, something]
  · by_cases decoded : decodes (before.procs j).written.stderr
    · simp only [Alarm, Reads, place, decoded, if_true, ne_eq, List.append_eq_nil_iff,
        Classical.not_and_iff_not_or_not, or_assoc]
    · have something : (before.procs j).written.stderr ≠ [] :=
        fun nothing => decoded (nothing ▸ decodes_nil)
      simp [Alarm, Reads, place, decoded, something]
  · by_cases nothing : outBuf = [] <;> simp [Alarm, Reads, place, nothing]

/-- A step raises the alarm exactly when it reads something. -/
theorem alarm_step {setting : Setting Tree} {before after : State} {label : Label}
    (taken : step setting before label = some after) :
    Alarm after ↔ Alarm before ∨ Reads setting before label := by
  rcases step_cases taken with ⟨rfl, taken⟩ | ⟨silent, j, proc, _, _, rfl⟩
  · exact alarm_mainStep taken
  · rw [or_iff_left silent]
    rfl

/-- What a process has written and what it will write is its output, and the test reads the output
of processes only. -/
structure Consistent (setting : Setting Tree) (state : State) : Prop where
  stdout : ∀ j, (state.procs j).written.stdout ++ (state.procs j).pending.stdout =
    (setting.output j).stdout
  stderr : ∀ j, (state.procs j).written.stderr ++ (state.procs j).pending.stderr =
    (setting.output j).stderr
  place : ∀ j outBuf, state.main = .readStderr j outBuf → j < setting.simCps

/-- At first everything is to be written. -/
theorem consistent_start (setting : Setting Tree) : Consistent setting (start setting) where
  stdout _ := rfl
  stderr _ := rfl
  place _ _ reads := by cases reads

/-- A process that is changed without a loss. -/
theorem Consistent.update {setting : Setting Tree} {state : State}
    (consistent : Consistent setting state) (j : Nat) {proc : Proc}
    (stdout : proc.written.stdout ++ proc.pending.stdout =
      (state.procs j).written.stdout ++ (state.procs j).pending.stdout)
    (stderr : proc.written.stderr ++ proc.pending.stderr =
      (state.procs j).written.stderr ++ (state.procs j).pending.stderr) :
    Consistent setting { state with procs := Function.update state.procs j proc } := by
  refine ⟨fun k => ?_, fun k => ?_, consistent.place⟩
  · by_cases same : k = j
    · subst same
      simp [stdout, consistent.stdout k]
    · simp [same, consistent.stdout k]
  · by_cases same : k = j
    · subst same
      simp [stderr, consistent.stderr k]
    · simp [same, consistent.stderr k]

/-- The test reads the streams of a process that exists. -/
theorem place_of_mainStep {setting : Setting Tree} {before after : State}
    (taken : mainStep setting before = some after) :
    after.procs = before.procs ∧
      ∀ j outBuf, after.main = .readStderr j outBuf → j < setting.simCps := by
  rcases mainStep_cases taken with ⟨j, _, rfl⟩ | ⟨j, _, below, rfl⟩ | ⟨j, outBuf, _, rfl⟩ |
    ⟨j, outBuf, _, rfl⟩
  · refine ⟨rfl, fun k outBuf reads => ?_⟩
    dsimp only at reads
    split at reads <;> cases reads
  · refine ⟨rfl, fun k outBuf reads => ?_⟩
    dsimp only at reads
    split at reads
    · cases reads
      exact below
    · cases reads
  · refine ⟨rfl, fun k outBuf reads => ?_⟩
    dsimp only at reads
    split at reads <;> cases reads
  · exact ⟨rfl, fun k outBuf reads => nomatch reads⟩

/-- Every step keeps the outputs together. -/
theorem consistent_step {setting : Setting Tree} {before after : State} {label : Label}
    (consistent : Consistent setting before) (taken : step setting before label = some after) :
    Consistent setting after := by
  rcases step_cases taken with ⟨rfl, taken⟩ | ⟨_, j, proc, stdout, stderr, rfl⟩
  · obtain ⟨same, place⟩ := place_of_mainStep taken
    exact ⟨same ▸ consistent.stdout, same ▸ consistent.stderr, place⟩
  · exact consistent.update j stdout stderr

/-- What is read comes from a process with an output. So nothing is read at all when no comparison
prints anything. -/
theorem Consistent.loud {setting : Setting Tree} {state : State} {label : Label}
    (consistent : Consistent setting state) (reads : Reads setting state label) :
    ∃ j < setting.simCps, setting.output j ≠ .silent := by
  cases label with
  | main =>
    rw [Reads] at reads
    cases place : state.main with
    | readStdout j =>
      rw [place] at reads
      refine ⟨j, reads.1, fun silent => ?_⟩
      have written := consistent.stdout j
      rw [silent] at written
      exact reads.2 (List.append_eq_nil_iff.mp written).1
    | readStderr j outBuf =>
      rw [place] at reads
      refine ⟨j, consistent.place j outBuf place, fun silent => ?_⟩
      have written := consistent.stderr j
      rw [silent] at written
      exact reads (List.append_eq_nil_iff.mp written).1
    | starting j =>
      rw [place] at reads
      exact reads.elim
    | waiting j outBuf =>
      rw [place] at reads
      exact reads.elim
    | raised =>
      rw [place] at reads
      exact reads.elim
  | write j stream size => exact reads.elim
  | finish j => exact reads.elim

/-- A run fails exactly when something was read. -/
theorem Run.fails_iff {setting : Setting Tree} (run : Run setting) :
    run.Fails ↔ run.ReadsSomething := by
  have alarm := @Trace.last_iff _ _ _ _ Alarm (Reads setting) (fun _ _ _ taken => alarm_step taken)
    _ _ run.trace
  have quiet : ¬Alarm (start setting) := by simp [Alarm, start]
  rw [or_iff_right quiet] at alarm
  rw [Run.ReadsSomething, ← alarm, Run.Fails, Alarm]
  rcases run.ended with place | place <;> simp [place]

/-- With the right name something is read only when some copy differs. -/
theorem Run.differs_of_reads {setting : Setting Tree} (run : Run setting)
    (kept : setting.kernelVer = setting.directory) (reads : run.ReadsSomething) :
    setting.Differs := by
  obtain ⟨event, member, reads⟩ := reads
  have consistent := run.trace.before_of (fun _ _ _ before taken => consistent_step before taken)
    (consistent_start setting) event member
  obtain ⟨j, below, loud⟩ := consistent.loud reads
  rw [Setting.output, if_pos kept, ne_eq, setting.diff.compare_silent] at loud
  exact ⟨j, below, fun same => loud same.symm⟩

/-- In serial mode the verdict is right. In parallel mode it is right exactly when something was
read from a process before it was waited for, if some copy differs, and when nothing was read or the
version does not end in a character of `.tar.bz2`, if no copy differs. -/
theorem verdict_iff (setting : Setting Tree) :
    (serialNfail setting ≠ 0 ↔ setting.Differs) ∧
      ∀ run : Run setting, (run.Fails ↔ setting.Differs) ↔
        (setting.Differs ∧ run.ReadsSomething) ∨
          (¬setting.Differs ∧
            (¬run.ReadsSomething ∨ ∀ c ∈ setting.version.getLast?, stripped c = false)) := by
  refine ⟨serialNfail_ne_zero_iff setting, fun run => ?_⟩
  rw [run.fails_iff, ← kernelVer_eq_iff]
  by_cases differs : setting.Differs
  · simp [differs]
  · have quiet : setting.kernelVer = setting.directory → ¬run.ReadsSomething :=
      fun kept reads => differs (run.differs_of_reads kept reads)
    simp only [differs, iff_false, false_and, not_false_eq_true, true_and, false_or]
    exact (or_iff_left_of_imp quiet).symm

/-- A `diff` that says whether two truth values are the same, and complains. -/
def truthDiff : Diff Bool where
  compare first second := if first = second then .silent else ⟨[0x2D], []⟩
  compare_silent := by decide
  missing _ := ⟨[], [0x64]⟩
  missing_loud _ := by decide
  status first second := if first = second then 0 else 1
  status_zero := by decide

/-- One copy, which differs. -/
def oneCopy : Setting Bool where
  diff := truthDiff
  version := ['2', '.', '6', '.', '1', '8']
  base := true
  copies _ := false
  simCps := 1

/-- A run where the output is read before it is written. -/
theorem difference_unseen : ∃ run : Run oneCopy, ¬(run.Fails ↔ oneCopy.Differs) := by
  have differs : oneCopy.Differs := ⟨0, by decide, by decide⟩
  refine ⟨⟨_, .cons _ .main _ _ trivial rfl <| .cons _ .main _ _ trivial rfl <|
    .cons _ .main _ _ trivial rfl <| .cons _ .main _ _ trivial rfl <|
    .cons _ (.write 0 .stdout 1) _ _ trivial rfl <| .cons _ (.finish 0) _ _ trivial rfl <|
    .cons _ .main _ _ trivial rfl <| .nil _, .inr rfl⟩, fun verdict => ?_⟩
  rcases verdict.mpr differs with counted | raised
  · exact counted rfl
  · cases raised

end AvocadoMisc.DmaMemtest.Comparison
