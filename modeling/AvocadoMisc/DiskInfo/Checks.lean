import Mathlib.Data.Char
import Mathlib.Data.List.Lex
import AvocadoMisc.Library.LineTools
import AvocadoMisc.Library.Neighbours
import AvocadoMisc.Library.Scripts

/-!
# What the disk info test checks

`disk_info.py` asks many tools for one disk and collects a message for each of them that does not
agree with the others. The test ends with all messages. Four parts follow each other: the disk is
listed, its sizes are compared, it is mounted, and its section of `lshw` is read.

A part adds its own messages only. So whether a message is in the end among them is decided by its
own part, as soon as this part is reached.
-/

namespace AvocadoMisc.DiskInfo.Checks

open Library.LineTools Library.Neighbours Library.Scripts Library.Text

/-- A character string. -/
abbrev Text := List Char

/-! ### Messages -/

/-- What may be wrong. The texts name the disk in different ways, so some messages carry the name or
the command that they print. -/
inductive Message where
  | notById
  | notByPath (diskNode : Text)
  | notPresent (cmd : Text)
  | nodeNotPresent (diskNode : Text)
  | sectorSizes
  | ioSizes
  | fdiskSize
  | sfdiskSize
  | notMounted
  | noUuid
  | notDetected
  | lshwSectorSizes
  deriving DecidableEq

/-- The disk with its names, and what the tools say. `finds` is whether a command comes to its end
with status zero, `sysfs` is what a file has in it, and the reports are given by their lines. The
name of the disk is a pattern that stands for itself. -/
structure System where
  disk : Text
  diskBase : Text
  diskAbs : Text
  diskNodes : List Text
  mpath : Bool
  distro : Text
  dirs : Text
  fstype : Text
  finds : Text → Bool
  sysfs : Text → Text
  lsblk : List Text
  fdisk : List Text
  sfdisk : List Text
  formats : Bool
  mounts : Bool
  blkid : Text
  lshw : List Text

/-- A message as it is written. -/
def Message.text (system : System) : Message → Text
  | .notById => "Given disk ".toList ++ system.diskBase ++ " not in /dev/disk/by-id".toList
  | .notByPath diskNode => "Given disk ".toList ++ diskNode ++ " not in /dev/disk/by-path".toList
  | .notPresent cmd =>
    "Given disk ".toList ++ system.diskBase ++ " is not present in ".toList ++ cmd
  | .nodeNotPresent diskNode =>
    "Given disk ".toList ++ diskNode ++ " is not in lshw -c disk".toList
  | .sectorSizes =>
    "Mismatch in sector sizes of lbs,pbs in fdisk o/p w.r.t sysfs paths".toList
  | .ioSizes => "Mismatch in IO sizes of mis and ois in fdisk o/p w.r.t sysfs paths".toList
  | .fdiskSize => "Size of disk ".toList ++ system.disk ++ " mismatch in fdisk o/p".toList
  | .sfdiskSize => "Size of disk ".toList ++ system.disk ++ " mismatch in sfdisk o/p".toList
  | .notMounted =>
    "failed to mount ".toList ++ system.fstype ++ " fs on ".toList ++ system.disk ++
      " to ".toList ++ system.dirs
  | .noUuid => "Given disk ".toList ++ system.diskAbs ++ " not having uuid".toList
  | .notDetected =>
    "Given disk ".toList ++ system.diskBase ++ "'s fs not detected by grub2".toList
  | .lshwSectorSizes =>
    "Mismatch in sector sizes of lbs,pbs in lshw o/p w.r.t sysfs paths".toList

/-- How the test ends early, or with its messages. -/
inductive Ending where
  | cancelled (message : Text)
  | raised
  | failed (message : Text)

/-- A part of the test, with the messages so far. -/
abbrev Script := EStateM Ending (List Message)

/-- A message is added unless something holds. -/
def check (condition : Bool) (message : Message) : Script PUnit :=
  if condition then pure ⟨⟩ else modify fun msg => msg ++ [message]

/-! ### The disk is listed -/

/-- The tools that list the disk. -/
def System.cmdList (system : System) : List Text :=
  (if system.mpath then ["fdisk -l ".toList, "lsblk ".toList]
    else ["fdisk -l ".toList, "parted -l".toList, "lsblk ".toList, "lshw -c disk ".toList]) ++
  (if system.distro = "Ubuntu".toList then ["hwinfo --short --block".toList] else [])

/-- The disk is listed by its identifier and its path, and by the tools. -/
def checkListed (system : System) : Script PUnit := do
  check (system.finds ("ls /dev/disk/by-id -l| grep -i ".toList ++ system.diskBase)) .notById
  forEach (fun diskNode =>
    check (system.finds ("ls /dev/disk/by-path -l| grep -i ".toList ++ diskNode))
      (.notByPath diskNode)) system.diskNodes
  forEach (fun cmd =>
    check (system.finds (cmd ++ " | grep -i ".toList ++ system.diskBase))
      (.notPresent (cmd ++ " | grep -i ".toList ++ system.diskBase))) system.cmdList
  forEach (fun diskNode =>
    check (system.finds ("lshw -c disk | grep -i ".toList ++ diskNode))
      (.nodeNotPresent diskNode)) (if system.mpath then system.diskNodes else [])

/-! ### The sizes -/

/-- A file of the queue in sysfs, without the line break at its end. -/
def System.queue (system : System) (name : String) : Text :=
  (system.sysfs ("/sys/block/".toList ++ system.diskAbs ++ "/queue/".toList ++
    name.toList)).rdropWhile (· = '\n')

/-- The sizes in sysfs. -/
def System.pbs (system : System) : Text := system.queue "physical_block_size"

/-- The logical block size. -/
def System.lbs (system : System) : Text := system.queue "logical_block_size"

/-- The minimum size for I/O. -/
def System.mis (system : System) : Text := system.queue "minimum_io_size"

/-- The optimal size for I/O. -/
def System.ois (system : System) : Text := system.queue "optimal_io_size"

/-- The sector sizes as `fdisk` prints them. -/
def sectorString (lbs pbs : Text) : Text :=
  "Sector size (logical/physical): ".toList ++ lbs ++ " bytes / ".toList ++ pbs ++ " bytes".toList

/-- What is in front of the sizes for I/O. -/
def ioSizeTitle : Text := "I/O size (minimum/optimal): ".toList

/-- What is between them. -/
def bytesSlash : Text := " bytes / ".toList

/-- What is behind them. -/
def bytesWord : Text := " bytes".toList

/-- The sizes for I/O as `fdisk` prints them. -/
def ioSizeString (mis ois : Text) : Text :=
  ioSizeTitle ++ (mis ++ (bytesSlash ++ (ois ++ bytesWord)))

/-- The output of `lsblk -l --output SIZE -b |sed -n 2p`. -/
def System.sizeOutput (system : System) : Text := chomp (printed (between 2 2 system.lsblk))

/-- The lines of a report in which `grep -i` finds the disk. -/
def System.grepped (system : System) (report : List Text) : Text :=
  chomp (printed (report.filter (containsIgnoreCase system.disk)))

/-- The sizes in the reports are compared with those of `lsblk` and of sysfs. The size is the first
character of what `lsblk` prints, and both sizes for I/O are the minimum. -/
def checkSizes (system : System) : Script PUnit :=
  if system.sizeOutput = [] then
    throw (.cancelled "No information available in lsblk".toList)
  else
    match (strip (· = '\n') system.sizeOutput).head? with
    | none => throw .raised
    | some sizeB => do
      let output := chomp (printed system.fdisk)
      check (contains (sectorString system.lbs system.pbs) output) .sectorSizes
      check (contains (ioSizeString system.mis system.mis) output) .ioSizes
      check (contains [sizeB] (system.grepped system.fdisk)) .fdiskSize
      check (contains [sizeB] (system.grepped system.sfdisk)) .sfdiskSize

/-! ### The disk is mounted -/

/-- A file system is made and mounted. Its UUID is between the first two quotes that `blkid`
prints. -/
def checkMounted (system : System) : Script PUnit := do
  demand system.formats .raised
  check system.mounts .notMounted
  demand (1 < (system.blkid.splitOn '"').length) .raised
  check (system.finds ("ls /dev/disk/by-uuid -l| grep -i ".toList ++ system.diskAbs)) .noUuid
  check (system.finds ("grub2-probe ".toList ++ system.dirs)) .notDetected

/-! ### The section of the disk -/

/-- What is in front of the logical size of a sector. -/
def logicalTitle : Text := "logicalsectorsize=".toList

/-- What is in front of its size. -/
def sectorTitle : Text := "sectorsize=".toList

/-- The sector sizes as `lshw` prints them. -/
def lsString (lbs pbs : Text) : Text := logicalTitle ++ (lbs ++ ' ' :: (sectorTitle ++ pbs))

/-- What a heading has in it. -/
def headingWord : Text := "-disk".toList

/-- The numbers of the lines that have the disk in them, as they are printed. -/
def System.middle (system : System) : List Text :=
  (numbered (contains system.disk) 1 system.lshw).map decimal

/-- The numbers of the headings. -/
def System.total (system : System) : List Text :=
  (numbered (contains headingWord) 1 system.lshw).map decimal

/-- All these numbers, in the order of texts. -/
def System.lst (system : System) : List Text :=
  (system.total ++ system.middle).mergeSort fun first second => decide (first ≤ second)

/-- A number that is printed, read again. -/
def number (text : Text) : Nat := Nat.ofDigitChars 10 text 0

/-- The first and the last line that are looked at: the numbers in front of the number of the disk
and behind it. There may be none behind it. -/
def System.lineRange (system : System) (middle : Text) : Option (Text × Text) :=
  match inFront system.lst middle, behind system.lst middle with
  | some low, some high => some (low, high)
  | _, _ => none

/-- The sector sizes are looked for between two headings. -/
def checkSection (system : System) : Script PUnit :=
  match system.middle with
  | [] => pure ⟨⟩
  | middle :: _ =>
    match system.lineRange middle with
    | none => throw .raised
    | some (low, high) =>
      let diskDetails := chomp (printed (between (number low) (number high) system.lshw))
      check (contains (lsString system.lbs system.pbs) diskDetails) .lshwSectorSizes

/-! ### The test -/

/-- The end of the test. -/
def report (system : System) : Script PUnit := do
  let msg ← get
  demand (msg = []) (.failed ("Some tests failed. Details below:\n".toList ++
    ['\n'].intercalate (msg.map (Message.text system))))

/-- `test`. -/
def test (system : System) : Script PUnit := do
  checkListed system
  checkSizes system
  checkMounted system
  checkSection system
  report system

/-! ### What a part does to a message -/

/-- A script leaves a message among the others, or out of them. -/
def Silent (message : Message) (script : Script PUnit) : Prop :=
  ∀ among : Prop, Keeps (fun msg => message ∈ msg ↔ among) script

/-- A check leaves the other messages as they are. -/
theorem check_silent {message other : Message} (different : message ≠ other)
    (condition : Bool) : Silent message (check condition other) := by
  intro among
  apply Keeps.ite
  · exact Keeps.pure _
  · apply Keeps.modify
    intro msg kept
    rw [List.mem_append, List.mem_singleton, or_iff_left different]
    exact kept

/-- The messages after a check. -/
def added (condition : Bool) (message : Message) (msg : List Message) : List Message :=
  if condition then msg else msg ++ [message]

/-- What a check adds. -/
theorem check_apply (condition : Bool) (message : Message) (msg : List Message) :
    check condition message msg = .ok ⟨⟩ (added condition message msg) := by
  cases condition <;> rfl

/-- A check before another step. -/
theorem check_bind_apply (condition : Bool) (message : Message) (next : PUnit → Script PUnit)
    (msg : List Message) :
    (check condition message >>= next) msg = next ⟨⟩ (added condition message msg) := by
  rw [bind_apply, check_apply]

/-- A message is among the others after a check when it was before, or was added. -/
theorem mem_added_iff {condition : Bool} {message other : Message} {msg : List Message} :
    message ∈ added condition other msg ↔
      message ∈ msg ∨ (condition = false ∧ message = other) := by
  cases condition <;> simp [added]

/-- A demand leaves all messages. -/
theorem demand_silent (message : Message) (condition : Prop) [Decidable condition]
    (ending : Ending) : Silent message (demand condition ending) :=
  fun _ => Keeps.demand condition ending

/-- Two steps are silent when both are. -/
theorem Silent.bind {message : Message} {first : Script PUnit} {second : PUnit → Script PUnit}
    (firstSilent : Silent message first) (secondSilent : Silent message (second ⟨⟩)) :
    Silent message (first >>= second) :=
  fun among => (firstSilent among).bind fun _ => secondSilent among

/-- A loop is silent when its rounds are. -/
theorem Silent.forEach {α : Type} {message : Message} {body : α → Script PUnit} {values : List α}
    (silent : ∀ value ∈ values, Silent message (body value)) :
    Silent message (forEach body values) :=
  fun among => Keeps.forEach fun value member => silent value member among

/-- A script comes to its end. -/
def Runs (script : Script PUnit) : Prop := ∀ msg, ∃ after, script msg = .ok ⟨⟩ after

/-- A check comes to its end. -/
theorem check_runs (condition : Bool) (message : Message) : Runs (check condition message) :=
  fun msg => ⟨_, check_apply condition message msg⟩

/-- Two steps come to their end when both do. -/
theorem Runs.bind {first : Script PUnit} {second : PUnit → Script PUnit} (firstRuns : Runs first)
    (secondRuns : Runs (second ⟨⟩)) : Runs (first >>= second) := by
  intro msg
  obtain ⟨between, ranFirst⟩ := firstRuns msg
  obtain ⟨after, ranSecond⟩ := secondRuns between
  exact ⟨after, by rw [bind_apply, ranFirst]; exact ranSecond⟩

/-- A loop comes to its end when its rounds do. -/
theorem Runs.forEach {α : Type} {body : α → Script PUnit} (runs : ∀ value, Runs (body value))
    (values : List α) : Runs (forEach body values) := by
  induction values with
  | nil => exact fun msg => ⟨msg, rfl⟩
  | cons value rest inductionHypothesis => exact (runs value).bind inductionHypothesis

/-- The disk is looked for in all tools. -/
theorem checkListed_runs (system : System) : Runs (checkListed system) := by
  rw [checkListed]
  apply (check_runs _ _).bind
  apply (Runs.forEach (fun _ => check_runs _ _) _).bind
  apply (Runs.forEach (fun _ => check_runs _ _) _).bind
  exact Runs.forEach (fun _ => check_runs _ _) _

/-- The end adds nothing. -/
theorem report_silent (system : System) (message : Message) : Silent message (report system) := by
  intro among
  rw [report]
  apply Keeps.bind
  · exact fun msg kept => kept
  · exact fun msg => Keeps.demand _ _

/-! ### Numbers that are read -/

/-- A file in sysfs has a number in it. -/
def HoldsNumber (system : System) (name : String) (value : Nat) : Prop :=
  system.sysfs ("/sys/block/".toList ++ system.diskAbs ++ "/queue/".toList ++ name.toList) =
    decimal value ++ ['\n']

/-- A number that sysfs has is read. -/
theorem queue_eq {system : System} {name : String} {value : Nat}
    (holds : HoldsNumber system name value) : system.queue name = decimal value := by
  have solid : ∀ c ∈ decimal value, decide (c = '\n') = false := by
    intro c member
    apply decide_eq_false
    rintro rfl
    exact absurd (decimal_digits value '\n' member) (by decide)
  have ending : Blank (fun c : Char => decide (c = '\n')) ['\n'] := forall_of_check (by decide)
  rw [System.queue, holds]
  exact IsWord.rstrip ⟨(decimal_isWord value).nonempty, solid⟩ ending

/-- Neither a blank nor a digit ends a line. -/
theorem isNewline_of_visible {c : Char} (visible : c = ' ' ∨ c.isDigit = true) :
    isNewline c = false := by
  rcases visible with rfl | digit
  · decide
  · by_contra ends
    rw [Bool.not_eq_false, isNewline, Bool.or_eq_true, decide_eq_true_iff, decide_eq_true_iff]
      at ends
    rcases ends with rfl | rfl
    · exact absurd digit (by decide)
    · exact absurd digit (by decide)

/-- A number has no end of a line. -/
theorem decimal_unbroken (n : Nat) : ∀ c ∈ decimal n, isNewline c = false := fun c member =>
  isNewline_of_visible (.inr (decimal_digits n c member))

/-! ### A plain disk -/

/-- What sysfs has about it. Its smallest size is 512. -/
def plainSysfs (path : Text) : Text :=
  if path = "/sys/block/sda/queue/minimum_io_size".toList then "512\n".toList
  else "4096\n".toList

/-- A disk that is found by all tools, with some reports about it. -/
def plainDisk (lsblk fdisk sfdisk lshw : List Text) : System where
  disk := "/dev/sda".toList
  diskBase := "sda".toList
  diskAbs := "sda".toList
  diskNodes := ["sda".toList]
  mpath := false
  distro := "SuSE".toList
  dirs := "/mnt".toList
  fstype := "ext4".toList
  finds := fun _ => true
  sysfs := plainSysfs
  lsblk := lsblk
  fdisk := fdisk
  sfdisk := sfdisk
  formats := true
  mounts := true
  blkid := "\"0a1b\" TYPE".toList
  lshw := lshw

/-- A number that sysfs has about it. -/
theorem holdsNumber_plainDisk {name : String} (value : Nat)
    (held : plainSysfs ("/sys/block/".toList ++ "sda".toList ++ "/queue/".toList ++ name.toList) =
      decimal value ++ ['\n']) (lsblk fdisk sfdisk lshw : List Text) :
    HoldsNumber (plainDisk lsblk fdisk sfdisk lshw) name value := held

end AvocadoMisc.DiskInfo.Checks
