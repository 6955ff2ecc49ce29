import Mathlib.Data.List.Basic
import AvocadoMisc.Library.Text

/-!
# Stopping HTX

HTX runs exercisers on the devices of an MDT, under a daemon. Two tests stop it. The
workload test suspends the devices, shuts the MDT down and then the daemon. The block device
test does the first two only if its query finds every device active: each name has to be in
a line with ACTIVE. For a run on all devices the list of names is the empty text, cut at
blanks, so there is one name, the empty one, and it is in every line.

What HTX prints is outside the source. A format has one line for each device that is asked
for, with ACTIVE in it exactly when the device is active, and a status that ends in the word
running while the daemon runs.
-/

namespace AvocadoMisc.Htx.StopHtx

open Library.Text

abbrev Text := List Char

/-- The word that marks an active device. -/
def activeWord : Text := "ACTIVE".toList

/-- The last word of the status of a daemon that runs. -/
def runningWord : Text := "running".toList

/-- What HTX prints for the devices of an MDT. The layout is free, as long as a line has ACTIVE
exactly for an active device and the header does not have it. -/
structure Format (mdt : List Text) where
  header : List Text
  line : Text → Bool → Text
  status : Bool → Text
  /-- A line is one line. -/
  headerBreaks : ∀ text ∈ header, '\n' ∉ text
  lineBreaks : ∀ device ∈ mdt, ∀ active, '\n' ∉ line device active
  headerActive : ∀ text ∈ header, contains activeWord text = false
  lineActive : ∀ device ∈ mdt, ∀ active, contains activeWord (line device active) = active
  statusRunning : ∃ front, status true = front ++ ' ' :: runningWord

/-- The state of HTX: the active devices, whether the MDT is up, and the daemon. -/
structure HtxState where
  active : Text → Bool
  mdtUp : Bool
  daemon : Bool

/-- A test: the names of the block devices, none for a run on all of them. A name has no
blank. -/
structure HtxTest where
  devices : List Text
  solid : ∀ device ∈ devices, ' ' ∉ device

/-- `block_device`. -/
def HtxTest.blockDevice (test : HtxTest) : Text := [' '].intercalate test.devices

/-- `device_list`. -/
def HtxTest.deviceList (test : HtxTest) : List Text := test.blockDevice.splitOn ' '

/-- The devices that a query is about. -/
def HtxTest.asked (test : HtxTest) (mdt : List Text) : List Text :=
  if test.devices = [] then mdt else mdt.filter test.devices.contains

section Tests

variable {mdt : List Text} (format : Format mdt) (test : HtxTest)

/-- `htxcmdline -query`. -/
def query (htx : HtxState) : Text :=
  ['\n'].intercalate (format.header ++
    (test.asked mdt).map fun device => format.line device (htx.active device))

/-- `is_block_device_active`. -/
def isBlockDeviceActive (htx : HtxState) : Bool :=
  let output := (query format test htx).splitOn '\n'
  let activeDevices := output.flatMap fun line =>
    test.deviceList.filter fun dev => contains dev line && contains activeWord line
  let nonActiveDevice := test.deviceList.filter fun dev => !activeDevices.contains dev
  nonActiveDevice.isEmpty

/-- `suspend_all_block_device`. -/
def suspendAllBlockDevice (htx : HtxState) : HtxState := { htx with active := fun _ => false }

/-- `htxcmdline -shutdown`. -/
def shutdownMdt (htx : HtxState) : HtxState := { htx with mdtUp := false }

/-- `htxd_shutdown`. -/
def htxdShutdown (htx : HtxState) : HtxState := { htx with daemon := false }

/-- `stop_htx` of the block device test. -/
def stopHtx (htx : HtxState) : HtxState :=
  let htx := if isBlockDeviceActive format test htx then shutdownMdt (suspendAllBlockDevice htx)
    else htx
  if ((format.status htx.daemon).splitOn ' ').getLast? = some runningWord then htxdShutdown htx
  else htx

/-- `_stop_daemon` of the workload test. -/
def stopDaemon (htx : HtxState) : HtxState :=
  if (words charSpace (strip charSpace (format.status htx.daemon))).getLast? = some runningWord then
    htxdShutdown htx
  else htx

/-- `stop_htx` of the workload test. -/
def workloadStopHtx (htx : HtxState) : HtxState :=
  stopDaemon format (shutdownMdt (suspendAllBlockDevice htx))

end Tests

/-- HTX is stopped: no device of the MDT is active, the MDT is shut down and the daemon does
not run. -/
structure Stopped (mdt : List Text) (htx : HtxState) : Prop where
  devices : ∀ device ∈ mdt, htx.active device = false
  mdtUp : htx.mdtUp = false
  daemon : htx.daemon = false

/-- Every listed name is in the line of a device that is asked for and active. For a run on all
devices, one of them is active. -/
def AllSeen {mdt : List Text} (format : Format mdt) (test : HtxTest) (htx : HtxState) : Prop :=
  if test.devices = [] then ∃ device ∈ mdt, htx.active device = true
  else ∀ name ∈ test.devices, ∃ device ∈ mdt, device ∈ test.devices ∧ htx.active device = true ∧
    contains name (format.line device true) = true

/-- There is nothing to suspend and nothing to shut down: no device of the MDT is active, and it is
not up. -/
def Quiet (mdt : List Text) (htx : HtxState) : Prop :=
  (∀ device ∈ mdt, htx.active device = false) ∧ htx.mdtUp = false

section Query

variable {mdt : List Text} {format : Format mdt} {test : HtxTest}

/-- The names that the test looks for. -/
theorem deviceList_eq (test : HtxTest) :
    test.deviceList = if test.devices = [] then [[]] else test.devices := by
  by_cases all : test.devices = []
  · rw [if_pos all, HtxTest.deviceList, HtxTest.blockDevice, all]
    rfl
  · rw [if_neg all, HtxTest.deviceList, HtxTest.blockDevice]
    exact List.splitOn_intercalate _ test.solid all

/-- A device that is asked for is on the MDT. -/
theorem mem_asked {device : Text} :
    device ∈ test.asked mdt ↔ device ∈ mdt ∧ (test.devices = [] ∨ device ∈ test.devices) := by
  by_cases all : test.devices = [] <;> simp [HtxTest.asked, all]

/-- The lines with ACTIVE are those of the active devices that are asked for: the header has the
word nowhere, and the line of a device has it exactly if the device is active. -/
theorem active_line_iff (htx : HtxState) (Holds : Text → Prop) :
    (∃ line ∈ (query format test htx).splitOn '\n', Holds line ∧
      contains activeWord line = true) ↔
      ∃ device ∈ test.asked mdt, htx.active device = true ∧ Holds (format.line device true) := by
  have unbroken : ∀ line ∈ format.header ++
      (test.asked mdt).map fun device => format.line device (htx.active device),
      '\n' ∉ line := by
    intro line member
    rcases List.mem_append.mp member with inHeader | written
    · exact format.headerBreaks line inHeader
    · obtain ⟨device, listed, rfl⟩ := List.mem_map.mp written
      exact format.lineBreaks device (mem_asked.mp listed).1 _
  constructor
  · rintro ⟨line, member, holds, marked⟩
    by_cases empty : (format.header ++ (test.asked mdt).map fun device =>
        format.line device (htx.active device)) = []
    · rw [query, empty] at member
      have blank : line = [] := List.mem_singleton.mp member
      rw [blank] at marked
      exact absurd marked (by decide)
    · rw [query, List.splitOn_intercalate _ unbroken empty] at member
      rcases List.mem_append.mp member with inHeader | written
      · rw [format.headerActive line inHeader] at marked
        cases marked
      · obtain ⟨device, listed, rfl⟩ := List.mem_map.mp written
        rw [format.lineActive device (mem_asked.mp listed).1] at marked
        exact ⟨device, listed, marked, by rwa [marked] at holds⟩
  · rintro ⟨device, listed, active, holds⟩
    have written : format.line device true ∈ format.header ++
        (test.asked mdt).map fun device => format.line device (htx.active device) :=
      List.mem_append_right _ (List.mem_map.mpr ⟨device, listed, by rw [active]⟩)
    refine ⟨format.line device true, ?_, holds,
      format.lineActive device (mem_asked.mp listed).1 true⟩
    rwa [query, List.splitOn_intercalate _ unbroken (List.ne_nil_of_mem written)]

/-- The test on which the devices are suspended. -/
theorem isBlockDeviceActive_iff (htx : HtxState) :
    isBlockDeviceActive format test htx = true ↔ AllSeen format test htx := by
  have seen (name : Text) : (∃ line ∈ (query format test htx).splitOn '\n',
      contains name line = true ∧ contains activeWord line = true) ↔
        ∃ device ∈ test.asked mdt, htx.active device = true ∧
          contains name (format.line device true) = true :=
    active_line_iff htx fun line => contains name line = true
  have every : isBlockDeviceActive format test htx = true ↔ ∀ name ∈ test.deviceList,
      ∃ line ∈ (query format test htx).splitOn '\n',
        contains name line = true ∧ contains activeWord line = true := by
    simp only [isBlockDeviceActive, List.isEmpty_iff, List.filter_eq_nil_iff, Bool.not_eq_true,
      Bool.not_eq_false', List.contains_iff_mem, List.mem_flatMap, List.mem_filter,
      Bool.and_eq_true]
    exact ⟨fun all name listed => (all name listed).imp fun line found => ⟨found.1, found.2.2⟩,
      fun all name listed => (all name listed).imp fun line found => ⟨found.1, listed, found.2⟩⟩
  rw [every, deviceList_eq, AllSeen]
  simp only [seen, mem_asked]
  by_cases all : test.devices = []
  · have anywhere (text : Text) : contains [] text = true := decide_eq_true List.nil_infix
    simp [all, anywhere]
  · simp [all, and_assoc]

/-- The status of a daemon that runs ends in the word, however it is cut. -/
theorem status_running :
    ((format.status true).splitOn ' ').getLast? = some runningWord ∧
      (words charSpace (strip charSpace (format.status true))).getLast? = some runningWord := by
  obtain ⟨front, same⟩ := format.statusRunning
  have isWord : IsWord charSpace runningWord := isWord_of_check (by decide) (by decide)
  have solid : ' ' ∉ runningWord := by decide
  have blank : charSpace ' ' = true := by decide
  constructor
  · rw [same, List.splitOn_append_cons_self, List.splitOn_eq_singleton solid]
    simp
  · rw [words_strip, same, words_append blank, words_solid isWord]
    simp

end Query

section Stopping

variable {mdt : List Text} (format : Format mdt) (test : HtxTest)

/-- The block device test stops HTX exactly when it sees every name in the line of an active
device, or there is nothing to suspend and to shut down. The daemon it stops in any case. -/
theorem stopHtx_iff (htx : HtxState) :
    Stopped mdt (stopHtx format test htx) ↔ AllSeen format test htx ∨ Quiet mdt htx := by
  have daemon (state : HtxState) : (if ((format.status state.daemon).splitOn ' ').getLast? =
      some runningWord then htxdShutdown state else state) = htxdShutdown state := by
    cases runs : state.daemon with
    | true => rw [if_pos (@status_running _ format).1]
    | false =>
      have off : htxdShutdown state = state := by rw [htxdShutdown, ← runs]
      rw [off, ite_self]
  rw [stopHtx, daemon, ← isBlockDeviceActive_iff]
  by_cases active : isBlockDeviceActive format test htx = true
  · rw [if_pos active]
    exact iff_of_true ⟨fun _ _ => rfl, rfl, rfl⟩ (.inl active)
  · rw [if_neg active]
    constructor
    · intro stopped
      exact .inr ⟨stopped.devices, stopped.mdtUp⟩
    · intro either
      obtain ⟨devices, mdtUp⟩ := either.resolve_left active
      exact ⟨devices, mdtUp, rfl⟩

/-- The workload test always does. -/
theorem workloadStopHtx_stopped (htx : HtxState) :
    Stopped mdt (workloadStopHtx format htx) := by
  rw [workloadStopHtx, stopDaemon]
  cases runs : htx.daemon with
  | true =>
    have status : (words charSpace (strip charSpace (format.status
        (shutdownMdt (suspendAllBlockDevice htx)).daemon))).getLast? = some runningWord := by
      change (words charSpace (strip charSpace (format.status htx.daemon))).getLast? = _
      rw [runs]
      exact status_running.2
    rw [if_pos status]
    exact ⟨fun _ _ => rfl, rfl, rfl⟩
  | false =>
    split
    · exact ⟨fun _ _ => rfl, rfl, rfl⟩
    · exact ⟨fun _ _ => rfl, rfl, runs⟩

/-- Both ways to stop HTX stop it exactly when the block device test sees every name in the
line of an active device, or there is nothing to suspend and to shut down.

What HTX prints is any format with a line for each device that is asked for. The commands to suspend
and to shut down have their effect. -/
theorem htx_stopped_iff (htx : HtxState) :
    (Stopped mdt (stopHtx format test htx) ∧ Stopped mdt (workloadStopHtx format htx)) ↔
      AllSeen format test htx ∨ Quiet mdt htx := by
  rw [stopHtx_iff, and_iff_left (workloadStopHtx_stopped format htx)]

end Stopping

/-- Two disks. -/
def twoDisks : List Text := ["sda".toList, "sdb".toList]

/-- A line has the name and the state. -/
def plainFormat : Format twoDisks where
  header := ["Device Status".toList]
  line device active := device ++ if active then " ACTIVE".toList else " SUSPENDED".toList
  status running := if running then "htxd is running".toList else "htxd is stopped".toList
  headerBreaks := by decide
  lineBreaks := by decide
  headerActive := by decide +kernel
  lineActive := by decide +kernel
  statusRunning := ⟨"htxd is".toList, by decide⟩

/-- A run on both, of which one is still active. -/
theorem htx_stopped_fails :
    ¬ ∀ (mdt : List Text) (format : Format mdt) (test : HtxTest) (htx : HtxState),
      Stopped mdt (stopHtx format test htx) := by
  intro always
  have stopped := always twoDisks plainFormat ⟨twoDisks, by decide⟩
    ⟨fun device => device = "sda".toList, true, true⟩
  exact absurd stopped.mdtUp (by decide +kernel)

end AvocadoMisc.Htx.StopHtx
