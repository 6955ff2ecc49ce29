import AvocadoMisc.Htx.StopHtx
import AvocadoMisc.Library.Parts

/-!
# Whether the block devices are in an MDT, and active

The workload test and the block device test of HTX each have their own copy of two checks on the
output of a query. `is_block_device_in_mdt` looks for the names of the devices anywhere in the
output, and `is_block_device_active` for lines with a name and ACTIVE in it. A name may be a part
of another name, and ACTIVE is a part of other states.

In the block device test the branch for missing devices has lost its return, so the first check
always passes. And its list of devices is never empty: without names it has the empty name.
-/

namespace AvocadoMisc.Htx.DeviceChecks

open Library.Parts Library.Text StopHtx

/-! ### The checks -/

/-- The devices that are in no line with ACTIVE, as a set of names. -/
def nonActive (output : Text) (deviceList : List Text) : List Text :=
  let activeDevices := (output.splitOn '\n').flatMap fun line =>
    deviceList.filter fun dev => contains dev line && contains activeWord line
  deviceList.filter fun dev => !activeDevices.contains dev

namespace Workload

/-- `is_block_device_in_mdt` of the workload test. -/
def isBlockDeviceInMdt (output blockDevice : Text) : Bool :=
  let missing := (words charSpace blockDevice).filter fun dev => !contains dev output
  if missing ≠ [] then false else true

/-- `is_block_device_active` of the workload test. -/
def isBlockDeviceActive (output blockDevice : Text) : Bool :=
  if nonActive output (words charSpace blockDevice) ≠ [] then false else true

end Workload

namespace BlockDevices

/-- `is_block_device_in_mdt` of the block device test. The devices that are missing are only
logged. -/
def isBlockDeviceInMdt (output blockDevice : Text) : Bool :=
  let device := (blockDevice.splitOn ' ').filter fun dev => !contains dev output
  if device ≠ [] then true else true

/-- `is_block_device_active` of the block device test. -/
def isBlockDeviceActive (output blockDevice : Text) : Bool :=
  if nonActive output (blockDevice.splitOn ' ') ≠ [] then false else true

/-- It is the check on which the devices are suspended. -/
theorem isBlockDeviceActive_query {mdt : List Text} (format : Format mdt) (test : HtxTest)
    (htx : HtxState) :
    isBlockDeviceActive (query format test htx) test.blockDevice =
      StopHtx.isBlockDeviceActive format test htx := by
  rw [isBlockDeviceActive, StopHtx.isBlockDeviceActive, nonActive]
  dsimp only [HtxTest.deviceList]
  split
  case isTrue some_left => simpa using some_left
  case isFalse none_left => simpa using none_left

end BlockDevices

/-! ### The output of a query -/

/-- The row of a device has its name and its state among its words. -/
structure Row where
  name : Text
  state : Text
  line : Text
  hasName : name ∈ words charSpace line
  hasState : state ∈ words charSpace line

/-- The output of a query: one row for each device, with other lines in front of them and behind
them. -/
structure Output where
  text : Text
  header : List Text
  rows : List Row
  trailer : List Text
  split : text.splitOn '\n' = header ++ (rows.map Row.line ++ trailer)
  onePerDevice : (rows.map Row.name).Nodup

/-- A device has a row. -/
def Output.HasRow (output : Output) (device : Text) : Prop :=
  ∃ row ∈ output.rows, row.name = device

/-- The row of a device has the state ACTIVE. -/
def Output.IsActive (output : Output) (device : Text) : Prop :=
  ∃ row ∈ output.rows, row.name = device ∧ row.state = activeWord

/-- A list of names, as it is written: words with a blank between them. -/
structure Names where
  devices : List Text
  isWord : ∀ device ∈ devices, IsWord charSpace device

/-- `block_device`. -/
def Names.blockDevice (names : Names) : Text := [' '].intercalate names.devices

/-- Both copies of both checks do what they are for, and agree: one that every device has a row, the
other that every device is active. -/
structure Exact (names : Names) (output : Output) : Prop where
  workloadMdt : Workload.isBlockDeviceInMdt output.text names.blockDevice = true ↔
    ∀ device ∈ names.devices, output.HasRow device
  blockMdt : BlockDevices.isBlockDeviceInMdt output.text names.blockDevice = true ↔
    ∀ device ∈ names.devices, output.HasRow device
  workloadActive : Workload.isBlockDeviceActive output.text names.blockDevice = true ↔
    ∀ device ∈ names.devices, output.IsActive device
  blockActive : BlockDevices.isBlockDeviceActive output.text names.blockDevice = true ↔
    ∀ device ∈ names.devices, output.IsActive device
  sameMdt : Workload.isBlockDeviceInMdt output.text names.blockDevice =
    BlockDevices.isBlockDeviceInMdt output.text names.blockDevice
  sameActive : Workload.isBlockDeviceActive output.text names.blockDevice =
    BlockDevices.isBlockDeviceActive output.text names.blockDevice

/-- A line of the output has the name of a device and ACTIVE in it. -/
def Output.Mentions (output : Output) (device : Text) : Prop :=
  ∃ line ∈ output.text.splitOn '\n', device <:+: line ∧ activeWord <:+: line

/-! ### What the checks look for -/

/-- A check passes when no device is left over. -/
theorem passes_iff (leftOver : List Text) :
    (if leftOver ≠ [] then false else true) = true ↔ leftOver = [] := by
  cases leftOver <;> simp

/-- What is not active is not mentioned. -/
theorem nonActive_eq_nil_iff (output : Text) (deviceList : List Text) :
    nonActive output deviceList = [] ↔ ∀ dev ∈ deviceList,
      ∃ line ∈ output.splitOn '\n', dev <:+: line ∧ activeWord <:+: line := by
  simp only [nonActive, List.filter_eq_nil_iff, Bool.not_eq_true, Bool.not_eq_false',
    List.contains_iff_mem, List.mem_flatMap, List.mem_filter, Bool.and_eq_true, contains,
    decide_eq_true_iff]
  apply forall₂_congr
  intro dev listed
  apply exists_congr
  intro line
  rw [and_iff_right listed]

/-- The words of the written names are the names. -/
theorem Names.words_blockDevice (names : Names) :
    words charSpace names.blockDevice = names.devices := by
  rw [Names.blockDevice, words_intercalate (by decide)]
  have single : ∀ device ∈ names.devices, words charSpace device = [device] := fun device listed =>
    words_solid (names.isWord device listed)
  calc names.devices.flatMap (words charSpace)
      = names.devices.flatMap fun device => [device] := List.flatMap_congr single
    _ = names.devices := List.flatMap_singleton' _

/-- Cut at each space, there is the empty name when there are no names. -/
theorem Names.splitOn_blockDevice (names : Names) :
    names.blockDevice.splitOn ' ' = if names.devices = [] then [[]] else names.devices := by
  have solid : ∀ device ∈ names.devices, ' ' ∉ device := by
    intro device listed
    exact not_mem_of_isWord (names.isWord device listed) (by decide)
  rw [Names.blockDevice]
  split
  case isTrue none =>
    rw [none]
    rfl
  case isFalse some_name => exact List.splitOn_intercalate ' ' solid some_name

/-- A row is a line of the output. -/
theorem Output.line_mem (output : Output) {row : Row} (isRow : row ∈ output.rows) :
    row.line ∈ output.text.splitOn '\n' := by
  rw [output.split, List.mem_append, List.mem_append]
  exact .inr (.inl (List.mem_map_of_mem isRow))

/-- A device that is active is mentioned. -/
theorem Output.mentions_of_isActive {output : Output} {device : Text}
    (active : output.IsActive device) : output.Mentions device := by
  obtain ⟨row, isRow, rfl, isActive⟩ := active
  refine ⟨row.line, output.line_mem isRow, infix_of_mem_words row.hasName, ?_⟩
  rw [← isActive]
  exact infix_of_mem_words row.hasState

/-- A device with a row is in the output. -/
theorem Output.infix_of_hasRow {output : Output} {device : Text} (hasRow : output.HasRow device) :
    device <:+: output.text := by
  obtain ⟨row, isRow, rfl⟩ := hasRow
  have unbroken : '\n' ∉ row.name :=
    not_mem_of_isWord (isWord_of_mem_words row.hasName) (by decide)
  rw [infix_splitOn_iff unbroken]
  exact ⟨row.line, output.line_mem isRow, infix_of_mem_words row.hasName⟩

/-- The check of the workload test on an MDT. -/
theorem workload_isBlockDeviceInMdt_iff (names : Names) (output : Text) :
    Workload.isBlockDeviceInMdt output names.blockDevice = true ↔
      ∀ device ∈ names.devices, device <:+: output := by
  rw [Workload.isBlockDeviceInMdt, names.words_blockDevice, passes_iff, List.filter_eq_nil_iff]
  simp [contains]

/-- The check of the block device test on an MDT. -/
theorem block_isBlockDeviceInMdt (output blockDevice : Text) :
    BlockDevices.isBlockDeviceInMdt output blockDevice = true := by
  rw [BlockDevices.isBlockDeviceInMdt, ite_self]

/-- The check of the workload test on active devices. -/
theorem workload_isBlockDeviceActive_iff (names : Names) (output : Output) :
    Workload.isBlockDeviceActive output.text names.blockDevice = true ↔
      ∀ device ∈ names.devices, output.Mentions device := by
  rw [Workload.isBlockDeviceActive, names.words_blockDevice, passes_iff, nonActive_eq_nil_iff]
  exact Iff.rfl

/-- The check of the block device test on active devices. Without names, any line with ACTIVE will
do, and there has to be one. -/
theorem block_isBlockDeviceActive_iff (names : Names) (output : Output) :
    BlockDevices.isBlockDeviceActive output.text names.blockDevice = true ↔
      (∀ device ∈ names.devices, output.Mentions device) ∧
        (names.devices = [] → output.Mentions []) := by
  rw [BlockDevices.isBlockDeviceActive, names.splitOn_blockDevice, passes_iff,
    nonActive_eq_nil_iff]
  by_cases none : names.devices = []
  · rw [if_pos none, none, List.forall_mem_singleton]
    constructor
    · exact fun mentioned =>
        ⟨fun device listed => absurd listed List.not_mem_nil, fun _ => mentioned⟩
    · exact fun ⟨_, mentioned⟩ => mentioned rfl
  · rw [if_neg none, and_iff_left fun isNone => absurd isNone none]
    exact Iff.rfl

/-! ### The verdict -/

/-- When a device is not active, some device is not mentioned. -/
def Reported (names : Names) (output : Output) : Prop :=
  ∀ device ∈ names.devices, ¬output.IsActive device →
    ∃ other ∈ names.devices, ¬output.Mentions other

/-- The devices are mentioned exactly when they are active, if those that are not are reported. -/
theorem reported_iff (names : Names) (output : Output) :
    ((∀ device ∈ names.devices, output.Mentions device) ↔
      ∀ device ∈ names.devices, output.IsActive device) ↔ Reported names output := by
  constructor
  · intro same device listed notActive
    by_contra all
    refine notActive (same.mp (fun other isListed => ?_) device listed)
    by_contra notMentioned
    exact all ⟨other, isListed, notMentioned⟩
  · intro reported
    constructor
    · intro all device listed
      by_contra notActive
      obtain ⟨other, isListed, notMentioned⟩ := reported device listed notActive
      exact notMentioned (all other isListed)
    · exact fun all device listed => Output.mentions_of_isActive (all device listed)

/-- The checks are exact exactly when every device has a row, there is a device that is not
mentioned if one is not active, and there is a device or a line with ACTIVE.

The output has any rows, one for a device, with any lines around them. The list of devices may be
empty, and a listed device may have no row. -/
theorem exact_iff (names : Names) (output : Output) :
    Exact names output ↔
      (∀ device ∈ names.devices, output.HasRow device) ∧ Reported names output ∧
        (names.devices = [] → output.Mentions []) := by
  constructor
  · intro exact
    have rows := exact.blockMdt.mp (block_isBlockDeviceInMdt _ _)
    have workload := exact.workloadActive
    rw [workload_isBlockDeviceActive_iff] at workload
    refine ⟨rows, (reported_iff names output).mp workload, fun none => ?_⟩
    have block := exact.blockActive.mpr (by simp [none])
    exact ((block_isBlockDeviceActive_iff names output).mp block).2 none
  · rintro ⟨rows, reported, somewhere⟩
    have workloadMdt : Workload.isBlockDeviceInMdt output.text names.blockDevice = true :=
      (workload_isBlockDeviceInMdt_iff names output.text).mpr fun device listed =>
        Output.infix_of_hasRow (rows device listed)
    have blockMdt := block_isBlockDeviceInMdt output.text names.blockDevice
    have workloadActive : Workload.isBlockDeviceActive output.text names.blockDevice = true ↔
        ∀ device ∈ names.devices, output.IsActive device := by
      rw [workload_isBlockDeviceActive_iff]
      exact (reported_iff names output).mpr reported
    have blockActive : BlockDevices.isBlockDeviceActive output.text names.blockDevice = true ↔
        ∀ device ∈ names.devices, output.IsActive device := by
      rw [block_isBlockDeviceActive_iff, and_iff_left somewhere]
      exact (reported_iff names output).mpr reported
    exact {
      workloadMdt := iff_of_true workloadMdt rows
      blockMdt := iff_of_true blockMdt rows
      workloadActive := workloadActive
      blockActive := blockActive
      sameMdt := workloadMdt.trans blockMdt.symm
      sameActive := Bool.eq_iff_iff.mpr (workloadActive.trans blockActive.symm) }

/-- A row of two words. -/
def plainRow (name state line : String)
    (split : words charSpace line.toList = [name.toList, state.toList]) : Row where
  name := name.toList
  state := state.toList
  line := line.toList
  hasName := by rw [split]; exact List.mem_cons_self
  hasState := by rw [split]; exact List.mem_cons_of_mem _ List.mem_cons_self

/-- A disk that is not active, and a partition of it that is. -/
def diskAndPartition : Output where
  text := "mdt.hd\nsda INACTIVE\nsda1 ACTIVE\n".toList
  header := ["mdt.hd".toList]
  rows := [plainRow "sda" "INACTIVE" "sda INACTIVE" (by decide +kernel),
    plainRow "sda1" "ACTIVE" "sda1 ACTIVE" (by decide +kernel)]
  trailer := [[]]
  split := by decide +kernel
  onePerDevice := by decide +kernel

/-- The name of the disk. -/
def disk : Names := ⟨["sda".toList], fun device listed => by
  rw [List.mem_singleton.mp listed]
  exact isWord_of_check (by decide) (by decide)⟩

/-- The disk is not active, but both tests say it is. -/
theorem inactive_passes :
    ¬diskAndPartition.IsActive "sda".toList ∧
    Workload.isBlockDeviceActive diskAndPartition.text disk.blockDevice = true ∧
    ¬Exact disk diskAndPartition := by
  have notActive : ¬diskAndPartition.IsActive "sda".toList := by
    rintro ⟨row, isRow, named, active⟩
    revert row
    decide +kernel
  have passes : Workload.isBlockDeviceActive diskAndPartition.text disk.blockDevice = true := by
    decide +kernel
  exact ⟨notActive, passes, fun exact => notActive
    (exact.workloadActive.mp passes _ List.mem_cons_self)⟩

end AvocadoMisc.Htx.DeviceChecks
