import AvocadoMisc.Library.Fronting
import AvocadoMisc.Library.Text
import AvocadoMisc.Library.Transitions

/-!
# The table of backing devices

The vNIC test keeps its backing devices in five parallel lists. Position 0 belongs to the active
device, and `update_backing_devices` is to bring it there after a failover. It moves the
identifier of the VIOS, the adapter and the port of the active device to the front. It does not
move the name of the VIOS, and it writes the priority of the active device over the first one.

So the rows stay rows when the positions up to that of the active device agree in the name, and
in the priority that the HMC reports.
-/

namespace AvocadoMisc.Vnic.BackingDevices

open Library.Fronting Library.Transitions
open Library.Text (contains)

/-! ### The table -/

/-- A text. -/
abbrev Text := List Char

/-- A priority is a number where it is the default, and a text where it was read. -/
inductive Priority where
  | number (value : Nat)
  | text (characters : Text)
deriving DecidableEq

/-- What `%s` makes of it. -/
def Priority.format : Priority → Text
  | .number value => Nat.toDigits 10 value
  | .text characters => characters

/-- The five lists. The entries at one position are a row, about one backing device. -/
structure Table where
  viosName : List Text
  viosId : List Text
  backingAdapterId : List Text
  sriovPort : List Text
  vnicPriority : List Priority
deriving DecidableEq

/-- A row: the name and the identifier of the VIOS, the adapter, the port and the priority. -/
abbrev Row := Text × Text × Text × Text × Text

/-- The lists as rows. -/
def Table.rows (table : Table) : List Row :=
  table.viosName.zip (table.viosId.zip (table.backingAdapterId.zip
    (table.sriovPort.zip (table.vnicPriority.map Priority.format))))

/-- The lists have one length, and no adapter has a port twice. So a position stands for a device.
-/
structure Aligned (n : Nat) (table : Table) : Prop where
  viosName : table.viosName.length = n
  viosId : table.viosId.length = n
  backingAdapterId : table.backingAdapterId.length = n
  sriovPort : table.sriovPort.length = n
  vnicPriority : table.vnicPriority.length = n
  distinct : (table.backingAdapterId.zip table.sriovPort).Nodup

/-! ### `update_backing_devices` -/

/-- What the HMC answers: the logical port of the active device, as `get_active_device_logport`
reads it, and the output that lists the backing devices. -/
structure Answer where
  logport : Text
  backingDevices : Text

/-- What the loop over the entries sets. -/
structure Scan where
  adapterId : Text
  port : Option Text
  vnicPriority : List Priority

/-- The text that addresses a backing device. -/
def sriov (bandwidth : Text) : Row → Text
  | (viosName, viosId, adapterId, port, priority) =>
    "sriov/".toList ++ ['/'].intercalate [viosName, viosId, adapterId, port, bandwidth, priority]

/-- The device that `device_add_remove` adds, for the adapter and the port it is called with. -/
def deviceAddRemove (bandwidth adapterId port : Text) (table : Table) : Option Text :=
  table.viosName[0]?.bind fun viosName =>
    table.viosId[0]?.bind fun viosId =>
      table.vnicPriority[0]?.map fun priority =>
        sriov bandwidth (viosName, viosId, adapterId, port, priority.format)

/-- The device that `backing_dev_add_remove` adds or removes. -/
def backingDevAddRemove (bandwidth : Text) (table : Table) (i : Nat) : Option Text :=
  table.viosName[i]?.bind fun viosName =>
    table.viosId[i]?.bind fun viosId =>
      table.backingAdapterId[i]?.bind fun adapterId =>
        table.sriovPort[i]?.bind fun port =>
          table.vnicPriority[i]?.map fun priority =>
            sriov bandwidth (viosName, viosId, adapterId, port, priority.format)

/-- The devices that the test addresses: with `device_add_remove` for the first adapter and
port, and with `backing_dev_add_remove` for the positions from 1 on. -/
def addressed (bandwidth : Text) (n : Nat) (table : Table) : List (Option Text) :=
  (table.backingAdapterId[0]?.bind fun adapterId =>
    table.sriovPort[0]?.bind fun port => deviceAddRemove bandwidth adapterId port table) ::
  (List.range' 1 (n - 1)).map (backingDevAddRemove bandwidth table)

/-! ### What an answer says -/

/-- The fields of the entries that contain the logical port. -/
def Answer.matching (answer : Answer) : List (List Text) :=
  ((answer.backingDevices.splitOn ',').filter (contains answer.logport)).map fun entry =>
    entry.splitOn '/'

/-- The adapter, the port and the priority in the fields of an entry. -/
def readFields (fields : List Text) : Option (Text × Text × Text) :=
  fields[3]?.bind fun adapterId =>
    fields[4]?.bind fun port => fields[8]?.map fun priority => (adapterId, port, priority)

/-- The active device is the one of the last of these entries. -/
def Answer.active (answer : Answer) : Option (Text × Text × Text) :=
  answer.matching.getLast?.bind readFields

/-- The active device is in a row of the table. -/
structure ActiveAt (table : Table) (answer : Answer) (i : Nat) (adapterId port priority : Text) :
    Prop where
  active : answer.active = some (adapterId, port, priority)
  adapter : table.backingAdapterId[i]? = some adapterId
  port : table.sriovPort[i]? = some port

/-- What the loop has set after entries of which the last one with the port says so. -/
def Scan.set (scan : Scan) : Option (Text × Text × Text) → Scan
  | none => scan
  | some (adapterId, port, priority) =>
    ⟨adapterId, some port, scan.vnicPriority.set 0 (.text priority)⟩

/-- The table after the update. -/
def Table.updated (table : Table) (i : Nat) (adapterId priority : Text) : Table :=
  let table := { table with vnicPriority := table.vnicPriority.set 0 (.text priority) }
  if adapterId = [] then table
  else
    { table with
      viosId := toFront i table.viosId
      sriovPort := toFront i table.sriovPort
      backingAdapterId := toFront i table.backingAdapterId }

/-- There are as many rows as positions. -/
theorem Aligned.length_rows {n : Nat} {table : Table} (aligned : Aligned n table) :
    table.rows.length = n := by
  simp [Table.rows, aligned.viosName, aligned.viosId, aligned.backingAdapterId,
    aligned.sriovPort, aligned.vnicPriority]

/-- Each position has its row. -/
theorem Aligned.row {n : Nat} {table : Table} (aligned : Aligned n table) {i : Nat}
    (inside : i < n) : ∃ viosName viosId adapterId port priority,
      table.rows[i]? = some (viosName, viosId, adapterId, port, priority) :=
  ⟨_, _, _, _, _, List.getElem?_eq_getElem (aligned.length_rows.symm ▸ inside)⟩

/-- The update keeps the lists aligned. -/
theorem Aligned.updated {n : Nat} {table : Table} (aligned : Aligned n table) {i : Nat}
    (inside : i < n) (adapterId priority : Text) :
    Aligned n (table.updated i adapterId priority) := by
  unfold Table.updated
  by_cases unnamed : adapterId = []
  · simp only [unnamed, ↓reduceIte]
    exact { aligned with vnicPriority := by simpa using aligned.vnicPriority }
  · simp only [unnamed, ↓reduceIte]
    constructor
    · exact aligned.viosName
    · exact (length_toFront i _).trans aligned.viosId
    · exact (length_toFront i _).trans aligned.backingAdapterId
    · exact (length_toFront i _).trans aligned.sriovPort
    · simpa using aligned.vnicPriority
    · rw [← toFront_zip (aligned.backingAdapterId.trans aligned.sriovPort.symm)
        (aligned.backingAdapterId.symm ▸ inside)]
      exact (toFront_perm i _).nodup_iff.mpr aligned.distinct

/-! ### When an update keeps the rows -/

/-- Up to the position of the active device, the positions agree in the name of the VIOS, and
their priority is the one that the HMC reports. A device without an adapter identifier, which
is not moved, stands at position 0. -/
structure Uniform (table : Table) (i : Nat) (adapterId priority : Text) : Prop where
  viosName : ∀ j ≤ i, table.viosName[j]? = table.viosName[0]?
  vnicPriority : ∀ j ≤ i, table.vnicPriority[j]?.map Priority.format = some priority
  moved : adapterId = [] → i = 0

/-- The active device is at position 0. -/
def ActiveFirst (table : Table) (answer : Answer) : Prop :=
  ∀ adapterId port priority, answer.active = some (adapterId, port, priority) →
    table.backingAdapterId[0]? = some adapterId ∧ table.sriovPort[0]? = some port

/-- The update brings the active device to position 0 if the rows are uniform. -/
theorem Uniform.activeFirst {table : Table} {answer : Answer} {i : Nat}
    {adapterId port priority : Text} (active : ActiveAt table answer i adapterId port priority)
    (uniform : Uniform table i adapterId priority) :
    ActiveFirst (table.updated i adapterId priority) answer := by
  intro otherAdapter otherPort otherPriority read
  cases Option.some.inj (active.active.symm.trans read)
  by_cases unnamed : adapterId = []
  · have front := uniform.moved unnamed
    subst front
    simpa [Table.updated, unnamed] using And.intro active.adapter active.port
  · simp [Table.updated, unnamed, toFront_eq_cons active.adapter, toFront_eq_cons active.port]

/-- What an update should do: the rows are those of the first table, in some order, the active
device is at position 0, and the commands address every device of the first table once. -/
structure Kept (n : Nat) (initial : Table) (event : Event Table Answer) : Prop where
  reordered : event.after.rows.Perm initial.rows
  activeFirst : ActiveFirst event.after event.label
  addressedOnce : ∀ bandwidth, (addressed bandwidth n event.after).Perm
    (initial.rows.map fun row => some (sriov bandwidth row))

end AvocadoMisc.Vnic.BackingDevices
