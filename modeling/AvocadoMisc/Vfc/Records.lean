import Mathlib.Data.List.Infix
import Mathlib.Data.List.Nodup
import AvocadoMisc.Library.Scripts
import AvocadoMisc.Library.Text

/-!
# The records of virtual FC adapters

`vfc_dlpar.py` takes virtual FC adapters from a partition and gives them back. `setUp` puts one
record for each of them together, from three tables that the HMC prints. The first has the slot and
the remote side. The DRC name is taken from the first line of the second table in which the slot
number is found, and the WWPNs from the last such line of the third table.

The slot number is looked for as a text. It may be in the slot number of another adapter, in the
name of the partition, in a DRC name and in a WWPN. A record is about one adapter exactly when no
line before its own, or after its own, has the digits of its slot number in any of these places.
The name of the remote partition is cut at an equals sign.
-/

namespace AvocadoMisc.Vfc.Records

open Library.Scripts Library.Text

/-! ### Adapters -/

/-- Texts are lists of characters. -/
abbrev Text := List Char

/-- A text that stands in a table as it is: nothing in it ends a field or a line. -/
structure Name where
  text : Text
  plain : ∀ c ∈ text, c ≠ ',' ∧ c ≠ '"' ∧ charBreak c = false

/-- A number as it is printed. -/
structure Digits where
  text : Text
  nonempty : text ≠ []
  digits : ∀ c ∈ text, c.isDigit = true

/-- A world wide port name. -/
structure Wwpn where
  text : Text
  digits : ∀ c ∈ text, c.isAlphanum = true

/-- A client adapter. -/
structure Adapter where
  slot : Digits
  required : Digits
  remoteLparId : Digits
  remoteLpar : Name
  remoteSlot : Digits
  firstWwpn : Wwpn
  secondWwpn : Wwpn
  drc : Name

/-- The two WWPNs of an adapter. -/
def Adapter.wwpns (adapter : Adapter) : Text :=
  [','].intercalate [adapter.firstWwpn.text, adapter.secondWwpn.text]

/-- A partition with its client adapters, in the order of the three tables. -/
structure Partition where
  name : Name
  named : name.text ≠ []
  id : Digits
  fcTable : List Adapter
  slotTable : List Adapter
  wwpnTable : List Adapter
  slotTable_perm : slotTable.Perm fcTable
  wwpnTable_perm : wwpnTable.Perm fcTable
  slots : (fcTable.map fun adapter => adapter.slot.text).Nodup
  drcs : (fcTable.map fun adapter => adapter.drc.text).Nodup
  wwpns : (fcTable.map Adapter.wwpns).Nodup

/-! ### What the HMC prints -/

/-- A name and its value. -/
def assign (name : String) (value : Text) : Text := name.toList ++ '=' :: value

/-- The line of an adapter in the table of FC adapters. -/
def Partition.fcLine (partition : Partition) (adapter : Adapter) : Text :=
  [','].intercalate
    [assign "lpar_name" partition.name.text, assign "lpar_id" partition.id.text,
      assign "slot_num" adapter.slot.text, "adapter_type=client".toList, "state=1".toList,
      assign "is_required" adapter.required.text,
      assign "remote_lpar_id" adapter.remoteLparId.text,
      assign "remote_lpar_name" adapter.remoteLpar.text,
      assign "remote_slot_num" adapter.remoteSlot.text,
      assign "\"wwpns" adapter.firstWwpn.text, adapter.secondWwpn.text ++ ['"']]

/-- The line `slot_num,lpar_name,drc_name`. -/
def Partition.slotLine (partition : Partition) (adapter : Adapter) : Text :=
  [','].intercalate [adapter.slot.text, partition.name.text, adapter.drc.text]

/-- The line `lpar_name,slot_num,wwpns`. The WWPNs are quoted. -/
def Partition.wwpnLine (partition : Partition) (adapter : Adapter) : Text :=
  [','].intercalate
    [partition.name.text, adapter.slot.text, '"' :: adapter.firstWwpn.text,
      adapter.secondWwpn.text ++ ['"']]

/-- A table is printed line by line. -/
def print (lines : List Text) : Text := lines.flatMap fun line => line ++ ['\n']

/-- The three outputs. -/
structure Outputs where
  fc : Text
  slot : Text
  wwpn : Text

/-- What the HMC prints about the adapters of a partition. -/
def Partition.outputs (partition : Partition) : Outputs where
  fc := print (partition.fcTable.map partition.fcLine)
  slot := print (partition.slotTable.map partition.slotLine)
  wwpn := print (partition.wwpnTable.map partition.wwpnLine)

/-! ### What the test reads -/

/-- What stops the test. -/
inductive Ending where
  | fail (message : Text)
  | cmdError
  | keyError
  | indexError
  | typeError
  | unboundLocalError
  deriving DecidableEq

/-- `vfc_dic`, as far as it is read from the first table. -/
structure VfcDic where
  cSlot : Option Text
  rSlot : Option Text
  rLpar : Option Text
  deriving DecidableEq

/-- The assignments to `vfc_dic`, by the name of the field. -/
def VfcDic.put (dic : VfcDic) (name value : Text) : VfcDic :=
  if name = "slot_num".toList then { dic with cSlot := some value }
  else if name = "remote_slot_num".toList then { dic with rSlot := some value }
  else if name = "remote_lpar_name".toList then { dic with rLpar := some value }
  else dic

/-- One round of the loop over the fields of a line. -/
def readField (dic : VfcDic) (field : Text) : VfcDic :=
  dic.put ((field.splitOn '=').headD []) ((field.splitOn '=').getLastD [])

/-- The loop over the fields of a line. -/
def readLine (line : Text) : VfcDic := (line.splitOn ',').foldl readField ⟨none, none, none⟩

/-- `get_drc_name`. -/
def getDrcName (output cSlot : Text) : Option Text :=
  ((charLines output).find? (contains cSlot)).map fun line => (line.splitOn ',').getLastD []

/-- One round of the loop of `get_wwpn`. -/
def readWwpn (lpar clientSlot : Text) (wwpn : Option Text) (line : Text) :
    Except Ending (Option Text) :=
  if lpar ≠ [] ∧ contains clientSlot line = true then
    match (line.splitOn '"')[1]? with
    | some field => .ok (some field)
    | none => .error .indexError
  else .ok wwpn

/-- `get_wwpn`. Without a line there is nothing to return. -/
def getWwpn (output lpar clientSlot : Text) : Except Ending Text := do
  match ← (charLines output).foldlM (readWwpn lpar clientSlot) none with
  | some wwpn => .ok wwpn
  | none => .error .unboundLocalError

/-- What the partition itself shows: `lsslot -c slot`, which may fail, and `ls -l /sys/block/`. -/
structure Host where
  lsslot : Option Text
  sysBlock : Text

/-- `get_linux_name_drc`. The name is the last word but one of the first line with the code. A code
that is `None` raises as soon as there is a line to look at. -/
def getLinuxNameDrc (host : Host) (drc : Option Text) : Except Ending (Option Text) :=
  match host.lsslot, drc with
  | none, _ => .error .cmdError
  | some output, none => if charLines output = [] then .ok none else .error .typeError
  | some output, some drc =>
    match (charLines output).find? (contains drc) with
    | none => .ok none
    | some line =>
      let linuxName := [' '].intercalate (words charSpace line)
      match (linuxName.splitOn ' ').reverse[1]? with
      | some name => .ok (some name)
      | none => .error .indexError

/-- `get_paths`. Without a name it looks for `None`. -/
def getPaths (host : Host) (drcName : Option Text) : Except Ending (List Text) := do
  let linuxName ← getLinuxNameDrc host drcName
  let mark := '/' :: linuxName.getD "None".toList ++ ['/']
  .ok (((charLines host.sysBlock).filter (contains mark)).map fun line =>
    (line.splitOn '/').getLastD [])

/-- An entry of `dic_list`. -/
structure Entry where
  cSlot : Text
  rSlot : Option Text
  rLpar : Option Text
  wwpn : Text
  drc : Option Text
  paths : List Text
  deriving DecidableEq

/-- The entry for one line of the first table. -/
def entryOf (outputs : Outputs) (lpar : Text) (host : Host) (line : Text) :
    Except Ending Entry := do
  let dic := readLine line
  let cSlot ← dic.cSlot.elim (.error .keyError) .ok
  let wwpn ← getWwpn outputs.wwpn lpar cSlot
  let drc := getDrcName outputs.slot cSlot
  let paths ← getPaths host drc
  .ok ⟨cSlot, dic.rSlot, dic.rLpar, wwpn, drc, paths⟩

/-- The loop of `setUp`. The state is `dic_list`. -/
def fill (entryOf : Text → Except Ending Entry) (skipDrc : Option Text) :
    List Text → EStateM Ending (List Entry) PUnit
  | [] => pure ⟨⟩
  | line :: rest =>
    match entryOf line with
    | .error ending => throw ending
    | .ok entry => do
      modify fun dicList => if entry.drc ≠ skipDrc then dicList ++ [entry] else dicList
      fill entryOf skipDrc rest

/-- What `setUp` puts into `dic_list`, whether it comes to its end or not. -/
def setUp (outputs : Outputs) (lpar : Text) (host : Host) (skipDrc : Option Text) : List Entry :=
  leaves (fill (entryOf outputs lpar host) skipDrc (charLines outputs.fc)) []

/-! ### Removing and adding -/

/-- An adapter as the HMC keeps it. -/
structure Client where
  slot : Text
  remoteLpar : Text
  remoteSlot : Text
  wwpns : Text
  deriving DecidableEq

/-- What the HMC keeps of an adapter of the table. -/
def Adapter.client (adapter : Adapter) : Client :=
  ⟨adapter.slot.text, adapter.remoteLpar.text, adapter.remoteSlot.text, adapter.wwpns⟩

/-- The two operations. -/
inductive Operation where
  | add
  | remove
  deriving DecidableEq

/-- The word for an operation. -/
def Operation.word : Operation → Text
  | .add => "add".toList
  | .remove => "remove".toList

/-- What an operation meets: whether the HMC accepts the command, the slot table after it, what
the partition shows, and the first and the third word about the status of a path. -/
structure Answer where
  accepted : Bool
  slotOutput : Text
  host : Host
  pathStatus : Text → Text × Text

/-- The scripts work on the adapters of the partition. -/
abbrev Script := EStateM Ending (List Client)

/-- A name that may be missing, as it is printed. -/
def shown (name : Option Text) : Text := name.getD "None".toList

/-- `drc_name_verification_hmc`. An empty name counts as none. -/
def drcNameVerificationHmc (operation : Operation) (cSlot : Text) (answer : Answer) :
    Script PUnit :=
  let drcName := getDrcName answer.slotOutput cSlot
  let found : Bool := drcName.any (· ≠ [])
  demand (found = (operation == .add)) (.fail ("HMC verification fail for ".toList ++
    shown drcName ++ ": ".toList ++ operation.word))

/-- A computation that does not look at the adapters. -/
def looking {α : Type} : Except Ending α → Script α
  | .ok value => pure value
  | .error ending => throw ending

/-- `linux_name_verification_host`. -/
def linuxNameVerificationHost (operation : Operation) (drcName : Option Text)
    (answer : Answer) : Script PUnit := do
  let linuxName ← looking (getLinuxNameDrc answer.host drcName)
  let found : Bool := linuxName.any (· ≠ [])
  demand (found = (operation == .add)) (.fail ("Host verification fail for ".toList ++
    shown drcName ++ ":".toList ++ operation.word))

/-- The paths that `mpath_verification` complains about. -/
def errPaths (operation : Operation) (paths currPaths : List Text) (answer : Answer) :
    List Text :=
  match operation with
  | .add => paths.filter fun path => answer.pathStatus path ≠ ("active".toList, "ready".toList)
  | .remove =>
    if currPaths = [] then []
    else paths.filter fun path =>
      (answer.pathStatus path).1 ≠ "failed".toList ∨ (answer.pathStatus path).2 ≠ "faulty".toList

/-- `mpath_verification`. -/
def mpathVerification (operation : Operation) (paths : List Text) (drc : Option Text)
    (answer : Answer) : Script PUnit := do
  let currPaths ← looking (getPaths answer.host drc)
  let errors := errPaths operation paths currPaths answer
  demand (errors = []) (.fail ("path verification failed for drc ".toList ++ shown drc ++
    ":[".toList ++ ", ".toList.intercalate (errors.map fun path => '\'' :: path ++ ['\'']) ++
    [']']))

/-- What the command changes if the HMC accepts it. -/
def chhwres (operation : Operation) (vfcDic : Entry) :
    Except Ending (List Client → List Client) :=
  match operation with
  | .add =>
    match vfcDic.rLpar, vfcDic.rSlot with
    | some rLpar, some rSlot =>
      .ok fun clients => clients ++ [⟨vfcDic.cSlot, rLpar, rSlot, vfcDic.wwpn⟩]
    | _, _ => .error .keyError
  | .remove => .ok fun clients => clients.filter fun client => client.slot ≠ vfcDic.cSlot

/-- `device_add_remove`. -/
def deviceAddRemove (operation : Operation) (vfcDic : Entry) (answer : Answer) :
    Script PUnit := do
  let change ← looking (chhwres operation vfcDic)
  demand (answer.accepted = true) (.fail ("Network virtualization ".toList ++ operation.word ++
    " device operation                        failed".toList))
  modify change
  drcNameVerificationHmc operation vfcDic.cSlot answer
  linuxNameVerificationHost operation vfcDic.drc answer
  mpathVerification operation vfcDic.paths vfcDic.drc answer

/-! ### What is asked of the records -/

/-- Everything in the entry is about the adapter. -/
def Entry.IsOf (entry : Entry) (adapter : Adapter) : Prop :=
  entry.cSlot = adapter.slot.text ∧ entry.rSlot = some adapter.remoteSlot.text ∧
    entry.rLpar = some adapter.remoteLpar.text ∧ entry.wwpn = adapter.wwpns ∧
    entry.drc = some adapter.drc.text

/-- The entries of a partition. -/
def Partition.dicList (partition : Partition) (host : Host) (skipDrc : Option Text) :
    List Entry :=
  setUp partition.outputs partition.name.text host skipDrc

/-- A removal followed by an addition, both of them accepted, leaves the adapters as they were. -/
def Restores (partition : Partition) (entry : Entry) : Prop :=
  ∀ removal addition : Answer, removal.accepted = true → addition.accepted = true →
    (leaves (deviceAddRemove .add entry addition)
      (leaves (deviceAddRemove .remove entry removal)
        (partition.fcTable.map Adapter.client))).Perm (partition.fcTable.map Adapter.client)

/-- Every entry is about one adapter, and is fit to give that adapter back. -/
def Faithful (partition : Partition) (host : Host) (skipDrc : Option Text) : Prop :=
  ∀ entry ∈ partition.dicList host skipDrc,
    (∃ adapter ∈ partition.fcTable, entry.IsOf adapter) ∧ Restores partition entry

/-! ### When the tables are not mixed -/

/-- The DRC name in the first line of the slot table that has the digits of the adapter. -/
def Partition.foundDrc (partition : Partition) (adapter : Adapter) : Option Text :=
  (partition.slotTable.find? fun other =>
    contains adapter.slot.text (partition.slotLine other)).map fun other => other.drc.text

/-- The WWPNs in the last line of their table that has the digits of the adapter. -/
def Partition.foundWwpns (partition : Partition) (adapter : Adapter) : Option Text :=
  (partition.wwpnTable.reverse.find? fun other =>
    contains adapter.slot.text (partition.wwpnLine other)).map Adapter.wwpns

/-- `setUp` makes an entry for the adapter: the paths of this adapter and of those before it are
read, and the DRC name that is found is not the one to be skipped. -/
def Partition.Entered (partition : Partition) (host : Host) (skipDrc : Option Text)
    (adapter : Adapter) : Prop :=
  (adapter ∈ partition.fcTable.takeWhile fun other =>
      (getPaths host (partition.foundDrc other)).isOk) ∧
    partition.foundDrc adapter ≠ skipDrc

/-- The slot table has the digits of one adapter in the line of another one. -/
def Partition.SlotLineHas (partition : Partition) (adapter other : Adapter) : Prop :=
  adapter.slot.text <:+: other.slot.text ∨ adapter.slot.text <:+: partition.name.text ∨
    adapter.slot.text <:+: other.drc.text

/-- The table of the WWPNs has the digits of one adapter in the line of another one. -/
def Partition.WwpnLineHas (partition : Partition) (adapter other : Adapter) : Prop :=
  adapter.slot.text <:+: partition.name.text ∨ adapter.slot.text <:+: other.slot.text ∨
    adapter.slot.text <:+: other.firstWwpn.text ∨ adapter.slot.text <:+: other.secondWwpn.text

/-- No line before the own one in the slot table and no line after the own one in the table of the
WWPNs has the digits of the adapter, and there is no equals sign in the name of the remote
partition. -/
def Partition.Unmixed (partition : Partition) (adapter : Adapter) : Prop :=
  (∃ earlier later, partition.slotTable = earlier ++ adapter :: later ∧
      ∀ other ∈ earlier, ¬ partition.SlotLineHas adapter other) ∧
    (∃ earlier later, partition.wwpnTable = earlier ++ adapter :: later ∧
      ∀ other ∈ later, ¬ partition.WwpnLineHas adapter other) ∧
    '=' ∉ adapter.remoteLpar.text

/-! ### Lines are split again -/

/-- A letter or a digit ends neither a field nor a line. -/
theorem isAlphanum_plain {c : Char} (letter : c.isAlphanum = true) :
    c ≠ ',' ∧ c ≠ '"' ∧ c ≠ '=' ∧ charBreak c = false := by
  have ranges : ((decide (c.val ≥ 'A'.val ∧ c.val ≤ 'Z'.val) ||
      decide (c.val ≥ 'a'.val) && decide (c.val ≤ 'z'.val)) ||
      decide (c.val ≥ '0'.val) && decide (c.val ≤ '9'.val)) = true := letter
  have range : (65 ≤ c.toNat ∧ c.toNat ≤ 90) ∨ (97 ≤ c.toNat ∧ c.toNat ≤ 122) ∨
      (48 ≤ c.toNat ∧ c.toNat ≤ 57) := by
    simpa [UInt32.le_iff_toNat_le, or_assoc] using ranges
  refine ⟨?_, ?_, ?_, ?_⟩
  · rintro rfl
    exact absurd letter (by decide)
  · rintro rfl
    exact absurd letter (by decide)
  · rintro rfl
    exact absurd letter (by decide)
  · have outside : c.toNat ∉ [0xA, 0xB, 0xC, 0xD, 0x1C, 0x1D, 0x1E, 0x85, 0x2028, 0x2029] := by
      simp only [List.mem_cons, List.not_mem_nil, or_false, not_or]
      omega
    simpa [charBreak] using outside

/-- A digit, too. -/
theorem Digits.plain (number : Digits) :
    ∀ c ∈ number.text, c ≠ ',' ∧ c ≠ '"' ∧ c ≠ '=' ∧ charBreak c = false :=
  fun c member => isAlphanum_plain (Bool.or_eq_true_iff.mpr (.inr (number.digits c member)))

/-- And every character of a port name. -/
theorem Wwpn.plain (wwpn : Wwpn) :
    ∀ c ∈ wwpn.text, c ≠ ',' ∧ c ≠ '"' ∧ c ≠ '=' ∧ charBreak c = false :=
  fun c member => isAlphanum_plain (wwpn.digits c member)

/-- A field of a row: nothing in it ends a field or a line. -/
def IsField (field : Text) : Prop := ∀ c ∈ field, c ≠ ',' ∧ charBreak c = false

/-- A name is a field. -/
theorem Name.isField (name : Name) : IsField name.text :=
  fun c member => ⟨(name.plain c member).1, (name.plain c member).2.2⟩

/-- A number is a field. -/
theorem Digits.isField (number : Digits) : IsField number.text :=
  fun c member => ⟨(number.plain c member).1, (number.plain c member).2.2.2⟩

/-- A port name is a field. -/
theorem Wwpn.isField (wwpn : Wwpn) : IsField wwpn.text :=
  fun c member => ⟨(wwpn.plain c member).1, (wwpn.plain c member).2.2.2⟩

/-- A name with its value is a field. -/
theorem isField_assign {name : String} {value : Text} (named : IsField name.toList)
    (valued : IsField value) : IsField (assign name value) := by
  intro c member
  rcases List.mem_append.mp member with inName | rest
  · exact named c inName
  · rcases List.mem_cons.mp rest with rfl | inValue
    · exact ⟨by decide, by decide⟩
    · exact valued c inValue

/-- A quote may stand before or after a field. -/
theorem isField_quoted {field : Text} (isField : IsField field) :
    IsField ('"' :: field) ∧ IsField (field ++ ['"']) := by
  have quote : '"' ≠ ',' ∧ charBreak '"' = false := ⟨by decide, by decide⟩
  constructor
  · intro c member
    rcases List.mem_cons.mp member with rfl | inside
    · exact quote
    · exact isField c inside
  · intro c member
    rcases List.mem_append.mp member with inside | last
    · exact isField c inside
    · exact List.mem_singleton.mp last ▸ quote

/-- The fields of a row. -/
theorem splitOn_row {fields : List Text} (areFields : ∀ field ∈ fields, IsField field)
    (some_field : fields ≠ []) : ([','].intercalate fields).splitOn ',' = fields :=
  List.splitOn_intercalate ','
    (fun field member inside => (areFields field member ',' inside).1 rfl) some_field

/-- A row is one line. -/
theorem row_unbroken {fields : List Text} (areFields : ∀ field ∈ fields, IsField field) :
    ∀ c ∈ [','].intercalate fields, charBreak c = false :=
  forall_mem_intercalate (fun field member c inside => (areFields field member c inside).2)
    (by decide)

/-- The rows of a table. -/
theorem charLines_print {α : Type} (table : List α) {line : α → Text}
    (unbroken : ∀ a ∈ table, ∀ c ∈ line a, charBreak c = false) :
    charLines (print (table.map line)) = table.map line := by
  refine lines_unlines (by decide) (by decide) (by decide) fun printed member => ?_
  obtain ⟨a, inTable, rfl⟩ := List.mem_map.mp member
  exact unbroken a inTable

variable (partition : Partition)

/-- The fields of the three tables. -/
theorem slotLine_fields (adapter : Adapter) :
    ∀ field ∈ [adapter.slot.text, partition.name.text, adapter.drc.text], IsField field := by
  simp only [List.forall_mem_cons, List.not_mem_nil, false_implies, implies_true, and_true]
  exact ⟨adapter.slot.isField, partition.name.isField, adapter.drc.isField⟩

theorem wwpnLine_fields (adapter : Adapter) :
    ∀ field ∈ [partition.name.text, adapter.slot.text, '"' :: adapter.firstWwpn.text,
      adapter.secondWwpn.text ++ ['"']], IsField field := by
  simp only [List.forall_mem_cons, List.not_mem_nil, false_implies, implies_true, and_true]
  exact ⟨partition.name.isField, adapter.slot.isField,
    (isField_quoted adapter.firstWwpn.isField).1, (isField_quoted adapter.secondWwpn.isField).2⟩

theorem fcLine_fields (adapter : Adapter) :
    ∀ field ∈ [assign "lpar_name" partition.name.text, assign "lpar_id" partition.id.text,
      assign "slot_num" adapter.slot.text, "adapter_type=client".toList, "state=1".toList,
      assign "is_required" adapter.required.text,
      assign "remote_lpar_id" adapter.remoteLparId.text,
      assign "remote_lpar_name" adapter.remoteLpar.text,
      assign "remote_slot_num" adapter.remoteSlot.text,
      assign "\"wwpns" adapter.firstWwpn.text, adapter.secondWwpn.text ++ ['"']],
      IsField field := by
  simp only [List.forall_mem_cons, List.not_mem_nil, false_implies, implies_true, and_true]
  exact ⟨isField_assign (forall_of_check (by decide)) partition.name.isField,
    isField_assign (forall_of_check (by decide)) partition.id.isField,
    isField_assign (forall_of_check (by decide)) adapter.slot.isField,
    forall_of_check (by decide), forall_of_check (by decide),
    isField_assign (forall_of_check (by decide)) adapter.required.isField,
    isField_assign (forall_of_check (by decide)) adapter.remoteLparId.isField,
    isField_assign (forall_of_check (by decide)) adapter.remoteLpar.isField,
    isField_assign (forall_of_check (by decide)) adapter.remoteSlot.isField,
    isField_assign (forall_of_check (by decide)) adapter.firstWwpn.isField,
    (isField_quoted adapter.secondWwpn.isField).2⟩

/-- The lines of the table of FC adapters. -/
theorem charLines_fc :
    charLines partition.outputs.fc = partition.fcTable.map partition.fcLine :=
  charLines_print _ fun adapter _ => row_unbroken (fcLine_fields partition adapter)

/-- The lines of the slot table. -/
theorem charLines_slot :
    charLines partition.outputs.slot = partition.slotTable.map partition.slotLine :=
  charLines_print _ fun adapter _ => row_unbroken (slotLine_fields partition adapter)

/-- The lines of the table of the WWPNs. -/
theorem charLines_wwpn :
    charLines partition.outputs.wwpn = partition.wwpnTable.map partition.wwpnLine :=
  charLines_print _ fun adapter _ => row_unbroken (wwpnLine_fields partition adapter)

/-- A field with a name and a value. The value is cut at its last equals sign. -/
theorem readField_assign (dic : VfcDic) {name : String} (named : '=' ∉ name.toList)
    (value : Text) :
    readField dic (assign name value) =
      dic.put name.toList ((value.splitOn '=').getLastD []) := by
  have last : (name.toList :: value.splitOn '=').getLastD [] = (value.splitOn '=').getLastD [] := by
    obtain ⟨first, rest, pieces⟩ := List.exists_cons_of_ne_nil (List.splitOn_ne_nil '=' value)
    rw [pieces]
    rfl
  rw [readField, assign, List.splitOn_append_cons_self_of_not_mem named, last, List.headD_cons]

/-- The value of a number is not cut. -/
theorem Digits.getLastD_splitOn (number : Digits) :
    (number.text.splitOn '=').getLastD [] = number.text :=
  (getLastD_splitOn_eq_self_iff number.text).mpr fun member =>
    (number.plain '=' member).2.2.1 rfl

/-- What stands behind the last comma of a line says nothing. -/
theorem readField_secondWwpn (dic : VfcDic) (wwpn : Wwpn) :
    readField dic (wwpn.text ++ ['"']) = dic := by
  have absent : '=' ∉ wwpn.text ++ ['"'] := by
    simp only [List.mem_append, List.mem_singleton, not_or]
    exact ⟨fun member => (wwpn.plain '=' member).2.2.1 rfl, by decide⟩
  have other : ∀ name : Text, '"' ∉ name → wwpn.text ++ ['"'] ≠ name :=
    fun name unquoted same => unquoted (same ▸ List.mem_append_right _ List.mem_cons_self)
  rw [readField, List.splitOn_eq_singleton absent, List.headD_cons, VfcDic.put,
    if_neg (other _ (by decide)), if_neg (other _ (by decide)), if_neg (other _ (by decide))]

/-- What is read from the line of an adapter. -/
theorem readLine_fcLine (adapter : Adapter) :
    readLine (partition.fcLine adapter) =
      ⟨some adapter.slot.text, some adapter.remoteSlot.text,
        some ((adapter.remoteLpar.text.splitOn '=').getLastD [])⟩ := by
  rw [readLine, Partition.fcLine, splitOn_row (fcLine_fields partition adapter) (by simp)]
  simp only [List.foldl_cons, List.foldl_nil, readField_secondWwpn]
  rw [readField_assign _ (by decide), readField_assign _ (by decide),
    readField_assign _ (by decide), readField_assign _ (by decide),
    readField_assign _ (by decide), readField_assign _ (by decide),
    readField_assign _ (by decide), readField_assign _ (by decide),
    adapter.slot.getLastD_splitOn, adapter.remoteSlot.getLastD_splitOn]
  rfl

/-! ### What is found -/

/-- The digits in a line of the slot table. -/
theorem contains_slotLine_iff (adapter other : Adapter) :
    contains adapter.slot.text (partition.slotLine other) = true ↔
      partition.SlotLineHas adapter other := by
  have absent : ',' ∉ adapter.slot.text := fun member => (adapter.slot.plain ',' member).1 rfl
  rw [contains, decide_eq_true_iff, Partition.slotLine, infix_intercalate_iff absent (by simp)]
  simp [Partition.SlotLineHas]

/-- The digits in a line of the table of the WWPNs. A quote does not matter. -/
theorem contains_wwpnLine_iff (adapter other : Adapter) :
    contains adapter.slot.text (partition.wwpnLine other) = true ↔
      partition.WwpnLineHas adapter other := by
  have comma : ',' ∉ adapter.slot.text := fun member => (adapter.slot.plain ',' member).1 rfl
  have quote : '"' ∉ adapter.slot.text := fun member => (adapter.slot.plain '"' member).2.1 rfl
  have solid : ¬ adapter.slot.text <:+: [] := fun inside =>
    adapter.slot.nonempty (List.infix_nil.mp inside)
  have first : adapter.slot.text <:+: '"' :: other.firstWwpn.text ↔
      adapter.slot.text <:+: other.firstWwpn.text := by
    have parts : adapter.slot.text <:+: [] ++ '"' :: other.firstWwpn.text ↔ _ :=
      infix_append_cons_iff quote
    simpa [solid] using parts
  have second : adapter.slot.text <:+: other.secondWwpn.text ++ ['"'] ↔
      adapter.slot.text <:+: other.secondWwpn.text := by
    have parts : adapter.slot.text <:+: other.secondWwpn.text ++ '"' :: [] ↔ _ :=
      infix_append_cons_iff quote
    simpa [solid] using parts
  rw [contains, decide_eq_true_iff, Partition.wwpnLine, infix_intercalate_iff comma (by simp)]
  simp [Partition.WwpnLineHas, first, second]

/-- The DRC name in the first line of the slot table that has the digits. -/
theorem getDrcName_slot (adapter : Adapter) :
    getDrcName partition.outputs.slot adapter.slot.text = partition.foundDrc adapter := by
  have last : ∀ other : Adapter, ((partition.slotLine other).splitOn ',').getLastD [] =
      other.drc.text := by
    intro other
    rw [Partition.slotLine, splitOn_row (slotLine_fields partition other) (by simp)]
    rfl
  rw [getDrcName, charLines_slot, List.find?_map, Option.map_map, Partition.foundDrc]
  exact congrArg (fun read => Option.map read _) (funext last)

/-- The quoted field of a line. -/
theorem wwpnLine_quoted (adapter : Adapter) :
    ((partition.wwpnLine adapter).splitOn '"')[1]? = some adapter.wwpns := by
  have before : '"' ∉ partition.name.text ++ ',' :: (adapter.slot.text ++ [',']) := by
    simp only [List.mem_append, List.mem_cons, List.not_mem_nil, or_false, not_or]
    exact ⟨fun member => (partition.name.plain '"' member).2.1 rfl, by decide,
      fun member => (adapter.slot.plain '"' member).2.1 rfl, by decide⟩
  have between : '"' ∉ adapter.wwpns := by
    simp only [Adapter.wwpns, List.intercalate_cons_cons, List.intercalate_singleton,
      List.mem_append, List.mem_cons, List.not_mem_nil, or_false, not_or]
    exact ⟨⟨fun member => (adapter.firstWwpn.plain '"' member).2.1 rfl, by decide⟩,
      fun member => (adapter.secondWwpn.plain '"' member).2.1 rfl⟩
  have line : partition.wwpnLine adapter =
      (partition.name.text ++ ',' :: (adapter.slot.text ++ [','])) ++ '"' ::
        (adapter.wwpns ++ '"' :: []) := by
    simp [Partition.wwpnLine, Adapter.wwpns, List.intercalate_cons_cons]
  rw [line, List.splitOn_append_cons_self_of_not_mem before,
    List.splitOn_append_cons_self_of_not_mem between]
  rfl

/-- The loop over the lines keeps the last one that has the digits. -/
theorem foldlM_readWwpn (adapter : Adapter) (table : List Adapter) (wwpn : Option Text) :
    (table.map partition.wwpnLine).foldlM (readWwpn partition.name.text adapter.slot.text) wwpn =
      .ok (((table.reverse.find? fun other =>
        contains adapter.slot.text (partition.wwpnLine other)).map Adapter.wwpns).or wwpn) := by
  induction table generalizing wwpn with
  | nil => rfl
  | cons other rest inductionHypothesis =>
    rw [List.map_cons, List.foldlM_cons, List.reverse_cons, List.find?_append]
    cases has : contains adapter.slot.text (partition.wwpnLine other) with
    | true =>
      have read : readWwpn partition.name.text adapter.slot.text wwpn
          (partition.wwpnLine other) = .ok (some other.wwpns) := by
        rw [readWwpn, if_pos ⟨partition.named, has⟩, wwpnLine_quoted]
      rw [read]
      refine (inductionHypothesis (some other.wwpns)).trans ?_
      cases rest.reverse.find? _ <;> simp [has]
    | false =>
      have read : readWwpn partition.name.text adapter.slot.text wwpn
          (partition.wwpnLine other) = .ok wwpn := by
        rw [readWwpn, if_neg fun both => Bool.noConfusion (has.symm.trans both.2)]
      rw [read]
      refine (inductionHypothesis wwpn).trans ?_
      cases rest.reverse.find? _ <;> simp [has]

/-- The WWPNs in the last line of their table that has the digits. -/
theorem getWwpn_wwpn (adapter : Adapter) :
    getWwpn partition.outputs.wwpn partition.name.text adapter.slot.text =
      (partition.foundWwpns adapter).elim (.error .unboundLocalError) .ok := by
  rw [getWwpn, charLines_wwpn, foldlM_readWwpn, Option.or_none]
  show (match partition.foundWwpns adapter with
    | some wwpn => Except.ok wwpn
    | none => Except.error Ending.unboundLocalError) = _
  cases partition.foundWwpns adapter <;> rfl

/-! ### The entries -/

/-- What a line becomes. -/
theorem entryOf_fcLine (host : Host) (adapter : Adapter) :
    entryOf partition.outputs partition.name.text host (partition.fcLine adapter) =
      match partition.foundWwpns adapter, getPaths host (partition.foundDrc adapter) with
      | some wwpn, .ok paths =>
        .ok ⟨adapter.slot.text, some adapter.remoteSlot.text,
          some ((adapter.remoteLpar.text.splitOn '=').getLastD []), wwpn,
          partition.foundDrc adapter, paths⟩
      | some _, .error ending => .error ending
      | none, _ => .error .unboundLocalError := by
  rw [entryOf, readLine_fcLine]
  show (getWwpn partition.outputs.wwpn partition.name.text adapter.slot.text >>= _) = _
  rw [getWwpn_wwpn]
  cases partition.foundWwpns adapter with
  | none => rfl
  | some wwpn =>
    show (getPaths host (getDrcName partition.outputs.slot adapter.slot.text) >>= _) = _
    rw [getDrcName_slot]
    cases getPaths host (partition.foundDrc adapter) <;> rfl

/-- The entries are those of the lines before the first one that stops the loop. -/
theorem mem_leaves_fill (entryOf : Text → Except Ending Entry) (skipDrc : Option Text)
    (lines : List Text) (dicList : List Entry) (entry : Entry) :
    entry ∈ leaves (fill entryOf skipDrc lines) dicList ↔
      entry ∈ dicList ∨ ∃ line ∈ lines.takeWhile fun line => (entryOf line).isOk,
        entryOf line = .ok entry ∧ entry.drc ≠ skipDrc := by
  induction lines generalizing dicList with
  | nil => simp [fill, leaves, pure_apply]
  | cons line rest inductionHypothesis =>
    rw [fill]
    cases read : entryOf line with
    | error ending =>
      have stops : (entryOf line).isOk = false := by rw [read]; rfl
      simp [leaves, throw_apply, stops]
    | ok found =>
      have goes : (entryOf line).isOk = true := by rw [read]; rfl
      rw [leaves_modify_bind, List.takeWhile_cons, if_pos goes]
      refine (inductionHypothesis _).trans ?_
      simp only [List.mem_cons, exists_eq_or_imp, read, Except.ok.injEq]
      by_cases skipped : found.drc = skipDrc
      · simp only [ne_eq, skipped, not_true_eq_false, if_false]
        refine or_congr_right (or_iff_right ?_).symm
        rintro ⟨rfl, different⟩
        exact different skipped
      · simp only [ne_eq, skipped, not_false_eq_true, if_true, List.mem_append,
          List.mem_singleton, or_assoc]
        refine or_congr_right (or_congr_left ⟨?_, ?_⟩)
        · rintro rfl
          exact ⟨rfl, skipped⟩
        · rintro ⟨rfl, _⟩
          rfl

/-- An adapter has the digits of its slot number in its own lines. -/
theorem own_lines_have (adapter : Adapter) :
    partition.SlotLineHas adapter adapter ∧ partition.WwpnLineHas adapter adapter :=
  ⟨.inl List.infix_rfl, .inr (.inl List.infix_rfl)⟩

/-- Some WWPNs are found for every adapter. -/
theorem foundWwpns_of_mem {adapter : Adapter} (member : adapter ∈ partition.fcTable) :
    ∃ wwpn, partition.foundWwpns adapter = some wwpn := by
  have inTable : adapter ∈ partition.wwpnTable.reverse :=
    List.mem_reverse.mpr (partition.wwpnTable_perm.mem_iff.mpr member)
  have own : contains adapter.slot.text (partition.wwpnLine adapter) = true :=
    (contains_wwpnLine_iff partition adapter adapter).mpr (own_lines_have partition adapter).2
  have found : (partition.wwpnTable.reverse.find? fun other =>
      contains adapter.slot.text (partition.wwpnLine other)).isSome = true :=
    List.find?_isSome.mpr ⟨adapter, inTable, own⟩
  obtain ⟨other, same⟩ := Option.isSome_iff_exists.mp found
  exact ⟨other.wwpns, by rw [Partition.foundWwpns, same]; rfl⟩

/-- Two tests that agree on a list take the same part of it. -/
theorem takeWhile_eq_of_agree {α : Type} {first second : α → Bool} {list : List α}
    (agree : ∀ a ∈ list, first a = second a) : list.takeWhile first = list.takeWhile second := by
  induction list with
  | nil => rfl
  | cons a rest inductionHypothesis =>
    have rests := inductionHypothesis fun b member => agree b (List.mem_cons_of_mem a member)
    rw [List.takeWhile_cons, List.takeWhile_cons, agree a List.mem_cons_self, rests]

/-- The entries, by the adapters whose lines they come from. An entry has the slots of its own line,
but the codes that are found for it may be those of another adapter. -/
theorem mem_dicList (host : Host) (skipDrc : Option Text) (entry : Entry) :
    entry ∈ partition.dicList host skipDrc ↔
      ∃ adapter wwpn paths, partition.Entered host skipDrc adapter ∧
        partition.foundWwpns adapter = some wwpn ∧
        getPaths host (partition.foundDrc adapter) = .ok paths ∧
        entry = ⟨adapter.slot.text, some adapter.remoteSlot.text,
          some ((adapter.remoteLpar.text.splitOn '=').getLastD []), wwpn,
          partition.foundDrc adapter, paths⟩ := by
  have agree : ∀ adapter ∈ partition.fcTable,
      ((fun line => (entryOf partition.outputs partition.name.text host line).isOk) ∘
        partition.fcLine) adapter = (getPaths host (partition.foundDrc adapter)).isOk := by
    intro adapter member
    obtain ⟨wwpn, found⟩ := foundWwpns_of_mem partition member
    simp only [Function.comp_apply, entryOf_fcLine, found]
    cases getPaths host (partition.foundDrc adapter) <;> rfl
  rw [Partition.dicList, setUp, mem_leaves_fill, charLines_fc, List.takeWhile_map,
    takeWhile_eq_of_agree agree]
  simp only [List.not_mem_nil, false_or, List.mem_map, exists_exists_and_eq_and]
  constructor
  · rintro ⟨adapter, member, read, kept⟩
    obtain ⟨wwpn, found⟩ :=
      foundWwpns_of_mem partition ((List.takeWhile_sublist _).subset member)
    rw [entryOf_fcLine, found] at read
    cases paths : getPaths host (partition.foundDrc adapter) with
    | error ending =>
      rw [paths] at read
      cases read
    | ok listed =>
      rw [paths] at read
      cases read
      exact ⟨adapter, wwpn, listed, ⟨member, kept⟩, found, paths, rfl⟩
  · rintro ⟨adapter, wwpn, paths, ⟨member, kept⟩, found, read, rfl⟩
    exact ⟨adapter, member, by rw [entryOf_fcLine, found, read], kept⟩

/-! ### The result -/

/-- The first line with the digits is the own one exactly when no line before it has them. -/
theorem foundDrc_own_iff {adapter : Adapter} (member : adapter ∈ partition.fcTable) :
    partition.foundDrc adapter = some adapter.drc.text ↔
      ∃ earlier later, partition.slotTable = earlier ++ adapter :: later ∧
        ∀ other ∈ earlier, ¬ partition.SlotLineHas adapter other := by
  have inTable := partition.slotTable_perm.mem_iff.mpr member
  have own := (contains_slotLine_iff partition adapter adapter).mpr
    (own_lines_have partition adapter).1
  have drcs : (partition.slotTable.map fun other => other.drc.text).Nodup :=
    (partition.slotTable_perm.map _).nodup_iff.mpr partition.drcs
  have first : partition.foundDrc adapter = some adapter.drc.text ↔
      (partition.slotTable.find? fun other =>
        contains adapter.slot.text (partition.slotLine other)) = some adapter := by
    rw [Partition.foundDrc, Option.map_eq_some_iff]
    constructor
    · rintro ⟨other, found, same⟩
      have equal : other = adapter :=
        List.inj_on_of_nodup_map drcs (List.mem_of_find?_eq_some found) inTable same
      rw [found, equal]
    · exact fun found => ⟨adapter, found, rfl⟩
  rw [first, List.find?_eq_some_iff_append]
  simp only [own, true_and, Bool.not_eq_true', ← Bool.not_eq_true, contains_slotLine_iff]

/-- The last line with the digits is the own one exactly when no line after it has them. -/
theorem foundWwpns_own_iff {adapter : Adapter} (member : adapter ∈ partition.fcTable) :
    partition.foundWwpns adapter = some adapter.wwpns ↔
      ∃ earlier later, partition.wwpnTable = earlier ++ adapter :: later ∧
        ∀ other ∈ later, ¬ partition.WwpnLineHas adapter other := by
  have inTable := partition.wwpnTable_perm.mem_iff.mpr member
  have own := (contains_wwpnLine_iff partition adapter adapter).mpr
    (own_lines_have partition adapter).2
  have wwpns : (partition.wwpnTable.map Adapter.wwpns).Nodup :=
    (partition.wwpnTable_perm.map _).nodup_iff.mpr partition.wwpns
  have last : partition.foundWwpns adapter = some adapter.wwpns ↔
      (partition.wwpnTable.reverse.find? fun other =>
        contains adapter.slot.text (partition.wwpnLine other)) = some adapter := by
    rw [Partition.foundWwpns, Option.map_eq_some_iff]
    constructor
    · rintro ⟨other, found, same⟩
      have equal : other = adapter := List.inj_on_of_nodup_map wwpns
        (List.mem_reverse.mp (List.mem_of_find?_eq_some found)) inTable same
      rw [found, equal]
    · exact fun found => ⟨adapter, found, rfl⟩
  rw [last, List.find?_eq_some_iff_append]
  simp only [own, true_and, Bool.not_eq_true', ← Bool.not_eq_true, contains_wwpnLine_iff]
  constructor
  · rintro ⟨later, earlier, split, before⟩
    refine ⟨earlier.reverse, later.reverse, ?_, fun other inLater =>
      before other (List.mem_reverse.mp inLater)⟩
    rw [← List.reverse_reverse partition.wwpnTable, split]
    simp
  · rintro ⟨earlier, later, split, after⟩
    refine ⟨later.reverse, earlier.reverse, by simp [split], fun other inLater =>
      after other (List.mem_reverse.mp inLater)⟩

/-- What the script leaves when the command is accepted. The checks after it change nothing. -/
theorem leaves_deviceAddRemove {operation : Operation} {vfcDic : Entry} {answer : Answer}
    {change : List Client → List Client} (commands : chhwres operation vfcDic = .ok change)
    (accepted : answer.accepted = true) (clients : List Client) :
    leaves (deviceAddRemove operation vfcDic answer) clients = change clients := by
  have lookingKeeps : ∀ {α : Type} (result : Except Ending α),
      Keeps (fun state => state = change clients) (looking result) := by
    intro α result
    cases result with
    | ok value => exact Keeps.pure value
    | error ending => exact Keeps.throw ending
  have checks : Keeps (fun state => state = change clients)
      (drcNameVerificationHmc operation vfcDic.cSlot answer >>= fun _ =>
        linuxNameVerificationHost operation vfcDic.drc answer >>= fun _ =>
          mpathVerification operation vfcDic.paths vfcDic.drc answer) :=
    (Keeps.demand _ _).bind fun _ =>
      ((lookingKeeps _).bind fun _ => Keeps.demand _ _).bind fun _ =>
        (lookingKeeps _).bind fun _ => Keeps.demand _ _
  rw [deviceAddRemove, commands, leaves_bind]
  show leaves (demand _ _ >>= _) clients = _
  rw [leaves_demand_bind, if_pos accepted, leaves_modify_bind]
  exact checks (change clients) rfl

/-- Removing the client in a slot and adding the same one again. -/
theorem filter_append_perm {clients : List Client} {client : Client}
    (slots : (clients.map Client.slot).Nodup) (member : client ∈ clients) :
    ((clients.filter fun other => other.slot ≠ client.slot) ++ [client]).Perm clients := by
  obtain ⟨earlier, later, rfl⟩ := List.append_of_mem member
  rw [List.map_append, List.map_cons, List.nodup_middle, List.nodup_cons,
    ← List.map_append] at slots
  have others : ∀ other ∈ earlier ++ later, other.slot ≠ client.slot :=
    fun other inside same => slots.1 (List.mem_map.mpr ⟨other, inside, same⟩)
  have kept : (earlier ++ client :: later).filter (fun other => other.slot ≠ client.slot) =
      earlier ++ later := by
    rw [List.filter_append, List.filter_cons_of_neg (by simp), ← List.filter_append]
    exact List.filter_eq_self.mpr fun other inside => decide_eq_true (others other inside)
  rw [kept]
  exact (List.perm_append_singleton client _).trans List.perm_middle.symm

/-- An entry that is about one adapter gives that adapter back. -/
theorem restores_of_isOf {entry : Entry} {adapter : Adapter}
    (member : adapter ∈ partition.fcTable) (isOf : entry.IsOf adapter) :
    Restores partition entry := by
  obtain ⟨slot, remoteSlot, remoteLpar, wwpn, -⟩ := isOf
  intro removal addition accepted acceptedNext
  have removes : chhwres .remove entry =
      .ok fun clients => clients.filter fun client => client.slot ≠ entry.cSlot := rfl
  have adds : chhwres .add entry = .ok fun clients => clients ++ [adapter.client] := by
    rw [chhwres, remoteSlot, remoteLpar, slot, wwpn]
    rfl
  have slots : ((partition.fcTable.map Adapter.client).map Client.slot).Nodup := by
    rw [List.map_map]
    exact partition.slots
  rw [leaves_deviceAddRemove removes accepted, leaves_deviceAddRemove adds acceptedNext, slot]
  exact filter_append_perm slots (List.mem_map_of_mem member)

/-- The entry for an adapter is about one adapter exactly when the tables are not mixed. -/
theorem entry_isOf_iff {host : Host} {skipDrc : Option Text} {adapter : Adapter}
    (entered : partition.Entered host skipDrc adapter) {wwpn : Text}
    (found : partition.foundWwpns adapter = some wwpn) (paths : List Text) :
    (∃ other ∈ partition.fcTable,
        (⟨adapter.slot.text, some adapter.remoteSlot.text,
          some ((adapter.remoteLpar.text.splitOn '=').getLastD []), wwpn,
          partition.foundDrc adapter, paths⟩ : Entry).IsOf other) ↔
      partition.Unmixed adapter := by
  have member : adapter ∈ partition.fcTable := (List.takeWhile_sublist _).subset entered.1
  rw [Partition.Unmixed, ← foundDrc_own_iff partition member,
    ← foundWwpns_own_iff partition member, found, ← getLastD_splitOn_eq_self_iff]
  constructor
  · rintro ⟨other, inTable, slot, -, remoteLpar, wwpns, drc⟩
    obtain rfl : adapter = other :=
      List.inj_on_of_nodup_map partition.slots member inTable slot
    exact ⟨drc, congrArg some wwpns, Option.some.inj remoteLpar⟩
  · rintro ⟨drc, wwpns, remoteLpar⟩
    exact ⟨adapter, member, rfl, rfl, congrArg some remoteLpar, Option.some.inj wwpns, drc⟩

/-- Every entry is about one and the same adapter, and a removal followed by an addition restores
that adapter, exactly when for every adapter that is entered no line before its own in the slot
table and no line after its own in the table of the WWPNs has the digits of its slot number, and
the name of its remote partition has no equals sign. -/
theorem dicList_faithful_iff (host : Host) (skipDrc : Option Text) :
    Faithful partition host skipDrc ↔
      ∀ adapter, partition.Entered host skipDrc adapter → partition.Unmixed adapter := by
  constructor
  · intro faithful adapter entered
    have member : adapter ∈ partition.fcTable := (List.takeWhile_sublist _).subset entered.1
    obtain ⟨wwpn, found⟩ := foundWwpns_of_mem partition member
    have readable : (getPaths host (partition.foundDrc adapter)).isOk = true :=
      by simpa using List.mem_takeWhile_imp entered.1
    cases read : getPaths host (partition.foundDrc adapter) with
    | error ending =>
      rw [read] at readable
      cases readable
    | ok paths =>
      have inList := (mem_dicList partition host skipDrc _).mpr
        ⟨adapter, wwpn, paths, entered, found, read, rfl⟩
      exact (entry_isOf_iff partition entered found paths).mp (faithful _ inList).1
  · intro unmixed entry inList
    obtain ⟨adapter, wwpn, paths, entered, found, -, rfl⟩ :=
      (mem_dicList partition host skipDrc entry).mp inList
    obtain ⟨other, member, isOf⟩ :=
      (entry_isOf_iff partition entered found paths).mpr (unmixed adapter entered)
    exact ⟨⟨other, member, isOf⟩, restores_of_isOf partition member isOf⟩

/-- The adapter in slot 12. -/
def adapterTwelve : Adapter where
  slot := ⟨['1', '2'], by decide, forall_of_check (by decide)⟩
  required := ⟨['0'], by decide, forall_of_check (by decide)⟩
  remoteLparId := ⟨['1'], by decide, forall_of_check (by decide)⟩
  remoteLpar := ⟨"vios".toList, forall_of_check (by decide)⟩
  remoteSlot := ⟨['3', '0'], by decide, forall_of_check (by decide)⟩
  firstWwpn := ⟨"c0a0".toList, forall_of_check (by decide)⟩
  secondWwpn := ⟨"c0a1".toList, forall_of_check (by decide)⟩
  drc := ⟨"V7-C12".toList, forall_of_check (by decide)⟩

/-- The adapter in slot 2. -/
def adapterTwo : Adapter where
  slot := ⟨['2'], by decide, forall_of_check (by decide)⟩
  required := ⟨['0'], by decide, forall_of_check (by decide)⟩
  remoteLparId := ⟨['1'], by decide, forall_of_check (by decide)⟩
  remoteLpar := ⟨"vios".toList, forall_of_check (by decide)⟩
  remoteSlot := ⟨['3', '1'], by decide, forall_of_check (by decide)⟩
  firstWwpn := ⟨"c0b0".toList, forall_of_check (by decide)⟩
  secondWwpn := ⟨"c0b1".toList, forall_of_check (by decide)⟩
  drc := ⟨"V7-C2".toList, forall_of_check (by decide)⟩

/-- A partition with both of them. Every table lists slot 12 before slot 2. -/
def twoSlots : Partition where
  name := ⟨"lpar".toList, forall_of_check (by decide)⟩
  named := by decide
  id := ⟨['7'], by decide, forall_of_check (by decide)⟩
  fcTable := [adapterTwelve, adapterTwo]
  slotTable := [adapterTwelve, adapterTwo]
  wwpnTable := [adapterTwelve, adapterTwo]
  slotTable_perm := .refl _
  wwpnTable_perm := .refl _
  slots := by decide
  drcs := by decide
  wwpns := by decide

/-- The entry for slot 2 has the DRC name of slot 12. -/
theorem dicList_not_faithful : ¬ Faithful twoSlots ⟨some [], []⟩ none := by
  intro faithful
  have drc : twoSlots.foundDrc adapterTwo = some adapterTwelve.drc.text := by decide
  have wwpns : twoSlots.foundWwpns adapterTwo = some adapterTwo.wwpns := by decide
  have paths : ∀ name : Option Text, getPaths ⟨some [], []⟩ name = .ok [] := by
    intro name
    cases name <;> rfl
  have entered : twoSlots.Entered ⟨some [], []⟩ none adapterTwo := by
    refine ⟨?_, by rw [drc]; exact Option.some_ne_none _⟩
    simp only [paths]
    exact List.mem_cons_of_mem _ List.mem_cons_self
  have inList := (mem_dicList twoSlots ⟨some [], []⟩ none _).mpr
    ⟨adapterTwo, _, _, entered, wwpns, paths _, rfl⟩
  obtain ⟨adapter, member, slot, -, -, -, mixed⟩ := (faithful _ inList).1
  rcases List.mem_cons.mp member with rfl | second
  · exact absurd slot (by decide)
  · obtain rfl := List.mem_singleton.mp second
    exact absurd (drc.symm.trans mixed) (by decide)

end AvocadoMisc.Vfc.Records
