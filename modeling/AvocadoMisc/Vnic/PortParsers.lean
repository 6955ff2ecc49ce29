import AvocadoMisc.Library.Text
import Mathlib.Data.List.Forall2

/-!
# The parsers of logical ports and priorities

The HMC prints the backing devices of a slot in one line, `<slot>,"entry,entry"`, without the
quotes when there is one entry. `network_virtualization.py` takes the line apart with
`strip('%s,"' % slot)`. This removes the number of the slot, the comma and the quotes at the front,
and at the end the quotes and every digit that the slot number has as well. So the end of the last
entry may be lost. In the list of states that is the end of a status, which does not matter. In the
list of backing devices it is the end of a priority.

A function that raises an exception has no result.
-/

namespace AvocadoMisc.Vnic.PortParsers

open Library.Text (contains decimal charBreak charLines forall_of_check rdropWhile_append
  rdropWhile_append_cons)

/-- A text. -/
abbrev Text := List Char

/-! ### The parsers -/

/-- What `strip('%s,"' % slot)` removes. -/
def stripped (slot : Text) (c : Char) : Bool := (slot ++ [',', '"']).contains c

/-- The fields of the entries in a line. -/
def entriesOf (slot line : Text) : List (List Text) :=
  ((Library.Text.strip (stripped slot) line).splitOn ',').map (·.splitOn '/')

/-- The line of a slot. -/
def ofSlot (slot line : Text) : Bool := (slot ++ [',']).isPrefixOf line

/-- The loop over the entries: the second field of the first entry that passes the test, if there
is one. -/
def firstLogport (test : List Text → Option Bool) : List (List Text) → Option (Option Text)
  | [] => some none
  | entry :: rest => do
    if ← test entry then entry[1]?.map some else firstLogport test rest

/-- The loop over the lines. A logical port that is found replaces an earlier one, and there has
to be one in the end. -/
def deviceLogport (test : List Text → Option Bool) (slot backingDevList : Text) : Option Text := do
  let logport ← (charLines backingDevList).foldlM (fun logport backingDev =>
    if ofSlot slot backingDev then
      (firstLogport test (entriesOf slot backingDev)).map (·.or logport)
    else some logport) none
  logport

/-- The state of a device that works. -/
def operational : Text := ['O', 'p', 'e', 'r', 'a', 't', 'i', 'o', 'n', 'a', 'l']

/-- `get_backing_device_logport`. -/
def getBackingDeviceLogport (slot backingDevList : Text) : Option Text :=
  deviceLogport (fun entry => do
    if contains ['0'] (← entry[2]?) then return contains operational (← entry[3]?)
    else return false) slot backingDevList

/-- `get_active_device_logport`. -/
def getActiveDeviceLogport (slot backingDevList : Text) : Option Text :=
  deviceLogport (fun entry => do return contains ['1'] (← entry[2]?)) slot backingDevList

/-- The loop over the entries of `get_failover_priority`. -/
def firstPriority (logport : Text) : List (List Text) → Option (Option Text)
  | [] => some none
  | entry :: rest =>
    if entry.contains logport then entry[8]?.map some else firstPriority logport rest

/-- `get_failover_priority`. Without the entry it returns `None`. -/
def getFailoverPriority (slot stdoutText logport : Text) : Option (Option Text) :=
  if ofSlot slot stdoutText then firstPriority logport (entriesOf slot stdoutText) else some none

/-! ### The output of the HMC -/

/-- A field of an entry. -/
def Plain (field : Text) : Prop := ∀ c ∈ field, c ≠ ',' ∧ c ≠ '/' ∧ charBreak c = false

/-- The kind of the backing devices. -/
def sriov : Text := ['s', 'r', 'i', 'o', 'v']

/-- An entry: its kind, some fields, and the last one. -/
structure Entry where
  middle : List Text
  last : Text
  plainMiddle : ∀ field ∈ middle, Plain field
  plainLast : Plain last

/-- The fields of an entry, with another one in the place of the last. -/
def Entry.fieldsWith (entry : Entry) (last : Text) : List Text :=
  (sriov :: entry.middle) ++ [last]

/-- The fields of an entry. -/
def Entry.fields (entry : Entry) : List Text := entry.fieldsWith entry.last

/-- The text of an entry. -/
def Entry.text (entry : Entry) : Text := ['/'].intercalate entry.fields

/-- The quotes around several entries. -/
def quote (entries : List Entry) : Text := if 1 < entries.length then ['"'] else []

/-- The line of a slot with its entries. -/
def outputLine (slot : Nat) (entries : List Entry) : Text :=
  decimal slot ++ [','] ++ quote entries ++
    ([','].intercalate (entries.map Entry.text) ++ quote entries)

/-- The line end, if there is one. -/
def ending (terminated : Bool) : Text := if terminated then ['\n'] else []

/-- The state of a backing device, as it is listed: its logical port, whether it is the active one,
and its status. -/
structure State where
  logport : Text
  active : Bool
  status : Text
  plainLogport : Plain logport
  plainStatus : Plain status

/-- The field for the activity. -/
def State.flag (state : State) : Text := if state.active then ['1'] else ['0']

/-- The flag is plain. -/
theorem State.plainFlag (state : State) : Plain state.flag := by
  unfold State.flag
  cases state.active <;> simp [Plain] <;> decide

/-- The entry of a state. -/
def State.entry (state : State) : Entry where
  middle := [state.logport, state.flag]
  last := state.status
  plainMiddle := by
    simp only [List.forall_mem_cons]
    exact ⟨state.plainLogport, state.plainFlag, by simp⟩
  plainLast := state.plainStatus

/-- A backing device. Its logical port is one of seven fields. -/
structure Device where
  before : List Text
  logport : Text
  after : List Text
  priority : Nat
  seven : before.length + after.length = 6
  plainBefore : ∀ field ∈ before, Plain field
  plainLogport : Plain logport
  plainAfter : ∀ field ∈ after, Plain field

/-- A number is plain. -/
theorem plain_decimal (n : Nat) : Plain (decimal n) := by
  intro c member
  have digit := Library.Text.decimal_digits n c member
  refine ⟨?_, ?_, Library.Text.charBreak_of_solid (Library.Text.charSpace_digit digit)⟩
  · rintro rfl
    exact absurd digit (by decide)
  · rintro rfl
    exact absurd digit (by decide)

/-- The entry of a backing device. -/
def Device.entry (device : Device) : Entry where
  middle := device.before ++ device.logport :: device.after
  last := decimal device.priority
  plainMiddle := by
    simp only [List.forall_mem_append, List.forall_mem_cons]
    exact ⟨device.plainBefore, device.plainLogport, device.plainAfter⟩
  plainLast := plain_decimal device.priority

/-! ### What the parsers promise -/

/-- The logical port of the first active device, that of the first one that is inactive and
operational, and the priority of a device with its logical port. -/
structure Reads (slot : Nat) (states : List State) (devices : List Device) (logport : Text)
    (terminated : Bool) : Prop where
  active : ∀ state, states.find? State.active = some state →
    getActiveDeviceLogport (decimal slot)
      (outputLine slot (states.map State.entry) ++ ending terminated) = some state.logport
  backing : ∀ state,
    states.find? (fun state => !state.active && state.status == operational) = some state →
    getBackingDeviceLogport (decimal slot)
      (outputLine slot (states.map State.entry) ++ ending terminated) = some state.logport
  priority : ∀ device, devices.find? (fun device => device.logport == logport) = some device →
    getFailoverPriority (decimal slot)
      (outputLine slot (devices.map Device.entry) ++ ending terminated) logport =
        some (some (decimal device.priority))

/-- The first inactive device with the word in its status has the logical port of the first
inactive device whose status is the word. -/
def Unmistaken (states : List State) : Prop :=
  ∀ state, states.find? (fun state => !state.active && state.status == operational) = some state →
    (states.find? fun state => !state.active && contains operational state.status).map
      State.logport = some state.logport

/-- The priority of a device is not touched: another device follows, or the line does not end with
a line end and the last digit of the priority is none of the slot number. -/
def Untouched (slot : Nat) (terminated : Bool) (device : Device) (following : List Device) : Prop :=
  following ≠ [] ∨ terminated = false ∧
    ∀ digit ∈ (decimal device.priority).getLast?, digit ∉ decimal slot

/-- The first device with the text of the logical port in one of its fields has the priority of
the device with that logical port, and it is not touched. -/
def Kept (slot : Nat) (devices : List Device) (logport : Text) (terminated : Bool) : Prop :=
  ∀ device, devices.find? (fun device => device.logport == logport) = some device →
    ∀ front found following, devices = front ++ found :: following →
      (∀ other ∈ front, logport ∉ other.entry.fields) → logport ∈ found.entry.fields →
        found.priority = device.priority ∧ Untouched slot terminated found following

/-! ### The line taken apart -/

/-- What is removed is a digit of the slot number, a comma or a quote. -/
theorem stripped_iff {slot : Nat} {c : Char} :
    stripped (decimal slot) c = true ↔ c ∈ decimal slot ∨ c = ',' ∨ c = '"' := by
  simp [stripped]

/-- A character that is none of these is not removed. -/
theorem stripped_eq_false {slot : Nat} {c : Char} (noDigit : c.isDigit = false) (noComma : c ≠ ',')
    (noQuote : c ≠ '"') : stripped (decimal slot) c = false := by
  rw [← Bool.not_eq_true, stripped_iff]
  rintro (digit | comma | isQuote)
  · rw [Library.Text.decimal_digits slot c digit] at noDigit
    cases noDigit
  · exact noComma comma
  · exact noQuote isQuote

/-- The quotes are removed. -/
theorem stripped_quote {slot : Nat} {entries : List Entry} :
    ∀ c ∈ quote entries, stripped (decimal slot) c = true := by
  intro c member
  unfold quote at member
  split at member
  · rw [List.mem_singleton] at member
    exact stripped_iff.mpr (Or.inr (Or.inr member))
  · cases member

/-- The fields of an entry are plain. -/
theorem Entry.plain_fieldsWith (entry : Entry) {last : Text}
    (plain : ∀ c ∈ last, c ≠ ',' ∧ c ≠ '/') :
    ∀ field ∈ entry.fieldsWith last, ∀ c ∈ field, c ≠ ',' ∧ c ≠ '/' := by
  simp only [Entry.fieldsWith, List.forall_mem_append, List.forall_mem_cons]
  refine ⟨⟨by simp [sriov], fun field member c inside => ?_⟩, plain, by simp⟩
  obtain ⟨comma, slash, -⟩ := entry.plainMiddle field member c inside
  exact ⟨comma, slash⟩

/-- Entries that were put together are taken apart: no field has a comma or a slash in it. The last
field may differ from the entry's own, as long as this holds of it too. -/
theorem split_entries (front : List Entry) (entry : Entry) {last : Text}
    (plain : ∀ c ∈ last, c ≠ ',' ∧ c ≠ '/') :
    (([','].intercalate (front.map Entry.text ++
      [['/'].intercalate (entry.fieldsWith last)])).splitOn ',').map (·.splitOn '/') =
        front.map Entry.fields ++ [entry.fieldsWith last] := by
  have ownPlain : ∀ other : Entry, ∀ field ∈ other.fields, ∀ c ∈ field, c ≠ ',' ∧ c ≠ '/' :=
    fun other => other.plain_fieldsWith fun c member =>
      ⟨(other.plainLast c member).1, (other.plainLast c member).2.1⟩
  have noComma : ∀ fields : List Text, (∀ field ∈ fields, ∀ c ∈ field, c ≠ ',' ∧ c ≠ '/') →
      ',' ∉ ['/'].intercalate fields := by
    intro fields plainFields member
    have all : ∀ c ∈ ['/'].intercalate fields, c ≠ ',' :=
      Library.Text.forall_mem_intercalate
        (fun field inside c isChar => (plainFields field inside c isChar).1) (by decide)
    exact all ',' member rfl
  have split : ∀ fields : List Text, fields ≠ [] →
      (∀ field ∈ fields, ∀ c ∈ field, c ≠ ',' ∧ c ≠ '/') →
        (['/'].intercalate fields).splitOn '/' = fields := by
    intro fields something plainFields
    exact List.splitOn_intercalate '/'
      (fun field inside member => (plainFields field inside '/' member).2 rfl) something
  rw [List.splitOn_intercalate ',' ?_ (by simp), List.map_append, List.map_map, List.map_singleton,
    split _ (by simp [Entry.fieldsWith]) (entry.plain_fieldsWith plain)]
  · congr 1
    refine List.map_congr_left fun other _ => ?_
    exact split _ (by simp [Entry.fields, Entry.fieldsWith]) (ownPlain other)
  · simp only [List.forall_mem_append, List.forall_mem_map, List.forall_mem_singleton]
    exact ⟨fun other _ => noComma _ (ownPlain other), noComma _ (entry.plain_fieldsWith plain)⟩

/-- A row of entries starts with the kind of the first one. -/
theorem sriov_prefix_row (front : List Entry) (entry : Entry) (last : Text) :
    sriov <+: [','].intercalate
      (front.map Entry.text ++ [['/'].intercalate (entry.fieldsWith last)]) := by
  have first : ∀ other : Entry, ∀ last, sriov <+: ['/'].intercalate (other.fieldsWith last) :=
    fun other last => Library.Text.first_prefix_intercalate sriov (other.middle ++ [last])
  cases front with
  | nil => exact (first entry last).trans (Library.Text.first_prefix_intercalate _ _)
  | cons other front =>
    exact (first other other.last).trans (Library.Text.first_prefix_intercalate _ _)

/-- What stands in a row before the last field of the last entry. -/
theorem exists_row (front : List Entry) (entry : Entry) :
    ∃ before, ∀ last, [','].intercalate (front.map Entry.text ++
      [['/'].intercalate (entry.fieldsWith last)]) = before ++ '/' :: last := by
  obtain ⟨row, inRow⟩ :=
    Library.Text.exists_intercalate_last ',' (front.map Entry.text)
  obtain ⟨inside, inEntry⟩ :=
    Library.Text.exists_intercalate_concat '/' (List.cons_ne_nil sriov entry.middle)
  refine ⟨row ++ inside, fun last => ?_⟩
  rw [inRow, Entry.fieldsWith, inEntry, List.append_assoc]

/-- What is cut off at the start of a line is the slot with the first comma and quote. -/
theorem dropWhile_outputLine (slot : Nat) (front : List Entry) (entry : Entry) (last : Text) :
    ((decimal slot ++ [','] ++ quote (front ++ [entry])) ++
        [','].intercalate (front.map Entry.text ++
          [['/'].intercalate (entry.fieldsWith last)])).dropWhile (stripped (decimal slot)) =
      [','].intercalate (front.map Entry.text ++ [['/'].intercalate (entry.fieldsWith last)]) := by
  have removed : ∀ c ∈ decimal slot ++ [','] ++ quote (front ++ [entry]),
      stripped (decimal slot) c = true := by
    simp only [List.forall_mem_append, List.forall_mem_singleton]
    exact ⟨⟨fun c digit => stripped_iff.mpr (Or.inl digit), stripped_iff.mpr (by simp)⟩,
      stripped_quote⟩
  have kept : stripped (decimal slot) 's' = false :=
    stripped_eq_false (by decide) (by decide) (by decide)
  obtain ⟨others, split⟩ := sriov_prefix_row front entry last
  rw [List.dropWhile_append_of_pos removed, ← split, sriov]
  simp [kept]

/-- There is no separator in what follows the last entry. -/
theorem unseparated_tail (front : List Entry) (entry : Entry) (terminated : Bool) :
    ∀ c ∈ entry.last ++ (quote (front ++ [entry]) ++ ending terminated), c ≠ ',' ∧ c ≠ '/' := by
  intro c member
  simp only [List.mem_append] at member
  rcases member with inLast | inQuote | inEnding
  · exact ⟨(entry.plainLast c inLast).1, (entry.plainLast c inLast).2.1⟩
  · unfold quote at inQuote
    split at inQuote <;> simp_all
  · unfold ending at inEnding
    split at inEnding <;> simp_all

/-- The entries of a line: they are the ones that were printed, up to the end of the last one. -/
theorem entriesOf_outputLine (slot : Nat) (front : List Entry) (entry : Entry)
    (terminated : Bool) :
    entriesOf (decimal slot) (outputLine slot (front ++ [entry]) ++ ending terminated) =
      front.map Entry.fields ++ [entry.fieldsWith
        ((entry.last ++ (quote (front ++ [entry]) ++ ending terminated)).rdropWhile
          (stripped (decimal slot)))] := by
  obtain ⟨before, row⟩ := exists_row front entry
  have slash : stripped (decimal slot) '/' = false :=
    stripped_eq_false (by decide) (by decide) (by decide)
  have printed : outputLine slot (front ++ [entry]) ++ ending terminated =
      (decimal slot ++ [','] ++ quote (front ++ [entry])) ++
        [','].intercalate (front.map Entry.text ++ [['/'].intercalate (entry.fieldsWith
          (entry.last ++ (quote (front ++ [entry]) ++ ending terminated)))]) := by
    rw [outputLine, List.map_append, List.map_singleton, Entry.text, Entry.fields, row, row]
    simp only [List.append_assoc, List.cons_append]
  rw [entriesOf, Library.Text.strip, printed, dropWhile_outputLine, row,
    rdropWhile_append_cons slash, ← row]
  exact split_entries front entry fun c member =>
    unseparated_tail front entry terminated c ((List.rdropWhile_prefix _ _).subset member)

/-- The line belongs to its slot. -/
theorem ofSlot_outputLine (slot : Nat) (entries : List Entry) (rest : Text) :
    ofSlot (decimal slot) (outputLine slot entries ++ rest) = true := by
  rw [ofSlot, List.isPrefixOf_iff_prefix, outputLine]
  simp only [List.append_assoc]
  rw [← List.append_assoc (decimal slot)]
  exact List.prefix_append _ _

/-- The line is one line, with a line end or without it, because none of the characters that it is
made of breaks lines. -/
theorem charLines_outputLine (slot : Nat) (entries : List Entry) (terminated : Bool) :
    charLines (outputLine slot entries ++ ending terminated) = [outputLine slot entries] := by
  have unbroken : ∀ c ∈ outputLine slot entries, charBreak c = false := by
    have ofQuote : ∀ c ∈ quote entries, charBreak c = false := by
      unfold quote
      split
      · exact Library.Text.none_of_check (by decide)
      · simp
    rw [outputLine]
    simp only [List.forall_mem_append, List.forall_mem_singleton]
    refine ⟨⟨⟨fun c digit => (plain_decimal slot c digit).2.2, by decide⟩, ofQuote⟩, ?_, ofQuote⟩
    refine Library.Text.forall_mem_intercalate ?_ (by decide)
    simp only [List.forall_mem_map]
    intro entry _
    refine Library.Text.forall_mem_intercalate ?_ (by decide)
    simp only [Entry.fields, Entry.fieldsWith, List.forall_mem_append, List.forall_mem_cons]
    refine ⟨⟨Library.Text.none_of_check (by decide), fun field member c inside =>
      (entry.plainMiddle field member c inside).2.2⟩, fun c inside =>
      (entry.plainLast c inside).2.2, by simp⟩
  cases terminated with
  | false =>
    rw [ending, if_neg Bool.false_ne_true, List.append_nil]
    exact Library.Text.lines_single (by decide) (by simp [outputLine]) unbroken
  | true =>
    have printed : Library.Text.lines charBreak '\r' '\n'
        ([outputLine slot entries].flatMap fun line => line ++ ['\n']) =
          [outputLine slot entries] :=
      Library.Text.lines_unlines (by decide) (by decide) (by decide) (by simpa using unbroken)
    simpa [charLines, ending] using printed

/-! ### The states -/

/-- A row of fields for a state: its status may have lost its end, but not the word. -/
def RowOf (state : State) (row : List Text) : Prop :=
  ∃ status, row = state.entry.fieldsWith status ∧
    contains operational status = contains operational state.status

/-- The word is not lost at the end of a status. -/
theorem contains_operational (slot : Nat) (status : Text) :
    contains operational (status.rdropWhile (stripped (decimal slot))) =
      contains operational status := by
  rw [contains, contains, decide_eq_decide]
  constructor
  · exact fun part => part.trans (List.rdropWhile_prefix _ _).isInfix
  · rintro ⟨front, back, rfl⟩
    have letter : stripped (decimal slot) 'l' = false :=
      stripped_eq_false (by decide) (by decide) (by decide)
    have split : front ++ operational ++ back =
        (front ++ ['O', 'p', 'e', 'r', 'a', 't', 'i', 'o', 'n', 'a']) ++ 'l' :: back := by
      simp [operational]
    rw [split, rdropWhile_append_cons letter]
    exact ⟨front, back.rdropWhile (stripped (decimal slot)), by simp [operational]⟩

/-- The rows of a line of states. -/
theorem rows_of_states (slot : Nat) {states : List State} (something : states ≠ []) :
    List.Forall₂ RowOf states
      (entriesOf (decimal slot) (outputLine slot (states.map State.entry))) := by
  obtain ⟨front, state, rfl⟩ := List.eq_nil_or_concat states |>.resolve_left something
  have rows := entriesOf_outputLine slot (front.map State.entry) state.entry false
  rw [ending, if_neg Bool.false_ne_true, List.append_nil, List.append_nil,
    rdropWhile_append stripped_quote] at rows
  rw [List.concat_eq_append, List.map_append, List.map_singleton, rows, List.map_map]
  refine List.rel_append ?_ (.cons ⟨_, rfl, contains_operational slot _⟩ .nil)
  rw [List.forall₂_map_right_iff]
  exact List.forall₂_same.mpr fun other _ => ⟨other.status, rfl, rfl⟩

/-- The loop over the rows finds the first state that passes a test. -/
theorem firstLogport_rows {test : List Text → Option Bool} {passes : State → Bool}
    {states : List State} {rows : List (List Text)} (related : List.Forall₂ RowOf states rows)
    (agrees : ∀ state row, RowOf state row → test row = some (passes state)) :
    firstLogport test rows = some ((states.find? passes).map State.logport) := by
  induction related with
  | nil => rfl
  | @cons state row states rows here _ inductionHypothesis =>
    rw [firstLogport, agrees state row here, List.find?_cons]
    cases passes state with
    | true =>
      obtain ⟨status, rfl, -⟩ := here
      rfl
    | false => exact inductionHypothesis

/-- The loop over the lines, on the line of some states. -/
theorem deviceLogport_output (slot : Nat) (terminated : Bool) {test : List Text → Option Bool}
    {passes : State → Bool} {states : List State} (something : states ≠ [])
    (agrees : ∀ state row, RowOf state row → test row = some (passes state)) :
    deviceLogport test (decimal slot)
      (outputLine slot (states.map State.entry) ++ ending terminated) =
        (states.find? passes).map State.logport := by
  have own : ofSlot (decimal slot) (outputLine slot (states.map State.entry)) = true := by
    simpa using ofSlot_outputLine slot (states.map State.entry) []
  rw [deviceLogport, charLines_outputLine, List.foldlM_cons, if_pos own,
    firstLogport_rows (rows_of_states slot something) agrees]
  simp

/-- The active device is found. -/
theorem getActiveDeviceLogport_eq (slot : Nat) (terminated : Bool) {states : List State}
    (something : states ≠ []) :
    getActiveDeviceLogport (decimal slot)
      (outputLine slot (states.map State.entry) ++ ending terminated) =
        (states.find? State.active).map State.logport := by
  refine deviceLogport_output slot terminated something ?_
  rintro state row ⟨status, rfl, -⟩
  have flag : contains ['1'] state.flag = state.active := by
    unfold State.flag
    cases state.active <;> decide
  simp [Entry.fieldsWith, State.entry, flag]

/-- The first inactive device with the word in its status is found. -/
theorem getBackingDeviceLogport_eq (slot : Nat) (terminated : Bool) {states : List State}
    (something : states ≠ []) :
    getBackingDeviceLogport (decimal slot)
      (outputLine slot (states.map State.entry) ++ ending terminated) =
        (states.find? fun state => !state.active && contains operational state.status).map
          State.logport := by
  refine deviceLogport_output slot terminated something ?_
  rintro state row ⟨status, rfl, word⟩
  have flag : contains ['0'] state.flag = !state.active := by
    unfold State.flag
    cases state.active <;> decide
  cases active : state.active <;> simp [Entry.fieldsWith, State.entry, flag, active, word]

/-! ### The priorities -/

/-- Rows without the logical port are passed over. -/
theorem firstPriority_append {logport : Text} {front : List (List Text)}
    (without : ∀ row ∈ front, logport ∉ row) (rest : List (List Text)) :
    firstPriority logport (front ++ rest) = firstPriority logport rest := by
  induction front with
  | nil => rfl
  | cons row front inductionHypothesis =>
    have absent : row.contains logport = false := by simpa using without row (by simp)
    rw [List.cons_append, firstPriority, absent, if_neg Bool.false_ne_true]
    exact inductionHypothesis fun other member => without other (by simp [member])

/-- The row that has the logical port gives its last field. -/
theorem firstPriority_device {logport last : Text} {device : Device} (rest : List (List Text))
    (has : logport ∈ device.entry.fieldsWith last) :
    firstPriority logport (device.entry.fieldsWith last :: rest) = some (some last) := by
  have nine : (device.entry.fieldsWith last)[8]? = some last := by
    have length : (sriov :: device.entry.middle).length = 8 := by
      have seven := device.seven
      simp only [Device.entry, List.length_cons, List.length_append]
      omega
    rw [Entry.fieldsWith, List.getElem?_append_right (by omega), length]
    rfl
  rw [firstPriority, if_pos (List.contains_iff_mem.mpr has), nine]
  rfl

/-- A digit is cut off when it is one of the slot. -/
theorem stripped_digit_iff {slot : Nat} {c : Char} (isDigit : c.isDigit = true) :
    stripped (decimal slot) c = true ↔ c ∈ decimal slot := by
  rw [stripped_iff]
  refine or_iff_left ?_
  rintro (rfl | rfl)
  · exact absurd isDigit (by decide)
  · exact absurd isDigit (by decide)

/-- What is left of the priority at the end of a line is the priority when it is not touched. -/
theorem last_kept_iff {slot : Nat} {terminated : Bool} {entries : List Entry} (priority : Nat) :
    (decimal priority ++ (quote entries ++ ending terminated)).rdropWhile
        (stripped (decimal slot)) = decimal priority ↔
      terminated = false ∧ ∀ digit ∈ (decimal priority).getLast?, digit ∉ decimal slot := by
  cases terminated with
  | true =>
    have lineEnd : stripped (decimal slot) '\n' = false :=
      stripped_eq_false (by decide) (by decide) (by decide)
    rw [ending, if_pos rfl, ← List.append_assoc, rdropWhile_append_cons lineEnd]
    constructor
    · intro same
      have lengths := congrArg List.length same
      simp at lengths
    · rintro ⟨⟨⟩, -⟩
  | false =>
    rw [ending, if_neg Bool.false_ne_true, List.append_nil, rdropWhile_append stripped_quote,
      List.rdropWhile_eq_self_iff]
    have only : ∀ something : decimal priority ≠ [],
        (stripped (decimal slot) ((decimal priority).getLast something) = true ↔
          (decimal priority).getLast something ∈ decimal slot) := fun something =>
      stripped_digit_iff (Library.Text.decimal_digits priority _ (List.getLast_mem something))
    constructor
    · intro kept
      refine ⟨rfl, fun digit last inSlot => ?_⟩
      obtain ⟨something, rfl⟩ := List.mem_getLast?_eq_getLast last
      exact kept something ((only something).mpr inSlot)
    · rintro ⟨-, apart⟩ something isStripped
      exact apart _ (List.getLast?_eq_some_getLast something) ((only something).mp isStripped)

/-- The priority that is read for the first device with the text in one of its fields. -/
theorem getFailoverPriority_eq (slot : Nat) (terminated : Bool) {logport : Text}
    {front following : List Device} {found : Device}
    (without : ∀ other ∈ front, logport ∉ other.entry.fields)
    (has : logport ∈ found.entry.fields) (own : found.logport = logport ∨ following ≠ []) :
    getFailoverPriority (decimal slot)
      (outputLine slot ((front ++ found :: following).map Device.entry) ++ ending terminated)
        logport =
      some (some (if following = [] then
        (decimal found.priority ++ (quote ((front ++ found :: following).map Device.entry) ++
          ending terminated)).rdropWhile (stripped (decimal slot))
      else decimal found.priority)) := by
  have absent : ∀ row ∈ front.map (Entry.fields ∘ Device.entry), logport ∉ row := by
    simpa using without
  rw [getFailoverPriority, if_pos (ofSlot_outputLine slot _ _)]
  rcases List.eq_nil_or_concat following with rfl | ⟨between, last, rfl⟩
  · -- the device is the last one, and its logical port is in front of the priority
    have ownPort : found.logport = logport := own.resolve_right (by simp)
    rw [List.map_append, List.map_singleton, entriesOf_outputLine, List.map_map, if_pos rfl]
    rw [firstPriority_append absent]
    refine firstPriority_device [] ?_
    simp [Entry.fieldsWith, Device.entry, ownPort]
  · rw [List.concat_eq_append, if_neg (by simp)]
    have split : (front ++ found :: (between ++ [last])).map Device.entry =
        (front ++ found :: between).map Device.entry ++ [last.entry] := by simp
    rw [split, entriesOf_outputLine, List.map_append, List.map_append, List.map_map,
      List.append_assoc, firstPriority_append absent]
    exact firstPriority_device _ has

/-- Where a device has the logical port, some device is the first with its text in a field. -/
theorem exists_first {devices : List Device} {logport : Text} {device : Device}
    (member : device ∈ devices) (port : device.logport = logport) :
    ∃ front found following, devices = front ++ found :: following ∧
      (∀ other ∈ front, logport ∉ other.entry.fields) ∧ logport ∈ found.entry.fields := by
  have has : logport ∈ device.entry.fields := by
    simp [Entry.fields, Entry.fieldsWith, Device.entry, port]
  have some_first : (devices.find? fun device => device.entry.fields.contains logport).isSome := by
    rw [List.find?_isSome]
    exact ⟨device, member, List.contains_iff_mem.mpr has⟩
  obtain ⟨found, isFirst⟩ := Option.isSome_iff_exists.mp some_first
  obtain ⟨inFound, front, following, split, earlier⟩ := List.find?_eq_some_iff_append.mp isFirst
  refine ⟨front, found, following, split, fun other inFront => ?_, List.contains_iff_mem.mp inFound⟩
  simpa using earlier other inFront

/-- The priority that is read is that of a device exactly when it is kept. -/
theorem priority_iff (slot : Nat) (terminated : Bool) {logport : Text}
    {front following : List Device} {found device : Device}
    (without : ∀ other ∈ front, logport ∉ other.entry.fields)
    (has : logport ∈ found.entry.fields) (member : device ∈ front ++ found :: following)
    (port : device.logport = logport) :
    getFailoverPriority (decimal slot)
      (outputLine slot ((front ++ found :: following).map Device.entry) ++ ending terminated)
        logport = some (some (decimal device.priority)) ↔
      found.priority = device.priority ∧ Untouched slot terminated found following := by
  have ownField : logport ∈ device.entry.fields := by
    simp [Entry.fields, Entry.fieldsWith, Device.entry, port]
  have notBefore : device ∉ front := fun inFront => without device inFront ownField
  by_cases last : following = []
  · subst last
    obtain rfl : device = found := by simpa [notBefore] using member
    rw [getFailoverPriority_eq slot terminated without has (Or.inl port), if_pos rfl,
      Option.some.injEq, Option.some.injEq, last_kept_iff]
    simp [Untouched]
  · rw [getFailoverPriority_eq slot terminated without has (Or.inr last), if_neg last,
      Option.some.injEq, Option.some.injEq]
    exact ⟨fun same => ⟨Library.Text.decimal_injective same, Or.inl last⟩,
      fun kept => by rw [kept.1]⟩

/-- The parsers keep their promise exactly when no status is mistaken for the one of a device that
works, and no priority loses its end.

The lists are of any length, and the outputs are those that the HMC makes of them. Outputs of a
command that fails are not covered.

Proof: the status is only searched for `Operational`, and the end of the line is stripped of the
quotes and of the digits of the slot. -/
theorem reads_iff (slot : Nat) (states : List State) (devices : List Device) (logport : Text)
    (terminated : Bool) :
    Reads slot states devices logport terminated ↔
      Unmistaken states ∧ Kept slot devices logport terminated := by
  have something : ∀ {test : State → Bool} {state : State}, states.find? test = some state →
      states ≠ [] := by
    rintro test state found rfl
    cases found
  constructor
  · intro reads
    constructor
    · intro state found
      rw [← getBackingDeviceLogport_eq slot terminated (something found)]
      exact reads.backing state found
    · rintro device wanted front found following rfl without has
      have port : device.logport = logport := by simpa using List.find?_some wanted
      have read := reads.priority device wanted
      exact (priority_iff slot terminated without has (List.mem_of_find?_eq_some wanted) port).mp
        read
  · rintro ⟨unmistaken, kept⟩
    constructor
    case active =>
      intro state found
      rw [getActiveDeviceLogport_eq slot terminated (something found), found]
      rfl
    case backing =>
      intro state found
      rw [getBackingDeviceLogport_eq slot terminated (something found)]
      exact unmistaken state found
    case priority =>
      intro device wanted
      have port : device.logport = logport := by simpa using List.find?_some wanted
      have member := List.mem_of_find?_eq_some wanted
      obtain ⟨front, found, following, rfl, without, has⟩ := exists_first member port
      exact (priority_iff slot terminated without has member port).mpr
        (kept device wanted front found following rfl without has)

/-- The state of a backing device that stands by. -/
def standby (status : Text) (plain : Plain status) : State where
  logport := ['2', '7']
  active := false
  status := status
  plainLogport := forall_of_check (by decide)
  plainStatus := plain

/-- A status that only contains the word is taken for it. -/
example : getBackingDeviceLogport (decimal 3) (outputLine 3
    [(standby "Non-Operational".toList (forall_of_check (by decide))).entry]) =
      some ['2', '7'] := by
  decide +kernel

/-- A device with the priority 13. -/
def backing : Device where
  before := [['v'], ['1'], ['1'], ['0']]
  logport := ['2', '7']
  after := [['2'], ['2']]
  priority := 13
  seven := rfl
  plainBefore := by
    simp only [List.forall_mem_cons]
    exact ⟨forall_of_check (by decide), forall_of_check (by decide), forall_of_check (by decide),
      forall_of_check (by decide), by simp⟩
  plainLogport := forall_of_check (by decide)
  plainAfter := by
    simp only [List.forall_mem_cons]
    exact ⟨forall_of_check (by decide), forall_of_check (by decide), by simp⟩

/-- In slot 3 the priority 13 is read as 1. -/
theorem priority_cut :
    getFailoverPriority (decimal 3) (outputLine 3 [backing.entry]) ['2', '7'] =
        some (some ['1']) ∧
      ¬ ∀ slot states devices logport, Reads slot states devices logport false := by
  have cut : getFailoverPriority (decimal 3) (outputLine 3 [backing.entry]) ['2', '7'] =
      some (some ['1']) := by decide +kernel
  refine ⟨cut, fun all => ?_⟩
  have read := (all 3 [] [backing] ['2', '7']).priority backing (by simp [backing])
  have same : getFailoverPriority (decimal 3) (outputLine 3 [backing.entry]) ['2', '7'] =
      some (some (decimal backing.priority)) := by simpa [ending] using read
  rw [cut] at same
  exact absurd same (by decide +kernel)

end AvocadoMisc.Vnic.PortParsers
