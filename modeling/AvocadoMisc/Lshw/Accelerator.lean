import AvocadoMisc.Library.Assignments
import AvocadoMisc.Library.Scripts

/-!
# The accelerators in lshw

The test reads what lshw lists of its class of accelerators. A line that begins with the mark
closes the entry before it, if anything was read for it. Every other line with a colon goes
into the entry as a key and a value. Each entry is then validated against the fields that
are required and against the listing of lspci.

A finding is appended to the failed commands. These fail the test where they are checked,
and after the validation they are not checked. Nor is an empty output reported: the call that
should append it names an attribute that the class does not have.
-/

namespace AvocadoMisc.Lshw.Accelerator

open Library.Text Library.Assignments Library.Scripts

abbrev Text := List Char

/-- The mark of a section. -/
def sectionMark : Text := "*-accelerator".toList

/-- The field of the description. -/
def descriptionField : Text := "description".toList

/-- The field of the product. -/
def productField : Text := "product".toList

/-- The field of the bus address. -/
def busInfoField : Text := "bus info".toList

/-- `required_fields`. -/
def requiredFields : List Text :=
  [descriptionField, productField, "vendor".toList, "physical id".toList, busInfoField,
    "version".toList, "slot".toList]

/-- What a description has to hold, in small letters. -/
def processingAccelerators : Text := "processing accelerators".toList

/-- What a product has to hold. -/
def spyreAccelerator : Text := "Spyre Accelerator".toList

/-- What stands before the address of a device. -/
def pciMark : Text := "pci@".toList

/-- A dictionary, the newest pair first. The first one for a key counts. -/
abbrev Entry := List (Text × Text)

/-! ### Parsing -/

/-- The first part of `line.split(":", 1)`, stripped. -/
def keyOf (line : Text) : Text := strip charSpace (nameOf ':' (strip charSpace line))

/-- The second part, stripped. -/
def valueOfLine (line : Text) : Text := strip charSpace (valueOf ':' (strip charSpace line))

/-- The loop variables of the parser: `entries` and `current_entry`. -/
structure Scan where
  entries : List Entry
  current : Entry

/-- The current entry joins the entries, unless it is empty. -/
def Scan.flush (scan : Scan) : Scan :=
  ⟨if scan.current = [] then scan.entries else scan.entries ++ [scan.current], []⟩

/-- One round of the parser. -/
def Scan.read (scan : Scan) (line : Text) : Scan :=
  if sectionMark <+: strip charSpace line then scan.flush
  else if strip charSpace line ≠ [] ∧ ':' ∈ strip charSpace line then
    { scan with current := (keyOf line, valueOfLine line) :: scan.current }
  else scan

/-- `entries` after the loop and the flush that follows it. -/
def parseEntries (output : Text) : List Entry :=
  ((charLines output).foldl Scan.read ⟨[], []⟩).flush.entries

/-! ### Validating -/

/-- `text.replace(pattern, '')`. While `skip` is positive, the rest of an occurrence is passed
over. -/
def without (pattern : Text) : Nat → Text → Text
  | _, [] => []
  | 0, c :: rest =>
    if pattern <+: c :: rest then without pattern (pattern.length - 1) rest
    else c :: without pattern 0 rest
  | skip + 1, _ :: rest => without pattern skip rest

/-- `bus_info.replace('pci@', '')`. -/
def pciAddr (busInfo : Text) : Text := without pciMark 0 busInfo

/-- `lower`. Outside of the small alphabet no letter becomes one of those that are searched. -/
def lower (text : Text) : Text := text.map Char.toLower

/-- What can be found about an entry. -/
inductive Finding where
  | missing (field : Text)
  | invalidDescription
  | invalidProduct
  | incorrectAddress (addr : Text)
  deriving DecidableEq

/-- The text under which a finding is recorded. -/
def Finding.message (i : Nat) : Finding → Text
  | missing field =>
    "Accelerator ".toList ++ decimal i ++ ": Missing '".toList ++ field ++ "' field".toList
  | invalidDescription => "Accelerator ".toList ++ decimal i ++ ": Invalid description".toList
  | invalidProduct => "Accelerator ".toList ++ decimal i ++ ": Invalid product".toList
  | incorrectAddress addr =>
    "Accelerator ".toList ++ decimal i ++ ": PCI address ".toList ++ addr ++
      " incorrect".toList

/-- What the validation of an entry finds, in its order. -/
def findings (lspciOutput : Text) (entry : Entry) : List Finding :=
  let missing := requiredFields.filter fun field => (entry.lookup field).isNone
  let description := (entry.lookup descriptionField).filter fun value =>
    !contains processingAccelerators (lower value)
  let product := (entry.lookup productField).filter fun value => !contains spyreAccelerator value
  let address := ((entry.lookup busInfoField).map pciAddr).filter fun addr =>
    !contains addr lspciOutput
  missing.map .missing ++ description.toList.map (fun _ => .invalidDescription) ++
    product.toList.map (fun _ => .invalidProduct) ++ address.toList.map .incorrectAddress

/-! ### The test -/

/-- `is_fail` and `fail_cmd`. -/
structure TestState where
  isFail : Nat
  failCmd : List Text

/-- How the test stops before its end: it fails with the failed commands in its message, or
Python raises an error. -/
inductive Ending where
  | failed (commands : List Text)
  | raised (error : Text)

abbrev Script := EStateM Ending TestState

/-- The error of an append under the wrong name. -/
def noAttribute : Text := "'Lshwrun' object has no attribute 'fail_cmd_append'".toList

/-- What is recorded when no entry was parsed. -/
def noEntries : Text := "No accelerator entries parsed from lshw output".toList

/-- What should be recorded when there is no output. -/
def emptyOutput : Text := "lshw -class accelerator returned empty output".toList

/-- `self.is_fail += 1`. -/
def countFailure : Script PUnit := modify fun state => { state with isFail := state.isFail + 1 }

/-- A finding is counted and appended. -/
def record (message : Text) : Script PUnit := do
  countFailure
  modify fun state => { state with failCmd := state.failCmd ++ [message] }

/-- `error_check`. -/
def errorCheck : Script PUnit := do
  let state ← get
  demand (state.failCmd = []) (.failed state.failCmd)

/-- One round of the validation. -/
def validate (lspciOutput : Text) (numbered : Entry × Nat) : Script PUnit :=
  forEach (fun finding => record (finding.message numbered.2)) (findings lspciOutput numbered.1)

/-- `test_accelerator`, from the two outputs that it reads. -/
def testAccelerator (lshwOutput lspciOutput : Text) : Script PUnit := do
  if lshwOutput = [] then
    countFailure
    throw (.raised noAttribute)
  if parseEntries lshwOutput = [] then
    record noEntries
    errorCheck
  forEach (validate lspciOutput) (parseEntries lshwOutput).zipIdx

/-- The state that `setUp` hands to the test. -/
def start : TestState := ⟨0, []⟩

/-! ### Sections -/

/-- A section as it is listed: a line with the mark, and lines with a key and a value. -/
structure Section where
  head : Text
  fields : List Text
  marked : sectionMark <+: strip charSpace head
  keyed : ∀ line ∈ fields, ¬sectionMark <+: strip charSpace line ∧ ':' ∈ line

/-- The lines of a section. -/
def Section.lines (sec : Section) : List Text := sec.head :: sec.fields

/-- An output that is made of sections, each with its mark in front. -/
structure Report where
  output : Text
  sections : List Section
  made : charLines output = sections.flatMap Section.lines

/-- The value of a key in a section: that of the last line with the key. -/
def Section.value (sec : Section) (key : Text) : Option Text :=
  (sec.fields.reverse.find? fun line => keyOf line == key).map valueOfLine

/-- What is wrong with a section: a field that is missing, or a value that is there and says
something else than it should. -/
inductive Defect (lspciOutput : Text) (sec : Section) : Finding → Prop where
  | missing (field : Text) (required : field ∈ requiredFields) (absent : sec.value field = none) :
    Defect lspciOutput sec (.missing field)
  | description (value : Text) (said : sec.value descriptionField = some value)
    (other : contains processingAccelerators (lower value) = false) :
    Defect lspciOutput sec .invalidDescription
  | product (value : Text) (said : sec.value productField = some value)
    (other : contains spyreAccelerator value = false) : Defect lspciOutput sec .invalidProduct
  | address (value : Text) (said : sec.value busInfoField = some value)
    (unlisted : contains (pciAddr value) lspciOutput = false) :
    Defect lspciOutput sec (.incorrectAddress (pciAddr value))

/-- Nothing is wrong with a section. -/
def Sound (lspciOutput : Text) (sec : Section) : Prop :=
  ∀ finding, ¬Defect lspciOutput sec finding

/-- A run of the test has the right verdict on the sections: it fails exactly when there is
none or something is wrong with one, and the failed commands are the findings, each under the
number of its section. -/
structure RightVerdict (lspciOutput : Text) (sections : List Section) (script : Script PUnit) :
    Prop where
  fails_iff : (∃ commands, stopped script start = some (.failed commands)) ↔
    sections = [] ∨ ∃ sec ∈ sections, ∃ finding, Defect lspciOutput sec finding
  noSection : sections = [] →
    ∃ message ∈ (leaves script start).failCmd, message = noEntries ∨ message = emptyOutput
  recorded : ∀ i sec finding, sections[i]? = some sec → Defect lspciOutput sec finding →
    finding.message i ∈ (leaves script start).failCmd
  named : ∀ message ∈ (leaves script start).failCmd,
    (sections = [] ∧ (message = noEntries ∨ message = emptyOutput)) ∨
      ∃ i sec finding, sections[i]? = some sec ∧ Defect lspciOutput sec finding ∧
        message = finding.message i

/-! ### What the parser reads -/

/-- The entry that is read from a section. -/
def Section.entry (sec : Section) : Entry :=
  (sec.fields.map fun line => (keyOf line, valueOfLine line)).reverse

/-- A key is looked up in the last line that has it. -/
theorem entry_lookup (sec : Section) (key : Text) : sec.entry.lookup key = sec.value key := by
  rw [Section.entry, Section.value, ← List.map_reverse]
  induction sec.fields.reverse with
  | nil => rfl
  | cons line rest inductionHypothesis =>
    rw [List.map_cons, List.lookup_cons, List.find?_cons, inductionHypothesis, BEq.comm]
    cases keyOf line == key <;> rfl

/-- The fields of a section are read into the current entry. -/
theorem read_fields {lines : List Text}
    (keyed : ∀ line ∈ lines, ¬sectionMark <+: strip charSpace line ∧ ':' ∈ line) (scan : Scan) :
    lines.foldl Scan.read scan = { scan with current :=
      (lines.map fun line => (keyOf line, valueOfLine line)).reverse ++ scan.current } := by
  induction lines generalizing scan with
  | nil => rfl
  | cons line rest inductionHypothesis =>
    obtain ⟨⟨unmarked, colon⟩, others⟩ := List.forall_mem_cons.mp keyed
    have inside : ':' ∈ strip charSpace line := mem_strip (by decide) colon
    have read : scan.read line =
        { scan with current := (keyOf line, valueOfLine line) :: scan.current } := by
      rw [Scan.read, if_neg unmarked, if_pos ⟨List.ne_nil_of_mem inside, inside⟩]
    rw [List.foldl_cons, read, inductionHypothesis others]
    simp

/-- A section closes the entry before it, and its own is left open. -/
theorem read_section (sec : Section) (scan : Scan) :
    sec.lines.foldl Scan.read scan = ⟨scan.flush.entries, sec.entry⟩ := by
  have head : scan.read sec.head = scan.flush := by rw [Scan.read, if_pos sec.marked]
  rw [Section.lines, List.foldl_cons, head, read_fields sec.keyed]
  simp [Scan.flush, Section.entry]

/-- The sections that are not empty are read, in their order.

Proof: by induction on the sections, for any scan that they continue. -/
theorem read_sections (sections : List Section) (scan : Scan) :
    ((sections.flatMap Section.lines).foldl Scan.read scan).flush.entries =
      scan.flush.entries ++ (sections.map Section.entry).filter (· ≠ []) := by
  induction sections generalizing scan with
  | nil => simp
  | cons sec rest inductionHypothesis =>
    rw [List.flatMap_cons, List.foldl_append, read_section, inductionHypothesis]
    by_cases empty : sec.entry = []
    · simp [Scan.flush, empty]
    · simp [Scan.flush, empty]

/-- What is parsed from an output that is made of sections. -/
theorem parseEntries_eq (report : Report) :
    parseEntries report.output = (report.sections.map Section.entry).filter (· ≠ []) := by
  rw [parseEntries, report.made, read_sections]
  rfl

/-! ### What the validation finds -/

/-- The validation of a section's entry finds what is wrong with the section. -/
theorem mem_findings_iff {lspciOutput : Text} {sec : Section} {finding : Finding} :
    finding ∈ findings lspciOutput sec.entry ↔ Defect lspciOutput sec finding := by
  simp only [findings, entry_lookup, List.mem_append, List.mem_map, List.mem_filter,
    Option.mem_toList, Option.filter_eq_some_iff, Option.map_eq_some_iff, Option.isNone_iff_eq_none,
    Bool.not_eq_true']
  constructor
  · rintro (((⟨field, ⟨required, absent⟩, rfl⟩ | ⟨value, ⟨said, other⟩, rfl⟩) |
      ⟨value, ⟨said, other⟩, rfl⟩) | ⟨addr, ⟨⟨value, said, rfl⟩, unlisted⟩, rfl⟩)
    · exact .missing field required absent
    · exact .description value said other
    · exact .product value said other
    · exact .address value said unlisted
  · intro defect
    cases defect with
    | missing field required absent => exact .inl (.inl (.inl ⟨field, ⟨required, absent⟩, rfl⟩))
    | description value said other => exact .inl (.inl (.inr ⟨value, ⟨said, other⟩, rfl⟩))
    | product value said other => exact .inl (.inr ⟨value, ⟨said, other⟩, rfl⟩)
    | address value said unlisted => exact .inr ⟨_, ⟨⟨value, said, rfl⟩, unlisted⟩, rfl⟩

/-- A section without a field is not sound, and a sound one is read as an entry. -/
theorem entry_of_sound {lspciOutput : Text} {sec : Section} (sound : Sound lspciOutput sec) :
    sec.entry ≠ [] := by
  intro empty
  have absent : sec.value descriptionField = none := by
    rw [← entry_lookup, empty, List.lookup_nil]
  exact sound _ (.missing descriptionField List.mem_cons_self absent)

/-- Findings are appended in their order, and nothing stops the loop. -/
theorem forEach_record {α : Type} (message : α → Text) (values : List α) (state : TestState) :
    forEach (fun value => record (message value)) values state =
      .ok ⟨⟩ ⟨state.isFail + values.length, state.failCmd ++ values.map message⟩ := by
  induction values generalizing state with
  | nil => simp [forEach, pure_apply]
  | cons value rest inductionHypothesis =>
    have recorded : record (message value) state =
        .ok ⟨⟩ ⟨state.isFail + 1, state.failCmd ++ [message value]⟩ := rfl
    rw [forEach_cons_apply, recorded]
    simp [inductionHypothesis, Nat.add_assoc, Nat.add_comm 1]

/-- The texts that are recorded for an entry. -/
def recordedFor (lspciOutput : Text) (numbered : Entry × Nat) : List Text :=
  (findings lspciOutput numbered.1).map (Finding.message numbered.2)

/-- The validation records what is found about each entry under its number. -/
theorem forEach_validate (lspciOutput : Text) (entries : List (Entry × Nat)) (state : TestState) :
    forEach (validate lspciOutput) entries state = .ok ⟨⟩
      ⟨state.isFail + (entries.flatMap (recordedFor lspciOutput)).length,
        state.failCmd ++ entries.flatMap (recordedFor lspciOutput)⟩ := by
  induction entries generalizing state with
  | nil => simp [forEach, pure_apply]
  | cons numbered rest inductionHypothesis =>
    rw [forEach_cons_apply, validate, forEach_record]
    simp [inductionHypothesis, recordedFor, Nat.add_assoc]

/-- A finding is not recorded under the text for no entries. -/
theorem message_ne_noEntries (i : Nat) (finding : Finding) : finding.message i ≠ noEntries := by
  intro same
  have first : (finding.message i).head? = some 'A' := by cases finding <;> rfl
  rw [same] at first
  exact absurd first (by decide)

/-! ### How the test ends -/

/-- Without an output, Python raises an error, and nothing is recorded. -/
theorem test_empty (lspciOutput : Text) :
    testAccelerator [] lspciOutput start = .error (.raised noAttribute) ⟨1, []⟩ := rfl

/-- An output without entries fails the test. -/
theorem test_noEntries {lshwOutput : Text} (lspciOutput : Text) (something : lshwOutput ≠ [])
    (none : parseEntries lshwOutput = []) :
    testAccelerator lshwOutput lspciOutput start =
      .error (.failed [noEntries]) ⟨1, [noEntries]⟩ := by
  rw [testAccelerator, if_neg something, if_pos none]
  rfl

/-- Once there are entries, the test passes, whatever is found about them. -/
theorem test_entries {lshwOutput : Text} (lspciOutput : Text) (something : lshwOutput ≠ [])
    (parsed : parseEntries lshwOutput ≠ []) :
    testAccelerator lshwOutput lspciOutput start = .ok ⟨⟩
      ⟨((parseEntries lshwOutput).zipIdx.flatMap (recordedFor lspciOutput)).length,
        (parseEntries lshwOutput).zipIdx.flatMap (recordedFor lspciOutput)⟩ := by
  rw [testAccelerator, if_neg something, if_neg parsed]
  have validated := forEach_validate lspciOutput (parseEntries lshwOutput).zipIdx start
  rw [start, Nat.zero_add, List.nil_append] at validated
  exact validated

/-- An output made of sections is empty exactly when there are none. -/
theorem output_eq_nil_iff (report : Report) : report.output = [] ↔ report.sections = [] := by
  rw [← lines_eq_nil_iff charBreak '\r' '\n', ← charLines, report.made, List.flatMap_eq_nil_iff]
  constructor
  · intro blank
    exact List.eq_nil_iff_forall_not_mem.mpr fun sec member =>
      List.cons_ne_nil _ _ (blank sec member)
  · intro none sec member
    rw [none] at member
    cases member

/-- While every section has a field, the test passes, and what it recorded are the findings, each
under the number of its section. -/
theorem test_sections (report : Report) (lspciOutput : Text) (listed : report.sections ≠ [])
    (fields : ∀ sec ∈ report.sections, sec.entry ≠ []) :
    stopped (testAccelerator report.output lspciOutput) start = none ∧
      ∀ message, message ∈ (leaves (testAccelerator report.output lspciOutput) start).failCmd ↔
        ∃ i sec finding, report.sections[i]? = some sec ∧ Defect lspciOutput sec finding ∧
          message = finding.message i := by
  have something : report.output ≠ [] := fun empty => listed ((output_eq_nil_iff report).mp empty)
  have parsed : parseEntries report.output = report.sections.map Section.entry := by
    rw [parseEntries_eq, List.filter_eq_self]
    intro entry member
    obtain ⟨sec, among, rfl⟩ := List.mem_map.mp member
    exact decide_eq_true (fields sec among)
  have entries : parseEntries report.output ≠ [] := by
    rw [parsed]
    exact fun none => listed (List.map_eq_nil_iff.mp none)
  have ended := test_entries lspciOutput something entries
  refine ⟨by rw [stopped, ended], fun message => ?_⟩
  rw [leaves, ended, parsed]
  simp only [List.mem_flatMap, recordedFor, List.mem_map, List.mem_zipIdx_iff_getElem?,
    List.getElem?_map, Option.map_eq_some_iff]
  constructor
  · rintro ⟨⟨entry, i⟩, ⟨sec, here, rfl⟩, finding, found, rfl⟩
    exact ⟨i, sec, finding, here, mem_findings_iff.mp found, rfl⟩
  · rintro ⟨i, sec, finding, here, defect, rfl⟩
    exact ⟨(sec.entry, i), ⟨sec, here, rfl⟩, finding, mem_findings_iff.mpr defect, rfl⟩

/-- The test has the right verdict exactly when there is a section and nothing is wrong with
any of them.

The output of `lspci` is any text, and so are the values of the fields. A report without a section
and one with a section that is defective never have the right verdict.

Proof: a finding is only appended to the failed commands, and these were checked before. -/
theorem right_verdict_iff (report : Report) (lspciOutput : Text) :
    RightVerdict lspciOutput report.sections (testAccelerator report.output lspciOutput) ↔
      report.sections ≠ [] ∧ ∀ sec ∈ report.sections, Sound lspciOutput sec := by
  have outputs := output_eq_nil_iff report
  constructor
  · intro right
    by_cases none : report.sections = []
    · obtain ⟨commands, failed⟩ := right.fails_iff.mpr (.inl none)
      rw [outputs.mpr none, stopped, test_empty] at failed
      cases failed
    · have something : report.output ≠ [] := fun empty => none (outputs.mp empty)
      refine ⟨none, fun sec member finding defect => ?_⟩
      by_cases entries : parseEntries report.output = []
      · obtain ⟨i, here⟩ := List.mem_iff_getElem?.mp member
        have recorded := right.recorded i sec finding here defect
        rw [leaves, test_noEntries lspciOutput something entries] at recorded
        exact message_ne_noEntries i finding (List.mem_singleton.mp recorded)
      · obtain ⟨commands, failed⟩ := right.fails_iff.mpr (.inr ⟨sec, member, finding, defect⟩)
        rw [stopped, test_entries lspciOutput something entries] at failed
        cases failed
  · rintro ⟨listed, sound⟩
    obtain ⟨passed, recorded⟩ := test_sections report lspciOutput listed fun sec member =>
      entry_of_sound (sound sec member)
    refine ⟨?_, fun none => absurd none listed, ?_, ?_⟩
    · rw [passed]
      constructor
      · rintro ⟨commands, failed⟩
        cases failed
      · rintro (none | ⟨sec, member, finding, defect⟩)
        · exact absurd none listed
        · exact absurd defect (sound sec member finding)
    · intro i sec finding here defect
      exact (recorded _).mpr ⟨i, sec, finding, here, defect, rfl⟩
    · intro message member
      exact .inr ((recorded message).mp member)

/-- A section with a field that is none of those that are required. -/
def otherSection : Section where
  head := "*-accelerator".toList
  fields := ["clock: 33MHz".toList]
  marked := by decide +kernel
  keyed := by decide +kernel

/-- What lshw prints of it. -/
def otherReport : Report where
  output := "*-accelerator\nclock: 33MHz\n".toList
  sections := [otherSection]
  made := by decide +kernel

/-- It has no description, and the test passes. -/
theorem right_verdict_fails :
    ¬ ∀ (report : Report) (lspciOutput : Text),
      RightVerdict lspciOutput report.sections (testAccelerator report.output lspciOutput) := by
  intro always
  have absent : otherSection.value descriptionField = none := by decide +kernel
  have defect : Defect [] otherSection (.missing descriptionField) :=
    .missing descriptionField List.mem_cons_self absent
  obtain ⟨commands, failed⟩ := (always otherReport []).fails_iff.mpr
    (.inr ⟨otherSection, List.mem_cons_self, _, defect⟩)
  have something : otherReport.output ≠ [] := by decide +kernel
  have entries : parseEntries otherReport.output ≠ [] := by
    rw [parseEntries_eq]
    decide +kernel
  rw [stopped, test_entries [] something entries] at failed
  cases failed

end AvocadoMisc.Lshw.Accelerator
