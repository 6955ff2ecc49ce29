import AvocadoMisc.Library.NumberTexts
import AvocadoMisc.Library.Regexes
import AvocadoMisc.Library.Writes

/-!
# The key values of the iozone test

`generate_keyval` of `iozone.py` reads the throughput report line by line with four regular
expressions, and carries the section and the number of workers along. The expressions have lost
their backslashes. Each of them wants the letter `s` behind the sign of equality, where a report has
white space, so none of them matches and nothing is recorded.
-/

namespace AvocadoMisc.Iozone.KeyVals

open Library.Text Library.Parts Library.Writes Library.NumberTexts Library.Regexes

/-- A character string. -/
abbrev Text := List Char

/-- A value of the key list: a text of the report, or a number in auto mode. -/
inductive Value where
  | text (text : Text)
  | number (number : Int)
  deriving DecidableEq

/-- `keylist`. -/
abbrev Keylist := Text → Option Value

/-- `{}`. -/
def empty : Keylist := fun _ => none

/-- `'%s-%d-%s'`. -/
def keyName (current : Text) (count : Int) (base : Text) : Text :=
  current ++ '-' :: (str count ++ '-' :: base)

/-! ### Auto mode -/

/-- `labels`. -/
def labels : List String :=
  ["write", "rewrite", "read", "reread", "randread", "randwrite", "bkwdread", "recordrewrite",
    "strideread", "fwrite", "frewrite", "fread", "freread"]

/-- The body of the loop in auto mode. -/
def autoLine (keylist : Keylist) (line : Text) : Keylist :=
  let fields := words charSpace line
  if fields.length ≠ 15 then keylist
  else
    match fields.mapM int with
    | some (first :: second :: values) =>
      writeAll keylist ((labels.zip values).map fun entry =>
        (keyName (str first) second entry.1.toList, some (.number entry.2)))
    | _ => keylist

/-! ### Throughput mode -/

/-- The letter that stands where `\s` should. -/
def isS (c : Char) : Bool := c = 's'

/-- The letter that stands where `\d` should. -/
def isD (c : Char) : Bool := c = 'd'

/-- `[-w]`. -/
def isNameStart (c : Char) : Bool := c = '-' || c = 'w'

/-- `[-ws]`. -/
def isNamePart (c : Char) : Bool := c = '-' || c = 'w' || c = 's'

/-- `[d.]`. -/
def isValue (c : Char) : Bool := c = 'd' || c = '.'

/-- `([d]+)s+([-w]+[-ws]*)`, behind a text and `[s]+`. -/
def workers (intro : String) : List (Regex Char) :=
  [literal intro.toList, some1 isS, .group 1 (some1 isD), some1 isS,
    .group 2 (.seq (some1 isNameStart) (.many isNamePart))]

/-- `=[s]+([d.]*)`, in front of a unit. -/
def equalsValue (number : Nat) (unit : String) : List (Regex Char) :=
  [literal ['='], some1 isS, .group number (.many isValue), literal unit.toList]

/-- `child_regexp`. -/
def childRegexp : Regex Char :=
  sequence (workers "Children see throughput for" ++ equalsValue 3 " KB/sec")

/-- `parent_regexp`. -/
def parentRegexp : Regex Char :=
  sequence (workers "Parent sees throughput for" ++ equalsValue 3 " KB/sec")

/-- `kbsec_regexp`. -/
def kbsecRegexp : Regex Char := sequence (equalsValue 1 " KB/sec")

/-- `kbval_regexp`. -/
def kbvalRegexp : Regex Char := sequence (equalsValue 1 " KB")

/-- `match.group`. -/
def captured (groups : Captured Char) (number : Nat) : Text := (groups number).getD []

/-- `__get_section_name`. -/
def getSectionName (desc : Text) : Text :=
  (strip charSpace desc).map fun c => if c = ' ' then '_' else c

/-- `section`, `w_count` and `keylist`. -/
structure State where
  current : Option Text
  wCount : Int
  keylist : Keylist

/-- `'%s' % section`. -/
def State.currentText (state : State) : Text := state.current.getD "None".toList

/-- Record the first group of a match under a base key. -/
def record (state : State) (basekey : Text) : Option (Captured Char) → State
  | none => state
  | some groups =>
    { state with
      keylist := Function.update state.keylist
        (keyName state.currentText state.wCount basekey) (some (.text (captured groups 1))) }

/-- What a line about threads has behind its first three characters. -/
def perThread : Text := " throughput per thread ".toList

/-- How the line about the smallest transfer begins. -/
def minXfer : Text := "Min xfer ".toList

/-- The body of the loop. There is no result where an exception leaves it. -/
def scanLine (state : State) (unstripped : Text) : Option State :=
  let line := strip charSpace unstripped
  match search childRegexp line with
  | some groups => do
    let wCount ← int (captured groups 1)
    let current := getSectionName (captured groups 2)
    some {
      current := some current
      wCount
      keylist := Function.update state.keylist (keyName current wCount "kids".toList)
        (some (.text (captured groups 3))) }
  | none =>
    if '=' ∈ line then
      match search parentRegexp line with
      | some groups => do
        -- A parent is compared with the section, and recorded under no key in either case.
        let _pCount ← int (captured groups 1)
        some state
      | none =>
        if (line.drop 3).take 23 = perThread then
          some (record state (line.take 3) (search kbsecRegexp line))
        else if minXfer.isPrefixOf line then
          some (record state "MinXfer".toList (search kbvalRegexp line))
        else some state
    else some state

/-- `generate_keyval`, up to the key list. -/
def generateKeyval (autoMode : Bool) (results : Text) : Option Keylist :=
  if autoMode then some ((charLines results).foldl autoLine empty)
  else do
    let state ← (charLines results).foldlM scanLine
      { current := none, wCount := 0, keylist := empty }
    some state.keylist

/-! ### Throughput reports -/

/-- A text in front of a sign of equality: some words, the number of workers and the name of the
section, with white space of any kind between them. -/
structure Heading (intro : List Text) where
  text : Text
  count : Nat
  name : Text
  words_text : words charSpace text = intro ++ decimal count :: words charSpace name
  trimmed : Trimmed charSpace name
  atEnd : name <:+ rstrip charSpace text
  noEquals : '=' ∉ name

/-- A text behind a sign of equality: white space, the value and its unit. -/
structure Measured (unit : Text) where
  text : Text
  value : Decimal
  words_text : words charSpace text = [value.text, unit]
  spaced : ∀ c ∈ text.head?, charSpace c = true

/-- The words of a line about the workers together. -/
def childrenSee : List Text :=
  ["Children".toList, "see".toList, "throughput".toList, "for".toList]

/-- The words of a line about their parent. -/
def parentSees : List Text :=
  ["Parent".toList, "sees".toList, "throughput".toList, "for".toList]

/-- The words of a line about single threads, behind the first one. -/
def throughputPerThread : List Text := ["throughput".toList, "per".toList, "thread".toList]

/-- The first words of such lines. -/
def threadLabels : List Text := ["Min".toList, "Max".toList, "Avg".toList]

/-- The words of a line about the smallest transfer. -/
def minXferWords : List Text := ["Min".toList, "xfer".toList]

/-- The unit of the throughput. -/
def kbsec : Text := "KB/sec".toList

/-- The unit of a transfer. -/
def kb : Text := "KB".toList

/-- The lines behind the first one of a section. -/
inductive Further where
  | parent (heading : Heading parentSees) (value : Measured kbsec)
  | thread (label left : Text) (isLabel : label ∈ threadLabels)
      (words_left : words charSpace left = label :: throughputPerThread) (value : Measured kbsec)
  | xfer (left : Text) (words_left : words charSpace left = minXferWords) (value : Measured kb)

/-- The line as it is written. -/
def Further.line : Further → Text
  | .parent heading value => heading.text ++ '=' :: value.text
  | .thread _ left _ _ value => left ++ '=' :: value.text
  | .xfer left _ value => left ++ '=' :: value.text

/-- A section: the line about the workers together, and the lines behind it. -/
structure Part where
  heading : Heading childrenSee
  value : Measured kbsec
  further : List Further

/-- The lines of a section. -/
def Part.lines (part : Part) : List Text :=
  (part.heading.text ++ '=' :: part.value.text) :: part.further.map Further.line

/-- A report whose lines with a sign of equality are those of its sections. -/
structure Report where
  results : Text
  parts : List Part
  lines : ((charLines results).filter fun line => '=' ∈ line) = parts.flatMap Part.lines

/-- A key of a section. -/
def Part.key (part : Part) (base : Text) : Text :=
  keyName (getSectionName part.heading.name) part.heading.count base

/-- What a further line has to be recorded as. A parent is recorded when it agrees with the
section. -/
def Further.writes (part : Part) : Further → List (Text × Option Value)
  | .parent heading value =>
    if getSectionName heading.name = getSectionName part.heading.name ∧
        heading.count = part.heading.count then
      [(part.key "parent".toList, some (.text value.value.text))]
    else []
  | .thread label _ _ _ value => [(part.key label, some (.text value.value.text))]
  | .xfer _ _ value => [(part.key "MinXfer".toList, some (.text value.value.text))]

/-- What a section has to be recorded as. -/
def Part.writes (part : Part) : List (Text × Option Value) :=
  (part.key "kids".toList, some (.text part.value.value.text)) ::
    part.further.flatMap (Further.writes part)

/-- The key list of a report: each value under a key of its own section. -/
def Report.keylist (report : Report) : Keylist :=
  writeAll empty (report.parts.flatMap Part.writes)

/-! ### What the expressions want -/

/-- What each of the four expressions wants. -/
def equalsS : Text := ['=', 's']

/-- An expression with a value in it describes texts with a sign of equality and an `s`. -/
theorem equalsS_of_describes {front : List (Regex Char)} {number : Nat} {unit : String}
    {text : Text} (describes : Describes (sequence (front ++ equalsValue number unit)) text) :
    equalsS <:+: text := by
  obtain ⟨before, part, rfl, equals, rest, rfl, isEquals, letters, more, rfl, isS, _⟩ :=
    describes_sequence_append describes
  obtain ⟨first, others, rfl, ⟨c, rfl, letter⟩, _⟩ := isS
  obtain rfl := describes_literal isEquals
  obtain rfl : c = 's' := of_decide_eq_true letter
  exact ⟨before, others ++ more, by simp [equalsS]⟩

/-- So it is not found in other texts. -/
theorem search_eq_none {line : Text} (absent : ¬ equalsS <:+: line) (front : List (Regex Char))
    (number : Nat) (unit : String) :
    search (sequence (front ++ equalsValue number unit)) line = none := by
  cases found : search (sequence (front ++ equalsValue number unit)) line with
  | none => rfl
  | some groups =>
    obtain ⟨part, inside, describes⟩ := search_sound found
    exact absurd ((equalsS_of_describes describes).trans inside) absent

/-- A line without them changes nothing. -/
theorem scanLine_absent (state : State) {line : Text} (absent : ¬ equalsS <:+: line) :
    scanLine state line = some state := by
  have trimmed : Trimmed charSpace equalsS := .of_word (isWord_of_check (by decide) (by decide))
  have stripped : ¬ equalsS <:+: strip charSpace line :=
    mt trimmed.infix_strip_iff.mp absent
  have child : search childRegexp (strip charSpace line) = none :=
    search_eq_none stripped (workers "Children see throughput for") 3 " KB/sec"
  have parent : search parentRegexp (strip charSpace line) = none :=
    search_eq_none stripped (workers "Parent sees throughput for") 3 " KB/sec"
  have kbsec : search kbsecRegexp (strip charSpace line) = none :=
    search_eq_none stripped [] 1 " KB/sec"
  have kbval : search kbvalRegexp (strip charSpace line) = none :=
    search_eq_none stripped [] 1 " KB"
  simp only [scanLine, child, parent, kbsec, kbval, record, ite_self]

/-- Nor do such lines. -/
theorem foldlM_absent (state : State) {listed : List Text}
    (absent : ∀ line ∈ listed, ¬ equalsS <:+: line) :
    listed.foldlM scanLine state = some state := by
  induction listed with
  | nil => rfl
  | cons line rest inductionHypothesis =>
    rw [List.foldlM_cons, scanLine_absent state (absent line List.mem_cons_self)]
    exact inductionHypothesis fun other member => absent other (List.mem_cons_of_mem line member)

/-! ### The lines of a report -/

/-- Words without a sign of equality make a text without one. -/
theorem noEquals_of_words {text : Text} {listed : List Text} (cut : words charSpace text = listed)
    (absent : ∀ word ∈ listed, '=' ∉ word) : '=' ∉ text := by
  rw [mem_words_iff (show charSpace '=' = false by decide), cut]
  rintro ⟨word, member, inWord⟩
  exact absent word member inWord

/-- There is no sign of equality in front of the value. -/
theorem Heading.noEquals_text {intro : List Text} (heading : Heading intro)
    (plain : ∀ word ∈ intro, '=' ∉ word) : '=' ∉ heading.text := by
  apply noEquals_of_words heading.words_text
  intro word member
  rcases List.mem_append.mp member with inIntro | later
  · exact plain word inIntro
  · rcases List.mem_cons.mp later with rfl | inName
    · intro inNumber
      exact absurd (decimal_digits heading.count '=' inNumber) (by decide)
    · exact fun inWord => heading.noEquals ((infix_of_mem_words inName).subset inWord)

/-- Nor is there one behind it. -/
theorem Measured.noEquals_text {unit : Text} (value : Measured unit) (plain : '=' ∉ unit) :
    '=' ∉ value.text := by
  apply noEquals_of_words value.words_text
  intro word member
  rcases List.mem_pair.mp member with rfl | rfl
  · intro inValue
    rcases mem_decimal value.value inValue with digit | point
    · exact absurd digit (by decide)
    · exact absurd point (by decide)
  · exact plain

/-- Behind the only sign of equality there is white space. -/
theorem not_equalsS {left unit : Text} (noLeft : '=' ∉ left) (value : Measured unit)
    (plain : '=' ∉ unit) : ¬ equalsS <:+: left ++ '=' :: value.text := by
  induction left with
  | nil =>
    rw [List.nil_append, equalsS, infix_cons_once_iff (value.noEquals_text plain),
      List.cons_prefix_cons]
    rintro ⟨_, begins⟩
    obtain ⟨rest, split⟩ := begins
    have white := value.spaced 's' (by rw [← split]; rfl)
    exact absurd white (by decide)
  | cons c rest inductionHypothesis =>
    have differs : '=' ≠ c := fun same => noLeft (same ▸ List.mem_cons_self)
    rw [List.cons_append, List.infix_cons_iff]
    rintro (begins | later)
    · exact differs (List.cons_prefix_cons.mp begins).1
    · exact inductionHypothesis (fun member => noLeft (List.mem_cons_of_mem c member)) later

/-- No line of a section has what the expressions want. -/
theorem not_equalsS_part (part : Part) : ∀ line ∈ part.lines, ¬ equalsS <:+: line := by
  have plainSec : '=' ∉ kbsec := by decide
  intro line member
  rcases List.mem_cons.mp member with rfl | inFurther
  · exact not_equalsS (part.heading.noEquals_text (by decide)) part.value plainSec
  · obtain ⟨further, _, rfl⟩ := List.mem_map.mp inFurther
    cases further with
    | parent heading value =>
      exact not_equalsS (heading.noEquals_text (by decide)) value plainSec
    | thread label left isLabel words_left value =>
      refine not_equalsS (noEquals_of_words words_left ?_) value plainSec
      intro word inLeft
      rcases List.mem_cons.mp inLeft with rfl | inRest
      · exact (by decide : ∀ word ∈ threadLabels, '=' ∉ word) word isLabel
      · exact (by decide : ∀ word ∈ throughputPerThread, '=' ∉ word) word inRest
    | xfer left words_left value =>
      exact not_equalsS (noEquals_of_words words_left (by decide)) value (by decide)

/-- Nothing is recorded for a report. -/
theorem generateKeyval_report (report : Report) :
    generateKeyval false report.results = some empty := by
  have absent : ∀ line ∈ charLines report.results, ¬ equalsS <:+: line := by
    intro line member inside
    by_cases equals : '=' ∈ line
    · have listed : line ∈ report.parts.flatMap Part.lines := by
        rw [← report.lines, List.mem_filter]
        exact ⟨member, decide_eq_true equals⟩
      obtain ⟨part, _, inPart⟩ := List.mem_flatMap.mp listed
      exact not_equalsS_part part line inPart inside
    · exact equals (inside.subset List.mem_cons_self)
  simp [generateKeyval, foldlM_absent _ absent]

/-- A value is recorded under each key of a list of writes. -/
theorem writeAll_ne_none {writes : List (Text × Option Value)} {key : Text} {value : Value}
    (present : ∀ write ∈ writes, write.2 ≠ none) (member : (key, some value) ∈ writes) :
    writeAll empty writes key ≠ none := by
  rw [writeAll_apply]
  have inValues : some value ∈ valuesOf key writes := mem_valuesOf.mpr member
  have nonempty : valuesOf key writes ≠ [] := List.ne_nil_of_mem inValues
  rw [List.getLastD_eq_getLast?, List.getLast?_eq_getLast_of_ne_nil nonempty, Option.getD_some]
  exact present _ (mem_valuesOf.mp (List.getLast_mem nonempty))

/-- What has to be recorded are values. -/
theorem writes_ne_none (part : Part) : ∀ write ∈ part.writes, write.2 ≠ none := by
  intro write member
  rcases List.mem_cons.mp member with rfl | inFurther
  · simp
  · obtain ⟨further, _, inWrites⟩ := List.mem_flatMap.mp inFurther
    cases further with
    | parent heading value =>
      rw [Further.writes] at inWrites
      split at inWrites
      · rw [List.mem_singleton.mp inWrites]
        simp
      · cases inWrites
    | thread label left isLabel words_left value =>
      rw [List.mem_singleton.mp inWrites]
      simp
    | xfer left words_left value =>
      rw [List.mem_singleton.mp inWrites]
      simp

/-- A report with a section has something to record. -/
theorem keylist_ne_empty (report : Report) (some : report.parts ≠ []) :
    report.keylist ≠ empty := by
  obtain ⟨part, member⟩ := List.exists_mem_of_ne_nil _ some
  intro same
  have recorded : report.keylist (part.key "kids".toList) ≠ none := by
    apply writeAll_ne_none
    · intro write inWrites
      obtain ⟨other, _, inPart⟩ := List.mem_flatMap.mp inWrites
      exact writes_ne_none other write inPart
    · exact List.mem_flatMap.mpr ⟨part, member, List.mem_cons_self⟩
  rw [same] at recorded
  exact recorded rfl

/-- The key list is that of the report exactly when there is no section.

A report may have any other lines without a sign of equality. The automatic mode, whose output has
another form, is not covered.

Proof: every expression wants a letter where a report has white space, so no line matches. -/
theorem generateKeyval_iff (report : Report) :
    generateKeyval false report.results = some report.keylist ↔ report.parts = [] := by
  rw [generateKeyval_report, Option.some.injEq]
  constructor
  · intro same
    by_contra some
    exact keylist_ne_empty report some same.symm
  · intro none
    rw [Report.keylist, none]
    rfl

/-- One reader. -/
def readers : Part where
  heading := {
    text := "Children see throughput for 1 readers ".toList
    count := 1
    name := "readers".toList
    words_text := by decide +kernel
    trimmed := .of_word (isWord_of_check (by decide) (by decide))
    atEnd := ⟨"Children see throughput for 1 ".toList, by decide +kernel⟩
    noEquals := by decide }
  value := {
    text := " 5.5 KB/sec".toList
    value := { whole := Library.Numerals.ofNat 5, fraction := some (Library.Numerals.ofNat 5) }
    words_text := by decide +kernel
    spaced := by
      rintro c ⟨⟩
      decide }
  further := []

/-- The report about one reader. -/
def readersReport : Report where
  results := "Children see throughput for 1 readers = 5.5 KB/sec".toList
  parts := [readers]
  lines := by decide +kernel

/-- The throughput of one reader is not recorded. -/
theorem generateKeyval_readers_ne :
    generateKeyval false readersReport.results ≠ some readersReport.keylist := by
  rw [generateKeyval_report]
  intro same
  exact keylist_ne_empty readersReport (List.cons_ne_nil _ _) (Option.some.inj same).symm

end AvocadoMisc.Iozone.KeyVals
