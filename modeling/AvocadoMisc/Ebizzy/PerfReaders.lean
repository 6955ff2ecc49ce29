import AvocadoMisc.Library.Labels
import AvocadoMisc.Library.NumberTexts

/-!
# Two readers of a perf report

`create_json_dump` of `ebizzy.py` searches the whole report for the number in front of each label,
and the loop of `_run_ebizzy_with_perf` searches each line. The expressions of the first have no
comma in them, so that only the digits behind the last comma are found, and the label it wants for
the elapsed time is not what perf prints.
-/

namespace AvocadoMisc.Ebizzy.PerfReaders

open Library.Text Library.Parts Library.Numerals Library.Regexes Library.Labels Library.NumberTexts

/-- A character string. -/
abbrev Text := List Char

/-! ### The readers -/

/-- What is counted. -/
inductive Event where
  | cpuClock | contextSwitches | cpuMigrations | pageFaults | cycles | instructions | branches
  | branchMisses
  deriving DecidableEq

/-- How an event is called in a report. -/
def Event.label : Event → Text
  | .cpuClock => "msec cpu-clock".toList
  | .contextSwitches => "context-switches".toList
  | .cpuMigrations => "cpu-migrations".toList
  | .pageFaults => "page-faults".toList
  | .cycles => "cycles".toList
  | .instructions => "instructions".toList
  | .branches => "branches".toList
  | .branchMisses => "branch-misses".toList

/-- The keys of `patterns`. -/
inductive Key where
  | event (event : Event)
  | elapsedTime
  deriving DecidableEq

/-- The end of a pattern. -/
def Key.label : Key → Text
  | .event counted => counted.label
  | .elapsedTime => "seconds elapsed".toList

/-- `[\d.]` -/
def pointDigit (c : Char) : Bool := isDigit 10 c || c = '.'

/-- `[\d,]` -/
def commaDigit (c : Char) : Bool := isDigit 10 c || c = ','

/-- The expression for a key. -/
def Key.pattern (key : Key) : Regex Char := labelled charSpace (some1 pointDigit) key.label

/-- The keys in order. -/
def patterns : List Key :=
  [.event .cpuClock, .event .contextSwitches, .event .cpuMigrations, .event .pageFaults,
    .event .cycles, .event .instructions, .event .branches, .event .branchMisses, .elapsedTime]

/-- `extracted_data`. -/
abbrev Dict := Key → Option ℚ

/-- The body of the loop over the patterns. There is no result where an exception leaves it. -/
def extract (output : Text) (data : Dict) (key : Key) : Option Dict :=
  match search key.pattern output with
  | none => some data
  | some groups =>
    (float ((groups 1).getD [])).map fun (value : ℚ) => Function.update data key (some value)

/-- `create_json_dump`. -/
def createJsonDump (output : Text) : Option Dict := patterns.foldlM (extract output) fun _ => none

/-- `CPUs utilized`. -/
def cpusUtilized : Text := "CPUs utilized".toList

/-- `seconds time elapsed`. -/
def secondsTimeElapsed : Text := "seconds time elapsed".toList

/-- `\d+\.?\d*` -/
def decimalValue : Regex Char :=
  Library.Regexes.sequence [some1 (isDigit 10), .opt (.one fun c => c = '.'), .many (isDigit 10)]

/-- What a line says for a label. Where it says nothing, what was read before is kept. -/
def reading {β : Type} (label : Text) (value : Regex Char) (convert : Text → Option β)
    (old : Option β) (line : Text) : Option (Option β) :=
  if contains label line then
    match search (labelled charSpace value label) line with
    | none => some old
    | some groups => (convert ((groups 1).getD [])).map fun (new : β) => some new
  else some old

/-- What the loop over the lines has read. -/
structure PerfScan where
  cpuUsage : Option ℚ
  execTime : Option ℚ
  ctxSwitches : Option Int

/-- The number of context switches, with the commas replaced. -/
def toInt (text : Text) : Option Int := int (text.filter (· ≠ ','))

/-- The body of the loop over the lines. -/
def scanLine (scan : PerfScan) (line : Text) : Option PerfScan := do
  let cpuUsage ← reading cpusUtilized decimalValue float scan.cpuUsage line
  let execTime ← reading secondsTimeElapsed decimalValue float scan.execTime line
  let ctxSwitches ←
    reading Event.contextSwitches.label (some1 commaDigit) toInt scan.ctxSwitches line
  some { cpuUsage, execTime, ctxSwitches }

/-- The loop of `_run_ebizzy_with_perf`. -/
def scanStderr (stderr : Text) : Option PerfScan :=
  (charLines stderr).foldlM scanLine { cpuUsage := none, execTime := none, ctxSwitches := none }

/-! ### Reports -/

/-- The characters of a number. -/
def numberChar (c : Char) : Bool := isDigit 10 c || c = '.' || c = ','

/-- Lines with their line breaks. -/
def unlines (listed : List Text) : Text := listed.flatMap fun line => line ++ ['\n']

/-- The rows print an amount for a label: it stands in front of the label on one of them, and no
number stands in front of the label above or below that row. -/
def Prints (rows : List Text) (label : Text) (amount : Amount) : Prop :=
  ∃ before indent gap rest after,
    rows = before ++ (indent ++ (amount.text ++ (gap ++ (label ++ rest)))) :: after ∧
      Blank charSpace indent ∧ Blank charSpace gap ∧ gap ≠ [] ∧
      ¬ Labelled numberChar charSpace label (unlines before) ∧
      ∀ row ∈ after, ¬ Labelled numberChar charSpace label row

/-- The line about the elapsed time. -/
def elapsedLine (width : Nat) (seconds : Decimal) : Text :=
  List.replicate width ' ' ++ (seconds.text ++ ([' '] ++ secondsTimeElapsed))

/-- The text of a report. -/
def reportText (rows : List Text) (width : Nat) (seconds : Decimal) (foot : Nat) : Text :=
  unlines (rows ++ elapsedLine width seconds :: List.replicate foot [])

/-- A report of perf: its rows, with the amounts that they print, and the line about the elapsed
time, which empty lines may follow. -/
structure PerfReport where
  rows : List Text
  amounts : Event → Option Amount
  width : Nat
  seconds : Decimal
  foot : Nat
  printed : ∀ event amount, amounts event = some amount → Prints rows event.label amount
  absent : ∀ event, amounts event = none →
    ¬ Labelled numberChar charSpace event.label (reportText rows width seconds foot)
  whole : ∀ event amount, amounts event = some amount → event ≠ .cpuClock →
    amount.fraction = none
  plain : ∀ row ∈ rows, ¬ "elapsed".toList <:+: row
  unbroken : ∀ row ∈ rows, ∀ c ∈ row, charBreak c = false

section Report

variable (report : PerfReport)

/-- `stderr`. -/
def PerfReport.stderr : Text :=
  reportText report.rows report.width report.seconds report.foot

/-- What is printed for an event. -/
def PerfReport.value (event : Event) : Option ℚ := (report.amounts event).map Amount.value

/-- Both readers read the context switches and the elapsed time that are printed, and what the
first one reads is printed. -/
def Agree : Prop :=
  ∃ data scan, createJsonDump report.stderr = some data ∧ scanStderr report.stderr = some scan ∧
    data (.event .contextSwitches) = report.value .contextSwitches ∧
    scan.ctxSwitches.map (fun (n : Int) => (n : ℚ)) = report.value .contextSwitches ∧
    data .elapsedTime = some report.seconds.value ∧ scan.execTime = some report.seconds.value ∧
    ∀ event value, data (.event event) = some value → report.value event = some value

end Report

/-! ### Labels and numbers -/

/-- A run of symbols of a class consists of them. -/
theorem consists_some1 (number : Char → Bool) : Consists number (some1 number) :=
  fun _ describes => describes_some1 describes

/-- So does a number with a point. -/
theorem consists_decimalValue : Consists pointDigit decimalValue := by
  rintro _ ⟨whole, _, rfl, isWhole, mark, _, rfl, isMark, digits, _, rfl, allDigits, rfl⟩
  obtain ⟨nonempty, wholeDigits⟩ := describes_some1 isWhole
  refine ⟨List.append_ne_nil_of_left_ne_nil nonempty _, fun c member => ?_⟩
  simp only [List.mem_append, List.append_nil] at member
  rcases member with inWhole | inMark | inDigits
  · simp [pointDigit, wholeDigits c inWhole]
  · rcases isMark with ⟨other, rfl, isPoint⟩ | rfl
    · obtain rfl := List.mem_singleton.mp inMark
      simpa [pointDigit] using Or.inr isPoint
    · cases inMark
  · simp [pointDigit, allDigits c inDigits]

/-- The symbols of a number with a point are those of a number. -/
theorem numberChar_of_pointDigit (c : Char) (isDigitOrPoint : pointDigit c = true) :
    numberChar c = true := by
  simp only [pointDigit, numberChar, Bool.or_eq_true] at isDigitOrPoint ⊢
  exact Or.inl isDigitOrPoint

/-- So are the symbols of a number with commas. -/
theorem numberChar_of_commaDigit (c : Char) (isDigitOrComma : commaDigit c = true) :
    numberChar c = true := by
  simp only [commaDigit, numberChar, Bool.or_eq_true] at isDigitOrComma ⊢
  exact isDigitOrComma.imp_left Or.inl

/-- Decimals consist of them. -/
theorem pointDigit_of_mem (number : Decimal) : ∀ c ∈ number.text, pointDigit c = true := by
  intro c member
  rcases mem_decimal number member with isDigit | rfl
  · simp [pointDigit, isDigit]
  · decide

/-- `float` reads what the expression for a number with a point takes. -/
theorem exists_float {part : Text} (describes : Describes decimalValue part) :
    ∃ value, float part = some value := by
  obtain ⟨whole, _, rfl, isWhole, mark, _, rfl, isMark, digits, _, rfl, allDigits, rfl⟩ := describes
  obtain ⟨nonempty, wholeDigits⟩ := describes_some1 isWhole
  rcases isMark with ⟨other, rfl, isPoint⟩ | rfl
  · obtain rfl := of_decide_eq_true isPoint
    cases digits with
    | nil => exact ⟨_, by simpa using float_point ⟨whole, nonempty, wholeDigits⟩⟩
    | cons first others =>
      have read := float_decimal ⟨⟨whole, nonempty, wholeDigits⟩,
        some ⟨first :: others, List.cons_ne_nil first others, allDigits⟩⟩
      exact ⟨_, by simpa [Decimal.text] using read⟩
  · have all : ∀ c ∈ whole ++ digits, isDigit 10 c = true := fun c member =>
      (List.mem_append.mp member).elim (wholeDigits c) (allDigits c)
    have read := float_decimal
      ⟨⟨whole ++ digits, List.append_ne_nil_of_left_ne_nil nonempty digits, all⟩, none⟩
    exact ⟨_, by simpa [Decimal.text] using read⟩

/-- What may stand around labels. -/
def padding (c : Char) : Bool := charSpace c || numberChar c

/-- The characters of a number are some of these. -/
theorem padding_of_numberChar {c : Char} (isNumber : numberChar c = true) : padding c = true := by
  rw [padding, isNumber, Bool.or_true]

/-- White space is as well. -/
theorem padding_of_charSpace {c : Char} (isSpace : charSpace c = true) : padding c = true := by
  rw [padding, isSpace, Bool.true_or]

/-- Which labels do: no digit is in them, and no white space or number at their ends. -/
structure Sound (label : Text) : Prop where
  something : label ≠ []
  noDigit : ∀ c ∈ label, isDigit 10 c = false
  first : ∀ c ∈ label.head?, padding c = false
  last : ∀ c ∈ label.getLast?, padding c = false

/-- The labels of the events do. -/
theorem sound_label (event : Event) : Sound event.label := by
  cases event <;>
    exact ⟨by decide, none_of_check (by decide), first_of_check (by decide),
      first_of_check (by decide)⟩

/-- The label for the elapsed time does as well. -/
theorem sound_secondsTimeElapsed : Sound secondsTimeElapsed :=
  ⟨by decide, none_of_check (by decide), first_of_check (by decide), first_of_check (by decide)⟩

/-- What is no padding is no white space. -/
theorem charSpace_of_padding {c : Char} (solid : padding c = false) : charSpace c = false :=
  (Bool.or_eq_false_iff.mp solid).1

/-- A digit is the first character of a number. -/
theorem exists_first_digit (whole : Numeral 10) (tail : Text) :
    ∃ first, (whole.digits ++ tail).head? = some first ∧ isDigit 10 first = true := by
  obtain ⟨first, others, digits⟩ := List.exists_cons_of_ne_nil whole.nonempty
  exact ⟨first, by rw [digits]; rfl, whole.allDigits first (by simp [digits])⟩

/-- So it is the first character of a decimal. -/
theorem exists_first_of_decimal (number : Decimal) :
    ∃ first, number.text.head? = some first ∧ isDigit 10 first = true := by
  obtain ⟨tail, begins⟩ := exists_text_eq number
  obtain ⟨first, isFirst, digit⟩ := exists_first_digit number.whole tail
  exact ⟨first, begins ▸ isFirst, digit⟩

/-- The first number in front of a label is found. -/
theorem search_number {label front digits gap rest : Text} {number : Char → Bool}
    {value : Regex Char} (sound : Sound label) (consists : Consists number value) {first : Char}
    (begins : digits.head? = some first) (digit : isDigit 10 first = true)
    (ends : ∀ c ∈ front.getLast?, number c = false)
    (absent : ¬ Labelled number charSpace label front)
    (takes : ∀ groups, Takes value groups digits (gap ++ (label ++ rest)) groups)
    (blank : Blank charSpace gap) (nonempty : gap ≠ []) :
    ∃ after, search (labelled charSpace value label)
        (front ++ (digits ++ (gap ++ (label ++ rest)))) = some after ∧ after 1 = some digits := by
  have foreign : first ∉ label := by
    intro inLabel
    rw [sound.noDigit first inLabel] at digit
    cases digit
  exact search_labelled consists begins ends (charSpace_of_digit digit) foreign sound.something
    absent takes blank nonempty fun c isFirst => charSpace_of_padding (sound.first c isFirst)

/-- A character of a number is no white space. -/
theorem charSpace_of_numberChar {c : Char} (isNumber : numberChar c = true) :
    charSpace c = false := by
  simp only [numberChar, Bool.or_eq_true, decide_eq_true_eq] at isNumber
  rcases isNumber with (digit | rfl) | rfl
  · exact charSpace_of_digit digit
  · decide
  · decide

/-- White space is in no number. -/
theorem number_of_charSpace {number : Char → Bool}
    (among : ∀ c, number c = true → numberChar c = true) {c : Char} (isSpace : charSpace c = true) :
    number c = false := by
  apply Bool.eq_false_iff.mpr
  intro isNumber
  have solid := charSpace_of_numberChar (among c isNumber)
  rw [isSpace] at solid
  cases solid

/-- White space stops a value. -/
theorem stops_of_blank {number : Char → Bool} (among : ∀ c, number c = true → numberChar c = true)
    {text : Text} (ends : ∀ c ∈ text.head?, charSpace c = true) :
    ∀ c ∈ text.head?, number c = false :=
  fun c isFirst => number_of_charSpace among (ends c isFirst)

/-- Behind white space no number goes on. -/
theorem last_of_blank {number : Char → Bool} (among : ∀ c, number c = true → numberChar c = true)
    {text : Text} (blank : Blank charSpace text) : ∀ c ∈ text.getLast?, number c = false :=
  fun c isLast => number_of_charSpace among (blank c (List.mem_of_getLast? isLast))

/-- White space in front of something is first there. -/
theorem head_of_blank {gap tail : Text} (blank : Blank charSpace gap) (nonempty : gap ≠ []) :
    ∀ c ∈ (gap ++ tail).head?, charSpace c = true := by
  obtain ⟨first, others, rfl⟩ := List.exists_cons_of_ne_nil nonempty
  rintro c ⟨⟩
  exact blank first List.mem_cons_self

/-- The last character of one text after another. -/
theorem last_append {Holds : Char → Prop} {front back : Text}
    (inFront : ∀ c ∈ front.getLast?, Holds c) (inBack : ∀ c ∈ back.getLast?, Holds c) :
    ∀ c ∈ (front ++ back).getLast?, Holds c := by
  rcases List.eq_nil_or_concat' back with rfl | ⟨others, last, rfl⟩
  · rwa [List.append_nil]
  · intro c isLast
    apply inBack
    rw [← List.append_assoc, List.getLast?_concat] at isLast
    rwa [List.getLast?_concat]

/-- Lines end in a line break. -/
theorem last_unlines (listed : List Text) : ∀ c ∈ (unlines listed).getLast?, c = '\n' := by
  induction listed with
  | nil => simp [unlines]
  | cons line rest inductionHypothesis =>
    rw [unlines, List.flatMap_cons]
    exact last_append (by simp) inductionHypothesis

/-! ### The first reader -/

section Json

variable (report : PerfReport)

/-- The digits behind the last comma are found, as the pattern's number has no comma in it. They are
the amount exactly if it is below 1000, where it is printed without a comma. -/
theorem search_event {event : Event} {amount : Amount}
    (isPrinted : report.amounts event = some amount) :
    ∃ after last, search (Key.event event).pattern report.stderr = some after ∧
      after 1 = some (Decimal.text last) ∧ (last.value = amount.value ↔ amount.value < 1000) := by
  obtain ⟨before, indent, gap, rest, below, rows, blankIndent, blankGap, nonempty, above, -⟩ :=
    report.printed event amount isPrinted
  obtain ⟨front, last, text, inFront, comma, whole⟩ := exists_last_part amount
  have sound := sound_label event
  obtain ⟨first, isFirst, digit⟩ := exists_first_of_decimal last
  obtain ⟨others, stderr⟩ : ∃ others, report.stderr =
      (unlines before ++ (indent ++ front)) ++
        (last.text ++ (gap ++ (event.label ++ others))) := by
    refine ⟨rest ++ '\n' :: unlines (below ++ elapsedLine report.width report.seconds ::
      List.replicate report.foot []), ?_⟩
    rw [PerfReport.stderr, reportText, rows, text]
    simp [unlines]
  have ends : ∀ c ∈ (unlines before ++ (indent ++ front)).getLast?, pointDigit c = false := by
    apply last_append
    · intro c isLast
      rw [last_unlines before c isLast]
      decide
    · apply last_append (last_of_blank numberChar_of_pointDigit blankIndent)
      · intro c isLast
        rw [comma c isLast]
        decide
  have isPadding : Blank padding (indent ++ front) := by
    intro c member
    rcases List.mem_append.mp member with inIndent | isFront
    · exact padding_of_charSpace (blankIndent c inIndent)
    · rcases inFront c isFront with isDigit | rfl
      · simp [padding, numberChar, isDigit]
      · decide
  have absent : ¬ Labelled pointDigit charSpace event.label
      (unlines before ++ (indent ++ front)) := by
    rw [labelled_append_iff sound.something sound.last isPadding]
    exact fun inside => above (inside.weaken numberChar_of_pointDigit)
  obtain ⟨after, found, group⟩ := search_number sound (consists_some1 pointDigit)
    isFirst digit ends absent
    (fun groups => Takes.some1 (decimal_isWord last).nonempty (pointDigit_of_mem last)
      (stops_of_blank numberChar_of_pointDigit (head_of_blank blankGap nonempty)))
    blankGap nonempty
  exact ⟨after, last, by rw [stderr]; exact found, group, whole⟩

/-- A part that does not begin like a number is in the last line when it is in its label. -/
theorem infix_elapsedLine_iff {part : Text} (something : part ≠ [])
    (first : ∀ c ∈ part.head?, padding c = false) (width : Nat) (seconds : Decimal) :
    part <:+: elapsedLine width seconds ↔ part <:+: secondsTimeElapsed := by
  have isPadding : Blank padding (List.replicate width ' ' ++ (seconds.text ++ [' '])) := by
    intro c member
    simp only [List.mem_append, List.mem_replicate, List.mem_singleton] at member
    rcases member with ⟨_, rfl⟩ | inSeconds | rfl
    · decide
    · have isNumber := numberChar_of_pointDigit c (pointDigit_of_mem seconds c inSeconds)
      exact padding_of_numberChar isNumber
    · decide
  have line : elapsedLine width seconds =
      (List.replicate width ' ' ++ (seconds.text ++ [' '])) ++ secondsTimeElapsed := by
    simp [elapsedLine]
  rw [line]
  exact infix_blank_append_iff something first isPadding

/-- The label that is wanted for the elapsed time is not in a report. -/
theorem not_elapsedTime : ¬ Key.elapsedTime.label <:+: report.stderr := by
  rw [PerfReport.stderr, reportText, unlines, infix_unlines_iff (by decide) (by decide)]
  rintro ⟨line, member, inside⟩
  rcases List.mem_append.mp member with inRows | later
  · have elapsed : "elapsed".toList <:+: Key.elapsedTime.label := by decide
    exact report.plain line inRows (elapsed.trans inside)
  · rcases List.mem_cons.mp later with rfl | inFoot
    · rw [infix_elapsedLine_iff (by decide) (first_of_check (by decide))] at inside
      exact absurd inside (by decide)
    · rw [List.eq_of_mem_replicate inFoot] at inside
      exact absurd inside (by decide)

/-- What is extracted for a key. -/
def extracted (output : Text) (key : Key) : Option ℚ :=
  (search key.pattern output).bind fun groups => float ((groups 1).getD [])

/-- The loop over the patterns, when each number that is found can be read. A key that is listed
gets what its own search finds; where that finds nothing it keeps what it had. -/
theorem foldlM_extract {output : Text}
    (readable : ∀ (key : Key) after, search key.pattern output = some after →
      ∃ value, float ((after 1).getD []) = some value) (keys : List Key) (data : Dict) :
    ∃ result, keys.foldlM (extract output) data = some result ∧
      ∀ key, result key =
        if key ∈ keys then (extracted output key).or (data key) else data key := by
  induction keys generalizing data with
  | nil => exact ⟨data, rfl, by simp⟩
  | cons first rest inductionHypothesis =>
    rw [List.foldlM_cons, extract]
    cases found : search first.pattern output with
    | none =>
      obtain ⟨result, run, values⟩ := inductionHypothesis data
      refine ⟨result, run, fun key => ?_⟩
      rw [values key]
      by_cases same : key = first
      · subst same
        simp [extracted, found]
      · simp [same]
    | some after =>
      obtain ⟨value, read⟩ := readable first after found
      obtain ⟨result, run, values⟩ :=
        inductionHypothesis (Function.update data first (some value))
      refine ⟨result, by simpa [read] using run, fun key => ?_⟩
      rw [values key]
      by_cases same : key = first
      · subst same
        simp [extracted, found, read]
      · simp [same]

/-- Each number that is found in a report can be read. -/
theorem readable_report (key : Key) (after : Captured Char)
    (found : search key.pattern report.stderr = some after) :
    ∃ value, float ((after 1).getD []) = some value := by
  have labelled : Labelled pointDigit charSpace key.label report.stderr := by
    by_contra absent
    rw [Key.pattern, search_eq_none (consists_some1 pointDigit) absent] at found
    cases found
  cases key with
  | elapsedTime => exact absurd labelled (not_labelled_of_absent (not_elapsedTime report))
  | event event =>
    cases isPrinted : report.amounts event with
    | none =>
      exact absurd (labelled.weaken numberChar_of_pointDigit) (report.absent event isPrinted)
    | some amount =>
      obtain ⟨other, last, isFound, group, _⟩ := search_event report isPrinted
      obtain rfl := Option.some.inj (found.symm.trans isFound)
      rw [group]
      exact ⟨last.value, float_decimal last⟩

/-- What the first reader makes of a report. -/
theorem createJsonDump_report :
    ∃ data, createJsonDump report.stderr = some data ∧ data .elapsedTime = none ∧
      ∀ event amount, report.amounts event = some amount →
        (data (.event event) = some amount.value ↔ amount.value < 1000) := by
  obtain ⟨data, run, values⟩ := foldlM_extract (readable_report report) patterns fun _ => none
  have value : ∀ key, data key = extracted report.stderr key := by
    intro key
    have listed : key ∈ patterns := by
      cases key with
      | elapsedTime => decide
      | event event => cases event <;> decide
    rw [values key, if_pos listed, Option.or_none]
  refine ⟨data, run, ?_, fun event amount isPrinted => ?_⟩
  · have nothing : search Key.elapsedTime.pattern report.stderr = none :=
      search_eq_none (consists_some1 pointDigit) (not_labelled_of_absent (not_elapsedTime report))
    rw [value, extracted, nothing]
    rfl
  · obtain ⟨after, last, found, group, whole⟩ := search_event report isPrinted
    rw [value, extracted, found, Option.bind_some, group, Option.getD_some, float_decimal,
      Option.some_inj]
    exact whole

end Json

/-! ### The second reader -/

/-- Without a number in front of the label a line says nothing. -/
theorem reading_eq_old {β : Type} {label line : Text} {value : Regex Char} {number : Char → Bool}
    (consists : Consists number value) (absent : ¬ Labelled number charSpace label line)
    (convert : Text → Option β) (old : Option β) :
    reading label value convert old line = some old := by
  rw [reading, search_eq_none consists absent]
  split <;> rfl

/-- The usage of the CPUs can be read wherever it is found. -/
theorem exists_reading (label line : Text) (old : Option ℚ) :
    ∃ new, reading label decimalValue float old line = some new := by
  rw [reading]
  split
  · split
    case h_1 => exact ⟨old, rfl⟩
    case h_2 after found =>
      have noGroup : 1 ∉ (Library.Regexes.sequence [some1 charSpace, literal label]).numbers := by
        simp [Library.Regexes.sequence, some1, Regex.numbers, numbers_literal]
      obtain ⟨part, group, describes⟩ := search_group_sound noGroup found
      obtain ⟨value, read⟩ := exists_float describes
      rw [group, Option.getD_some, read]
      exact ⟨some value, rfl⟩
  · exact ⟨old, rfl⟩

/-- The first number in front of a label is read. -/
theorem reading_number {β : Type} {label front digits gap rest : Text} {number : Char → Bool}
    {value : Regex Char} (sound : Sound label) (consists : Consists number value) {first : Char}
    (begins : digits.head? = some first) (digit : isDigit 10 first = true)
    (blankFront : Blank charSpace front) (among : ∀ c, number c = true → numberChar c = true)
    (takes : ∀ groups, Takes value groups digits (gap ++ (label ++ rest)) groups)
    (blank : Blank charSpace gap) (nonempty : gap ≠ []) {convert : Text → Option β} {new : β}
    (read : convert digits = some new) (old : Option β) :
    reading label value convert old (front ++ (digits ++ (gap ++ (label ++ rest)))) =
      some (some new) := by
  have ends : ∀ c ∈ front.getLast?, number c = false := last_of_blank among blankFront
  have absent : ¬ Labelled number charSpace label front := by
    apply not_labelled_of_absent
    intro inside
    obtain ⟨c, others, isLabel⟩ := List.exists_cons_of_ne_nil sound.something
    have solid := charSpace_of_padding (sound.first c (by rw [isLabel]; rfl))
    rw [blankFront c (inside.subset (by simp [isLabel]))] at solid
    cases solid
  obtain ⟨after, found, group⟩ :=
    search_number sound consists begins digit ends absent takes blank nonempty
  have isThere : contains label (front ++ (digits ++ (gap ++ (label ++ rest)))) = true :=
    decide_eq_true ⟨front ++ (digits ++ gap), rest, by simp⟩
  rw [reading, if_pos isThere, found]
  simp [group, read]

/-- A decimal is taken by its expression. -/
theorem takes_decimalValue (number : Decimal) {rest : Text}
    (ends : ∀ c ∈ rest.head?, pointDigit c = false) (groups : Captured Char) :
    Takes decimalValue groups number.text rest groups := by
  have noDigit : ∀ c ∈ rest.head?, isDigit 10 c = false := fun c isFirst =>
    (Bool.or_eq_false_iff.mp (ends c isFirst)).1
  have noPoint : ∀ c ∈ rest.head?, decide (c = '.') = false := fun c isFirst =>
    (Bool.or_eq_false_iff.mp (ends c isFirst)).2
  rw [decimal_text_eq]
  cases fraction : number.fraction with
  | none =>
    have whole : Takes decimalValue groups (number.whole.digits ++ ([] ++ [])) rest groups :=
      .cons (.some1 number.whole.nonempty number.whole.allDigits (by simpa using noDigit))
        (.cons (.opt_none fun β next => run_one_eq_none (by simpa using noPoint) β next)
          (.single (.many (by simp) noDigit)))
    simpa [point] using whole
  | some digits =>
    have noDigitPoint : isDigit 10 '.' = false := by decide
    have whole : Takes decimalValue groups
        (number.whole.digits ++ (['.'] ++ digits.digits)) rest groups :=
      .cons (.some1 number.whole.nonempty number.whole.allDigits (by simp [noDigitPoint]))
        (.cons (.opt (.one (by decide))) (.single (.many digits.allDigits noDigit)))
    simpa [point] using whole

/-- A line that says nothing about the context switches and the elapsed time. -/
structure Quiet (line : Text) : Prop where
  noSwitches : ¬ Labelled numberChar charSpace Event.contextSwitches.label line
  noElapsed : ¬ secondsTimeElapsed <:+: line

/-- It changes the usage of the CPUs only. -/
theorem scanLine_quiet {line : Text} (quiet : Quiet line) (scan : PerfScan) :
    ∃ cpuUsage, scanLine scan line = some { scan with cpuUsage } := by
  obtain ⟨cpuUsage, usage⟩ := exists_reading cpusUtilized line scan.cpuUsage
  refine ⟨cpuUsage, ?_⟩
  have elapsed := reading_eq_old consists_decimalValue
    (not_labelled_of_absent quiet.noElapsed) float scan.execTime
  have switches := reading_eq_old (consists_some1 commaDigit)
    (fun inside => quiet.noSwitches (inside.weaken numberChar_of_commaDigit)) toInt
    scan.ctxSwitches
  simp [scanLine, usage, elapsed, switches]

/-- And so do such lines. -/
theorem foldlM_quiet {listed : List Text} (quiet : ∀ line ∈ listed, Quiet line) (scan : PerfScan) :
    ∃ cpuUsage, listed.foldlM scanLine scan = some { scan with cpuUsage } := by
  induction listed generalizing scan with
  | nil => exact ⟨scan.cpuUsage, rfl⟩
  | cons line rest inductionHypothesis =>
    obtain ⟨cpuUsage, step⟩ := scanLine_quiet (quiet line List.mem_cons_self) scan
    obtain ⟨last, run⟩ := inductionHypothesis
      (fun other member => quiet other (List.mem_cons_of_mem line member)) { scan with cpuUsage }
    exact ⟨last, by rw [List.foldlM_cons, step]; exact run⟩

section Scan

variable (report : PerfReport)

/-- The lines of a report. -/
theorem charLines_stderr :
    charLines report.stderr =
      report.rows ++ elapsedLine report.width report.seconds :: List.replicate report.foot [] := by
  apply lines_unlines (by decide) (by decide) (by decide)
  intro line member c inLine
  rcases List.mem_append.mp member with inRows | later
  · exact report.unbroken line inRows c inLine
  · rcases List.mem_cons.mp later with rfl | inFoot
    · simp only [elapsedLine, List.mem_append, List.mem_replicate, List.mem_singleton] at inLine
      rcases inLine with ⟨_, rfl⟩ | inSeconds | rfl | inLabel
      · decide
      · exact charBreak_of_solid ((decimal_isWord report.seconds).solid c inSeconds)
      · decide
      · have unbroken : ∀ d ∈ secondsTimeElapsed, charBreak d = false := none_of_check (by decide)
        exact unbroken c inLabel
    · rw [List.eq_of_mem_replicate inFoot] at inLine
      cases inLine

/-- A line is a part of lines with their line breaks. -/
theorem infix_unlines {line : Text} {listed : List Text} (member : line ∈ listed) :
    line <:+: unlines listed := by
  obtain ⟨before, after, rfl⟩ := List.append_of_mem member
  exact ⟨unlines before, '\n' :: unlines after, by simp [unlines]⟩

/-- No row says something about the elapsed time. -/
theorem noElapsed_row {row : Text} (member : row ∈ report.rows) :
    ¬ secondsTimeElapsed <:+: row := by
  have elapsed : "elapsed".toList <:+: secondsTimeElapsed := by decide
  exact fun inside => report.plain row member (elapsed.trans inside)

/-- The row about the context switches. Each line is searched for all three numbers, so the row must
not have the words about the elapsed time; what it may say of the usage is left open. -/
theorem scanLine_switches {amount : Amount} {indent gap rest : Text}
    (whole : amount.fraction = none) (blankIndent : Blank charSpace indent)
    (blankGap : Blank charSpace gap) (nonempty : gap ≠ [])
    (noElapsed : ¬ secondsTimeElapsed <:+:
      indent ++ (amount.text ++ (gap ++ (Event.contextSwitches.label ++ rest)))) (scan : PerfScan) :
    ∃ cpuUsage, scanLine scan
        (indent ++ (amount.text ++ (gap ++ (Event.contextSwitches.label ++ rest)))) =
      some { scan with cpuUsage, ctxSwitches := some amount.count.toNat } := by
  obtain ⟨cpuUsage, usage⟩ := exists_reading cpusUtilized
    (indent ++ (amount.text ++ (gap ++ (Event.contextSwitches.label ++ rest)))) scan.cpuUsage
  have text : amount.text = amount.count.text := by rw [Amount.text, whole, point, List.append_nil]
  obtain ⟨tail, begins⟩ := exists_grouped_eq amount.count
  obtain ⟨first, isFirst, digit⟩ := exists_first_digit amount.count.first tail
  have numbers : ∀ c ∈ amount.text, commaDigit c = true := by
    intro c member
    rw [text] at member
    rcases mem_grouped amount.count c member with isDigit | rfl
    · simp [commaDigit, isDigit]
    · decide
  have read : toInt amount.text = some (amount.count.toNat : Int) := by
    rw [toInt, text]
    exact int_grouped amount.count
  have elapsed := reading_eq_old consists_decimalValue (not_labelled_of_absent noElapsed) float
    scan.execTime
  have takes : ∀ groups, Takes (some1 commaDigit) groups amount.text
      (gap ++ (Event.contextSwitches.label ++ rest)) groups := fun groups =>
    Takes.some1 (amount_isWord amount).nonempty numbers
      (stops_of_blank numberChar_of_commaDigit (head_of_blank blankGap nonempty))
  have switches := reading_number (sound_label .contextSwitches) (consists_some1 commaDigit)
    (text ▸ begins ▸ isFirst) digit blankIndent numberChar_of_commaDigit takes blankGap nonempty
    read scan.ctxSwitches
  exact ⟨cpuUsage, by simp [scanLine, usage, elapsed, switches]⟩

/-- The line about the elapsed time. It has no label of an event, so the context switches stay what
they are; what it may say of the usage is left open. -/
theorem scanLine_elapsedLine (scan : PerfScan) :
    ∃ cpuUsage, scanLine scan (elapsedLine report.width report.seconds) =
      some { scan with cpuUsage, execTime := some report.seconds.value } := by
  obtain ⟨cpuUsage, usage⟩ := exists_reading cpusUtilized
    (elapsedLine report.width report.seconds) scan.cpuUsage
  obtain ⟨first, isFirst, digit⟩ := exists_first_of_decimal report.seconds
  have blankFront : Blank charSpace (List.replicate report.width ' ') := by
    intro c member
    rw [List.eq_of_mem_replicate member]
    decide
  have noSwitches : ¬ Event.contextSwitches.label <:+: elapsedLine report.width report.seconds := by
    rw [infix_elapsedLine_iff (by decide) (first_of_check (by decide))]
    decide
  have line : elapsedLine report.width report.seconds =
      List.replicate report.width ' ' ++
        (report.seconds.text ++ ([' '] ++ (secondsTimeElapsed ++ []))) := by
    rw [List.append_nil]
    rfl
  have takes : ∀ groups, Takes decimalValue groups report.seconds.text
      ([' '] ++ (secondsTimeElapsed ++ [])) groups :=
    takes_decimalValue report.seconds
      (stops_of_blank numberChar_of_pointDigit (head_of_blank blank_space (by simp)))
  have elapsed := reading_number sound_secondsTimeElapsed consists_decimalValue
    isFirst digit blankFront numberChar_of_pointDigit takes blank_space (by simp)
    (float_decimal report.seconds) scan.execTime
  rw [← line] at elapsed
  have switches := reading_eq_old (consists_some1 commaDigit) (not_labelled_of_absent noSwitches)
    toInt scan.ctxSwitches
  exact ⟨cpuUsage, by simp [scanLine, usage, elapsed, switches]⟩

/-- The rows of a report set no time, and the number of context switches if they print it. The rows
above and below the one that prints it are quiet, so it is read once. -/
theorem foldlM_rows (scan : PerfScan) (fresh : scan.ctxSwitches = none) :
    ∃ result, report.rows.foldlM scanLine scan = some result ∧ result.execTime = scan.execTime ∧
      result.ctxSwitches.map (fun (n : Int) => (n : ℚ)) = report.value .contextSwitches := by
  cases isPrinted : report.amounts .contextSwitches with
  | none =>
    have quiet : ∀ row ∈ report.rows, Quiet row := by
      intro row member
      refine ⟨fun inside => ?_, noElapsed_row report member⟩
      exact report.absent .contextSwitches isPrinted
        (inside.mono (infix_unlines (List.mem_append_left _ member)))
    obtain ⟨cpuUsage, run⟩ := foldlM_quiet quiet scan
    refine ⟨_, run, rfl, ?_⟩
    rw [PerfReport.value, isPrinted, fresh]
    rfl
  | some amount =>
    obtain ⟨before, indent, gap, rest, after, rows, blankIndent, blankGap, nonempty, above,
      below⟩ := report.printed .contextSwitches amount isPrinted
    have whole := report.whole .contextSwitches amount isPrinted (by decide)
    have inRows : ∀ row ∈ before ++ (indent ++ (amount.text ++ (gap ++
        (Event.contextSwitches.label ++ rest)))) :: after, ¬ secondsTimeElapsed <:+: row :=
      fun row member => noElapsed_row report (by rw [rows]; exact member)
    have quietBefore : ∀ row ∈ before, Quiet row := fun row member =>
      ⟨fun inside => above (inside.mono (infix_unlines member)),
        inRows row (List.mem_append_left _ member)⟩
    have quietAfter : ∀ row ∈ after, Quiet row := fun row member =>
      ⟨below row member, inRows row (List.mem_append_right _ (List.mem_cons_of_mem _ member))⟩
    obtain ⟨first, runBefore⟩ := foldlM_quiet quietBefore scan
    obtain ⟨second, step⟩ := scanLine_switches whole blankIndent blankGap nonempty
      (inRows _ (List.mem_append_right _ List.mem_cons_self)) { scan with cpuUsage := first }
    obtain ⟨third, runAfter⟩ := foldlM_quiet quietAfter
      { scan with cpuUsage := second, ctxSwitches := some amount.count.toNat }
    refine ⟨{ scan with cpuUsage := third, ctxSwitches := some amount.count.toNat }, ?_, rfl, ?_⟩
    · rw [rows, List.foldlM_append, runBefore]
      simp only [Option.bind_eq_bind, Option.bind_some]
      rw [List.foldlM_cons, step]
      exact runAfter
    · have value : amount.value = amount.count.toNat := by
        rw [Amount.value, Decimal.value, Decimal.part, Amount.decimal, whole, toNat_numeral,
          add_zero]
      rw [PerfReport.value, isPrinted, Option.map_some, Option.map_some, value]
      rfl

/-- What the second reader makes of a report. -/
theorem scanStderr_report :
    ∃ scan, scanStderr report.stderr = some scan ∧
      scan.ctxSwitches.map (fun (n : Int) => (n : ℚ)) = report.value .contextSwitches ∧
      scan.execTime = some report.seconds.value := by
  obtain ⟨scan, run, _, switches⟩ :=
    foldlM_rows report { cpuUsage := none, execTime := none, ctxSwitches := none } rfl
  obtain ⟨cpuUsage, step⟩ := scanLine_elapsedLine report scan
  have empty : ∀ line ∈ List.replicate report.foot [], Quiet line := by
    intro line member
    rw [List.eq_of_mem_replicate member]
    exact ⟨not_labelled_of_absent (by decide), by decide⟩
  obtain ⟨last, runFoot⟩ := foldlM_quiet empty
    { scan with cpuUsage, execTime := some report.seconds.value }
  refine ⟨{ scan with cpuUsage := last, execTime := some report.seconds.value }, ?_, switches, rfl⟩
  rw [scanStderr, charLines_stderr, List.foldlM_append, run]
  simp only [Option.bind_eq_bind, Option.bind_some]
  rw [List.foldlM_cons, step]
  exact runFoot

end Scan

/-! ### The law -/

/-- The two readers agree on no report, since the first one never finds the elapsed time. The second
one reads what is printed, and the first one reads an amount exactly when it is less than 1000. -/
theorem readers_disagree (report : PerfReport) :
    ¬ Agree report ∧
      ∃ data scan, createJsonDump report.stderr = some data ∧
        scanStderr report.stderr = some scan ∧
        scan.ctxSwitches.map (fun (n : Int) => (n : ℚ)) = report.value .contextSwitches ∧
        scan.execTime = some report.seconds.value ∧ data .elapsedTime = none ∧
        ∀ event amount, report.amounts event = some amount →
          (data (.event event) = some amount.value ↔ amount.value < 1000) := by
  obtain ⟨data, dumped, nothing, counts⟩ := createJsonDump_report report
  obtain ⟨scan, scanned, switches, elapsed⟩ := scanStderr_report report
  refine ⟨?_, data, scan, dumped, scanned, switches, elapsed, nothing, counts⟩
  rintro ⟨other, _, dumpedOther, _, _, _, time, _⟩
  obtain rfl := Option.some.inj (dumped.symm.trans dumpedOther)
  rw [nothing] at time
  cases time

/-- A report with one row. -/
def oneRow : PerfReport where
  rows := ["1,234 context-switches".toList]
  amounts
    | .contextSwitches => some
      { count := {
          first := ofNat 1
          groups := [ofNat 234]
          short := by decide
          three := by simp; decide
          leading := fun _ => by decide }
        fraction := none }
    | _ => none
  width := 1
  seconds := { whole := ofNat 2, fraction := some (ofNat 5) }
  foot := 0
  printed := by
    intro event amount isPrinted
    cases event
    case contextSwitches =>
      obtain rfl := Option.some.inj isPrinted
      have above : ¬ Labelled numberChar charSpace Event.contextSwitches.label (unlines []) :=
        not_labelled_of_absent (by decide)
      exact ⟨[], [], [' '], [], [], by decide +kernel, by simp [Blank], blank_space, by simp, above,
        by simp⟩
    all_goals cases isPrinted
  absent := by
    intro event isAbsent
    apply not_labelled_of_absent
    cases event
    case contextSwitches => cases isAbsent
    all_goals decide +kernel
  whole := by
    intro event amount isPrinted _
    cases event
    case contextSwitches =>
      obtain rfl := Option.some.inj isPrinted
      rfl
    all_goals cases isPrinted
  plain := by decide +kernel
  unbroken := by
    intro row member
    rw [List.mem_singleton.mp member]
    exact none_of_check (by decide)

/-- The first reader has no elapsed time for it. -/
theorem not_agree_oneRow : ¬ Agree oneRow := by
  have nothing : (createJsonDump oneRow.stderr).map (fun data => data .elapsedTime) =
      some none := by decide +kernel
  rintro ⟨data, _, dumped, _, _, _, time, _⟩
  rw [dumped, Option.map_some, time] at nothing
  cases nothing

end AvocadoMisc.Ebizzy.PerfReaders
