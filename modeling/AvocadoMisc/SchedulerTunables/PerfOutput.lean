import Mathlib.Data.List.Find
import AvocadoMisc.Library.NumberTexts
import AvocadoMisc.Library.Writes

/-!
# What is read from the output of perf

`_parse_perf_output` of `scheduler_tunables_test.py` looks at each line for the names of the events,
one after the other, and reads the numbers by their places among the words. The number of
instructions per cycle is wanted in front of a later word with the name of the event, and perf
prints none there. The metrics are exact numbers.
-/

namespace AvocadoMisc.SchedulerTunables.PerfOutput

open Library.Text Library.Parts Library.Numerals Library.NumberTexts Library.Writes

/-- A character string. -/
abbrev Text := List Char

/-! ### The parser -/

/-- The keys of `metrics`. -/
inductive Metric where
  | contextSwitches | csPerSecond | cpuMigrations | migrationsPerSecond | pageFaults | taskClockMs
  | cpusUtilized | branchMisses | branchMissRate | branches | cpuCycles | instructions
  | insnPerCycle | timeElapsed
  deriving DecidableEq

/-- `metrics`. -/
abbrev Metrics := Metric → ℚ

/-- What `metrics` begins with. -/
def zero : Metrics := fun _ => 0

/-- What the lines are tested for. -/
inductive Event where
  | contextSwitches | cpuMigrations | pageFaults | taskClock | branch | cpuCycles | instructions
  | elapsed
  deriving DecidableEq

/-- The text that is looked for. -/
def Event.name : Event → Text
  | .contextSwitches => "context-switches".toList
  | .cpuMigrations => "cpu-migrations".toList
  | .pageFaults => "page-faults".toList
  | .taskClock => "task-clock".toList
  | .branch => "branch".toList
  | .cpuCycles => "cpu-cycles".toList
  | .instructions => "instructions".toList
  | .elapsed => "seconds time elapsed".toList

/-- The order of the tests. -/
def chain : List Event :=
  [.contextSwitches, .cpuMigrations, .pageFaults, .taskClock, .branch, .cpuCycles, .instructions,
    .elapsed]

/-- `_parse_perf_rate`. -/
def parsePerfRate (rateStr : Text) : ℚ := (float rateStr).getD 0

/-- `replace(',', '')`. -/
def withoutCommas (text : Text) : Text := text.filter (· ≠ ',')

/-- `int` of the first part without its commas. There is no result where an exception is raised. -/
def firstInt (parts : List Text) : Option Int := do
  let first ← parts.head?
  int (withoutCommas first)

/-- Each part behind the first one, with the part in front of it. -/
def pairs (parts : List Text) : List (Text × Text) := parts.zip parts.tail

/-- `/sec`. -/
def perSec : Text := ['/', 's', 'e', 'c']

/-- The loop that looks for a rate. -/
def readRate (metric : Metric) (parts : List Text) (metrics : Metrics) : Metrics :=
  (pairs parts).foldl (fun stored pair =>
    if contains perSec pair.2 then Function.update stored metric (parsePerfRate pair.1)
    else stored) metrics

/-- The body of the loop that looks for the usage of the CPUs. -/
def readCpus (metrics : Metrics) (pair : Text × Text) : Option Metrics :=
  if contains ['C', 'P', 'U', 's'] pair.2 then
    (float pair.1).map fun (value : ℚ) => Function.update metrics .cpusUtilized value
  else some metrics

/-- The body of the loop that looks for the rate of the branch misses. -/
def readMissRate (metrics : Metrics) (part : Text) : Option Metrics :=
  if '%' ∈ part then
    (float (part.filter (· ≠ '%'))).map fun (value : ℚ) =>
      Function.update metrics .branchMissRate value
  else some metrics

/-- The body of the loop that looks for the instructions per cycle. -/
def readInsnPerCycle (metrics : Metrics) (pair : Text × Text) : Metrics :=
  if contains Event.instructions.name pair.2 then
    match float pair.1 with
    | some value => Function.update metrics .insnPerCycle value
    | none => metrics
  else metrics

/-- The branch for the metrics about branches. The first part must be digits without its commas, and
the second one decides between the misses and the branches. -/
def parseBranch (metrics : Metrics) (parts : List Text) : Option Metrics :=
  match parts with
  | first :: eventName :: _ =>
    let digits := withoutCommas first
    if digits ≠ [] ∧ digits.all (isDigit 10) = true then do
      let count ← int digits
      if eventName = "branch-misses".toList then
        parts.foldlM readMissRate (Function.update metrics .branchMisses (count : ℚ))
      else if eventName = "branches".toList then
        some (Function.update metrics .branches (count : ℚ))
      else some metrics
    else some metrics
  | _ => some metrics

/-- The body of the loop over the lines. The first test that a line passes decides what is read of
it; there is no result where an exception is raised. -/
def parseLine (metrics : Metrics) (text : Text) : Option Metrics :=
  let line := strip charSpace text
  let parts := words charSpace line
  match chain.find? fun event => contains event.name line with
  | some .contextSwitches => do
    let count ← firstInt parts
    some (readRate .csPerSecond parts (Function.update metrics .contextSwitches (count : ℚ)))
  | some .cpuMigrations => do
    let count ← firstInt parts
    some (readRate .migrationsPerSecond parts (Function.update metrics .cpuMigrations (count : ℚ)))
  | some .pageFaults => do
    let count ← firstInt parts
    some (Function.update metrics .pageFaults (count : ℚ))
  | some .taskClock => do
    let first ← parts.head?
    let time ← float (withoutCommas first)
    (pairs parts).foldlM readCpus (Function.update metrics .taskClockMs time)
  | some .branch => parseBranch metrics parts
  | some .cpuCycles => do
    let count ← firstInt parts
    some (Function.update metrics .cpuCycles (count : ℚ))
  | some .instructions => do
    let count ← firstInt parts
    some ((pairs parts.tail).foldl readInsnPerCycle
      (Function.update metrics .instructions (count : ℚ)))
  | some .elapsed => do
    let first ← parts.head?
    let time ← float first
    some (Function.update metrics .timeElapsed time)
  | none => some metrics

/-- `_parse_perf_output`. -/
def parsePerfOutput (perfOutput : Text) : Option Metrics :=
  (perfOutput.splitOn '\n').foldlM parseLine zero

/-! ### Reports -/

/-- The events whose description is a rate. -/
inductive Rated where
  | contextSwitches | cpuMigrations | pageFaults | branches
  deriving DecidableEq

/-- How such an event is called. -/
def Rated.name : Rated → Text
  | .contextSwitches => Event.contextSwitches.name
  | .cpuMigrations => Event.cpuMigrations.name
  | .pageFaults => Event.pageFaults.name
  | .branches => "branches".toList

/-- The units of a rate. -/
inductive RateUnit where
  | one | kilo | mega | giga
  deriving DecidableEq

/-- How a unit is written. -/
def RateUnit.text : RateUnit → Text
  | .one => perSec
  | .kilo => 'K' :: perSec
  | .mega => 'M' :: perSec
  | .giga => 'G' :: perSec

/-- A line of a report: one of the events with its numbers, the elapsed time, or any other line. -/
inductive Row where
  | rated (event : Rated) (count : Grouped) (rate : Decimal) (unit : RateUnit)
  | taskClock (time : Amount) (msec : Bool) (cpus : Decimal)
  | branchMisses (count : Grouped) (percent : Decimal)
  | cpuCycles (count : Grouped) (ghz : Decimal)
  | instructions (count : Grouped) (perCycle : Decimal)
  | elapsed (seconds : Decimal)
  | other

/-- The parts of a line. -/
def Row.parts : Row → List Text
  | .rated event count rate unit => [count.text, event.name, ['#'], rate.text, unit.text]
  | .taskClock time msec cpus =>
    time.text :: (if msec then ["msec".toList] else []) ++
      [Event.taskClock.name, ['#'], cpus.text, "CPUs".toList, "utilized".toList]
  | .branchMisses count percent =>
    [count.text, "branch-misses".toList, ['#'], percent.text ++ ['%'], "of".toList, "all".toList,
      "branches".toList]
  | .cpuCycles count ghz => [count.text, Event.cpuCycles.name, ['#'], ghz.text, "GHz".toList]
  | .instructions count perCycle =>
    [count.text, Event.instructions.name, ['#'], perCycle.text, "insn".toList, "per".toList,
      "cycle".toList]
  | .elapsed seconds => [seconds.text, "seconds".toList, "time".toList, "elapsed".toList]
  | .other => []

/-- A line as it may be laid out. A line of another kind has none of the texts in it that are
looked for. -/
def Row.Shows (row : Row) (line : Text) : Prop :=
  match row with
  | .other => ∀ event : Event, ¬ event.name <:+: line
  | .elapsed _ => words charSpace line = row.parts ∧ Event.elapsed.name <:+: line
  | _ => words charSpace line = row.parts

/-- What a line prints, as the metrics with their values. It is stated by itself and not by what the
parser reads. -/
def Row.printed : Row → List (Metric × ℚ)
  | .rated .contextSwitches count rate _ =>
    [(.contextSwitches, count.toNat), (.csPerSecond, rate.value)]
  | .rated .cpuMigrations count rate _ =>
    [(.cpuMigrations, count.toNat), (.migrationsPerSecond, rate.value)]
  | .rated .pageFaults count _ _ => [(.pageFaults, count.toNat)]
  | .rated .branches count _ _ => [(.branches, count.toNat)]
  | .taskClock time _ cpus => [(.taskClockMs, time.value), (.cpusUtilized, cpus.value)]
  | .branchMisses count percent =>
    [(.branchMisses, count.toNat), (.branchMissRate, percent.value)]
  | .cpuCycles count _ => [(.cpuCycles, count.toNat)]
  | .instructions count perCycle =>
    [(.instructions, count.toNat), (.insnPerCycle, perCycle.value)]
  | .elapsed seconds => [(.timeElapsed, seconds.value)]
  | .other => []

/-- A report, whose lines are in any order. No metric is printed twice. -/
structure Report where
  perfOutput : Text
  rows : List Row
  lines : List.Forall₂ Row.Shows rows (perfOutput.splitOn '\n')
  distinct : ((rows.flatMap Row.printed).map Prod.fst).Nodup

section Law

variable (report : Report)

/-- Each metric is what is printed for it. Where nothing is printed, it is zero. -/
def Returns (metrics : Metrics) : Prop :=
  (∀ row ∈ report.rows, ∀ write ∈ row.printed, metrics write.1 = write.2) ∧
    ∀ metric, (∀ row ∈ report.rows, ∀ write ∈ row.printed, write.1 ≠ metric) → metrics metric = 0

/-- A line changes no metric that it does not print. -/
def KeepsOthers : Prop :=
  ∀ row ∈ report.rows, ∀ line, row.Shows line → ∀ metrics, ∃ next,
    parseLine metrics line = some next ∧
      ∀ metric, (∀ write ∈ row.printed, write.1 ≠ metric) → next metric = metrics metric

/-- The parser reads a report: it returns the metrics that are printed, and a line changes none that
it does not print. -/
def Reads : Prop :=
  (∃ metrics, parsePerfOutput report.perfOutput = some metrics ∧ Returns report metrics) ∧
    KeepsOthers report

end Law

/-! ### The tests -/

/-- The characters of a number. -/
def numberChar (c : Char) : Bool := isDigit 10 c || [',', '.', '%'].contains c

/-- A name has another character. -/
theorem not_contains_number {name part : Text} (number : ∀ c ∈ part, numberChar c = true)
    (other : (name.any fun c => !numberChar c) = true) : contains name part = false := by
  obtain ⟨c, inName, noNumber⟩ := List.any_eq_true.mp other
  apply decide_eq_false
  intro inside
  rw [number c (inside.subset inName)] at noNumber
  cases noNumber

/-- A count is a number. -/
theorem number_grouped (count : Grouped) : ∀ c ∈ count.text, numberChar c = true := by
  intro c member
  rcases mem_grouped count c member with digit | rfl
  · simp [numberChar, digit]
  · decide

/-- So is a decimal. -/
theorem number_decimal (number : Decimal) : ∀ c ∈ number.text, numberChar c = true := by
  intro c member
  rcases mem_decimal number member with digit | rfl
  · simp [numberChar, digit]
  · decide

/-- And so is an amount. -/
theorem number_amount (amount : Amount) : ∀ c ∈ amount.text, numberChar c = true := by
  intro c member
  rcases mem_amount amount member with digit | rfl | rfl
  · simp [numberChar, digit]
  · decide
  · decide

/-- And so is a decimal with a percent sign. -/
theorem number_percent (number : Decimal) : ∀ c ∈ number.text ++ ['%'], numberChar c = true := by
  intro c member
  rcases List.mem_append.mp member with inNumber | isPercent
  · exact number_decimal number c inNumber
  · rw [List.mem_singleton.mp isPercent]
    decide

/-- The tests that look for one word. -/
def nameTests : List Event :=
  [.contextSwitches, .cpuMigrations, .pageFaults, .taskClock, .branch, .cpuCycles, .instructions]

/-- They look for a word that is no number. -/
theorem isWord_name {event : Event} (member : event ∈ nameTests) :
    IsWord charSpace event.name ∧ (event.name.any fun c => !numberChar c) = true := by
  cases event
  case elapsed => exact absurd member (by decide)
  all_goals exact ⟨isWord_of_check (by decide) (by decide), by decide⟩

/-- A word is looked for in the parts. -/
theorem contains_strip {name line : Text} (isWord : IsWord charSpace name) :
    contains name (strip charSpace line) = (words charSpace line).any (contains name) := by
  rw [Bool.eq_iff_iff, contains, decide_eq_true_eq, infix_words_iff isWord, words_strip,
    List.any_eq_true]
  simp [contains]

/-- The parts of a line that are no numbers. -/
def Row.fixed : Row → List Text
  | .rated event _ _ unit => [event.name, ['#'], unit.text]
  | .taskClock _ msec _ =>
    (if msec then ["msec".toList] else []) ++
      [Event.taskClock.name, ['#'], "CPUs".toList, "utilized".toList]
  | .branchMisses _ _ =>
    ["branch-misses".toList, ['#'], "of".toList, "all".toList, "branches".toList]
  | .cpuCycles _ _ => [Event.cpuCycles.name, ['#'], "GHz".toList]
  | .instructions _ _ =>
    [Event.instructions.name, ['#'], "insn".toList, "per".toList, "cycle".toList]
  | .elapsed _ => ["seconds".toList, "time".toList, "elapsed".toList]
  | .other => []

/-- A name is in one of them. -/
theorem any_parts (row : Row) {name : Text} (other : (name.any fun c => !numberChar c) = true) :
    row.parts.any (contains name) = row.fixed.any (contains name) := by
  have grouped (count : Grouped) := not_contains_number (number_grouped count) other
  have decimal (number : Decimal) := not_contains_number (number_decimal number) other
  have amount (time : Amount) := not_contains_number (number_amount time) other
  have percent (number : Decimal) := not_contains_number (number_percent number) other
  cases row with
  | rated event count rate unit => simp [Row.parts, Row.fixed, grouped, decimal]
  | taskClock time msec cpus => simp [Row.parts, Row.fixed, amount, decimal]
  | branchMisses count percent' => simp [Row.parts, Row.fixed, grouped, percent]
  | cpuCycles count ghz => simp [Row.parts, Row.fixed, grouped, decimal]
  | instructions count perCycle => simp [Row.parts, Row.fixed, grouped, decimal]
  | elapsed seconds => simp [Row.parts, Row.fixed, decimal]
  | other => rfl

/-- What a line is taken for. -/
def Row.event : Row → Option Event
  | .rated .contextSwitches _ _ _ => some .contextSwitches
  | .rated .cpuMigrations _ _ _ => some .cpuMigrations
  | .rated .pageFaults _ _ _ => some .pageFaults
  | .rated .branches _ _ _ => some .branch
  | .taskClock _ _ _ => some .taskClock
  | .branchMisses _ _ => some .branch
  | .cpuCycles _ _ => some .cpuCycles
  | .instructions _ _ => some .instructions
  | .elapsed _ => some .elapsed
  | .other => none

/-- An event that a name stands for. -/
def named : Option Event → Option Event
  | some .elapsed => none
  | event => event

/-- The first name in the fixed parts. -/
theorem find_fixed (row : Row) :
    (nameTests.find? fun event => row.fixed.any (contains event.name)) =
      named row.event := by
  cases row with
  | rated event count rate unit =>
    cases event <;> cases unit <;> simp only [Row.fixed, Row.event] <;> decide
  | taskClock time msec cpus =>
    simp only [Row.fixed, Row.event]
    cases msec <;> decide
  | branchMisses count percent | cpuCycles count ghz | instructions count perCycle
  | elapsed seconds | other =>
    simp only [Row.fixed, Row.event]
    decide

/-- The stripped line is a part of the line. -/
theorem stripped_part (line : Text) : strip charSpace line <:+: line := by
  obtain ⟨front, back, _, _, whole⟩ := exists_strip charSpace line
  exact ⟨front, back, by rw [List.append_assoc]; exact whole.symm⟩

/-- The elapsed time is looked for in a text that is trimmed. -/
theorem trimmed_elapsed : Trimmed charSpace Event.elapsed.name :=
  ⟨by decide, first_of_check (by decide), first_of_check (by decide)⟩

/-- The tests that look for a word find out what a line with the parts of a row is. -/
theorem find_nameTests {row : Row} {line : Text} (split : words charSpace line = row.parts) :
    (nameTests.find? fun event => contains event.name (strip charSpace line)) =
      named row.event := by
  rw [← find_fixed row]
  apply List.find?_congr
  intro event member
  obtain ⟨isWord, other⟩ := isWord_name member
  rw [contains_strip isWord, split, any_parts row other]

/-- The tests find out what a line is. They look for names in the whole line and in a fixed order,
so it is checked that no row has a name that is looked for earlier. -/
theorem find_chain {row : Row} {line : Text} (shows : row.Shows line) :
    (chain.find? fun event => contains event.name (strip charSpace line)) = row.event := by
  have chain_eq : chain = nameTests ++ [.elapsed] := rfl
  have other_eq : ∀ {event : Event}, row.event = some event → named row.event = some event →
      words charSpace line = row.parts →
      (chain.find? fun event => contains event.name (strip charSpace line)) = row.event := by
    intro event isEvent isNamed split
    rw [chain_eq, List.find?_append, find_nameTests split, isNamed, isEvent, Option.some_or]
  cases row with
  | rated event count rate unit => cases event <;> exact other_eq rfl rfl shows
  | taskClock time msec cpus => exact other_eq rfl rfl shows
  | branchMisses count percent => exact other_eq rfl rfl shows
  | cpuCycles count ghz => exact other_eq rfl rfl shows
  | instructions count perCycle => exact other_eq rfl rfl shows
  | elapsed seconds =>
    have inside : contains Event.elapsed.name (strip charSpace line) = true :=
      decide_eq_true (trimmed_elapsed.infix_strip_iff.mpr shows.2)
    rw [chain_eq, List.find?_append, find_nameTests shows.1, Row.event, named, Option.none_or]
    simp [inside]
  | other =>
    apply List.find?_eq_none.mpr
    intro event _ inside
    exact shows event ((of_decide_eq_true inside).trans (stripped_part line))

/-! ### The numbers -/

/-- The first part of a line is a count. -/
theorem firstInt_count (count : Grouped) (rest : List Text) :
    firstInt (count.text :: rest) = some (count.toNat : Int) := by
  rw [firstInt, List.head?_cons]
  exact int_grouped count

/-- A word without a slash is no unit of a rate. -/
theorem not_perSec {part : Text} (absent : '/' ∉ part) : contains perSec part = false := by
  apply decide_eq_false
  exact fun inside => absent (inside.subset (by decide))

/-- A number has no slash. -/
theorem not_slash {part : Text} (number : ∀ c ∈ part, numberChar c = true) : '/' ∉ part := by
  intro member
  exact absurd (number '/' member) (by decide)

/-- The rate is read in front of its unit. -/
theorem readRate_parts (metric : Metric) {first name : Text} (rate : Decimal) (unit : RateUnit)
    (noSlash : '/' ∉ name) (metrics : Metrics) :
    readRate metric [first, name, ['#'], rate.text, unit.text] metrics =
      Function.update metrics metric rate.value := by
  have inUnit : contains perSec unit.text = true := by cases unit <;> decide
  have inName : contains perSec name = false := not_perSec noSlash
  have inHash : contains perSec ['#'] = false := by decide
  have inRate : contains perSec rate.text = false :=
    not_perSec (not_slash (number_decimal rate))
  simp [readRate, pairs, inUnit, inName, inHash, inRate, parsePerfRate, float_decimal]

/-- The usage of the CPUs is read in front of its unit. -/
theorem foldlM_readCpus (time : Amount) (msec : Bool) (cpus : Decimal) (metrics : Metrics) :
    (pairs (Row.taskClock time msec cpus).parts).foldlM readCpus metrics =
      some (Function.update metrics .cpusUtilized cpus.value) := by
  have inCpus : contains ['C', 'P', 'U', 's'] "CPUs".toList = true := by decide
  have inOther : ∀ part ∈ ["msec".toList, Event.taskClock.name, ['#'], "utilized".toList],
      contains ['C', 'P', 'U', 's'] part = false := by decide
  have inValue : contains ['C', 'P', 'U', 's'] cpus.text = false :=
    not_contains_number (number_decimal cpus) (by decide)
  simp only [List.forall_mem_cons] at inOther
  obtain ⟨inMsec, inName, inHash, inUtilized, _⟩ := inOther
  cases msec <;>
    simp only [Row.parts, pairs, Bool.false_eq_true, if_false, if_true, List.nil_append,
      List.cons_append, List.tail_cons, List.zip_cons_cons, List.zip_nil_right, List.foldlM_cons,
      List.foldlM_nil, readCpus, inCpus, inMsec, inName, inHash, inUtilized, inValue,
      float_decimal, Option.map_some, Option.bind_eq_bind, Option.bind_some, Option.pure_def]

/-- The rate of the branch misses is read where the percent sign is. No other part of the line has
one, so the loop writes the rate once. -/
theorem foldlM_readMissRate (count : Grouped) (percent : Decimal) (metrics : Metrics) :
    (Row.branchMisses count percent).parts.foldlM readMissRate metrics =
      some (Function.update metrics .branchMissRate percent.value) := by
  have inCount : '%' ∉ count.text := by
    intro member
    rcases mem_grouped count '%' member with digit | comma
    · exact absurd digit (by decide)
    · exact absurd comma (by decide)
  have inPercent : ∀ c ∈ percent.text, decide (c ≠ '%') = true := by
    intro c member
    rcases mem_decimal percent member with digit | rfl
    · exact decide_eq_true (ne_of_digit digit (by decide))
    · decide
  have filtered : (percent.text ++ ['%']).filter (· ≠ '%') = percent.text := by
    rw [List.filter_append, List.filter_eq_self.mpr inPercent]
    simp
  have inOther : ∀ part ∈ ["branch-misses".toList, ['#'], "of".toList, "all".toList,
      "branches".toList], '%' ∉ part := by decide
  simp only [List.forall_mem_cons] at inOther
  obtain ⟨inName, inHash, inOf, inAll, inBranches, _⟩ := inOther
  simp only [Row.parts, List.foldlM_cons, List.foldlM_nil, readMissRate, inCount, inName, inHash,
    inOf, inAll, inBranches, if_false, Option.bind_eq_bind, Option.bind_some, filtered,
    float_decimal, Option.map_some]
  simp

/-- No part behind the name of the event has the name in it. -/
theorem foldl_readInsnPerCycle (count : Grouped) (perCycle : Decimal) (metrics : Metrics) :
    (pairs (Row.instructions count perCycle).parts.tail).foldl readInsnPerCycle metrics =
      metrics := by
  have inOther : ∀ part ∈ [['#'], "insn".toList, "per".toList, "cycle".toList],
      contains Event.instructions.name part = false := by decide
  have inValue : contains Event.instructions.name perCycle.text = false :=
    not_contains_number (number_decimal perCycle) (by decide)
  simp only [List.forall_mem_cons] at inOther
  obtain ⟨inHash, inInsn, inPer, inCycle, _⟩ := inOther
  simp only [Row.parts, pairs, List.tail_cons, List.zip_cons_cons, List.zip_nil_right,
    List.foldl_cons, List.foldl_nil, readInsnPerCycle, inHash, inInsn, inPer, inCycle, inValue,
    Bool.false_eq_true, if_false]

/-- A count is some digits without its commas. -/
theorem isdigit_count (count : Grouped) :
    withoutCommas count.text ≠ [] ∧ (withoutCommas count.text).all (isDigit 10) = true :=
  ⟨count.numeral.nonempty, List.all_eq_true.mpr count.numeral.allDigits⟩

/-- The branch for the metrics about branches, on a line with a count. -/
theorem parseBranch_count (count : Grouped) (eventName : Text) (rest : List Text)
    (metrics : Metrics) :
    parseBranch metrics (count.text :: eventName :: rest) =
      if eventName = "branch-misses".toList then
        (count.text :: eventName :: rest).foldlM readMissRate
          (Function.update metrics .branchMisses (count.toNat : ℚ))
      else if eventName = "branches".toList then
        some (Function.update metrics .branches (count.toNat : ℚ))
      else some metrics := by
  have isCount : int (withoutCommas count.text) = some (count.toNat : Int) := int_grouped count
  rw [parseBranch]
  simp only [if_pos (isdigit_count count), isCount, Option.bind_eq_bind, Option.bind_some,
    Int.cast_natCast]

/-! ### The lines -/

/-- What the loop body writes for a line. -/
def Row.written : Row → List (Metric × ℚ)
  | .instructions count _ => [(.instructions, count.toNat)]
  | row => row.printed

/-- The loop body writes the metrics of a line with a count and a rate. The rate is read for the
context switches and the migrations only, and the branches have a branch of their own. -/
theorem parseLine_rated {event : Rated} {count : Grouped} {rate : Decimal} {unit : RateUnit}
    {line : Text} (shows : (Row.rated event count rate unit).Shows line) (metrics : Metrics) :
    parseLine metrics line =
      some (writeAll metrics (Row.rated event count rate unit).written) := by
  have split : words charSpace line = (Row.rated event count rate unit).parts := shows
  rw [parseLine, find_chain shows, words_strip]
  cases event with
  | contextSwitches | cpuMigrations =>
    simp only [Row.event, split, Row.parts, firstInt_count, Option.bind_eq_bind, Option.bind_some]
    rw [readRate_parts _ rate unit (by decide)]
    rfl
  | pageFaults =>
    simp only [Row.event, split, Row.parts, firstInt_count, Option.bind_eq_bind, Option.bind_some]
    rfl
  | branches =>
    have notMisses : Rated.branches.name ≠ "branch-misses".toList := by decide
    have isBranches : Rated.branches.name = "branches".toList := rfl
    have read := parseBranch_count count Rated.branches.name [['#'], rate.text, unit.text] metrics
    rw [if_neg notMisses, if_pos isBranches] at read
    rw [split]
    exact read

/-- The loop body writes the metrics of its line, and no others. The cases are the kinds of rows; a
line of no known event leaves all metrics as they are. -/
theorem parseLine_row {row : Row} {line : Text} (shows : row.Shows line) (metrics : Metrics) :
    parseLine metrics line = some (writeAll metrics row.written) := by
  cases row with
  | rated event count rate unit => exact parseLine_rated shows metrics
  | taskClock time msec cpus =>
    rw [parseLine, find_chain shows, words_strip]
    have split : words charSpace line = (Row.taskClock time msec cpus).parts := shows
    have isTime : float (withoutCommas time.text) = some time.value := float_amount time
    have head : (Row.taskClock time msec cpus).parts.head? = some time.text := rfl
    simp only [Row.event, split, head, isTime, foldlM_readCpus, Option.bind_eq_bind,
      Option.bind_some]
    rfl
  | branchMisses count percent =>
    rw [parseLine, find_chain shows, words_strip]
    have split : words charSpace line = (Row.branchMisses count percent).parts := shows
    have rate := foldlM_readMissRate count percent
      (Function.update metrics .branchMisses (count.toNat : ℚ))
    simp only [Row.parts] at rate
    simp only [Row.event, split, Row.parts, parseBranch_count, if_true, rate]
    rfl
  | cpuCycles count ghz =>
    rw [parseLine, find_chain shows, words_strip]
    have split : words charSpace line = (Row.cpuCycles count ghz).parts := shows
    simp only [Row.event, split, Row.parts, firstInt_count, Option.bind_eq_bind, Option.bind_some]
    rfl
  | instructions count perCycle =>
    rw [parseLine, find_chain shows, words_strip]
    have split : words charSpace line = (Row.instructions count perCycle).parts := shows
    have isCount : firstInt (Row.instructions count perCycle).parts = some (count.toNat : Int) :=
      firstInt_count count _
    simp only [Row.event, split, isCount, foldl_readInsnPerCycle, Option.bind_eq_bind,
      Option.bind_some]
    rfl
  | elapsed seconds =>
    rw [parseLine, find_chain shows, words_strip]
    simp only [Row.event, shows.1, Row.parts, List.head?_cons, float_decimal, Option.bind_eq_bind,
      Option.bind_some]
    rfl
  | other =>
    rw [parseLine, find_chain shows]
    rfl

/-! ### The report -/

/-- The loop over the lines. -/
theorem foldlM_rows {rows : List Row} {lines : List Text}
    (shown : List.Forall₂ Row.Shows rows lines) (metrics : Metrics) :
    lines.foldlM parseLine metrics = some (writeAll metrics (rows.flatMap Row.written)) := by
  induction shown generalizing metrics with
  | nil => rfl
  | cons shows _ inductionHypothesis =>
    rw [List.foldlM_cons, parseLine_row shows, List.flatMap_cons, writeAll_append]
    exact inductionHypothesis _

/-- What is written is printed. -/
theorem written_sublist (row : Row) : row.written.Sublist row.printed := by
  cases row
  case instructions => exact List.Sublist.cons_cons _ (List.nil_sublist _)
  all_goals exact List.Sublist.refl _

/-- What is printed is written, apart from the instructions per cycle. -/
theorem written_or {row : Row} {write : Metric × ℚ} (member : write ∈ row.printed) :
    write ∈ row.written ∨ ∃ count perCycle, row = .instructions count perCycle ∧
      write = (.insnPerCycle, perCycle.value) := by
  cases row
  case instructions count perCycle =>
    rcases List.mem_pair.mp member with rfl | rfl
    · exact Or.inl List.mem_cons_self
    · exact Or.inr ⟨count, perCycle, rfl, rfl⟩
  all_goals exact Or.inl member

/-- No line writes the instructions per cycle. -/
theorem insnPerCycle_unwritten (row : Row) : ∀ write ∈ row.written, write.1 ≠ .insnPerCycle := by
  cases row with
  | rated event count rate unit => cases event <;> simp [Row.written, Row.printed]
  | _ => simp [Row.written, Row.printed]

/-- A metric that is not written keeps its value. -/
theorem writeAll_unwritten {writes : List (Metric × ℚ)} {metric : Metric}
    (absent : ∀ write ∈ writes, write.1 ≠ metric) (metrics : Metrics) :
    writeAll metrics writes metric = metrics metric := by
  have none : valuesOf metric writes = [] := by
    rw [valuesOf, List.map_eq_nil_iff, List.filter_eq_nil_iff]
    intro write member same
    exact absent write member (of_decide_eq_true same)
  rw [writeAll_apply, none, List.getLastD_nil]

/-- A metric that is written once has the value that is written. -/
theorem writeAll_written {writes : List (Metric × ℚ)} (distinct : (writes.map Prod.fst).Nodup)
    {write : Metric × ℚ} (member : write ∈ writes) (metrics : Metrics) :
    writeAll metrics writes write.1 = write.2 := by
  have one := valuesOf_of_distinct distinct Prod.snd member
  have same : (writes.map fun other => (other.1, other.2)) = writes :=
    List.map_id'' (fun _ => rfl) writes
  rw [same] at one
  rw [writeAll_apply, one]
  rfl

section Report

variable (report : Report)

/-- The writes of the loop. -/
def writes : List (Metric × ℚ) := report.rows.flatMap Row.written

/-- The parser returns what the loop writes. -/
theorem parsePerfOutput_eq :
    parsePerfOutput report.perfOutput = some (writeAll zero (writes report)) :=
  foldlM_rows report.lines zero

/-- Nothing is written twice. -/
theorem distinct_writes : ((writes report).map Prod.fst).Nodup := by
  have sublist : (writes report).Sublist (report.rows.flatMap Row.printed) := by
    unfold writes
    induction report.rows with
    | nil => exact List.Sublist.refl _
    | cons row rest inductionHypothesis =>
      rw [List.flatMap_cons, List.flatMap_cons]
      exact (written_sublist row).append inductionHypothesis
  exact report.distinct.sublist (sublist.map Prod.fst)

/-- Each line keeps the metrics of the other lines. -/
theorem keepsOthers : KeepsOthers report := by
  intro row _ line shows metrics
  refine ⟨_, parseLine_row shows metrics, fun metric absent => ?_⟩
  apply writeAll_unwritten
  exact fun write member => absent write ((written_sublist row).subset member)

/-- The parser reads a report exactly when there are no instructions per cycle in it, or none but
zero.

The lines are in any order with any others between them, and any of them may be missing, but no
metric is printed twice. The metrics are exact numbers.

Proof: each line writes its own metric and no other. The number of instructions per cycle is looked
for in front of a word that perf does not print there. -/
theorem parsePerfOutput_reads_iff :
    Reads report ↔ ∀ count perCycle, Row.instructions count perCycle ∈ report.rows →
      perCycle.value = 0 := by
  have unwritten : writeAll zero (writes report) .insnPerCycle = 0 := by
    apply writeAll_unwritten
    intro write member
    obtain ⟨row, _, inRow⟩ := List.mem_flatMap.mp member
    exact insnPerCycle_unwritten row write inRow
  constructor
  · rintro ⟨⟨metrics, parsed, printed, _⟩, _⟩ count perCycle member
    obtain rfl := Option.some.inj ((parsePerfOutput_eq report).symm.trans parsed)
    have value := printed _ member (.insnPerCycle, perCycle.value) (by simp [Row.printed])
    exact value.symm.trans unwritten
  · intro nothing
    refine ⟨⟨_, parsePerfOutput_eq report, ?_, ?_⟩, keepsOthers report⟩
    · intro row member write inRow
      rcases written_or inRow with isWritten | ⟨count, perCycle, rfl, rfl⟩
      · exact writeAll_written (distinct_writes report)
          (List.mem_flatMap.mpr ⟨row, member, isWritten⟩) zero
      · rw [nothing count perCycle member]
        exact unwritten
    · intro metric absent
      apply writeAll_unwritten
      intro write member
      obtain ⟨row, inRows, inRow⟩ := List.mem_flatMap.mp member
      exact absent row inRows write ((written_sublist row).subset inRow)

end Report

/-- A report with two thousand instructions, two in each cycle. -/
def twoPerCycle : Report where
  perfOutput := "2,000 instructions # 2 insn per cycle".toList
  rows := [.instructions
    { first := ofNat 2
      groups := [⟨['0', '0', '0'], by decide, forall_of_check (by decide)⟩]
      short := by decide
      three := by simp
      leading := fun _ => by decide }
    { whole := ofNat 2, fraction := none }]
  lines := by
    have one : "2,000 instructions # 2 insn per cycle".toList.splitOn '\n' =
        ["2,000 instructions # 2 insn per cycle".toList] := by decide +kernel
    rw [one]
    apply List.Forall₂.cons _ .nil
    show words charSpace "2,000 instructions # 2 insn per cycle".toList = _
    decide +kernel
  distinct := by decide

/-- Its instructions per cycle are lost. -/
theorem not_reads_twoPerCycle : ¬ Reads twoPerCycle := by
  have lost : (parsePerfOutput twoPerCycle.perfOutput).map (fun metrics => metrics .insnPerCycle) =
      some 0 := by decide +kernel
  rintro ⟨⟨metrics, parsed, printed, _⟩, _⟩
  have value := printed _ List.mem_cons_self (.insnPerCycle, 2) (by decide +kernel)
  rw [parsed, Option.map_some, value] at lost
  exact absurd lost (by decide +kernel)

end AvocadoMisc.SchedulerTunables.PerfOutput
