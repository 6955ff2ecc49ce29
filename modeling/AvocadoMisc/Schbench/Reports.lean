import AvocadoMisc.Kselftest.Failures
import AvocadoMisc.Library.Regexes
import AvocadoMisc.Library.Text

/-!
# The reports of schbench

`parse_schbench_data` of `schbench.py` looks for the last line with the header of the wakeup
latencies and reads the lines from there on. A line with the header of a category makes it the
current one, and the lines after it are added to that category. A run of schbench prints a report
after each interval, and the results are those of the last report.

`float` is a parameter.
-/

namespace AvocadoMisc.Schbench.Reports

open Library.Regexes
open Library.Text (charSpace strip contains Blank blank_space blank_spaces dropWhile_blank
  forall_of_check mem_strip)
open Kselftest.Failures (digit Number)

universe u

/-- A text. -/
abbrev Text := List Char

/-! ### The parser -/

/-- The categories, in the order in which a line is searched for them. -/
inductive Category where
  | wakeupLatencies
  | requestLatencies
  | rps
  deriving DecidableEq

/-- The header of a category. -/
def Category.name : Category → Text
  | .wakeupLatencies => "Wakeup Latencies percentiles".toList
  | .requestLatencies => "Request Latencies percentiles".toList
  | .rps => "RPS percentiles (requests)".toList

/-- The first category whose header is in a line. -/
def categoryOf (line : Text) : Option Category :=
  [Category.wakeupLatencies, .requestLatencies, .rps].find? fun category =>
    contains category.name line

/-- A percentile with its value and the number of samples. -/
structure Percentile where
  key : Text
  latency : Text
  samples : Text
  deriving DecidableEq

/-- The entry of a percentile. -/
def percentileOf (percentile latency samples : Text) : Percentile :=
  { key := "percentile_".toList ++ percentile, latency, samples }

/-- What is collected for a category. -/
structure Latencies where
  percentiles : List Percentile
  minMax : Option (Text × Text)
  deriving DecidableEq

/-- What is returned. -/
@[ext]
structure Results (α : Type u) where
  categories : Category → Option Latencies
  averageRps : Option α

/-- A number with a point. -/
def decimalPattern : Regex Char := sequence [some1 digit, literal ['.'], some1 digit]

/-- The pattern of a percentile. -/
def percentilePattern : Regex Char :=
  sequence [.many charSpace, .group 1 (.opt (.one (· == '*'))), .many charSpace,
    .group 2 decimalPattern, literal ['t', 'h', ':', ' '], .group 3 (some1 digit),
    some1 charSpace, literal ['('], .group 4 (some1 digit),
    literal [' ', 's', 'a', 'm', 'p', 'l', 'e', 's', ')']]

/-- The pattern of the extreme values. -/
def minMaxPattern : Regex Char :=
  sequence [.many charSpace, literal ['m', 'i', 'n', '='], .group 1 (some1 digit),
    literal [',', ' ', 'm', 'a', 'x', '='], .group 2 (some1 digit)]

/-- What stands in front of the average. -/
def averageRps : Text := ['a', 'v', 'e', 'r', 'a', 'g', 'e', ' ', 'r', 'p', 's', ':']

/-- The pattern of the average. -/
def averagePattern : Regex Char :=
  sequence [literal (averageRps ++ [' ']), .group 1 decimalPattern]

/-- The state of the loop. -/
structure State (α : Type u) where
  currentCategory : Option Category
  results : Results α

/-- Nothing was found. -/
def State.start (α : Type u) : State α := ⟨none, fun _ => none, none⟩

/-- A change of what is collected for the current category. -/
def State.modify {α : Type u} (state : State α) (change : Latencies → Latencies) : State α :=
  match state.currentCategory with
  | none => state
  | some category =>
    { state with results := { state.results with
        categories := Function.update state.results.categories category
          ((state.results.categories category).map change) } }

/-- A header in the line makes its category the current one. -/
def State.enter {α : Type u} (state : State α) (line : Text) : State α :=
  match categoryOf line with
  | none => state
  | some category =>
    { currentCategory := some category
      results := { state.results with
        categories := Function.update state.results.categories category
          (some ((state.results.categories category).getD ⟨[], none⟩)) } }

variable {α : Type u} (float : Text → α)

/-- The values in the line are put into the results. The patterns are tried in order, and a line
that only has the words of a pattern changes nothing. -/
def State.read (state : State α) (line : Text) : State α :=
  match matchStart percentilePattern line with
  | some groups =>
    state.modify fun latencies =>
      { latencies with percentiles := latencies.percentiles ++
          [percentileOf ((groups 2).getD []) ((groups 3).getD []) ((groups 4).getD [])] }
  | none =>
    if contains ['m', 'i', 'n', '='] line then
      match matchStart minMaxPattern line with
      | some groups =>
        state.modify fun latencies =>
          { latencies with minMax := some ((groups 1).getD [], (groups 2).getD []) }
      | none => state
    else if contains averageRps line then
      match matchStart averagePattern line with
      | some groups =>
        { state with results := { state.results with
            averageRps := some (float ((groups 1).getD [])) } }
      | none => state
    else state

/-- One line. -/
def State.line (state : State α) (line : Text) : State α :=
  let state := state.enter line
  if state.currentCategory.isSome && strip charSpace line != [] then state.read float line
  else state

/-- The index of the last line with the header of the wakeup latencies. -/
def lastOccurrenceIndex (data : List Text) : Option Nat :=
  data.zipIdx.foldl (fun last entry =>
    if contains Category.wakeupLatencies.name entry.1 then some entry.2 else last) none

/-- `parse_schbench_data`. -/
def parseSchbenchData (data : List Text) : Results α :=
  match lastOccurrenceIndex data with
  | none => (State.start α).results
  | some index => ((data.drop index).foldl (State.line float) (.start α)).results

/-! ### The reports -/

/-- A line with the header of one category. -/
structure Header (category : Category) where
  tail : Text
  only : ∀ other : Category, other.name <:+: category.name ++ tail → other = category

/-- The line of a header. -/
def Header.text {category : Category} (header : Header category) : Text :=
  category.name ++ header.tail

/-- A number with a point in it. -/
structure Decimal where
  whole : Text
  frac : Text
  wholeNumber : Number whole
  fracNumber : Number frac

/-- A number with a point as it is printed. -/
def Decimal.text (number : Decimal) : Text := number.whole ++ (['.'] ++ number.frac)

/-- A line with a percentile: perhaps a star, the percentile, its latency and its samples, with
white space of any length in between. -/
structure PercentileLine where
  indent : Text
  starred : Bool
  gap : Text
  percentile : Decimal
  latency : Text
  space : Text
  samples : Text
  blankIndent : Blank charSpace indent
  blankGap : Blank charSpace gap
  latencyNumber : Number latency
  blankSpace : Blank charSpace space
  apart : space ≠ []
  samplesNumber : Number samples

/-- What is printed after the mark of a percentile. -/
def PercentileLine.values (line : PercentileLine) : Text :=
  line.percentile.text ++ (['t', 'h', ':', ' '] ++ (line.latency ++ (line.space ++ (['('] ++
    (line.samples ++ [' ', 's', 'a', 'm', 'p', 'l', 'e', 's', ')'])))))

/-- The line of a percentile. -/
def PercentileLine.text (line : PercentileLine) : Text :=
  line.indent ++ ((if line.starred then ['*'] else []) ++ (line.gap ++ line.values))

/-- What is to be kept of a percentile. -/
def PercentileLine.entry (line : PercentileLine) : Percentile :=
  percentileOf line.percentile.text line.latency line.samples

/-- The line with the extreme values. -/
structure MinMaxLine where
  indent : Text
  min : Text
  max : Text
  blankIndent : Blank charSpace indent
  minNumber : Number min
  maxNumber : Number max

/-- The line of the extreme values. -/
def MinMaxLine.text (line : MinMaxLine) : Text :=
  line.indent ++ (['m', 'i', 'n', '='] ++
    (line.min ++ ([',', ' ', 'm', 'a', 'x', '='] ++ line.max)))

/-- The line of the average. -/
def averageLine (average : Decimal) : Text := averageRps ++ [' '] ++ average.text

/-- The part of a report for one category. -/
structure Block (category : Category) where
  header : Header category
  percentiles : List PercentileLine
  minMax : MinMaxLine

/-- The lines of a part. -/
def Block.lines {category : Category} (block : Block category) : List Text :=
  block.header.text :: (block.percentiles.map PercentileLine.text ++ [block.minMax.text])

/-- What a part has for its category. -/
def Block.latencies {category : Category} (block : Block category) : Latencies :=
  { percentiles := block.percentiles.map PercentileLine.entry
    minMax := some (block.minMax.min, block.minMax.max) }

/-- A report: a block of lines for each category, and the average where one is printed. -/
structure Report where
  block : ∀ category, Block category
  average : Option Decimal

/-- The lines of a report. -/
def Report.lines (report : Report) : List Text :=
  (report.block .wakeupLatencies).lines ++ ((report.block .requestLatencies).lines ++
    ((report.block .rps).lines ++ (report.average.map averageLine).toList))

/-- What a report says. -/
def Report.results (report : Report) : Results α :=
  { categories := fun category => some (report.block category).latencies
    averageRps := report.average.map fun average => float average.text }

/-! ### The characters of a line -/

/-- White space is no digit. -/
theorem digit_of_space {c : Char} (white : charSpace c = true) : digit c = false := by
  have apart : ∀ code ∈ [0x9, 0xA, 0xB, 0xC, 0xD, 0x1C, 0x1D, 0x1E, 0x1F, 0x20, 0x85, 0xA0, 0x1680,
      0x2000, 0x2001, 0x2002, 0x2003, 0x2004, 0x2005, 0x2006, 0x2007, 0x2008, 0x2009, 0x200A,
      0x2028, 0x2029, 0x202F, 0x205F, 0x3000], (Kselftest.Failures.zeros.any fun first =>
        decide (first ≤ code) && decide (code < first + 10)) = false := by decide +kernel
  rw [charSpace, List.contains_iff_mem] at white
  exact apart c.toNat white

/-- A digit is no white space. -/
theorem space_of_digit {c : Char} (isDigit : digit c = true) : charSpace c = false := by
  by_contra white
  rw [digit_of_space (eq_true_of_ne_false white)] at isDigit
  cases isDigit

/-- A character that is neither a digit nor white space is not in a text of these. -/
theorem ne_of_digit {c other : Char} (isDigit : digit c = true) (noDigit : digit other = false) :
    c ≠ other := by
  rintro rfl
  rw [isDigit] at noDigit
  cases noDigit

/-- What does not start with a symbol of a class. -/
theorem not_first {test : Char → Bool} {front rest : Text} (something : front ≠ [])
    (none : ∀ c ∈ front, test c = false) : ∀ c ∈ (front ++ rest).head?, test c = false := by
  obtain ⟨c, others, rfl⟩ := List.exists_cons_of_ne_nil something
  simpa using none c (by simp)

/-! ### The lines match their patterns -/

/-- A number is taken. -/
theorem takes_number {groups : Captured Char} {number rest : Text} (isNumber : Number number)
    (ends : ∀ c ∈ rest.head?, digit c = false) :
    Takes (some1 digit) groups number rest groups :=
  .some1 isNumber.1 isNumber.2 ends

/-- A number with a point is taken. -/
theorem takes_decimal {groups : Captured Char} {rest : Text} (number : Decimal)
    (ends : ∀ c ∈ rest.head?, digit c = false) :
    Takes decimalPattern groups number.text rest groups :=
  .cons (takes_number number.wholeNumber (by simp; decide))
    (.cons (.literal ['.']) (.single (takes_number number.fracNumber ends)))

/-- The first character of a number. -/
theorem digit_first {number rest : Text} (isNumber : Number number) :
    ∃ c ∈ (number ++ rest).head?, digit c = true := by
  obtain ⟨something, all⟩ := isNumber
  obtain ⟨c, others, rfl⟩ := List.exists_cons_of_ne_nil something
  exact ⟨c, rfl, all c (by simp)⟩

/-- The values of a percentile start with a digit. -/
theorem PercentileLine.values_first (line : PercentileLine) :
    ∃ c ∈ line.values.head?, digit c = true := by
  rw [PercentileLine.values, Decimal.text, List.append_assoc]
  exact digit_first line.percentile.wholeNumber

/-- The mark of a percentile is taken. -/
theorem PercentileLine.takes_values (line : PercentileLine) (groups : Captured Char) :
    ∃ after, Takes (sequence [.group 2 decimalPattern, literal ['t', 'h', ':', ' '],
        .group 3 (some1 digit), some1 charSpace, literal ['('], .group 4 (some1 digit),
        literal [' ', 's', 'a', 'm', 'p', 'l', 'e', 's', ')']]) groups line.values [] after ∧
      after 2 = some line.percentile.text ∧ after 3 = some line.latency ∧
      after 4 = some line.samples := by
  have spaceFirst : ∀ rest, ∀ c ∈ (line.space ++ rest).head?, digit c = false := fun rest =>
    not_first line.apart fun c member => digit_of_space (line.blankSpace c member)
  refine ⟨_, .cons (.group (takes_decimal line.percentile (by simp; decide)))
    (.cons (.literal ['t', 'h', ':', ' '])
    (.cons (.group (takes_number line.latencyNumber ?_))
    (.cons (.some1 line.apart line.blankSpace (by simp; decide))
    (.cons (.literal ['('])
    (.cons (.group (takes_number line.samplesNumber (by simp; decide)))
    (.single (.literal _))))))), ?_, ?_, ?_⟩
  · rw [List.append_nil]
    exact spaceFirst _
  · simp
  · simp
  · simp

/-- The line of a percentile matches its pattern, and the groups are the percentile, the latency and
the samples. The star in front of it may be there or not. -/
theorem PercentileLine.matches (line : PercentileLine) :
    ∃ groups, matchStart percentilePattern line.text = some groups ∧
      groups 2 = some line.percentile.text ∧ groups 3 = some line.latency ∧
      groups 4 = some line.samples := by
  obtain ⟨first, isFirst, isDigit⟩ := line.values_first
  have solid : ∀ c ∈ line.values.head?, charSpace c = false := by
    intro c isHead
    obtain rfl := Option.some.inj (isHead.symm.trans isFirst)
    exact space_of_digit isDigit
  have unstarred : ∀ c ∈ line.values.head?, (c == '*') = false := by
    intro c isHead
    obtain rfl := Option.some.inj (isHead.symm.trans isFirst)
    exact beq_false_of_ne (ne_of_digit isDigit (by decide))
  obtain ⟨groups, taken, values⟩ := line.takes_values
    (Function.update (fun _ => none) 1 (some (if line.starred then ['*'] else [])))
  refine ⟨groups, ?_, values⟩
  rw [PercentileLine.text]
  cases starred : line.starred with
  | true =>
    rw [starred] at taken
    have whole : Takes percentilePattern (fun _ => none)
        (line.indent ++ (['*'] ++ (line.gap ++ line.values))) [] groups :=
      .cons (.many line.blankIndent (by simp; decide))
        (.cons (.group (.opt (.one rfl)))
          (.cons (.many line.blankGap (by simpa using solid)) taken))
    simpa using whole.matchStart
  | false =>
    -- without a star the first item takes all of the white space
    rw [starred] at taken
    have blank : Blank charSpace (line.indent ++ line.gap) := fun c member =>
      (List.mem_append.mp member).elim (line.blankIndent c) (line.blankGap c)
    have whole : Takes percentilePattern (fun _ => none)
        ((line.indent ++ line.gap) ++ ([] ++ ([] ++ line.values))) [] groups :=
      .cons (.many blank (by simpa using solid))
        (.cons (.group (.opt_none fun β next => run_one_eq_none (by simpa using unstarred) β next))
          (.cons (.many (by simp) (by simpa using solid)) taken))
    simpa using whole.matchStart

/-- What matches the pattern of a percentile has a star or a digit first. -/
theorem first_of_percentile {text : Text} {groups : Captured Char}
    (matched : matchStart percentilePattern text = some groups) :
    ∃ c ∈ (text.dropWhile charSpace).head?, c = '*' ∨ digit c = true := by
  obtain ⟨_, rest, rfl, indent, _, rfl, blank, star, _, rfl, starred, gap, _, rfl, blankGap, number,
    _, rfl, ⟨_, _, rfl, ⟨_, _, rfl, ⟨c, rfl, isDigit⟩, -⟩, -⟩, -⟩ := matchStart_sound matched
  have notBlank : charSpace c = false := space_of_digit isDigit
  simp only [List.append_assoc]
  rw [dropWhile_blank blank]
  rcases starred with ⟨other, rfl, isStar⟩ | rfl
  · obtain rfl : other = '*' := by simpa using isStar
    have starSolid : charSpace '*' = false := by decide
    exact ⟨'*', by simp [starSolid], Or.inl rfl⟩
  · rw [List.nil_append, dropWhile_blank blankGap]
    exact ⟨c, by simp [notBlank], Or.inr isDigit⟩

/-- A text whose first character is neither is none of a percentile. -/
theorem percentile_eq_none {text : Text} {c : Char}
    (first : (text.dropWhile charSpace).head? = some c) (noStar : c ≠ '*')
    (noDigit : digit c = false) : matchStart percentilePattern text = none := by
  cases matched : matchStart percentilePattern text with
  | none => rfl
  | some groups =>
    obtain ⟨other, isFirst, kind⟩ := first_of_percentile matched
    obtain rfl := Option.some.inj (isFirst.symm.trans first)
    rcases kind with star | isDigit
    · exact absurd star noStar
    · rw [noDigit] at isDigit
      cases isDigit

/-- A text whose first character is no `m` is none of the extreme values. -/
theorem minMax_eq_none {text : Text} {c : Char}
    (first : (text.dropWhile charSpace).head? = some c) (noM : c ≠ 'm') :
    matchStart minMaxPattern text = none := by
  cases matched : matchStart minMaxPattern text with
  | none => rfl
  | some groups =>
    obtain ⟨_, rest, rfl, indent, _, rfl, blank, _, _, rfl, ⟨_, _, rfl, ⟨other, rfl, isM⟩, -⟩,
      -⟩ := matchStart_sound matched
    obtain rfl : other = 'm' := by simpa using isM
    have mSolid : charSpace 'm' = false := by decide
    rw [List.append_assoc, dropWhile_blank blank] at first
    simp only [List.append_assoc, List.cons_append, List.nil_append, List.dropWhile_cons, mSolid,
      Bool.false_eq_true, if_false, List.head?_cons, Option.some.injEq] at first
    exact absurd first.symm noM

/-- A text that does not begin with an `a` is none of the average. -/
theorem average_eq_none {text : Text} {c : Char} (first : text.head? = some c) (noA : c ≠ 'a') :
    matchStart averagePattern text = none := by
  cases matched : matchStart averagePattern text with
  | none => rfl
  | some groups =>
    obtain ⟨_, rest, rfl, _, _, rfl, ⟨_, _, rfl, ⟨other, rfl, isA⟩, -⟩, -⟩ :=
      matchStart_sound matched
    obtain rfl : other = 'a' := by simpa using isA
    exact absurd (Option.some.inj first).symm noA

/-- The line of the extreme values matches its pattern. -/
theorem MinMaxLine.matches (line : MinMaxLine) :
    ∃ groups, matchStart minMaxPattern line.text = some groups ∧ groups 1 = some line.min ∧
      groups 2 = some line.max := by
  have whole : Takes minMaxPattern (fun _ => none) line.text [] _ :=
    .cons (.many line.blankIndent (by simp; decide))
      (.cons (.literal _)
      (.cons (.group (takes_number line.minNumber (by simp; decide)))
      (.cons (.literal _) (.single (.group (takes_number line.maxNumber (by simp)))))))
  refine ⟨_, by simpa using whole.matchStart, ?_, ?_⟩
  · simp
  · simp

/-- The line of the average matches its pattern. -/
theorem averageLine_matches (average : Decimal) :
    ∃ groups, matchStart averagePattern (averageLine average) = some groups ∧
      groups 1 = some average.text := by
  have whole : Takes averagePattern (fun _ => none) (averageLine average) [] _ :=
    .cons (.literal _) (.single (.group (takes_decimal average (by simp))))
  exact ⟨_, by simpa using whole.matchStart, by simp⟩

/-! ### The headers of the categories -/

/-- The header in a line of one category. -/
theorem categoryOf_header {category : Category} (header : Header category) :
    categoryOf header.text = some category := by
  have iff : ∀ other : Category, contains other.name header.text = true ↔ other = category := by
    intro other
    rw [contains, decide_eq_true_eq]
    refine ⟨header.only other, ?_⟩
    rintro rfl
    exact (List.prefix_append _ _).isInfix
  have test : ∀ other : Category, contains other.name header.text = decide (other = category) :=
    fun other => Bool.eq_iff_iff.mpr (by rw [iff, decide_eq_true_eq])
  unfold categoryOf
  simp only [test]
  cases category <;> decide

/-- The names have a capital letter that the other lines do not have. -/
theorem capital_name (category : Category) : 'W' ∈ category.name ∨ 'R' ∈ category.name := by
  cases category <;> decide +kernel

/-- There is no header in a line without these letters. -/
theorem categoryOf_plain {line : Text} (plain : ∀ c ∈ line, c ≠ 'W' ∧ c ≠ 'R') :
    categoryOf line = none := by
  rw [categoryOf, List.find?_eq_none]
  intro category _ part
  rw [contains, decide_eq_true_eq] at part
  rcases capital_name category with member | member
  · exact (plain 'W' (part.subset member)).1 rfl
  · exact (plain 'R' (part.subset member)).2 rfl

/-- A character of the lines that are no headers. -/
def Plain (c : Char) : Prop := c ≠ 'W' ∧ c ≠ 'R'

/-- White space is plain. -/
theorem plain_of_space {c : Char} (white : charSpace c = true) : Plain c := by
  constructor
  · rintro rfl
    exact absurd white (by decide)
  · rintro rfl
    exact absurd white (by decide)

/-- A number is plain. -/
theorem plain_of_number {number : Text} (isNumber : Number number) : ∀ c ∈ number, Plain c :=
  fun c member => ⟨ne_of_digit (isNumber.2 c member) (by decide),
    ne_of_digit (isNumber.2 c member) (by decide)⟩

/-- A number with a point is plain. -/
theorem plain_of_decimal (number : Decimal) : ∀ c ∈ number.text, Plain c := by
  rw [Decimal.text]
  simp only [List.forall_mem_append]
  exact ⟨plain_of_number number.wholeNumber, by simp [Plain], plain_of_number number.fracNumber⟩

/-- The line of a percentile is plain. -/
theorem PercentileLine.plain (line : PercentileLine) : ∀ c ∈ line.text, Plain c := by
  rw [PercentileLine.text, PercentileLine.values]
  simp only [List.forall_mem_append]
  refine ⟨fun c member => plain_of_space (line.blankIndent c member), ?_,
    fun c member => plain_of_space (line.blankGap c member), plain_of_decimal line.percentile,
    by simp [Plain], plain_of_number line.latencyNumber,
    fun c member => plain_of_space (line.blankSpace c member), by simp [Plain],
    plain_of_number line.samplesNumber, by simp [Plain]⟩
  cases line.starred <;> simp [Plain]

/-- The line of the extreme values is plain. -/
theorem MinMaxLine.plain (line : MinMaxLine) : ∀ c ∈ line.text, Plain c := by
  rw [MinMaxLine.text]
  simp only [List.forall_mem_append]
  exact ⟨fun c member => plain_of_space (line.blankIndent c member), by simp [Plain],
    plain_of_number line.minNumber, by simp [Plain], plain_of_number line.maxNumber⟩

/-- The line of the average is plain. -/
theorem averageLine_plain (average : Decimal) : ∀ c ∈ averageLine average, Plain c := by
  rw [averageLine, averageRps]
  simp only [List.forall_mem_append]
  exact ⟨⟨by simp [Plain], by simp [Plain]⟩, plain_of_decimal average⟩

/-! ### The loop -/

/-- The state with a category that is the current one and has collected something. -/
def State.at (state : State α) (category : Category) (latencies : Latencies) : State α :=
  { currentCategory := some category
    results := { state.results with
      categories := Function.update state.results.categories category (some latencies) } }

/-- A change of what is collected. -/
theorem State.modify_at (state : State α) (category : Category) (latencies : Latencies)
    (change : Latencies → Latencies) :
    (state.at category latencies).modify change = state.at category (change latencies) := by
  simp [State.at, State.modify]

/-- A line without a header changes no category. -/
theorem State.enter_plain (state : State α) {line : Text} (plain : ∀ c ∈ line, Plain c) :
    state.enter line = state := by
  rw [State.enter, categoryOf_plain plain]

/-- A text with something in it is read. -/
theorem State.line_of_solid {state : State α} {line : Text} {c : Char} (member : c ∈ line)
    (solid : charSpace c = false) (current : (state.enter line).currentCategory.isSome = true) :
    state.line float line = (state.enter line).read float line := by
  have something : strip charSpace line ≠ [] := List.ne_nil_of_mem (mem_strip solid member)
  simp [State.line, current, something]

/-- A header begins with the first letter of its category. -/
theorem Header.first {category : Category} (header : Header category) :
    header.text.head? = some 'W' ∨ header.text.head? = some 'R' := by
  have initial : category.name.head? = some 'W' ∨ category.name.head? = some 'R' := by
    cases category <;> decide +kernel
  rw [Header.text, List.head?_append]
  rcases initial with isW | isR
  · exact Or.inl (by rw [isW]; rfl)
  · exact Or.inr (by rw [isR]; rfl)

/-- A header is no line with values. -/
theorem State.read_header (state : State α) {category : Category} (header : Header category) :
    state.read float header.text = state := by
  obtain ⟨c, first, solid, noStar, noDigit, noM, noA⟩ : ∃ c, header.text.head? = some c ∧
      charSpace c = false ∧ c ≠ '*' ∧ digit c = false ∧ c ≠ 'm' ∧ c ≠ 'a' := by
    rcases header.first with isW | isR
    · exact ⟨'W', isW, by decide⟩
    · exact ⟨'R', isR, by decide⟩
  have afterBlank : (header.text.dropWhile charSpace).head? = some c := by
    obtain ⟨others, split⟩ := List.head?_eq_some_iff.mp first
    simp [split, solid]
  rw [State.read, percentile_eq_none afterBlank noStar noDigit]
  simp only [minMax_eq_none afterBlank noM, average_eq_none first noA]
  split <;> [rfl; (split <;> rfl)]

/-- The header of a category that has nothing yet. -/
theorem State.line_header (state : State α) {category : Category} (header : Header category)
    (fresh : state.results.categories category = none) :
    state.line float header.text = state.at category ⟨[], none⟩ := by
  have entered : state.enter header.text = state.at category ⟨[], none⟩ := by
    simp only [State.enter, categoryOf_header, fresh, Option.getD_none, State.at]
  rw [State.line, entered, State.read_header]
  exact ite_self _

/-- The line of a percentile adds it to the current category. -/
theorem State.line_percentile (state : State α) (category : Category) (latencies : Latencies)
    (line : PercentileLine) :
    (state.at category latencies).line float line.text =
      state.at category { latencies with
        percentiles := latencies.percentiles ++ [line.entry] } := by
  obtain ⟨groups, matched, percentile, latency, samples⟩ := line.matches
  have entered := (state.at category latencies).enter_plain line.plain
  have member : 't' ∈ line.text := by simp [PercentileLine.text, PercentileLine.values]
  rw [State.line_of_solid float member (by decide) (by rw [entered]; rfl), entered, State.read,
    matched]
  simp only [percentile, latency, samples, Option.getD_some, State.modify_at, PercentileLine.entry]

/-- The line of the extreme values sets them. -/
theorem State.line_minMax (state : State α) (category : Category) (latencies : Latencies)
    (line : MinMaxLine) :
    (state.at category latencies).line float line.text =
      state.at category { latencies with minMax := some (line.min, line.max) } := by
  obtain ⟨groups, matched, min, max⟩ := line.matches
  have entered := (state.at category latencies).enter_plain line.plain
  have member : 'm' ∈ line.text := by simp [MinMaxLine.text]
  have mSolid : charSpace 'm' = false := by decide
  have noPercentile : matchStart percentilePattern line.text = none := by
    refine percentile_eq_none (c := 'm') ?_ (by decide) (by decide)
    rw [MinMaxLine.text, dropWhile_blank line.blankIndent]
    simp [mSolid]
  have part : contains ['m', 'i', 'n', '='] line.text = true := by
    rw [contains, decide_eq_true_eq]
    exact ⟨line.indent, line.min ++ ([',', ' ', 'm', 'a', 'x', '='] ++ line.max), by
      rw [MinMaxLine.text]; simp⟩
  rw [State.line_of_solid float member mSolid (by rw [entered]; rfl), entered, State.read,
    noPercentile]
  simp only [part, if_true, matched, min, max, Option.getD_some]
  rw [State.modify_at]

/-- The line of the average sets it, and leaves the category and its latencies as they are: the line
is no headline, has no percentile and has no `min=` in it. -/
theorem State.line_average (state : State α) (category : Category) (latencies : Latencies)
    (average : Decimal) :
    (state.at category latencies).line float (averageLine average) =
      { state.at category latencies with results := { (state.at category latencies).results with
        averageRps := some (float average.text) } } := by
  obtain ⟨groups, matched, value⟩ := averageLine_matches average
  have entered := (state.at category latencies).enter_plain (averageLine_plain average)
  have member : 'a' ∈ averageLine average := by simp [averageLine, averageRps]
  have aSolid : charSpace 'a' = false := by decide
  have noPercentile : matchStart percentilePattern (averageLine average) = none := by
    refine percentile_eq_none (c := 'a') ?_ (by decide) (by decide)
    simp [averageLine, averageRps, aSolid]
  have noMin : contains ['m', 'i', 'n', '='] (averageLine average) = false := by
    rw [contains, decide_eq_false_iff_not]
    intro part
    have equals : '=' ∈ averageLine average := part.subset (by simp)
    have noEquals : ∀ number : Text, Number number → '=' ∉ number := fun number isNumber member =>
      ne_of_digit (isNumber.2 '=' member) (by decide) rfl
    simp [averageLine, averageRps, Decimal.text, noEquals _ average.wholeNumber,
      noEquals _ average.fracNumber] at equals
  have part : contains averageRps (averageLine average) = true := by
    rw [contains, decide_eq_true_eq]
    exact ⟨[], [' '] ++ average.text, by simp [averageLine]⟩
  rw [State.line_of_solid float member aSolid (by rw [entered]; rfl), entered, State.read,
    noPercentile]
  simp only [noMin, Bool.false_eq_true, if_false, part, if_true, matched, value, Option.getD_some]

/-! ### A report -/

/-- The lines of percentiles are added in order. -/
theorem foldl_percentiles (state : State α) (category : Category) (latencies : Latencies)
    (lines : List PercentileLine) :
    (lines.map PercentileLine.text).foldl (State.line float) (state.at category latencies) =
      state.at category { latencies with
        percentiles := latencies.percentiles ++ lines.map PercentileLine.entry } := by
  induction lines generalizing latencies with
  | nil => simp
  | cons line rest inductionHypothesis =>
    rw [List.map_cons, List.foldl_cons, State.line_percentile, inductionHypothesis]
    simp

/-- The lines of a part put the part into the results. -/
theorem foldl_block (state : State α) {category : Category} (block : Block category)
    (fresh : state.results.categories category = none) :
    block.lines.foldl (State.line float) state = state.at category block.latencies := by
  rw [Block.lines, List.foldl_cons, State.line_header float state block.header fresh,
    List.foldl_append, foldl_percentiles, List.foldl_cons, State.line_minMax, List.foldl_nil]
  rfl

/-- The lines of a report give its results, block by block. The average comes last, so the category
is still that of the last block when it is read. -/
theorem foldl_report (report : Report) :
    (report.lines.foldl (State.line float) (.start α)).results = report.results float := by
  rw [Report.lines, List.foldl_append, List.foldl_append, List.foldl_append,
    foldl_block float (.start α) (report.block .wakeupLatencies) rfl,
    foldl_block float _ (report.block .requestLatencies) (by simp [State.at, State.start]),
    foldl_block float _ (report.block .rps) (by simp [State.at, State.start])]
  have categories : ∀ category : Category,
      ((((State.start α).at .wakeupLatencies (report.block .wakeupLatencies).latencies).at
        .requestLatencies (report.block .requestLatencies).latencies).at
        .rps (report.block .rps).latencies).results.categories category =
          some (report.block category).latencies := by
    intro category
    cases category <;> simp [State.at]
  cases printed : report.average with
  | none =>
    ext1
    · exact funext categories
    · simp [Report.results, printed, State.at, State.start]
  | some average =>
    rw [Option.map_some, Option.toList_some, List.foldl_cons, State.line_average, List.foldl_nil]
    ext1
    · exact funext categories
    · simp [Report.results, printed]

/-- A line without the header of the wakeup latencies. -/
def NoWakeup (line : Text) : Prop := contains Category.wakeupLatencies.name line = false

/-- A plain line has no header. -/
theorem noWakeup_of_plain {line : Text} (plain : ∀ c ∈ line, Plain c) : NoWakeup line := by
  rw [NoWakeup, contains, decide_eq_false_iff_not]
  intro part
  rcases capital_name .wakeupLatencies with member | member
  · exact (plain 'W' (part.subset member)).1 rfl
  · exact (plain 'R' (part.subset member)).2 rfl

/-- The lines of a part after its header are plain. -/
theorem Block.noWakeup_tail {category : Category} (block : Block category) :
    ∀ line ∈ block.percentiles.map PercentileLine.text ++ [block.minMax.text], NoWakeup line := by
  simp only [List.forall_mem_append, List.forall_mem_map, List.forall_mem_singleton]
  exact ⟨fun line _ => noWakeup_of_plain line.plain, noWakeup_of_plain block.minMax.plain⟩

/-- The other categories have no header of the wakeup latencies. -/
theorem Block.noWakeup {category : Category} (block : Block category)
    (other : category ≠ .wakeupLatencies) : ∀ line ∈ block.lines, NoWakeup line := by
  rw [Block.lines, List.forall_mem_cons]
  refine ⟨?_, block.noWakeup_tail⟩
  rw [NoWakeup, contains, decide_eq_false_iff_not]
  intro part
  exact other (block.header.only _ part).symm

/-- The first line of a report is its only one with the header of the wakeup latencies. -/
theorem Report.lines_split (report : Report) :
    ∃ header rest, report.lines = header :: rest ∧
      contains Category.wakeupLatencies.name header = true ∧ ∀ line ∈ rest, NoWakeup line := by
  refine ⟨(report.block .wakeupLatencies).header.text,
    ((report.block .wakeupLatencies).percentiles.map PercentileLine.text ++
      [(report.block .wakeupLatencies).minMax.text]) ++
    ((report.block .requestLatencies).lines ++
      ((report.block .rps).lines ++ (report.average.map averageLine).toList)), rfl, ?_, ?_⟩
  · rw [contains, decide_eq_true_eq]
    exact (List.prefix_append _ _).isInfix
  · refine List.forall_mem_append.mpr ⟨(report.block .wakeupLatencies).noWakeup_tail,
      List.forall_mem_append.mpr ⟨(report.block .requestLatencies).noWakeup (by decide),
        List.forall_mem_append.mpr ⟨(report.block .rps).noWakeup (by decide), ?_⟩⟩⟩
    intro line member
    obtain ⟨average, -, rfl⟩ := Option.map_eq_some_iff.mp (Option.mem_toList.mp member)
    exact noWakeup_of_plain (averageLine_plain average)

/-- Lines without the header do not change the index. -/
theorem foldl_noWakeup {entries : List (Text × Nat)} (plain : ∀ entry ∈ entries, NoWakeup entry.1)
    (last : Option Nat) :
    entries.foldl (fun last entry =>
      if contains Category.wakeupLatencies.name entry.1 then some entry.2 else last) last =
        last := by
  induction entries generalizing last with
  | nil => rfl
  | cons entry rest inductionHypothesis =>
    have first : contains Category.wakeupLatencies.name entry.1 = false := plain entry (by simp)
    rw [List.foldl_cons, first, if_neg Bool.false_ne_true]
    exact inductionHypothesis (fun other member => plain other (by simp [member])) last

/-- The index is that of the last header. -/
theorem lastOccurrenceIndex_append {before rest : List Text} {header : Text}
    (isHeader : contains Category.wakeupLatencies.name header = true)
    (plain : ∀ line ∈ rest, NoWakeup line) :
    lastOccurrenceIndex (before ++ header :: rest) = some before.length := by
  rw [lastOccurrenceIndex, List.zipIdx_append, List.foldl_append, List.zipIdx_cons,
    List.foldl_cons, isHeader, if_pos rfl, Nat.zero_add]
  exact foldl_noWakeup (fun entry member => plain entry.1 (List.fst_mem_of_mem_zipIdx member)) _

/-- The results are those of the last report, whatever is printed before it. -/
theorem parseSchbenchData_append (before : List Text) (report : Report) :
    parseSchbenchData float (before ++ report.lines) = report.results float := by
  obtain ⟨header, rest, lines, isHeader, plain⟩ := report.lines_split
  have index : lastOccurrenceIndex (before ++ report.lines) = some before.length := by
    rw [lines]
    exact lastOccurrenceIndex_append isHeader plain
  rw [parseSchbenchData, index]
  simp only [List.drop_left]
  exact foldl_report float report

/-- Of one or more reports the parser returns the percentiles in order, the extreme values and the
average of the last one, and nothing of the reports before it.

The lines of a report are those of the tool, for any number of percentiles. Lines in front of the
first report or between two of them are not covered. `float` may be any reading of numbers. -/
theorem parse_last_report (earlier : List Report) (last : Report) :
    parseSchbenchData float ((earlier ++ [last]).flatMap Report.lines) = last.results float := by
  rw [List.flatMap_append, List.flatMap_singleton]
  exact parseSchbenchData_append float _ last

/-- A report as schbench prints it, with one percentile in each part. -/
def printed : Report where
  block category :=
    { header :=
        { tail := " (usec)".toList
          only := fun other => by cases category <;> cases other <;> decide +kernel }
      percentiles :=
        [{ indent := ['\t'], starred := true, gap := [' ']
           percentile :=
             ⟨['9', '9'], ['0'], ⟨by simp, forall_of_check (by decide)⟩,
               ⟨by simp, forall_of_check (by decide)⟩⟩
           latency := ['7'], space := [' ', ' '], samples := ['3']
           blankIndent := forall_of_check (by decide)
           blankGap := blank_space
           latencyNumber := ⟨by simp, forall_of_check (by decide)⟩
           blankSpace := blank_spaces
           apart := by simp
           samplesNumber := ⟨by simp, forall_of_check (by decide)⟩ }]
      minMax := ⟨['\t', ' ', ' '], ['1'], ['9'], forall_of_check (by decide),
        ⟨by simp, forall_of_check (by decide)⟩, ⟨by simp, forall_of_check (by decide)⟩⟩ }
  average := none

example : (printed.block .rps).lines =
    ["RPS percentiles (requests) (usec)".toList, "\t* 99.0th: 7  (3 samples)".toList,
      "\t  min=1, max=9".toList] := by decide +kernel

end AvocadoMisc.Schbench.Reports
