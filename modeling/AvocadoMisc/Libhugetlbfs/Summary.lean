import AvocadoMisc.Library.NumberTexts
import AvocadoMisc.Library.Writes

/-!
# The summary of the libhugetlbfs tests

`_log_parser` of `libhugetlbfs.py` reads the lines between the two marks of the test summary. A
line with a colon has a label in front of it and numbers behind it, two for each page size. `test`
reads the summary once for each page size and collects what failed.
-/

namespace AvocadoMisc.Libhugetlbfs.Summary

open Library.Text Library.Parts Library.Writes Library.NumberTexts

/-- A character string. -/
abbrev Text := List Char

/-! ### The parser -/

/-- A dictionary of numbers. -/
abbrev Dict := Text → Option Int

/-- `parsed_results`, with the dictionaries for 32 and 64 bits. -/
structure Results where
  bits32 : Dict
  bits64 : Dict

/-- `section` and `parsed_results`. -/
structure Scan where
  inSection : Bool
  results : Results

/-- The line that begins the summary. -/
def testSummary : Text := "********** TEST SUMMARY".toList

/-- The line that ends it. -/
def stars : Text := "**********".toList

/-- The characters that are stripped off a label. -/
def stripped (c : Char) : Bool := c = '*' || c = ' '

/-- The body of the loop. There is no result where an exception leaves it. -/
def scanLine (column : Nat) (scan : Scan) (line : Text) : Option Scan :=
  let started := if line = testSummary then true else scan.inSection
  let inSection := if line = stars then false else started
  if inSection = true ∧ ':' ∈ line then
    match line.splitOn ':' with
    | [key, values] => do
      let first ← (words charSpace values)[column]?
      let value32 ← int first
      let second ← (words charSpace values)[column + 1]?
      let value64 ← int second
      some {
        inSection
        results := {
          bits32 := Function.update scan.results.bits32 (key.dropWhile stripped) (some value32)
          bits64 := Function.update scan.results.bits64 (key.dropWhile stripped) (some value64) } }
    | _ => none
  else some { scan with inSection }

/-- No results yet. -/
def empty : Results := { bits32 := fun _ => none, bits64 := fun _ => none }

/-- `_log_parser`. -/
def logParser (log : Text) (column : Nat) : Option Results := do
  let scan ← (charLines log).foldlM (scanLine column) { inSection := false, results := empty }
  some scan.results

/-! ### The verdict -/

/-- The label of the failed tests. -/
def fail : Text := "FAIL".toList

/-- What is added to `error` for a number of failed tests. -/
def errorLine (failed : Int) (width : String) (hpSize : Text) : Text :=
  if failed ≠ 0 then
    str failed ++ width.toList ++ " tests failed for ".toList ++ hpSize ++
      "MB hugepage\n".toList
  else []

/-- The loop over `configured_page_sizes`, from an index on. A missing label raises. -/
def errors (log : Text) : Nat → List Text → Option Text
  | _, [] => some []
  | idx, hpSize :: rest => do
    let parsed ← logParser log (idx * 2)
    let failed32 ← parsed.bits32 fail
    let failed64 ← parsed.bits64 fail
    let others ← errors log (idx + 1) rest
    some (errorLine failed32 " 32-bit" hpSize ++ (errorLine failed64 " 64-bit" hpSize ++ others))

/-- How `test` ends. -/
inductive Verdict where
  | raised
  | failed (message : Text)
  | passed
  deriving DecidableEq

/-- `test`, from the log on. -/
def test (configuredPageSizes : List Text) (runLog : Text) : Verdict :=
  match errors runLog 0 configuredPageSizes with
  | none => .raised
  | some error => if error ≠ [] then .failed error else .passed

/-! ### Logs with one summary -/

/-- A row: stars and spaces, the label, a colon, and the integers as the words behind it. -/
structure Row (sizes : Nat) where
  front : Text
  label : Text
  values : Text
  counts : List Int
  frontStripped : ∀ c ∈ front, stripped c = true
  labelKept : ∀ c ∈ label.head?, stripped c = false
  noColon : ':' ∉ label
  words_values : words charSpace values = counts.map str
  two : counts.length = 2 * sizes

/-- The row as it is written. -/
def Row.text {sizes : Nat} (row : Row sizes) : Text :=
  row.front ++ row.label ++ ':' :: row.values

/-- What is between the marks: header lines without a colon, and rows. -/
inductive Item (sizes : Nat) where
  | header (line : Text) (noColon : ':' ∉ line) (notEnd : line ≠ stars)
  | row (entry : Row sizes)

/-- The item as it is written. -/
def Item.text {sizes : Nat} : Item sizes → Text
  | .header line _ _ => line
  | .row entry => entry.text

/-- The row, where the item is one. -/
def Item.row? {sizes : Nat} : Item sizes → Option (Row sizes)
  | .header .. => none
  | .row entry => some entry

/-- A log with one summary. Its labels differ, and one of them is that of the failed tests. Lines
before and after the summary are free, as long as none of them begins a summary. -/
structure Report (sizes : Nat) where
  log : Text
  before : List Text
  items : List (Item sizes)
  after : List Text
  lines : charLines log = before ++ testSummary :: (items.map Item.text ++ stars :: after)
  notBefore : testSummary ∉ before
  notAfter : testSummary ∉ after
  distinct : ((items.filterMap Item.row?).map Row.label).Nodup
  hasFail : ∃ row ∈ items.filterMap Item.row?, row.label = fail

/-- The rows of the summary. -/
def Report.rows {sizes : Nat} (report : Report sizes) : List (Row sizes) :=
  report.items.filterMap Item.row?

/-- What a column of the summary has for a label: the number in its row, or nothing. -/
def Report.cell {sizes : Nat} (report : Report sizes) (column : Nat) : Dict := fun label =>
  (report.rows.find? fun row => row.label = label).bind fun row => row.counts[column]?

/-- The widths that a page size is tested with. -/
inductive Width where
  | bits32
  | bits64
  deriving DecidableEq

/-- The column of a width, for the page size with an index. -/
def Width.column : Width → Nat → Nat
  | .bits32, idx => 2 * idx
  | .bits64, idx => 2 * idx + 1

/-- A page size and a width for which tests failed, and how many. -/
structure Failure where
  hpSize : Text
  width : Width
  count : Int

/-- The line that names a failure. -/
def Failure.text (failure : Failure) : Text :=
  match failure.width with
  | .bits32 =>
    str failure.count ++
      (" 32-bit tests failed for ".toList ++ (failure.hpSize ++ "MB hugepage\n".toList))
  | .bits64 =>
    str failure.count ++
      (" 64-bit tests failed for ".toList ++ (failure.hpSize ++ "MB hugepage\n".toList))

/-- The failure that a column of the summary shows, if its number is not zero. -/
def Report.failure? {sizes : Nat} (report : Report sizes) (hpSize : Text) (idx : Nat)
    (width : Width) : Option Failure :=
  (report.cell (width.column idx) fail).bind fun count =>
    if count = 0 then none else some ⟨hpSize, width, count⟩

/-- The failures of all page sizes, each size with 32 bits first. -/
def Report.failures {sizes : Nat} (report : Report sizes) (pageSizes : List Text) : List Failure :=
  pageSizes.zipIdx.flatMap fun entry =>
    [.bits32, .bits64].filterMap (report.failure? entry.1 entry.2)

/-! ### Single lines -/

section Row

variable {sizes : Nat} (row : Row sizes)

/-- There is no colon behind the label. -/
theorem noColon_values : ':' ∉ row.values := by
  rw [mem_words_iff (show charSpace ':' = false by decide), row.words_values]
  rintro ⟨word, member, inWord⟩
  obtain ⟨n, _, rfl⟩ := List.mem_map.mp member
  rcases mem_str inWord with digit | minus
  · exact absurd digit (by decide)
  · exact absurd minus (by decide)

/-- A row is cut behind its label. -/
theorem splitOn_row : row.text.splitOn ':' = [row.front ++ row.label, row.values] := by
  have noColon : ':' ∉ row.front ++ row.label := by
    intro member
    rcases List.mem_append.mp member with inFront | inLabel
    · exact absurd (row.frontStripped ':' inFront) (by decide)
    · exact row.noColon inLabel
  rw [Row.text, List.splitOn_append_cons_self, List.splitOn_eq_singleton noColon,
    List.splitOn_eq_singleton (noColon_values row)]
  rfl

/-- The label is what is left of the text in front of the colon. -/
theorem dropWhile_label : (row.front ++ row.label).dropWhile stripped = row.label := by
  rw [List.dropWhile_append_of_pos row.frontStripped]
  have kept := row.labelKept
  cases label : row.label with
  | nil => rfl
  | cons c rest =>
    have stays : stripped c = false := kept c (by simp [label])
    simp [stays]

/-- A row has a colon, so it is not the end of the summary. -/
theorem row_ne_stars : row.text ≠ stars := by
  intro same
  have colon : ':' ∈ row.text := by simp [Row.text]
  rw [same] at colon
  exact absurd colon (by decide)

/-- A column of numbers is a column of words. -/
theorem getElem?_words (column : Nat) :
    (words charSpace row.values)[column]? = row.counts[column]?.map str := by
  rw [row.words_values, List.getElem?_map]

end Row

/-- The results with those of a row. -/
def record {sizes : Nat} (column : Nat) (results : Results) (row : Row sizes) : Results where
  bits32 := Function.update results.bits32 row.label row.counts[column]?
  bits64 := Function.update results.bits64 row.label row.counts[column + 1]?

/-- In the summary a row is recorded. -/
theorem scanLine_row {sizes column : Nat} (inside : column + 1 < 2 * sizes) (results : Results)
    (row : Row sizes) :
    scanLine column { inSection := true, results } row.text =
      some { inSection := true, results := record column results row } := by
  have colon : ':' ∈ row.text := by simp [Row.text]
  obtain ⟨first, atFirst⟩ : ∃ n, row.counts[column]? = some n :=
    ⟨_, List.getElem?_eq_getElem (by rw [row.two]; omega)⟩
  obtain ⟨second, atSecond⟩ : ∃ n, row.counts[column + 1]? = some n :=
    ⟨_, List.getElem?_eq_getElem (by rw [row.two]; omega)⟩
  simp only [scanLine, row_ne_stars, if_false, ite_self, colon, and_self, if_true, splitOn_row,
    getElem?_words, atFirst, atSecond, Option.map_some, Option.bind_eq_bind, Option.bind_some,
    int_str, dropWhile_label, record]

/-- Outside of the summary a line changes nothing, unless it begins the summary. -/
theorem scanLine_outside {line : Text} (column : Nat) (results : Results)
    (other : line ≠ testSummary) :
    scanLine column { inSection := false, results } line =
      some { inSection := false, results } := by
  simp [scanLine, other]

/-- So do lines. -/
theorem foldlM_outside {listed : List Text} (column : Nat) (results : Results)
    (others : testSummary ∉ listed) :
    listed.foldlM (scanLine column) { inSection := false, results } =
      some { inSection := false, results } := by
  induction listed with
  | nil => rfl
  | cons line rest inductionHypothesis =>
    have differs : line ≠ testSummary := (List.ne_of_not_mem_cons others).symm
    rw [List.foldlM_cons, scanLine_outside column results differs]
    exact inductionHypothesis (List.not_mem_of_not_mem_cons others)

/-- The items of the summary are recorded as far as they are rows. -/
theorem foldlM_items {sizes column : Nat} (inside : column + 1 < 2 * sizes)
    (items : List (Item sizes)) (results : Results) :
    (items.map Item.text).foldlM (scanLine column) { inSection := true, results } =
      some { inSection := true,
             results := (items.filterMap Item.row?).foldl (record column) results } := by
  induction items generalizing results with
  | nil => rfl
  | cons item rest inductionHypothesis =>
    rw [List.map_cons, List.foldlM_cons]
    cases item with
    | header line noColon notEnd =>
      have skipped : scanLine column { inSection := true, results } line =
          some { inSection := true, results } := by
        simp [scanLine, noColon, notEnd]
      rw [Item.text, skipped]
      exact inductionHypothesis results
    | row entry =>
      rw [Item.text, scanLine_row inside]
      exact inductionHypothesis (record column results entry)

/-! ### The whole log -/

section Report

variable {sizes : Nat} (report : Report sizes)

/-- The parser records the rows of the summary and nothing else. -/
theorem logParser_eq {column : Nat} (inside : column + 1 < 2 * sizes) :
    logParser report.log column = some (report.rows.foldl (record column) empty) := by
  have begins : ∀ results, scanLine column { inSection := false, results } testSummary =
      some { inSection := true, results } := by
    intro results
    have noColon : ':' ∉ testSummary := by decide
    have notEnd : testSummary ≠ stars := by decide
    simp [scanLine, noColon, notEnd]
  have ends : ∀ results, scanLine column { inSection := true, results } stars =
      some { inSection := false, results } := by
    intro results
    simp [scanLine]
  simp only [logParser, report.lines, List.foldlM_append, List.foldlM_cons, Option.bind_eq_bind,
    Option.bind_some, foldlM_outside column empty report.notBefore, begins, foldlM_items inside,
    ends, foldlM_outside column _ report.notAfter]
  rfl

/-- The dictionaries after some rows. -/
theorem foldl_record (column : Nat) (rows : List (Row sizes)) (results : Results) :
    (rows.foldl (record column) results).bits32 =
        writeAll results.bits32 (rows.map fun row => (row.label, row.counts[column]?)) ∧
      (rows.foldl (record column) results).bits64 =
        writeAll results.bits64 (rows.map fun row => (row.label, row.counts[column + 1]?)) := by
  induction rows generalizing results with
  | nil => exact ⟨rfl, rfl⟩
  | cons row rest inductionHypothesis => exact inductionHypothesis (record column results row)

/-- Writing the rows of the summary gives a column of it. -/
theorem writeAll_rows (column : Nat) :
    writeAll (fun _ => none) (report.rows.map fun row => (row.label, row.counts[column]?)) =
      report.cell column := by
  funext label
  rw [writeAll_apply, Report.cell]
  cases found : report.rows.find? fun row => row.label = label with
  | none =>
    have unknown : valuesOf label
        (report.rows.map fun row => (row.label, row.counts[column]?)) = [] := by
      rw [valuesOf, List.map_eq_nil_iff, List.filter_eq_nil_iff]
      intro write member same
      obtain ⟨row, inRows, rfl⟩ := List.mem_map.mp member
      exact List.find?_eq_none.mp found row inRows same
    rw [unknown]
    rfl
  | some row =>
    have member : row ∈ report.rows := List.mem_of_find?_eq_some found
    have same : row.label = label := by simpa using List.find?_some found
    have distinct : (report.rows.map Row.label).Nodup := report.distinct
    rw [← same, valuesOf_of_distinct distinct (fun row => row.counts[column]?) member]
    rfl

/-- The parser has a column of the summary for 32 bits and the next one for 64 bits. -/
theorem logParser_cell {column : Nat} (inside : column + 1 < 2 * sizes) :
    logParser report.log column =
      some { bits32 := report.cell column, bits64 := report.cell (column + 1) } := by
  obtain ⟨bits32, bits64⟩ := foldl_record column report.rows empty
  rw [logParser_eq report inside, ← writeAll_rows, ← writeAll_rows]
  cases parsed : report.rows.foldl (record column) empty with
  | mk dict32 dict64 =>
    rw [parsed] at bits32 bits64
    exact congrArg some (congrArg₂ Results.mk bits32 bits64)

/-- Each column has a number of failed tests. -/
theorem exists_cell_fail (column : Nat) (inside : column < 2 * sizes) :
    ∃ failed, report.cell column fail = some failed := by
  obtain ⟨row, member, labelled⟩ := report.hasFail
  have found : (report.rows.find? fun row => row.label = fail).isSome := by
    rw [List.find?_isSome]
    exact ⟨row, member, by simpa using labelled⟩
  obtain ⟨first, isFirst⟩ := Option.isSome_iff_exists.mp found
  have within : column < first.counts.length := by
    rw [first.two]
    exact inside
  refine ⟨first.counts[column], ?_⟩
  rw [Report.cell, isFirst, Option.bind_some, List.getElem?_eq_getElem within]

/-- The two lines that the loop adds for a page size are those of its failures. -/
theorem errorLine_failures {idx : Nat} {failed32 failed64 : Int} (hpSize : Text)
    (bits32 : report.cell (2 * idx) fail = some failed32)
    (bits64 : report.cell (2 * idx + 1) fail = some failed64) :
    errorLine failed32 " 32-bit" hpSize ++ errorLine failed64 " 64-bit" hpSize =
      ([.bits32, .bits64].filterMap (report.failure? hpSize idx)).flatMap Failure.text := by
  have first : report.failure? hpSize idx .bits32 =
      if failed32 = 0 then none else some ⟨hpSize, .bits32, failed32⟩ := by
    rw [Report.failure?, Width.column, bits32, Option.bind_some]
  have second : report.failure? hpSize idx .bits64 =
      if failed64 = 0 then none else some ⟨hpSize, .bits64, failed64⟩ := by
    rw [Report.failure?, Width.column, bits64, Option.bind_some]
  have words32 : " 32-bit tests failed for ".toList = " 32-bit".toList ++
      " tests failed for ".toList := by decide
  have words64 : " 64-bit tests failed for ".toList = " 64-bit".toList ++
      " tests failed for ".toList := by decide
  by_cases none32 : failed32 = 0 <;> by_cases none64 : failed64 = 0 <;>
    simp [first, second, none32, none64, errorLine, Failure.text, words32, words64,
      -String.toList_append]

/-- The loop over page sizes collects the lines of their failures. -/
theorem errors_eq {pageSizes : List Text} {idx : Nat} (within : idx + pageSizes.length ≤ sizes) :
    errors report.log idx pageSizes =
      some ((pageSizes.zipIdx idx).flatMap fun entry =>
        ([.bits32, .bits64].filterMap (report.failure? entry.1 entry.2)).flatMap
          Failure.text) := by
  induction pageSizes generalizing idx with
  | nil => rfl
  | cons hpSize rest inductionHypothesis =>
    rw [List.length_cons] at within
    have column : idx * 2 = 2 * idx := Nat.mul_comm idx 2
    obtain ⟨failed32, bits32⟩ := exists_cell_fail report (2 * idx) (by omega)
    obtain ⟨failed64, bits64⟩ := exists_cell_fail report (2 * idx + 1) (by omega)
    have others := @inductionHypothesis (idx + 1) (by omega)
    simp only [errors, column, logParser_cell report (show 2 * idx + 1 < 2 * sizes by omega),
      Option.bind_eq_bind, Option.bind_some, bits32, bits64, others, List.zipIdx_cons,
      List.flatMap_cons, ← List.append_assoc, errorLine_failures report hpSize bits32 bits64]

/-- The failures are those of the page sizes and widths with a number other than zero. -/
theorem mem_failures_iff (pageSizes : List Text) (failure : Failure) :
    failure ∈ report.failures pageSizes ↔
      ∃ idx, pageSizes[idx]? = some failure.hpSize ∧
        report.cell (failure.width.column idx) fail = some failure.count ∧
          failure.count ≠ 0 := by
  have shown (hpSize : Text) (idx : Nat) (width : Width) :
      report.failure? hpSize idx width = some failure ↔
        hpSize = failure.hpSize ∧ width = failure.width ∧
          report.cell (width.column idx) fail = some failure.count ∧ failure.count ≠ 0 := by
    rw [Report.failure?, Option.bind_eq_some_iff]
    constructor
    · rintro ⟨count, cell, made⟩
      obtain ⟨some_failed, same⟩ := Option.ite_none_left_eq_some.mp made
      obtain rfl := Option.some_inj.mp same
      exact ⟨rfl, rfl, cell, some_failed⟩
    · rintro ⟨rfl, rfl, cell, some_failed⟩
      exact ⟨failure.count, cell, if_neg some_failed⟩
  have every (width : Width) : width ∈ [Width.bits32, Width.bits64] := by
    cases width <;> simp
  simp only [Report.failures, List.mem_flatMap, List.mem_filterMap, shown]
  constructor
  · rintro ⟨⟨hpSize, idx⟩, member, width, -, rfl, rfl, cell, some_failed⟩
    exact ⟨idx, List.mk_mem_zipIdx_iff_getElem?.mp member, cell, some_failed⟩
  · rintro ⟨idx, size, cell, some_failed⟩
    exact ⟨(failure.hpSize, idx), List.mk_mem_zipIdx_iff_getElem?.mpr size, failure.width,
      every failure.width, rfl, rfl, cell, some_failed⟩

/-- The line of a failure is not empty. -/
theorem Failure.text_ne_nil (failure : Failure) : failure.text ≠ [] := by
  unfold Failure.text
  split <;> simp

end Report

/-- The parser has the numbers of each page size, and the test fails exactly when tests failed for
one of them, with one line for each page size and width with failed tests and no other line.

The log is any text with one summary: header lines without a colon, and rows with a label and two
integers for each page size, in any order and with any blanks. Lines outside of the summary are
free. A log without a row for `FAIL` is not covered, since the test raises on it.

Proof: the scanner passes over the lines outside of the summary and records a row by its label, so
it returns a column of the summary. The loop over the page sizes then finds the count of each
width in its column, and what it collects are the lines of the failures in order. -/
theorem summary_law (pageSizes : List Text) (report : Report pageSizes.length) :
    (∀ idx < pageSizes.length, logParser report.log (2 * idx) =
      some { bits32 := report.cell (2 * idx), bits64 := report.cell (2 * idx + 1) }) ∧
    (∀ failure, failure ∈ report.failures pageSizes ↔
      ∃ idx, pageSizes[idx]? = some failure.hpSize ∧
        report.cell (failure.width.column idx) fail = some failure.count ∧ failure.count ≠ 0) ∧
    test pageSizes report.log =
      if report.failures pageSizes = [] then .passed
      else .failed ((report.failures pageSizes).flatMap Failure.text) := by
  have collected : errors report.log 0 pageSizes =
      some ((report.failures pageSizes).flatMap Failure.text) := by
    rw [Report.failures, List.flatMap_assoc]
    exact errors_eq report (by omega)
  refine ⟨fun idx inside => logParser_cell report (by omega),
    mem_failures_iff report pageSizes, ?_⟩
  rw [test, collected]
  by_cases nothing : report.failures pageSizes = []
  · simp [nothing]
  · obtain ⟨first, others, failures⟩ := List.exists_cons_of_ne_nil nothing
    have something : (report.failures pageSizes).flatMap Failure.text ≠ [] := by
      rw [failures, List.flatMap_cons]
      exact fun empty => first.text_ne_nil (List.append_eq_nil_iff.mp empty).1
    simp only [something, nothing, ne_eq, not_false_eq_true, if_true, if_false]

/-- A row for the failed tests of one page size. -/
def failRow : Row 1 where
  front := '*' :: List.replicate 16 ' '
  label := fail
  values := "     0      3".toList
  counts := [0, 3]
  frontStripped := forall_of_check (by decide)
  labelKept := by
    rintro c ⟨⟩
    decide
  noColon := by decide
  words_values := by decide +kernel
  two := rfl

/-- The log of a run with huge pages of 16 MB: three of its tests with 64 bits failed. -/
def oneSize : Report 1 where
  log := ("make\n********** TEST SUMMARY\n*                      16M\n" ++
    "*                FAIL:     0      3\n**********\n").toList
  before := ["make".toList]
  items := [.header "*                      16M".toList (by decide) (by decide), .row failRow]
  after := []
  lines := by decide +kernel
  notBefore := by decide
  notAfter := by decide
  distinct := List.nodup_singleton fail
  hasFail := ⟨failRow, List.mem_singleton_self failRow, rfl⟩

/-- The test of this run fails and names 64 bits alone. -/
theorem summary_law_oneSize :
    (∀ idx < 1, logParser oneSize.log (2 * idx) =
      some { bits32 := oneSize.cell (2 * idx), bits64 := oneSize.cell (2 * idx + 1) }) ∧
    (∀ failure, failure ∈ oneSize.failures ["16".toList] ↔
      ∃ idx, ["16".toList][idx]? = some failure.hpSize ∧
        oneSize.cell (failure.width.column idx) fail = some failure.count ∧ failure.count ≠ 0) ∧
    test ["16".toList] oneSize.log =
      if oneSize.failures ["16".toList] = [] then .passed
      else .failed ((oneSize.failures ["16".toList]).flatMap Failure.text) :=
  summary_law ["16".toList] oneSize

end AvocadoMisc.Libhugetlbfs.Summary
