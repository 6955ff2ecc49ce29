import AvocadoMisc.Library.Patterns
import AvocadoMisc.Library.TextFiles

/-!
# The failures that the kernel selftest reports

`kselftest.test` writes the output of the selftests to a file, reads it back line by line, and
searches each line for the patterns that belong to the run type. A run of type "custom" builds
and runs the selftests like one of type "upstream", but it has no branch in that loop.

Which texts a pattern finds is stated without the pattern, as the words that such a failure line
is made of.
-/

namespace AvocadoMisc.Kselftest.Failures

open Library.Patterns Library.Text Library.TextFiles

/-! ### Patterns -/

/-- What `.` stands for. -/
def dot (c : Char) : Bool := c ≠ '\n'

/-- The first digits of the blocks of ten decimal digits. The mathematical digits at the end are
five blocks in a row. -/
def zeros : List Nat :=
  [0x30, 0x660, 0x6F0, 0x7C0, 0x966, 0x9E6, 0xA66, 0xAE6, 0xB66, 0xBE6, 0xC66, 0xCE6, 0xD66, 0xDE6,
    0xE50, 0xED0, 0xF20, 0x1040, 0x1090, 0x17E0, 0x1810, 0x1946, 0x19D0, 0x1A80, 0x1A90, 0x1B50,
    0x1BB0, 0x1C40, 0x1C50, 0xA620, 0xA8D0, 0xA900, 0xA9D0, 0xA9F0, 0xAA50, 0xABF0, 0xFF10,
    0x104A0, 0x10D30, 0x11066, 0x110F0, 0x11136, 0x111D0, 0x112F0, 0x11450, 0x114D0, 0x11650,
    0x116C0, 0x11730, 0x118E0, 0x11950, 0x11C50, 0x11D50, 0x11DA0, 0x16A60, 0x16AC0, 0x16B50,
    0x1E140, 0x1E2F0, 0x1E950, 0x1FBF0, 0x1D7CE, 0x1D7D8, 0x1D7E2, 0x1D7EC, 0x1D7F6]

/-- What `\d` stands for. -/
def digit (c : Char) : Bool := zeros.any fun first => first ≤ c.toNat && c.toNat < first + 10

/-- The texts that stand for themselves in the patterns. -/
def notOk : List Char := "not ok ".toList

/-- See `notOk`. -/
def spaceSelftests : List Char := " selftests:".toList

/-- See `notOk`. -/
def hashNotOk : List Char := "# not ok ".toList

/-- See `notOk`. -/
def hashExit : List Char := " # exit=".toList

/-- See `notOk`. -/
def selftests : List Char := "selftests:".toList

/-- See `notOk`. -/
def bracketFail : List Char := "[FAIL]".toList

/-- The failures that are searched for: of a test, of a part of a test, and the form that the
selftests of SuSE 12 use. -/
inductive Kind where
  | overall
  | individual
  | suse12

/-- The pattern for a kind of failure. -/
def Kind.pattern : Kind → Pattern Char
  | .overall => literal notOk ++ .many dot :: (literal spaceSelftests ++ [.many dot])
  | .individual =>
    literal hashNotOk ++ .one digit :: .many digit ::
      (literal [' '] ++ .many dot :: (literal hashExit ++ [.one digit, .many digit]))
  | .suse12 => literal selftests ++ .many dot :: literal bracketFail

/-- A number in decimal digits. -/
def Number (text : List Char) : Prop := text ≠ [] ∧ ∀ c ∈ text, digit c = true

/-- A text without a line end. -/
def OneLine (text : List Char) : Prop := ∀ c ∈ text, c ≠ '\n'

/-- The texts of a kind of failure. -/
def Kind.Describes : Kind → List Char → Prop
  | .overall, text =>
    ∃ number name, text = notOk ++ (number ++ (spaceSelftests ++ name)) ∧ OneLine number ∧
      OneLine name
  | .individual, text =>
    ∃ number name code, text = hashNotOk ++ (number ++ ([' '] ++ (name ++ (hashExit ++ code)))) ∧
      Number number ∧ OneLine name ∧ Number code
  | .suse12, text => ∃ name, text = selftests ++ (name ++ bracketFail) ∧ OneLine name

/-! ### The test -/

/-- The run types that `setUp` accepts. -/
inductive RunType where
  | upstream
  | custom
  | distro
  deriving DecidableEq

/-- What the loop over the log depends on: the type of the run, and the distribution with its
version. -/
structure Setting where
  runType : RunType
  distroName : String
  distroVer : Int

/-- What the loop collects. -/
structure Report where
  error : Bool
  failedTests : List (List Char)

/-- `find_match`. -/
def findMatch (pattern : Pattern Char) (line : List Char) (report : Report) : Report :=
  match search pattern line with
  | none => report
  | some group =>
    let failedTest := strip charSpace group
    { error := true
      failedTests :=
        if report.failedTests.contains failedTest then report.failedTests
        else report.failedTests ++ [failedTest] }

/-- What is done with one line. -/
def testLine (setting : Setting) (report : Report) (line : List Char) : Report :=
  if setting.runType = .upstream then
    findMatch (Kind.pattern .individual) line (findMatch (Kind.pattern .overall) line report)
  else if setting.runType = .distro then
    if setting.distroName = "SuSE" ∧ setting.distroVer = 12 then
      findMatch (Kind.pattern .suse12) line report
    else
      findMatch (Kind.pattern .individual) line (findMatch (Kind.pattern .overall) line report)
  else report

/-- The loop of `test` over the log. -/
def test (setting : Setting) (logOutput : List Char) : Report :=
  (readlines logOutput).foldl (testLine setting) ⟨false, []⟩

/-- The total that `test` fails with, if it fails. -/
def Report.fails (report : Report) : Option Nat :=
  if report.error then some report.failedTests.length else none

/-! ### The failures of a log -/

/-- The kinds of failure that a log may have. -/
def kinds (setting : Setting) : List Kind :=
  if setting.runType = .distro ∧ setting.distroName = "SuSE" ∧ setting.distroVer = 12 then
    [.suse12]
  else [.overall, .individual]

/-- A line of the log contains a failure. -/
def HasFailure (setting : Setting) (logOutput : List Char) : Prop :=
  ∃ line ∈ readlines logOutput, ∃ kind ∈ kinds setting, ∃ found,
    found <:+: line ∧ kind.Describes found

/-- The failures of some kinds in a line, as they are found. -/
def lineFailures (listed : List Kind) (line : List Char) : List (List Char) :=
  listed.filterMap fun kind => (search kind.pattern line).map (strip charSpace)

/-- All failures in log order. -/
def failures (listed : List Kind) (logOutput : List Char) : List (List Char) :=
  (readlines logOutput).flatMap (lineFailures listed)

/-- The test fails exactly on a log with a failure, and lists every failure once, in log order. -/
def Reports (setting : Setting) (logOutput : List Char) : Prop :=
  ((test setting logOutput).fails.isSome = true ↔ HasFailure setting logOutput) ∧
    (test setting logOutput).failedTests = (failures (kinds setting) logOutput).eraseDups

/-! ### What the patterns find -/

/-- The failures of the first kind come first. -/
theorem lineFailures_cons (kind : Kind) (rest : List Kind) (line : List Char) :
    lineFailures (kind :: rest) line =
      ((search kind.pattern line).map (strip charSpace)).toList ++ lineFailures rest line := by
  cases found : search kind.pattern line <;> simp [lineFailures, found]

/-- The report of a list of failures. -/
def reportOf (found : List (List Char)) : Report := ⟨!found.isEmpty, found.eraseDups⟩

/-- One more failure. -/
theorem reportOf_concat (found : List (List Char)) (failure : List Char) :
    reportOf (found ++ [failure]) =
      { error := true
        failedTests :=
          if (reportOf found).failedTests.contains failure then (reportOf found).failedTests
          else (reportOf found).failedTests ++ [failure] } := by
  by_cases member : failure ∈ found <;>
    simp [reportOf, List.eraseDups_append, List.eraseDups_cons, List.removeAll, member]

/-- A search adds what it finds. -/
theorem findMatch_reportOf (pattern : Pattern Char) (line : List Char)
    (found : List (List Char)) : findMatch pattern line (reportOf found) =
      reportOf (found ++ ((search pattern line).map (strip charSpace)).toList) := by
  cases matched : search pattern line with
  | none => simp [findMatch, matched]
  | some group =>
    rw [Option.map_some, Option.toList_some, reportOf_concat]
    simp [findMatch, matched]

/-- The kinds that are searched for. -/
def searched (setting : Setting) : List Kind :=
  if setting.runType = .custom then [] else kinds setting

/-- A line adds its failures of the kinds that are searched for. -/
theorem testLine_reportOf (setting : Setting) (line : List Char) (found : List (List Char)) :
    testLine setting (reportOf found) line =
      reportOf (found ++ lineFailures (searched setting) line) := by
  obtain ⟨runType, distroName, distroVer⟩ := setting
  have both : findMatch (Kind.pattern .individual) line
      (findMatch (Kind.pattern .overall) line (reportOf found)) =
        reportOf (found ++ lineFailures [.overall, .individual] line) := by
    rw [findMatch_reportOf, findMatch_reportOf, lineFailures_cons, lineFailures_cons,
      List.append_assoc]
    simp [lineFailures]
  cases runType with
  | upstream => simpa [testLine, searched, kinds] using both
  | custom => simp [testLine, searched, lineFailures]
  | distro =>
    by_cases suse : distroName = "SuSE" ∧ distroVer = 12
    · have single : findMatch (Kind.pattern .suse12) line (reportOf found) =
          reportOf (found ++ lineFailures [.suse12] line) := by
        rw [findMatch_reportOf, lineFailures_cons]
        simp [lineFailures]
      simpa [testLine, searched, kinds, suse] using single
    · simpa [testLine, searched, kinds, suse] using both

/-- The loop reports the failures of the kinds that are searched for.

Proof: by induction on the lines, with the failures that were found already. -/
theorem test_eq (setting : Setting) (logOutput : List Char) :
    test setting logOutput = reportOf (failures (searched setting) logOutput) := by
  suffices general : ∀ (lines found : List (List Char)),
      lines.foldl (testLine setting) (reportOf found) =
        reportOf (found ++ lines.flatMap (lineFailures (searched setting))) by
    simpa [test, failures, reportOf] using general (readlines logOutput) []
  intro lines
  induction lines with
  | nil => simp
  | cons line rest inductionHypothesis =>
    intro found
    rw [List.foldl_cons, testLine_reportOf, inductionHypothesis, List.flatMap_cons,
      List.append_assoc]

end AvocadoMisc.Kselftest.Failures
