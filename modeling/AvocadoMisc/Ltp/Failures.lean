import AvocadoMisc.Library.TextFiles
import Mathlib.Data.List.Infix

/-!
# Failures in the output of the LTP runners

`LTP.test` runs the Linux Test Project with one of two runners. Of the output of `kirk` it splits
each line into fields, and looks the third one up in a list of failure states. Of the log of
`runltp`, which it reads from a file, it takes the lines that contain `FAIL`.

The output of `kirk` is a byte string, and so are its fields. The failure states are character
strings, and a byte string equals none of these. So the list of failed tests is always empty.
-/

namespace AvocadoMisc.Ltp.Failures

open Library.Text Library.TextFiles

/-! ### Strings -/

/-- A character string or a byte string. Strings of different kinds are never equal. -/
inductive Value where
  | str (text : List Char)
  | bytes (data : List UInt8)
deriving DecidableEq

/-- `splitlines`. -/
def Value.splitlines : Value → List Value
  | .str text => (charLines text).map .str
  | .bytes data => (byteLines data).map .bytes

/-- `split(None, maxsplit)`. -/
def Value.split (maxsplit : Nat) : Value → List Value
  | .str text => (cut charSpace maxsplit text).map .str
  | .bytes data => (cut byteSpace maxsplit data).map .bytes

/-- Joining takes character strings only. A byte string raises a `TypeError`. -/
def Value.characters : Value → Option (List Char)
  | .str text => some text
  | .bytes _ => none

/-- The bytes of a character string. -/
def encode (text : List Char) : Value := .bytes (text.flatMap String.utf8EncodeChar)

/-! ### The two runner paths -/

/-- The failure states. -/
def failStatus : List Value :=
  [.str "TFAIL".toList, .str "TBROK".toList, .str "TWARN".toList]

/-- The failed tests in the output of `kirk`. -/
def kirkFailedTests (stdout : Value) : List Value :=
  (stdout.splitlines.map (Value.split 3)).filterMap fun items =>
    match items with
    | [name, _, status, _] => if status ∈ failStatus then some name else none
    | _ => none

/-- The failed tests in the log of `runltp`: what stands before the first white space. -/
def runltpFailedTests (log : List Char) : List Value :=
  ((readlines log).filter (contains "FAIL".toList)).map fun line =>
    .str (line.takeWhile (!charSpace ·))

/-- How the test ends. -/
inductive Verdict where
  | passed
  | resultsFailed (names : List (List Char))
  | dmesgFailed
  | raised

/-- The end of `LTP.test`. -/
def verdict (failedTests : List Value) (dmesgErrors : Bool) : Verdict :=
  if failedTests ≠ [] then
    match failedTests.mapM Value.characters with
    | some names => .resultsFailed names
    | none => .raised
  else if dmesgErrors then .dmesgFailed
  else .passed

/-! ### The outputs of the runners -/

/-- White space of some length. -/
def gap (spaces : Nat) : List Char := List.replicate (spaces + 1) ' '

/-- A line of `kirk`: name, number, status, a colon and a text. -/
structure KirkLine where
  name : List Char
  number : List Char
  status : List Char
  text : List Char
  gaps : Nat × Nat × Nat
  isName : IsWord charSpace name
  isNumber : IsWord charSpace number
  isStatus : IsWord charSpace status
  unbroken : ∀ c ∈ name ++ number ++ status ++ text, charBreak c = false

/-- The line. -/
def KirkLine.characters (line : KirkLine) : List Char :=
  line.name ++ (gap line.gaps.1 ++ (line.number ++ (gap line.gaps.2.1 ++
    (line.status ++ (gap line.gaps.2.2 ++ (':' :: line.text))))))

/-- The output. -/
def kirkOutput (lines : List KirkLine) : List Char :=
  (lines.map KirkLine.characters).flatMap fun line => line ++ ['\n']

/-- The status says that the test failed. -/
def KirkLine.failed (line : KirkLine) : Bool :=
  line.status ∈ ["TFAIL".toList, "TBROK".toList, "TWARN".toList]

/-- The failed tests. -/
def kirkNames (lines : List KirkLine) : List (List Char) :=
  (lines.filter KirkLine.failed).map KirkLine.name

/-- A line of the log of `runltp`: name, result and exit code. Neither a newline nor a carriage
return is inside of it, since the file is read with either as the end of a line. -/
structure LogLine where
  name : List Char
  result : List Char
  code : List Char
  gaps : Nat × Nat × Nat
  isName : IsWord charSpace name
  unbroken : '\n' ∉ name ++ result ++ code ∧ '\r' ∉ name ++ result ++ code

/-- The line. -/
def LogLine.characters (line : LogLine) : List Char :=
  line.name ++ (gap line.gaps.1 ++ (line.result ++ (gap line.gaps.2.1 ++
    (line.code ++ List.replicate line.gaps.2.2 ' '))))

/-- The log. -/
def runltpLog (lines : List LogLine) : List Char :=
  (lines.map LogLine.characters).flatMap fun line => line ++ ['\n']

/-- The failed tests. -/
def logNames (lines : List LogLine) : List (List Char) :=
  (lines.filter fun line => line.result = "FAIL".toList).map LogLine.name

/-! ### What the test should report -/

/-- The verdict fails with exactly these names, and not for the results if there are none. -/
structure Reports (names : List (List Char)) (ended : Verdict) : Prop where
  silent : names = [] → ended = .passed ∨ ended = .dmesgFailed
  named : names ≠ [] → ∃ reported, ended = .resultsFailed reported ∧
    ∀ name, name ∈ reported ↔ name ∈ names

/-- The line contains the text that is looked for. -/
def LogLine.mentionsFail (line : LogLine) : Bool :=
  contains "FAIL".toList (line.characters ++ ['\n'])

/-! ### The verdict -/

/-- Character strings are joined. -/
theorem mapM_characters (names : List (List Char)) :
    (names.map Value.str).mapM Value.characters = some names := by
  induction names with
  | nil => rfl
  | cons name rest inductionHypothesis =>
    rw [List.map_cons, List.mapM_cons, inductionHypothesis]
    rfl

/-- A list of names is reported as it is. If there are none the test passes or complains about the
kernel log, and neither names a test. -/
theorem reports_iff (failed names : List (List Char)) (dmesgErrors : Bool) :
    Reports failed (verdict (names.map .str) dmesgErrors) ↔
      ∀ name, name ∈ names ↔ name ∈ failed := by
  by_cases none_found : names = []
  · subst none_found
    constructor
    · intro reports name
      by_cases quiet : failed = []
      · rw [quiet]
      · obtain ⟨reported, ended, _⟩ := reports.named quiet
        cases dmesgErrors <;> cases ended
    · intro same
      have quiet : failed = [] := List.eq_nil_iff_forall_not_mem.mpr fun name member =>
        List.not_mem_nil ((same name).mpr member)
      exact ⟨fun _ => by cases dmesgErrors <;> simp [verdict], fun loud => absurd quiet loud⟩
  · have something : names.map Value.str ≠ [] := by simpa using none_found
    have ended : verdict (names.map .str) dmesgErrors = .resultsFailed names := by
      rw [verdict, if_pos something, mapM_characters]
    rw [ended]
    constructor
    · intro reports
      by_cases quiet : failed = []
      · rcases reports.silent quiet with impossible | impossible <;> cases impossible
      · obtain ⟨reported, same, members⟩ := reports.named quiet
        cases same
        exact members
    · intro same
      refine ⟨fun quiet => ?_, fun _ => ⟨names, rfl, same⟩⟩
      obtain ⟨name, member⟩ := List.exists_mem_of_ne_nil names none_found
      rw [quiet] at same
      exact absurd ((same name).mp member) List.not_mem_nil

/-! ### The path of `kirk` -/

/-- A byte string is no failure state, so no test is found failed in one. -/
theorem kirkFailedTests_bytes (data : List UInt8) : kirkFailedTests (.bytes data) = [] := by
  refine List.filterMap_eq_nil_iff.mpr fun items member => ?_
  obtain ⟨line, split, rfl⟩ := List.mem_map.mp member
  obtain ⟨bytes, _, rfl⟩ := List.mem_map.mp split
  have kind : ∀ item ∈ Value.split 3 (.bytes bytes), item ∉ failStatus := by
    intro item inside
    obtain ⟨field, _, rfl⟩ := List.mem_map.mp inside
    simp [failStatus]
  split
  · next name number status text fields =>
    rw [if_neg (kind status (by rw [fields]; simp))]
  · rfl

/-- The path reports exactly if no test failed. -/
theorem kirk_reports_iff (lines : List KirkLine) (dmesgErrors : Bool) :
    Reports (kirkNames lines)
        (verdict (kirkFailedTests (encode (kirkOutput lines))) dmesgErrors) ↔
      kirkNames lines = [] := by
  have nothing := reports_iff (kirkNames lines) [] dmesgErrors
  rw [List.map_nil] at nothing
  rw [encode, kirkFailedTests_bytes, nothing]
  constructor
  · intro same
    exact List.eq_nil_iff_forall_not_mem.mpr fun name member =>
      List.not_mem_nil ((same name).mpr member)
  · intro quiet name
    rw [quiet]

/-- A gap is white space. -/
theorem gap_blank (spaces : Nat) : Blank charSpace (gap spaces) := by
  intro c member
  rw [(List.mem_replicate.mp member).2]
  decide

/-- It ends a word. -/
theorem gap_ends (spaces : Nat) (tail : List Char) : Ends charSpace (gap spaces ++ tail) := by
  rw [gap, List.replicate_succ]
  rintro c ⟨⟩
  decide

/-- The four fields of a line. -/
theorem cut_kirkLine (line : KirkLine) : cut charSpace 3 line.characters =
    [line.name, line.number, line.status, ':' :: line.text] := by
  have nothing : Blank charSpace ([] : List Char) := by simp [Blank]
  have colon : IsWord charSpace [':'] := isWord_of_check (by simp) (by decide)
  have name := cut_word nothing line.isName
    (gap_ends line.gaps.1 (line.number ++ (gap line.gaps.2.1 ++
      (line.status ++ (gap line.gaps.2.2 ++ (':' :: line.text)))))) 2
  have number := cut_word (gap_blank line.gaps.1) line.isNumber
    (gap_ends line.gaps.2.1 (line.status ++ (gap line.gaps.2.2 ++ (':' :: line.text)))) 1
  have status := cut_word (gap_blank line.gaps.2.1) line.isStatus
    (gap_ends line.gaps.2.2 (':' :: line.text)) 0
  have text : cut charSpace 0 (gap line.gaps.2.2 ++ (':' :: line.text)) = [':' :: line.text] :=
    cut_zero (gap_blank line.gaps.2.2) colon
  rw [List.nil_append] at name
  rw [KirkLine.characters, name, number, status, text]

/-- The lines of the output. -/
theorem charLines_kirkOutput (lines : List KirkLine) :
    charLines (kirkOutput lines) = lines.map KirkLine.characters := by
  refine lines_unlines (by decide) (by decide) (by decide) fun characters member c inside => ?_
  obtain ⟨line, _, rfl⟩ := List.mem_map.mp member
  have white : ∀ spaces, c ∈ gap spaces → charBreak c = false := by
    intro spaces blank
    rw [(List.mem_replicate.mp blank).2]
    decide
  simp only [KirkLine.characters, List.mem_append, List.mem_cons] at inside
  have unbroken := line.unbroken c
  simp only [List.mem_append] at unbroken
  rcases inside with field | blank | field | blank | field | blank | rfl | field
  · exact unbroken (.inl (.inl (.inl field)))
  · exact white _ blank
  · exact unbroken (.inl (.inl (.inr field)))
  · exact white _ blank
  · exact unbroken (.inl (.inr field))
  · exact white _ blank
  · decide
  · exact unbroken (.inr field)

/-- The parser itself is right: of the same output as a character string, it takes the names of
the failed tests. -/
theorem kirkFailedTests_str (lines : List KirkLine) :
    kirkFailedTests (.str (kirkOutput lines)) = (kirkNames lines).map .str := by
  have status (line : KirkLine) : Value.str line.status ∈ failStatus ↔ line.failed = true := by
    simp [failStatus, KirkLine.failed]
  rw [kirkFailedTests, Value.splitlines, charLines_kirkOutput, kirkNames]
  induction lines with
  | nil => rfl
  | cons line rest inductionHypothesis =>
    simp only [List.map_cons, List.filterMap_cons, Value.split, cut_kirkLine, List.map_nil, status,
      List.filter_cons] at inductionHypothesis ⊢
    cases line.failed with
    | false => simpa only [Bool.false_eq_true, ↓reduceIte] using inductionHypothesis
    | true =>
      simp only [↓reduceIte, List.map_cons]
      exact congrArg (Value.str line.name :: ·) inductionHypothesis

/-! ### The path of `runltp` -/

/-- A line of the log has no line end inside of it. -/
theorem noBreak_characters (line : LogLine) {c : Char} (breaks : c = '\n' ∨ c = '\r') :
    c ∉ line.characters := by
  have absent : c ∉ line.name ++ line.result ++ line.code := by
    rcases breaks with rfl | rfl
    · exact line.unbroken.1
    · exact line.unbroken.2
  have noSpace : c ≠ ' ' := by
    rcases breaks with rfl | rfl <;> decide
  intro inside
  simp only [List.mem_append, not_or] at absent
  simp only [LogLine.characters, gap, List.mem_append, List.mem_replicate] at inside
  rcases inside with field | blank | field | blank | field | blank
  · exact absent.1.1 field
  · exact noSpace blank.2
  · exact absent.1.2 field
  · exact noSpace blank.2
  · exact absent.2 field
  · exact noSpace blank.2

/-- The path takes the names of the lines that contain `FAIL`. -/
theorem runltpFailedTests_eq (lines : List LogLine) :
    runltpFailedTests (runltpLog lines) =
      ((lines.filter LogLine.mentionsFail).map LogLine.name).map .str := by
  have unbroken : ∀ line ∈ lines.map LogLine.characters, '\n' ∉ line ∧ '\r' ∉ line := by
    intro characters member
    obtain ⟨line, _, rfl⟩ := List.mem_map.mp member
    exact ⟨noBreak_characters line (Or.inl rfl), noBreak_characters line (Or.inr rfl)⟩
  have named (line : LogLine) :
      (line.characters ++ ['\n']).takeWhile (!charSpace ·) = line.name := by
    rw [LogLine.characters, List.append_assoc, List.append_assoc]
    exact (line.isName.span (gap_ends _ _)).1
  rw [runltpFailedTests, runltpLog, readlines_unlines unbroken, List.map_map, List.filter_map,
    List.map_map, List.map_map]
  refine List.map_congr_left fun line _ => ?_
  exact congrArg Value.str (named line)

/-- A failed test's line contains it. -/
theorem mentionsFail_of_result {line : LogLine} (failed : line.result = "FAIL".toList) :
    line.mentionsFail = true := by
  refine decide_eq_true ⟨line.name ++ gap line.gaps.1, gap line.gaps.2.1 ++ (line.code ++
    (List.replicate line.gaps.2.2 ' ' ++ ['\n'])), ?_⟩
  simp only [LogLine.characters, failed, List.append_assoc]

/-- The path reports exactly if the lines that contain `FAIL` are about failed tests. -/
theorem runltp_reports_iff {lines : List LogLine} {failed : List (List Char)}
    (same : ∀ name, name ∈ failed ↔ name ∈ logNames lines) (dmesgErrors : Bool) :
    Reports failed (verdict (runltpFailedTests (runltpLog lines)) dmesgErrors) ↔
      ∀ line ∈ lines, line.mentionsFail = true → line.name ∈ failed := by
  rw [runltpFailedTests_eq, reports_iff]
  constructor
  · intro reported line member mentions
    exact (reported line.name).mp
      (List.mem_map_of_mem (List.mem_filter.mpr ⟨member, mentions⟩))
  · intro about name
    constructor
    · intro member
      obtain ⟨line, found, rfl⟩ := List.mem_map.mp member
      obtain ⟨listed, mentions⟩ := List.mem_filter.mp found
      exact about line listed mentions
    · intro member
      obtain ⟨line, found, rfl⟩ := List.mem_map.mp ((same name).mp member)
      obtain ⟨listed, result⟩ := List.mem_filter.mp found
      exact List.mem_map_of_mem (List.mem_filter.mpr
        ⟨listed, mentionsFail_of_result (of_decide_eq_true result)⟩)

/-! ### Both paths -/

/-- For every output of `kirk` and every log of `runltp` about the same failed tests: both paths
report these exactly if there are none, and no line of the log contains `FAIL` otherwise.

The two runs need not agree in anything else: the names may be repeated and in any order, and what
the kernel log adds to the verdict is free in each of them. -/
theorem failures_reported_iff (lines : List KirkLine) (log : List LogLine)
    (same : ∀ name, name ∈ kirkNames lines ↔ name ∈ logNames log)
    (kirkDmesgErrors runltpDmesgErrors : Bool) :
    (Reports (kirkNames lines)
        (verdict (kirkFailedTests (encode (kirkOutput lines))) kirkDmesgErrors) ∧
      Reports (kirkNames lines)
        (verdict (runltpFailedTests (runltpLog log)) runltpDmesgErrors)) ↔
    kirkNames lines = [] ∧
      ∀ line ∈ log, line.mentionsFail = true → line.name ∈ kirkNames lines := by
  rw [kirk_reports_iff, runltp_reports_iff same]

/-- A line of `kirk` for one test with a status. -/
def kirkLine (status : List Char) (isStatus : IsWord charSpace status)
    (unbroken : ∀ c ∈ "aio01".toList ++ "1".toList ++ status ++ "done".toList,
      charBreak c = false) : KirkLine where
  name := "aio01".toList
  number := "1".toList
  status := status
  text := "done".toList
  gaps := (0, 0, 0)
  isName := isWord_of_check (by decide) (by decide)
  isNumber := isWord_of_check (by decide) (by decide)
  isStatus := isStatus
  unbroken := unbroken

/-- A line of the log for the same test with a result. -/
def logLine (result : List Char)
    (unbroken : '\n' ∉ "aio01".toList ++ result ++ "0".toList ∧
      '\r' ∉ "aio01".toList ++ result ++ "0".toList) : LogLine where
  name := "aio01".toList
  result := result
  code := "0".toList
  gaps := (0, 0, 0)
  isName := isWord_of_check (by decide) (by decide)
  unbroken := unbroken

/-- A test that passed. -/
def passedLine : KirkLine :=
  kirkLine "TPASS".toList (isWord_of_check (by decide) (by decide)) (none_of_check (by decide))

/-- A test that failed. -/
def failedLine : KirkLine :=
  kirkLine "TFAIL".toList (isWord_of_check (by decide) (by decide)) (none_of_check (by decide))

/-- A test that passed is reported by neither path. -/
theorem passed_reported :
    Reports (kirkNames [passedLine])
        (verdict (kirkFailedTests (encode (kirkOutput [passedLine]))) false) ∧
      Reports (kirkNames [passedLine])
        (verdict (runltpFailedTests (runltpLog [logLine "PASS".toList (by decide)])) false) := by
  have same : kirkNames [passedLine] = logNames [logLine "PASS".toList (by decide)] := by decide
  exact (failures_reported_iff [passedLine] [logLine "PASS".toList (by decide)]
    (fun name => by rw [same]) false false).mpr ⟨by decide, by decide⟩

/-- A test that failed is lost in the path of `kirk`. -/
theorem failure_lost :
    ¬ (∀ lines log, (∀ name, name ∈ kirkNames lines ↔ name ∈ logNames log) →
      ∀ kirkDmesgErrors runltpDmesgErrors,
      Reports (kirkNames lines)
          (verdict (kirkFailedTests (encode (kirkOutput lines))) kirkDmesgErrors) ∧
        Reports (kirkNames lines)
          (verdict (runltpFailedTests (runltpLog log)) runltpDmesgErrors)) := by
  intro always
  have same : kirkNames [failedLine] = logNames [logLine "FAIL".toList (by decide)] := by decide
  have reported := (always [failedLine] [logLine "FAIL".toList (by decide)]
    (fun name => by rw [same]) false false).1
  exact absurd ((kirk_reports_iff [failedLine] false).mp reported) (by decide)

end AvocadoMisc.Ltp.Failures
