import AvocadoMisc.Library.Scanning
import AvocadoMisc.Library.Text

/-!
# Extracting call traces

`extract_call_traces` goes through the lines of the kernel log. At a line with `Call Trace:`
it collects that line and the lines after it that pass a continuation test, and goes on where
that test fails. It drops what it collected when one of the lines contains an ignore pattern,
and when it has already reported a trace with the same first line.
-/

namespace AvocadoMisc.StressngMem.CallTraces

open Library.Scanning
open Library.Text (charSpace contains strip)

/-- A line of the log without its newline. -/
structure Line where
  text : List Char
  unbroken : '\n' ∉ text
deriving DecidableEq

/-- The test by which a line is still part of the call trace. -/
def continues (nextLine : List Char) : Bool :=
  "[".toList.isPrefixOf (strip charSpace nextLine) ||
  "?".toList.isPrefixOf (strip charSpace nextLine) ||
  contains "0x".toList nextLine ||
  contains "+0x".toList nextLine ||
  "---[".toList.isPrefixOf (strip charSpace nextLine) ||
  (nextLine.length > 0 && nextLine.head? = some ' ' &&
    "[]+".toList.any fun c => nextLine.contains c)

/-- The test for a line. -/
def Line.continues (line : Line) : Bool := CallTraces.continues line.text

/-- Whether a line starts a call trace. -/
def isHeader (line : Line) : Bool := contains "Call Trace:".toList line.text

/-- Whether a line contains an ignore pattern. -/
def shouldIgnore (ignorePatterns : List (List Char)) (line : Line) : Bool :=
  ignorePatterns.any fun ignorePattern => contains ignorePattern line.text

/-- The ignore patterns of `test_vm_class_sequential`. -/
def ignorePatterns : List (List Char) :=
  ["Out of memory".toList, "OOM".toList, "oom".toList, "Killed process".toList,
    "Memory cgroup out of memory".toList, "Unable to handle swap header version".toList,
    "swap header".toList]

/-- The lines joined by newlines. -/
def joined (lines : List Line) : List Char := ['\n'].intercalate (lines.map Line.text)

/-! ### The two loops -/

/-- Where the inner loop ends: whether the trace is ignored, its lines, and the lines of the log
that are left. -/
structure Collected where
  ignored : Bool
  traceLines : List Line
  remaining : List Line

/-- The inner loop: collect the lines of one call trace. -/
def collect (patterns : List (List Char)) (ignored : Bool) (traceLines : List Line) :
    List Line → Collected
  | [] => ⟨ignored, traceLines, []⟩
  | nextLine :: rest =>
    if nextLine.continues then
      if shouldIgnore patterns nextLine then collect patterns true traceLines rest
      else collect patterns ignored (traceLines ++ [nextLine]) rest
    else ⟨ignored, traceLines, nextLine :: rest⟩

/-- The first lines of the reported traces, and the traces. -/
structure Reported where
  uniqueTraces : List Line
  callTraces : List (List Char)

/-- Add a complete trace if it is not ignored and its first line is new. -/
def Reported.add (reported : Reported) (ignored : Bool) (traceLines : List Line) : Reported :=
  match ignored, traceLines with
  | false, traceKey :: others =>
    if traceKey ∈ reported.uniqueTraces then reported
    else ⟨traceKey :: reported.uniqueTraces,
      reported.callTraces ++ [joined (traceKey :: others)]⟩
  | _, _ => reported

/-- What the inner loop collects. -/
theorem collect_eq (patterns : List (List Char)) (ignored : Bool) (traceLines lines : List Line) :
    collect patterns ignored traceLines lines =
      ⟨ignored || (lines.takeWhile Line.continues).any (shouldIgnore patterns),
        traceLines ++
          (lines.takeWhile Line.continues).filter (fun line => !shouldIgnore patterns line),
        lines.dropWhile Line.continues⟩ := by
  induction lines generalizing ignored traceLines with
  | nil => simp [collect]
  | cons line rest inductionHypothesis =>
    rw [collect]
    cases further : line.continues with
    | false => simp [further]
    | true =>
      cases matched : shouldIgnore patterns line with
      | true => simp [further, matched, inductionHypothesis]
      | false => simp [further, matched, inductionHypothesis]

/-- The outer loop. Behind a header the lines of its trace are collected, and it goes on behind
those, so the recursion is on the lines that remain. -/
def extractLoop (patterns : List (List Char)) (reported : Reported) (lines : List Line) :
    Reported :=
  match lines with
  | [] => reported
  | line :: rest =>
    if isHeader line && !shouldIgnore patterns line then
      let collected := collect patterns false [line] rest
      extractLoop patterns (reported.add collected.ignored collected.traceLines)
        collected.remaining
    else extractLoop patterns reported rest
termination_by lines.length
decreasing_by
  · rw [collect_eq, List.length_cons]
    exact Nat.lt_succ_of_le (List.dropWhile_suffix _).length_le
  · exact Nat.lt_succ_self rest.length

/-- `extract_call_traces` on the lines of the log. -/
def extractCallTraces (patterns : List (List Char)) (lines : List Line) : List (List Char) :=
  (extractLoop patterns ⟨[], []⟩ lines).callTraces

/-! ### What is reported -/

/-- A call trace: its first line and the lines after it. -/
structure Trace where
  header : Line
  body : List Line
deriving DecidableEq

/-- All lines of a trace. -/
def Trace.lines (trace : Trace) : List Line := trace.header :: trace.body

/-- None of the lines contains an ignore pattern. -/
def Trace.clean (patterns : List (List Char)) (trace : Trace) : Bool :=
  trace.lines.all fun line => !shouldIgnore patterns line

/-- The text that is reported. -/
def Trace.text (trace : Trace) : List Char := joined trace.lines

/-- The traces that the loops collect. Inside a trace, a line that continues it is skipped. -/
def collectedTraces (patterns : List (List Char)) (inside : Bool) : List Line → List Trace
  | [] => []
  | line :: rest =>
    if inside && line.continues then collectedTraces patterns true rest
    else if isHeader line && !shouldIgnore patterns line then
      ⟨line, rest.takeWhile Line.continues⟩ :: collectedTraces patterns true rest
    else collectedTraces patterns false rest

/-- Going on where the run ends is the same as skipping it. -/
theorem collectedTraces_dropWhile (patterns : List (List Char)) (lines : List Line) :
    collectedTraces patterns false (lines.dropWhile Line.continues) =
      collectedTraces patterns true lines := by
  induction lines with
  | nil => rfl
  | cons line rest inductionHypothesis =>
    cases further : line.continues with
    | true =>
      rw [List.dropWhile_cons_of_pos further, inductionHypothesis]
      simp [collectedTraces, further]
    | false => simp [collectedTraces, further]

/-- The texts that are equal are those of equal traces. -/
theorem text_injective : Function.Injective Trace.text := by
  have separate (trace : Trace) :
      trace.text.splitOn '\n' = trace.lines.map Line.text := by
    apply List.splitOn_intercalate
    · intro text member
      obtain ⟨line, _, rfl⟩ := List.mem_map.mp member
      exact line.unbroken
    · simp [Trace.lines]
  intro first second same
  have texts := (separate first).symm.trans ((congrArg (List.splitOn '\n') same).trans
    (separate second))
  have lines : first.lines = second.lines := by
    refine List.map_injective_iff.mpr ?_ texts
    rintro ⟨text, unbroken⟩ ⟨other, also⟩ rfl
    rfl
  cases first
  cases second
  obtain ⟨rfl, rfl⟩ := List.cons.inj lines
  rfl

/-- What is added after the inner loop. -/
theorem add_collect {patterns : List (List Char)} {line : Line}
    (relevant : shouldIgnore patterns line = false) (reported : Reported) (rest : List Line) :
    reported.add (collect patterns false [line] rest).ignored
        (collect patterns false [line] rest).traceLines =
      if Trace.clean patterns ⟨line, rest.takeWhile Line.continues⟩ then
        reported.add false (line :: rest.takeWhile Line.continues)
      else reported := by
  rw [collect_eq]
  cases clean : Trace.clean patterns ⟨line, rest.takeWhile Line.continues⟩ with
  | true =>
    simp only [Trace.clean, Trace.lines, List.all_cons, Bool.and_eq_true, List.all_eq_true,
      Bool.not_eq_true'] at clean
    have all : (rest.takeWhile Line.continues).filter
        (fun line => !shouldIgnore patterns line) = rest.takeWhile Line.continues :=
      List.filter_eq_self.mpr fun line member => by simp [clean.2 line member]
    have none : (rest.takeWhile Line.continues).any (shouldIgnore patterns) = false :=
      List.any_eq_false.mpr fun line member => by simp [clean.2 line member]
    simp [all, none]
  | false =>
    have matched : (rest.takeWhile Line.continues).any (shouldIgnore patterns) = true := by
      simpa [Trace.clean, Trace.lines, relevant, List.all_eq_false] using clean
    simp [matched, Reported.add]

/-- The loops report the collected traces without an ignored line, the first one for each first
line. -/
theorem extractLoop_eq (patterns : List (List Char)) (reported : Reported) (lines : List Line) :
    (extractLoop patterns reported lines).callTraces = reported.callTraces ++
      (firstBy Trace.header reported.uniqueTraces
        ((collectedTraces patterns false lines).filter (Trace.clean patterns))).map
          Trace.text := by
  fun_induction extractLoop patterns reported lines with
  | case1 reported => simp [collectedTraces, firstBy]
  | case2 reported line rest starts collected inductionHypothesis =>
    have relevant : shouldIgnore patterns line = false := by
      simpa using (Bool.and_eq_true_iff.mp starts).2
    have left : collected.remaining = rest.dropWhile Line.continues := by
      simp only [collected, collect_eq]
    have traces : collectedTraces patterns false (line :: rest) =
        ⟨line, rest.takeWhile Line.continues⟩ :: collectedTraces patterns true rest := by
      simp [collectedTraces, starts]
    rw [inductionHypothesis, left, collectedTraces_dropWhile, traces, add_collect relevant,
      List.filter_cons]
    split
    · rw [firstBy, Reported.add]
      split
      · rfl
      · rw [List.map_cons, List.append_assoc]
        rfl
    · rfl
  | case3 reported line rest other inductionHypothesis =>
    rw [inductionHypothesis, collectedTraces]
    simp [other]

end AvocadoMisc.StressngMem.CallTraces
