import Mathlib.Data.List.Nodup
import AvocadoMisc.StressngMem.CallTraces

/-!
# Lost call traces

A call trace begins with its `Call Trace:` line and goes on to the next one, or to the first
line that is not part of it. A timestamp says nothing about that: what counts is the
continuation test on the text after it.

The inner loop tests the line as it is. A line with a timestamp begins with a bracket and
always passes, and so does many a `Call Trace:` line. Then the trace takes up what follows,
and with it an ignore pattern, or it hides the traces that begin in there. And the outer loop
tells traces apart by their first lines alone.
-/

namespace AvocadoMisc.StressngMem.LostTraces

open Library.Scanning CallTraces
open Library.Text (charSpace contains strip)

/-- What a timestamp in brackets consists of. -/
def isStamp (c : Char) : Bool := c.isAlphanum || c = ' ' || c = '.' || c = ':'

/-- The text without the timestamp at its start. -/
def unstamped (text : List Char) : List Char :=
  match text with
  | '[' :: rest =>
    match rest.dropWhile isStamp with
    | ']' :: ' ' :: message => message
    | _ => text
  | _ => text

/-- Whether a line after a `Call Trace:` line is part of its trace. -/
def inTrace (line : Line) : Bool := continues (unstamped line.text) && !isHeader line

/-- The traces of a log, in order. -/
def traces : List Line → List Trace
  | [] => []
  | line :: rest =>
    if isHeader line then ⟨line, rest.takeWhile inTrace⟩ :: traces rest else traces rest

/-- The traces without an ignored line. -/
def cleanTraces (patterns : List (List Char)) (lines : List Line) : List Trace :=
  (traces lines).filter (Trace.clean patterns)

/-- Exactly the distinct clean traces are reported, in the order of the log. -/
def Reports (patterns : List (List Char)) (lines : List Line) : Prop :=
  extractCallTraces patterns lines = (cleanTraces patterns lines).eraseDups.map Trace.text

/-- Some of the lines fails the continuation test. -/
def Separated (lines : List Line) : Prop := ∃ line ∈ lines, line.continues = false

/-- A clean trace that begins here stands alone: no `Call Trace:` line before it goes on up to
here, and the line after it fails the continuation test. -/
def StandsAlone (patterns : List (List Char)) (before : List Line) (header : Line)
    (after : List Line) : Prop :=
  isHeader header = true → Trace.clean patterns ⟨header, after.takeWhile inTrace⟩ = true →
    AtEvery (fun _ first between => isHeader first = true → shouldIgnore patterns first = false →
      Separated (between ++ [header])) before ∧
    ∀ next, (after.dropWhile inTrace).head? = some next → next.continues = false

/-- Clean traces stand alone, and different ones begin with different lines. -/
structure Undisturbed (patterns : List (List Char)) (lines : List Line) : Prop where
  alone : AtEvery (StandsAlone patterns) lines
  apart : ∀ first ∈ cleanTraces patterns lines, ∀ second ∈ cleanTraces patterns lines,
    first.header = second.header → first = second

/-! ### Lines of a trace -/

/-- What is reported, by the clean traces that are collected. -/
theorem reports_iff (patterns : List (List Char)) (lines : List Line) :
    Reports patterns lines ↔
      firstBy Trace.header []
          ((collectedTraces patterns false lines).filter (Trace.clean patterns)) =
        (cleanTraces patterns lines).eraseDups := by
  rw [Reports, extractCallTraces, extractLoop_eq, List.nil_append]
  exact (List.map_injective_iff.mpr text_injective).eq_iff

end AvocadoMisc.StressngMem.LostTraces
