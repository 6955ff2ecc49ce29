import AvocadoMisc.Library.Groups
import AvocadoMisc.Library.Parts
import AvocadoMisc.Library.Regexes
import AvocadoMisc.Library.Scanning
import AvocadoMisc.Library.Text

/-!
# The early exit of the function graph scanner

`_search_module_functions_in_trace` of `function_graph_retval.py` collects the functions of the
test module that a trace has return values of. With `max_samples` it stops at a function of the
module, once it saw so many return values and `test_retval_init` is among the functions.
`_verify_return_values` scans with `max_samples=100`. Its failures depend on more than the early
exit waits for: on a brace, and on four helper functions.

What `\w` stands for in the pattern is a parameter.
-/

namespace AvocadoMisc.FunctionGraph.EarlyExit

open Library.Groups Library.Parts Library.Regexes Library.Scanning
open Library.Text (charSpace strip contains)

/-- A text. -/
abbrev Text := List Char

variable (wordChar : Char → Bool)

/-! ### The scanner -/

/-- What `[0-9a-fA-F]` stands for. -/
def hexDigit (c : Char) : Bool :=
  c.isDigit || ('a' ≤ c && c ≤ 'f') || ('A' ≤ c && c ≤ 'F')

/-- The name in front of the return value, with the module in brackets or without it. -/
def namePattern : Regex Char :=
  sequence [.group 1 (some1 wordChar),
    .opt (sequence [some1 charSpace, literal ['['], some1 wordChar, literal [']']]),
    .many charSpace]

/-- The return value. -/
def valuePattern : Regex Char :=
  .alt (sequence [literal ['0', 'x'], some1 hexDigit])
    (sequence [.opt (.one (· == '-')), some1 Char.isDigit])

/-- `retval_pattern`. -/
def retvalPattern : Regex Char :=
  sequence [literal ['/', '*'], .many charSpace, .opt (namePattern wordChar), literal ['='],
    .many charSpace, .group 2 valuePattern, .many charSpace, literal ['*', '/']]

/-- A return value in a trace. -/
structure Retval where
  funcName : Text
  retval : Text

/-- The return value in a line. -/
def retvalOf (line : Text) : Option Retval :=
  (search (retvalPattern wordChar) line).map fun groups =>
    { funcName := if (groups 1).getD [] = [] then "anonymous".toList else (groups 1).getD []
      retval := (groups 2).getD [] }

/-- Where a function of the module was found. -/
structure Occurrence where
  lineNum : Nat
  value : Text
  fullLine : Text

/-- What the scanner collects. -/
structure Scan where
  foundModuleFunctions : List (Text × List Occurrence)
  retvalCount : Nat
  hasGraphOutput : Bool
  linesScanned : Nat

/-- Whether a function is one of the module. -/
def isModuleFunction (funcName : Text) : Bool := contains "test_retval".toList funcName

/-- The function that has to be found. -/
def testRetvalInit : Text := "test_retval_init".toList

/-- Whether a line has a brace in it. -/
def hasBrace (line : Text) : Bool := line.contains '\x7b' || line.contains '\x7d'

/-- A function was found in a line. -/
def Scan.found (scan : Scan) (line : Text) (match_ : Retval) : Scan :=
  { scan with
    foundModuleFunctions := add match_.funcName
      { lineNum := scan.linesScanned, value := match_.retval, fullLine := strip charSpace line }
      scan.foundModuleFunctions }

/-- One line. -/
def Scan.line (scan : Scan) (line : Text) : Scan :=
  let scan := { scan with
    linesScanned := scan.linesScanned + 1
    hasGraphOutput := scan.hasGraphOutput || hasBrace line }
  match retvalOf wordChar line with
  | none => scan
  | some match_ =>
    let scan := { scan with retvalCount := scan.retvalCount + 1 }
    if isModuleFunction match_.funcName then scan.found line match_ else scan

/-- Whether a function of the module is found in a line. -/
def findsFunction (line : Text) : Bool :=
  match retvalOf wordChar line with
  | none => false
  | some match_ => isModuleFunction match_.funcName

/-- Whether a function is in the dictionary. -/
def Scan.has (scan : Scan) (funcName : Text) : Bool :=
  (scan.foundModuleFunctions.lookup funcName).isSome

/-- The early exit, after a line with a function of the module. Zero samples are no limit. -/
def earlyExit (maxSamples : Option Nat) (scan : Scan) (line : Text) : Bool :=
  match maxSamples with
  | none => false
  | some samples =>
    findsFunction wordChar line && samples != 0 && decide (samples ≤ scan.retvalCount) &&
      scan.has testRetvalInit

/-- Nothing was scanned. -/
def Scan.start : Scan := ⟨[], 0, false, 0⟩

/-- `_search_module_functions_in_trace`. -/
def searchModuleFunctionsInTrace (traceOutput : Text) (maxSamples : Option Nat) : Scan :=
  if traceOutput = [] then .start
  else
    foldUntil (Scan.line wordChar) (earlyExit wordChar maxSamples) (traceOutput.splitOn '\n') .start

/-! ### The verdict -/

/-- The functions that have to be found beside `test_retval_init`. -/
def expectedFuncs : List Text :=
  ["test_retval_func".toList, "test_retval_large".toList, "test_retval_zero".toList,
    "test_retval_negative".toList]

/-- `', '.join`. -/
def joinNames (names : List Text) : Text := [',', ' '].intercalate names

/-- The helper functions that were not found. -/
def Scan.missingFuncs (scan : Scan) : List Text :=
  expectedFuncs.filter fun funcName => !scan.has funcName

/-- The failure for the helper functions. -/
def missingFailures : List Text → List Text
  | [] => []
  | name :: others =>
    ["Helper functions with noinline attribute not found in trace: ".toList ++
      joinNames (name :: others)]

/-- The failures for the functions of the module. -/
def Scan.functionFailures (scan : Scan) : List Text :=
  if scan.foundModuleFunctions.isEmpty then
    ["Test module functions not found in trace - module may not have been traced".toList]
  else
    (if scan.has testRetvalInit then []
      else ["Required function test_retval_init not found in trace".toList]) ++
    missingFailures scan.missingFuncs

/-- The failures that are recorded after the scan. -/
def Scan.failures (scan : Scan) : List Text :=
  (if scan.hasGraphOutput then []
    else ["No function graph tracer output - check if tracer is working".toList]) ++
  (if 0 < scan.retvalCount then [] else ["No return values found in trace output".toList]) ++
  scan.functionFailures ++
  if scan.retvalCount = 0 then
    ["No return values found - funcgraph-retval may not be working".toList]
  else if scan.has testRetvalInit then []
  else ["Required test_retval_init function not found in trace".toList]

/-- `_verify_return_values`, with `max_samples=100` in the place of the parameter. -/
def verifyReturnValues (maxSamples : Option Nat) (traceOutput : Text) (failures : List Text) :
    List Text :=
  if traceOutput = [] then failures ++ ["No trace output to verify".toList]
  else failures ++ (searchModuleFunctionsInTrace wordChar traceOutput maxSamples).failures

/-! ### When the early exit is harmless -/

/-- The functions of the module in some lines. -/
def functionsIn (lines : List Text) : List Text :=
  ((lines.filterMap (retvalOf wordChar)).map Retval.funcName).filter isModuleFunction

/-- The lines with a return value. -/
def retvalLines (lines : List Text) : List Text :=
  lines.filter fun line => (retvalOf wordChar line).isSome

/-- The scanner may stop after these lines: the last one has a function of the module, there are
a hundred return values, and `test_retval_init` is among the functions. -/
structure Exits (seen : List Text) : Prop where
  last : ∃ before line, seen = before ++ [line] ∧ findsFunction wordChar line = true
  samples : 100 ≤ (retvalLines wordChar seen).length
  init : testRetvalInit ∈ functionsIn wordChar seen

/-- Wherever the scanner may stop, the lines after it have nothing new for the verdict. -/
structure Settled (lines : List Text) : Prop where
  graph : ∀ seen rest, lines = seen ++ rest → Exits wordChar seen →
    (∃ line ∈ rest, hasBrace line = true) → ∃ line ∈ seen, hasBrace line = true
  helpers : ∀ seen rest, lines = seen ++ rest → Exits wordChar seen →
    ∀ funcName ∈ expectedFuncs, funcName ∈ functionsIn wordChar rest →
      funcName ∈ functionsIn wordChar seen

/-- The scan of some lines. -/
def scanOf (lines : List Text) : Scan := lines.foldl (Scan.line wordChar) .start

/-- One more line. -/
theorem scanOf_concat (lines : List Text) (line : Text) :
    scanOf wordChar (lines ++ [line]) = (scanOf wordChar lines).line wordChar line := by
  rw [scanOf, List.foldl_append, List.foldl_cons, List.foldl_nil, scanOf]

/-- The functions in some lines, and in one more. -/
theorem mem_functionsIn_append {funcName : Text} {first second : List Text} :
    funcName ∈ functionsIn wordChar (first ++ second) ↔
      funcName ∈ functionsIn wordChar first ∨ funcName ∈ functionsIn wordChar second := by
  simp only [functionsIn, List.filterMap_append, List.map_append, List.filter_append,
    List.mem_append]

/-- Adding to a dictionary. -/
theorem has_found {scan : Scan} {line funcName : Text} {match_ : Retval} :
    (scan.found line match_).has funcName = true ↔
      scan.has funcName = true ∨ funcName = match_.funcName := by
  unfold Scan.has Scan.found
  rw [lookup_add]
  split
  case isTrue same => simp [same]
  case isFalse differs => simp [differs]

/-- What a line changes in the dictionary. -/
theorem has_line {scan : Scan} {line funcName : Text} :
    (scan.line wordChar line).has funcName = true ↔
      scan.has funcName = true ∨ funcName ∈ functionsIn wordChar [line] := by
  unfold Scan.line
  cases found : retvalOf wordChar line with
  | none => simp [functionsIn, found, Scan.has]
  | some match_ =>
    by_cases ofModule : isModuleFunction match_.funcName = true
    · simp only [ofModule, if_true, has_found]
      simp [functionsIn, found, ofModule, Scan.has]
    · simp [functionsIn, found, ofModule, Scan.has]

/-- The dictionary has the functions that are in the lines. -/
theorem has_scanOf {lines : List Text} {funcName : Text} :
    (scanOf wordChar lines).has funcName = true ↔ funcName ∈ functionsIn wordChar lines := by
  induction lines using List.reverseRecOn with
  | nil => simp [scanOf, Scan.has, Scan.start, functionsIn]
  | append_singleton lines line inductionHypothesis =>
    rw [scanOf_concat, has_line, inductionHypothesis, mem_functionsIn_append]

/-- The counter has the number of return values. -/
theorem retvalCount_scanOf (lines : List Text) :
    (scanOf wordChar lines).retvalCount = (retvalLines wordChar lines).length := by
  induction lines using List.reverseRecOn with
  | nil => rfl
  | append_singleton lines line inductionHypothesis =>
    rw [scanOf_concat, retvalLines, List.filter_append, List.length_append, ← retvalLines,
      ← inductionHypothesis]
    unfold Scan.line
    cases found : retvalOf wordChar line with
    | none => simp [found]
    | some match_ => simp only [Scan.found]; split <;> simp [found]

/-- The flag says whether there was a brace. -/
theorem hasGraphOutput_scanOf (lines : List Text) :
    (scanOf wordChar lines).hasGraphOutput = true ↔ ∃ line ∈ lines, hasBrace line = true := by
  induction lines using List.reverseRecOn with
  | nil => simp [scanOf, Scan.start]
  | append_singleton lines line inductionHypothesis =>
    have flag : ((scanOf wordChar lines).line wordChar line).hasGraphOutput =
        ((scanOf wordChar lines).hasGraphOutput || hasBrace line) := by
      unfold Scan.line
      cases retvalOf wordChar line with
      | none => rfl
      | some match_ => simp only [Scan.found]; split <;> rfl
    rw [scanOf_concat, flag, Bool.or_eq_true, inductionHypothesis]
    simp [or_and_right, exists_or]

/-- The scanner may stop where the conditions for it are met. -/
theorem mayStop_iff {seen : List Text} :
    MayStop (Scan.line wordChar) (earlyExit wordChar (some 100)) .start seen ↔
      Exits wordChar seen := by
  have condition : ∀ line, earlyExit wordChar (some 100) (scanOf wordChar seen) line = true ↔
      findsFunction wordChar line = true ∧ 100 ≤ (retvalLines wordChar seen).length ∧
        testRetvalInit ∈ functionsIn wordChar seen := by
    intro line
    rw [← retvalCount_scanOf, ← has_scanOf]
    simp [earlyExit, and_assoc]
  constructor
  · rintro ⟨before, line, split, stops⟩
    obtain ⟨finds, samples, init⟩ := (condition line).mp stops
    exact ⟨⟨before, line, split, finds⟩, samples, init⟩
  · rintro ⟨⟨before, line, split, finds⟩, samples, init⟩
    exact ⟨before, line, split, (condition line).mpr ⟨finds, samples, init⟩⟩

/-- A scan without a limit is that of all lines. -/
theorem search_none {traceOutput : Text} (something : traceOutput ≠ []) :
    searchModuleFunctionsInTrace wordChar traceOutput none =
      scanOf wordChar (traceOutput.splitOn '\n') := by
  rw [searchModuleFunctionsInTrace, if_neg something, scanOf]
  exact foldUntil_never (fun _ _ => rfl) _ _

/-- The failures of a scan that found `test_retval_init`. -/
theorem failures_of_init {scan : Scan} (counted : 0 < scan.retvalCount)
    (init : scan.has testRetvalInit = true) :
    scan.failures =
      (if scan.hasGraphOutput then []
        else ["No function graph tracer output - check if tracer is working".toList]) ++
      missingFailures scan.missingFuncs := by
  have something : scan.foundModuleFunctions.isEmpty = false := by
    cases functions : scan.foundModuleFunctions with
    | nil => simp [Scan.has, functions] at init
    | cons _ _ => rfl
  have some_count : scan.retvalCount ≠ 0 := by omega
  unfold Scan.failures Scan.functionFailures
  rw [if_pos counted, if_neg some_count, something, if_neg Bool.false_ne_true, init, if_pos rfl,
    if_pos rfl]
  simp only [List.nil_append, List.append_nil]

/-- Joined names of helper functions tell which functions they are. -/
theorem joinNames_injective {first second : List Text} (one : first.Sublist expectedFuncs)
    (other : second.Sublist expectedFuncs) (same : joinNames first = joinNames second) :
    first = second := by
  have flat : ∀ funcName ∈ expectedFuncs, funcName ≠ [] ∧ ',' ∉ funcName := by decide +kernel
  exact intercalate_injective [' '] (fun funcName member => flat funcName (one.subset member))
    (fun funcName member => flat funcName (other.subset member)) same

/-- The failure for the helper functions tells which were missing. -/
theorem missingFailures_injective {first second : List Text} (one : first.Sublist expectedFuncs)
    (other : second.Sublist expectedFuncs) (same : missingFailures first = missingFailures second) :
    first = second := by
  cases first with
  | nil =>
    cases second with
    | nil => rfl
    | cons _ _ => cases same
  | cons name names =>
    cases second with
    | nil => cases same
    | cons _ _ =>
      exact joinNames_injective one other (List.append_cancel_left (List.singleton_inj.mp same))

/-- There is one failure for the helper functions, or none. -/
theorem length_missingFailures (missing : List Text) :
    (missingFailures missing).length = if missing = [] then 0 else 1 := by
  cases missing <;> simp [missingFailures]

/-- The same helper functions are missing exactly when the same were found. -/
theorem missingFuncs_eq_iff {first second : Scan} :
    first.missingFuncs = second.missingFuncs ↔
      ∀ funcName ∈ expectedFuncs, (first.has funcName = true ↔ second.has funcName = true) := by
  constructor
  · intro same funcName expected
    have missing : funcName ∈ first.missingFuncs ↔ funcName ∈ second.missingFuncs := by rw [same]
    simpa [Scan.missingFuncs, expected] using not_congr missing
  · intro same
    refine List.filter_congr fun funcName expected => ?_
    rw [Bool.eq_iff_iff.mpr (same funcName expected)]

/-- A scan that goes on finds no less. It has the same failures exactly when it brings no first
brace and no helper function that was missing. -/
theorem failures_eq_iff_same {first second : Scan} (counted : 0 < first.retvalCount)
    (init : first.has testRetvalInit = true) (countedMore : 0 < second.retvalCount)
    (initMore : second.has testRetvalInit = true)
    (graphMore : first.hasGraphOutput = true → second.hasGraphOutput = true)
    (foundMore : first.missingFuncs = [] → second.missingFuncs = []) :
    first.failures = second.failures ↔
      (second.hasGraphOutput = true → first.hasGraphOutput = true) ∧
        first.missingFuncs = second.missingFuncs := by
  have messages : missingFailures first.missingFuncs = missingFailures second.missingFuncs ↔
      first.missingFuncs = second.missingFuncs :=
    ⟨missingFailures_injective List.filter_sublist List.filter_sublist, fun same => by rw [same]⟩
  rw [failures_of_init counted init, failures_of_init countedMore initMore]
  cases before : first.hasGraphOutput with
  | true =>
    rw [graphMore before, if_pos rfl, List.append_cancel_left_eq, messages]
    exact ⟨fun same => ⟨fun _ => rfl, same⟩, And.right⟩
  | false =>
    cases later : second.hasGraphOutput with
    | false =>
      rw [List.append_cancel_left_eq, messages]
      exact ⟨fun same => ⟨fun brace => brace, same⟩, And.right⟩
    | true =>
      -- a brace that comes later takes a failure away, and no other failure comes in its place
      constructor
      · intro same
        have lengths := congrArg List.length same
        simp only [List.length_append, length_missingFailures] at lengths
        split_ifs at lengths with none noneMore <;> simp_all
      · rintro ⟨flagged, -⟩
        exact absurd (flagged rfl) Bool.false_ne_true

/-- Lines after which the scanner may stop, and all lines, give the same failures exactly when the
other lines have nothing new. -/
theorem failures_eq_iff {seen rest : List Text} (exits : Exits wordChar seen) :
    (scanOf wordChar seen).failures = (scanOf wordChar (seen ++ rest)).failures ↔
      ((∃ line ∈ rest, hasBrace line = true) → ∃ line ∈ seen, hasBrace line = true) ∧
        ∀ funcName ∈ expectedFuncs, funcName ∈ functionsIn wordChar rest →
          funcName ∈ functionsIn wordChar seen := by
  have counted : 0 < (scanOf wordChar seen).retvalCount := by
    rw [retvalCount_scanOf]
    have samples := exits.samples
    omega
  have countedAll : 0 < (scanOf wordChar (seen ++ rest)).retvalCount := by
    rw [retvalCount_scanOf] at counted ⊢
    rw [retvalLines, List.filter_append, List.length_append]
    exact Nat.lt_add_right _ counted
  have init := (has_scanOf wordChar).mpr exits.init
  have initAll : (scanOf wordChar (seen ++ rest)).has testRetvalInit = true :=
    (has_scanOf wordChar).mpr ((mem_functionsIn_append wordChar).mpr (Or.inl exits.init))
  have flag := hasGraphOutput_scanOf wordChar seen
  have flagAll := hasGraphOutput_scanOf wordChar (seen ++ rest)
  simp only [List.mem_append, or_and_right, exists_or, ← flag] at flagAll
  have foundAll : (scanOf wordChar seen).missingFuncs = [] →
      (scanOf wordChar (seen ++ rest)).missingFuncs = [] := by
    simp only [Scan.missingFuncs, List.filter_eq_nil_iff, Bool.not_eq_true', Bool.not_eq_false,
      has_scanOf, mem_functionsIn_append]
    exact fun complete funcName expected => Or.inl (complete funcName expected)
  rw [failures_eq_iff_same counted init countedAll initAll
    (fun before => flagAll.mpr (Or.inl before)) foundAll, flagAll, ← flag, missingFuncs_eq_iff]
  simp only [has_scanOf, mem_functionsIn_append, iff_self_or, or_imp, imp_self, true_and]

/-- The scanner stops after the fewest lines after which it may, or after all. -/
theorem search_cases {traceOutput : Text} (something : traceOutput ≠ []) :
    (∃ seen rest, traceOutput.splitOn '\n' = seen ++ rest ∧ Exits wordChar seen ∧
      (∀ other, other <+: traceOutput.splitOn '\n' → Exits wordChar other → seen <+: other) ∧
      searchModuleFunctionsInTrace wordChar traceOutput (some 100) = scanOf wordChar seen) ∨
    (∀ seen, seen <+: traceOutput.splitOn '\n' → ¬Exits wordChar seen) ∧
      searchModuleFunctionsInTrace wordChar traceOutput (some 100) =
        scanOf wordChar (traceOutput.splitOn '\n') := by
  have cases := foldUntil_cases (Scan.line wordChar) (earlyExit wordChar (some 100))
    (traceOutput.splitOn '\n') .start
  simp only [mayStop_iff] at cases
  rw [searchModuleFunctionsInTrace, if_neg something]
  rcases cases with ⟨seen, ⟨rest, split⟩, exits, fewest, result⟩ | ⟨never, result⟩
  · exact Or.inl ⟨seen, rest, split.symm, exits, fewest, result⟩
  · exact Or.inr ⟨never, result⟩

/-- When the lines after the first early exit have nothing new, those after a later one have
nothing new either. -/
theorem settled_of_first {lines seen rest : List Text} (split : lines = seen ++ rest)
    (first : ∀ other, other <+: lines → Exits wordChar other → seen <+: other)
    (graph : (∃ line ∈ rest, hasBrace line = true) → ∃ line ∈ seen, hasBrace line = true)
    (helpers : ∀ funcName ∈ expectedFuncs, funcName ∈ functionsIn wordChar rest →
      funcName ∈ functionsIn wordChar seen) : Settled wordChar lines := by
  have between : ∀ other after, lines = other ++ after → Exits wordChar other →
      ∃ middle, other = seen ++ middle ∧ rest = middle ++ after := by
    intro other after splitToo exits
    obtain ⟨middle, rfl⟩ := first other ⟨after, splitToo.symm⟩ exits
    refine ⟨middle, rfl, ?_⟩
    rw [split, List.append_assoc] at splitToo
    exact List.append_cancel_left splitToo
  constructor
  case graph =>
    rintro other after splitToo exits ⟨line, member, brace⟩
    obtain ⟨middle, rfl, rfl⟩ := between other after splitToo exits
    obtain ⟨earlier, inSeen, also⟩ := graph ⟨line, List.mem_append_right _ member, brace⟩
    exact ⟨earlier, List.mem_append_left _ inSeen, also⟩
  case helpers =>
    intro other after splitToo exits funcName expected found
    obtain ⟨middle, rfl, rfl⟩ := between other after splitToo exits
    exact (mem_functionsIn_append wordChar).mpr (Or.inl (helpers funcName expected
      ((mem_functionsIn_append wordChar).mpr (Or.inr found))))

/-- The failures are those of a scan without a limit exactly when nothing new comes after an early
exit.

The trace is any text, and the letters of a name may be any set of characters. Only the limit of 100
samples, which the source uses, is compared.

Proof: a scan that stops has read a part of the lines from the front, so the verdicts differ exactly
when the rest would have added something. -/
theorem verify_eq_iff_settled (traceOutput : Text) (failures : List Text) :
    verifyReturnValues wordChar (some 100) traceOutput failures =
        verifyReturnValues wordChar none traceOutput failures ↔
      Settled wordChar (traceOutput.splitOn '\n') := by
  by_cases nothing : traceOutput = []
  · -- an empty trace is one line, and an early exit comes after a hundred
    subst nothing
    refine ⟨fun _ => ?_, fun _ => rfl⟩
    have tooShort : ∀ seen rest, [[]] = seen ++ rest → ¬Exits wordChar seen := by
      intro seen rest split exits
      have short := congrArg List.length split
      have samples := exits.samples
      have fewer : (retvalLines wordChar seen).length ≤ seen.length := List.length_filter_le _ _
      rw [List.length_append, List.length_singleton] at short
      omega
    exact ⟨fun seen rest split exits => absurd exits (tooShort seen rest split),
      fun seen rest split exits => absurd exits (tooShort seen rest split)⟩
  · rw [verifyReturnValues, verifyReturnValues, if_neg nothing, if_neg nothing,
      List.append_cancel_left_eq, search_none wordChar nothing]
    rcases search_cases wordChar nothing with ⟨seen, rest, split, exits, first, result⟩ |
      ⟨never, result⟩
    · rw [result, split, failures_eq_iff wordChar exits]
      rw [split] at first
      constructor
      · rintro ⟨graph, helpers⟩
        exact settled_of_first wordChar rfl first graph helpers
      · intro settled
        exact ⟨settled.graph seen rest rfl exits, settled.helpers seen rest rfl exits⟩
    · rw [result]
      refine ⟨fun _ => ?_, fun _ => rfl⟩
      exact ⟨fun seen rest split exits => absurd exits (never seen ⟨rest, split.symm⟩),
        fun seen rest split exits => absurd exits (never seen ⟨rest, split.symm⟩)⟩

/-- What `\w` stands for among the characters of ASCII. -/
def asciiWord (c : Char) : Bool := c.isAlphanum || c == '_'

/-- A trace in which the hundredth return value is that of `test_retval_init`, and the helper
functions come after it. -/
def lateHelpers : Text :=
  (List.replicate 99 "/* = 0 */\n".toList).flatten ++ "\x7d /* test_retval_init = 0 */\n".toList ++
    "/* test_retval_func = 0 */\n/* test_retval_large = 0 */\n".toList ++
    "/* test_retval_zero = 0 */\n/* test_retval_negative = 0 */\n".toList

/-- The helper functions are reported as missing, and a scan without a limit finds them. -/
theorem late_helpers_missed :
    verifyReturnValues asciiWord (some 100) lateHelpers [] =
        missingFailures expectedFuncs ∧
      verifyReturnValues asciiWord none lateHelpers [] = [] ∧
      ¬ ∀ traceOutput failures, verifyReturnValues asciiWord (some 100) traceOutput failures =
        verifyReturnValues asciiWord none traceOutput failures := by
  have limited : verifyReturnValues asciiWord (some 100) lateHelpers [] =
      missingFailures expectedFuncs := by decide +kernel
  have complete : verifyReturnValues asciiWord none lateHelpers [] = [] := by decide +kernel
  refine ⟨limited, complete, fun all => ?_⟩
  have same := all lateHelpers []
  rw [limited, complete] at same
  cases same

end AvocadoMisc.FunctionGraph.EarlyExit
