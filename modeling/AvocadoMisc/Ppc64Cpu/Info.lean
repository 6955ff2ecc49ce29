import Mathlib.Data.Finset.Card
import AvocadoMisc.Library.NumberTexts
import AvocadoMisc.Library.Regexes

/-!
# The cores that `ppc64_cpu --info` prints

A line has the number of a core and its threads, and a thread that is online has a star. The parser
counts the stars of each core, and calls a core online when it has some. It then looks at the
counts of the online cores: one count is the SMT mode, and several are an inconsistent state.

What is printed is a list of lines with any blanks between the parts, so the reader of the text
finds the cores that were printed, whatever the layout.
-/

namespace AvocadoMisc.Ppc64Cpu.Info

open Library.Regexes Library.Numerals
open Library.Text

/-- A text. -/
abbrev Text := List Char

/-- `'Core\s+(\d+):\s+(.*)'`. -/
def corePattern : Regex Char :=
  sequence [literal ['C', 'o', 'r', 'e'], some1 charSpace, .group 1 (some1 (isDigit 10)),
    literal [':'], some1 charSpace, .group 2 (.many (· != '\n'))]

/-- The item of a core: its threads as they are printed, and how many are online. -/
structure CoreItem where
  threads : List Text
  onlineThreads : Nat
  deriving DecidableEq

/-- The core of a line. -/
def coreOf (line : Text) : Option (Nat × CoreItem) :=
  (matchStart corePattern line).map fun groups =>
    let threads := words charSpace (strip charSpace ((groups 2).getD []))
    (value 10 ((groups 1).getD []),
      { threads := threads, onlineThreads := (threads.filter (contains ['*'])).length })

/-- An item of a dictionary is set. A new key comes last. -/
def setItem {β : Type} (key : Nat) (value : β) : List (Nat × β) → List (Nat × β)
  | [] => [(key, value)]
  | (other, old) :: rest =>
    if other = key then (key, value) :: rest else (other, old) :: setItem key value rest

/-- `result`. -/
structure Result where
  cores : List (Nat × CoreItem)
  totalCores : Nat
  onlineCores : List Nat
  offlineCores : List Nat
  actualThreadsPerCore : List (Nat × Nat)
  smtMode : Option Nat
  inconsistent : Bool
  deriving DecidableEq

/-- What the parser begins with. -/
def Result.start : Result := ⟨[], 0, [], [], [], none, false⟩

/-- The body of the loop over the lines. A line that matches is entered under its number, where a
later line of the same number replaces it, and its core is online if a thread is. -/
def Result.line (result : Result) (line : Text) : Result :=
  match coreOf line with
  | none => result
  | some (coreNum, item) =>
    let result := { result with
      cores := setItem coreNum item result.cores
      actualThreadsPerCore :=
        setItem coreNum item.onlineThreads result.actualThreadsPerCore }
    if item.onlineThreads > 0 then
      { result with onlineCores := result.onlineCores ++ [coreNum] }
    else { result with offlineCores := result.offlineCores ++ [coreNum] }

/-- `unique_thread_counts`. -/
def Result.uniqueThreadCounts (result : Result) : List Nat :=
  (result.onlineCores.filterMap fun core => result.actualThreadsPerCore.lookup core).dedup

/-- What comes after the loop. -/
def Result.finish (result : Result) : Result :=
  let result := { result with totalCores := result.cores.length }
  if result.onlineCores ≠ [] then
    match result.uniqueThreadCounts with
    | [] => result
    | [count] => { result with smtMode := some count }
    | _ :: _ :: _ => { result with inconsistent := true }
  else result

/-- `parse_ppc64_cpu_info`, from the output of the command. -/
def parsePpc64CpuInfo (infoOutput : Text) : Result :=
  ((charLines (strip charSpace infoOutput)).foldl Result.line .start).finish

/-! ### What is printed -/

/-- The line of a core: its number and its threads, with white space of any length around them. -/
structure CoreLine where
  gap : Text
  number : Nat
  space : Text
  threads : Text
  blankGap : Blank charSpace gap
  gapped : gap ≠ []
  blankSpace : Blank charSpace space
  spaced : space ≠ []
  solid : ∀ c ∈ threads.head?, charSpace c = false
  unbroken : '\n' ∉ threads

/-- The line as it is printed. -/
def CoreLine.text (line : CoreLine) : Text :=
  ['C', 'o', 'r', 'e'] ++
    (line.gap ++ (decimal line.number ++ ([':'] ++ (line.space ++ line.threads))))

/-- The item of the line's core. -/
def CoreLine.item (line : CoreLine) : CoreItem :=
  { threads := words charSpace line.threads
    onlineThreads := ((words charSpace line.threads).filter (contains ['*'])).length }

/-- A line of the output: one with a core, or one that the parser skips. -/
inductive Line where
  | core (line : CoreLine)
  | skipped (text : Text) (skips : coreOf text = none)

/-- The line as it is printed. -/
def Line.text : Line → Text
  | .core line => line.text
  | .skipped text _ => text

/-- The core of the line. -/
def Line.core? : Line → Option CoreLine
  | .core line => some line
  | .skipped _ _ => none

/-- The cores of some lines. -/
def coreLines (lines : List Line) : List CoreLine := lines.filterMap Line.core?

/-- An output has these lines, and no core twice. -/
structure Prints (infoOutput : Text) (lines : List Line) : Prop where
  printed : charLines (strip charSpace infoOutput) = lines.map Line.text
  distinct : ((coreLines lines).map CoreLine.number).Nodup

/-- The groups that the pattern finds in the line of a core. -/
def CoreLine.groups (line : CoreLine) : Captured Char :=
  Function.update (Function.update (fun _ => none) 1 (some (decimal line.number))) 2
    (some line.threads)

/-- The pattern matches the line of a core, and its groups are the number and the text about the
threads. The parts are taken from the end of the line to its beginning. -/
theorem matchStart_text (line : CoreLine) :
    matchStart corePattern line.text = some line.groups := by
  have digit : ∀ c ∈ decimal line.number, isDigit 10 c = true := fun c member =>
    isDigit_ten_iff.mpr (decimal_digits line.number c member)
  obtain ⟨first, others, digits⟩ := List.exists_cons_of_ne_nil (decimal_isWord line.number).1
  have noBlank : ∀ c ∈ (decimal line.number ++ ([':'] ++ (line.space ++ line.threads))).head?,
      charSpace c = false := by
    intro c isFirst
    have same : first = c := by simpa [digits] using isFirst
    exact same ▸ (decimal_isWord line.number).2 first (by simp [digits])
  have onLine : ∀ c ∈ line.threads, (c != '\n') = true := fun c member =>
    bne_iff_ne.mpr (ne_of_mem_of_not_mem member line.unbroken)
  let numbered : Captured Char := Function.update (fun _ => none) 1 (some (decimal line.number))
  -- the parts are put together from the end of the line to its beginning
  have threads : Takes (sequence [.group 2 (.many (· != '\n'))]) numbered line.threads []
      line.groups := Takes.single (Takes.group (Takes.many onLine (by simp)))
  have space : Takes (sequence [some1 charSpace, .group 2 (.many (· != '\n'))]) numbered
      (line.space ++ line.threads) [] line.groups :=
    Takes.cons (Takes.some1 line.spaced line.blankSpace (by simpa using line.solid)) threads
  have colon := Takes.cons (Takes.literal [':']) space
  have counted : Takes (.group 1 (some1 (isDigit 10))) (fun _ => none) (decimal line.number)
      ([':'] ++ (line.space ++ line.threads) ++ []) numbered :=
    Takes.group (Takes.some1 (decimal_isWord line.number).1 digit (by simp [isDigit, digitValue]))
  have number := Takes.cons counted colon
  have gap := Takes.cons (Takes.some1 line.gapped line.blankGap (by simpa using noBlank)) number
  have taken : Takes corePattern (fun _ => none) line.text [] line.groups :=
    Takes.cons (Takes.literal ['C', 'o', 'r', 'e']) gap
  simpa using taken.matchStart

/-- The line of a core is read. -/
theorem coreOf_text (line : CoreLine) : coreOf line.text = some (line.number, line.item) := by
  rw [coreOf, matchStart_text, Option.map_some]
  simp [CoreLine.groups, CoreLine.item, Library.Text.words_strip, value_decimal]

/-! ### What the parser finds -/

/-- A new key comes last. -/
theorem setItem_new {β : Type} {key : Nat} {value : β} {items : List (Nat × β)}
    (absent : key ∉ items.map Prod.fst) : setItem key value items = items ++ [(key, value)] := by
  induction items with
  | nil => rfl
  | cons item rest inductionHypothesis =>
    obtain ⟨other, old⟩ := item
    obtain ⟨differs, further⟩ : key ≠ other ∧ key ∉ rest.map Prod.fst := by simpa using absent
    rw [setItem, if_neg differs.symm, inductionHypothesis further, List.cons_append]

/-- What the loop has read after some lines. -/
def readLines (cores : List CoreLine) : Result where
  cores := cores.map fun line => (line.number, line.item)
  totalCores := 0
  onlineCores := (cores.filter fun line => line.item.onlineThreads > 0).map CoreLine.number
  offlineCores := (cores.filter fun line => line.item.onlineThreads = 0).map CoreLine.number
  actualThreadsPerCore := cores.map fun line => (line.number, line.item.onlineThreads)
  smtMode := none
  inconsistent := false

/-- The line of a core that was not printed before. -/
theorem line_readLines {cores : List CoreLine} {line : CoreLine}
    (absent : line.number ∉ cores.map CoreLine.number) :
    (readLines cores).line line.text = readLines (cores ++ [line]) := by
  have items : setItem line.number line.item (readLines cores).cores =
      (readLines (cores ++ [line])).cores := by
    rw [setItem_new (by simpa [readLines] using absent)]
    simp [readLines]
  have counts : setItem line.number line.item.onlineThreads (readLines cores).actualThreadsPerCore =
      (readLines (cores ++ [line])).actualThreadsPerCore := by
    rw [setItem_new (by simpa [readLines] using absent)]
    simp [readLines]
  simp only [Result.line, coreOf_text, items, counts]
  by_cases online : line.item.onlineThreads > 0
  · have notOffline : line.item.onlineThreads ≠ 0 := Nat.ne_of_gt online
    simp [readLines, online, notOffline]
  · have offline : line.item.onlineThreads = 0 := Nat.eq_zero_of_not_pos online
    simp [readLines, offline]

/-- The loop reads every core once. -/
theorem foldl_line {lines : List Line} (distinct : ((coreLines lines).map CoreLine.number).Nodup) :
    (lines.map Line.text).foldl Result.line .start = readLines (coreLines lines) := by
  induction lines using List.reverseRecOn with
  | nil => rfl
  | append_singleton earlier line inductionHypothesis =>
    have split : coreLines (earlier ++ [line]) = coreLines earlier ++ line.core?.toList := by
      cases line <;> simp [coreLines, Line.core?]
    rw [split, List.map_append, List.nodup_append] at distinct
    rw [List.map_append, List.foldl_append, inductionHypothesis distinct.1, split]
    cases line with
    | skipped text skips => simp [Result.line, Line.text, Line.core?, skips]
    | core line =>
      refine line_readLines fun member => ?_
      exact distinct.2.2 _ member line.number (by simp [Line.core?]) rfl

/-- The counts of the online cores, each once. -/
def onlineCounts (cores : List CoreLine) : List Nat :=
  ((cores.map fun line => line.item.onlineThreads).filter (0 < ·)).dedup

/-- What the parser makes of some cores. -/
def summary (cores : List CoreLine) : Result :=
  { readLines cores with
    totalCores := cores.length
    smtMode := if (onlineCounts cores).length = 1 then (onlineCounts cores).head? else none
    inconsistent := decide (1 < (onlineCounts cores).length) }

/-- The counts that are compared are those of the online cores. The numbers of the cores are the
keys under which the counts are looked up, so they must be distinct. -/
theorem uniqueThreadCounts_readLines {cores : List CoreLine}
    (distinct : (cores.map CoreLine.number).Nodup) :
    (readLines cores).uniqueThreadCounts = onlineCounts cores := by
  have found (line : CoreLine) (member : line ∈ cores) :
      (readLines cores).actualThreadsPerCore.lookup line.number =
        some line.item.onlineThreads := by
    obtain ⟨front, back, rfl⟩ := List.append_of_mem member
    refine List.lookup_eq_some_iff.mpr ⟨front.map fun line =>
      (line.number, line.item.onlineThreads), back.map fun line =>
      (line.number, line.item.onlineThreads), by simp [readLines], ?_⟩
    intro item inFront
    obtain ⟨other, inCores, rfl⟩ := List.mem_map.mp inFront
    rw [List.map_append, List.map_cons, List.nodup_append] at distinct
    have differs := distinct.2.2 other.number (List.mem_map_of_mem inCores) line.number (by simp)
    simpa using differs.symm
  rw [Result.uniqueThreadCounts, onlineCounts]
  congr 1
  calc (readLines cores).onlineCores.filterMap
        (fun core => (readLines cores).actualThreadsPerCore.lookup core)
      = (cores.filter fun line => line.item.onlineThreads > 0).filterMap
          fun line => some line.item.onlineThreads := by
        rw [readLines, List.filterMap_map]
        exact List.filterMap_congr fun line member => found line (List.mem_of_mem_filter member)
    _ = (cores.map fun line => line.item.onlineThreads).filter (0 < ·) := by
        rw [List.filterMap_eq_map', List.filter_map]
        rfl

/-- Without an online core there are no counts. -/
theorem onlineCounts_eq_nil {cores : List CoreLine} (offline : (readLines cores).onlineCores = []) :
    onlineCounts cores = [] := by
  have none : cores.filter (fun line => line.item.onlineThreads > 0) = [] :=
    List.map_eq_nil_iff.mp offline
  rw [onlineCounts, List.filter_map, List.dedup_eq_nil, List.map_eq_nil_iff]
  exact none

/-- The counts decide about the mode and the consistency. -/
theorem finish_readLines {cores : List CoreLine} (distinct : (cores.map CoreLine.number).Nodup) :
    (readLines cores).finish = summary cores := by
  have total : (readLines cores).cores.length = cores.length := List.length_map _
  have counts : ({ readLines cores with totalCores := cores.length } : Result).uniqueThreadCounts =
      onlineCounts cores := uniqueThreadCounts_readLines distinct
  simp only [Result.finish, total, counts]
  by_cases offline : (readLines cores).onlineCores = []
  · simp [onlineCounts_eq_nil offline, summary, readLines]
  · rw [if_pos offline]
    match found : onlineCounts cores with
    | [] => simp [summary, found, readLines]
    | [count] => simp [summary, found, readLines]
    | first :: second :: rest => simp [summary, found, readLines]

/-- The parser reads what is printed. -/
theorem parsePpc64CpuInfo_prints {infoOutput : Text} {lines : List Line}
    (prints : Prints infoOutput lines) :
    parsePpc64CpuInfo infoOutput = summary (coreLines lines) := by
  rw [parsePpc64CpuInfo, prints.printed, foldl_line prints.distinct,
    finish_readLines prints.distinct]

end AvocadoMisc.Ppc64Cpu.Info
