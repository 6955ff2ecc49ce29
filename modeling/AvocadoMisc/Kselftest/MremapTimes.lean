import AvocadoMisc.Kselftest.Failures
import AvocadoMisc.Library.Regexes
import AvocadoMisc.Library.Scanning
import Mathlib.Data.List.AList

/-!
# The times of the mremap test

`parse_mremap_times` of `kselftest.py` looks for the tests with a source that is aligned to PMDs,
and takes the first time in the three lines after the line of a passed one. These lines may be
those of the next test. `mremaptest` compares the times: the destination that is aligned as well
has to be the fastest. Without such times the exit status of the program decides.
-/

namespace AvocadoMisc.Kselftest.MremapTimes

open Failures Library.Regexes Library.Scanning
open Library.Text (charSpace strip contains)

/-- A text. -/
abbrev Text := List Char

/-! ### The parser -/

/-- The tests that are of interest. -/
def sourceAligned : Text := "4MB mremap - Source PMD-aligned".toList

/-- The pattern of a passed test, at the start of a line. -/
def tapPattern : Regex Char :=
  sequence [literal ['o', 'k'], some1 charSpace, some1 digit, some1 charSpace, .group 1 (some1 dot)]

/-- The pattern of a time. -/
def timePattern : Regex Char :=
  sequence [literal "mremap time:".toList, some1 charSpace, .group 1 (some1 digit),
    literal ['n', 's']]

/-- The value of a digit: its distance from the first one of its block. -/
def digitValue (c : Char) : Nat :=
  ((zeros.find? fun first => first ≤ c.toNat && c.toNat < first + 10).map (c.toNat - ·)).getD 0

/-- `int` of a text of digits. -/
def int (digits : Text) : Nat := digits.foldl (fun value c => 10 * value + digitValue c) 0

/-- The description of a passed test of interest. -/
def description (line : Text) : Option Text :=
  if contains sourceAligned line then
    (matchStart tapPattern line).map fun groups => strip charSpace ((groups 1).getD [])
  else none

/-- The time in a line. -/
def timeOf (line : Text) : Option Nat :=
  (search timePattern line).map fun groups => int ((groups 1).getD [])

/-- The times by description. -/
abbrev Times := AList fun _ : Text => Nat

/-- The loop over the lines. The time of a description is looked for in the three lines behind it;
without one there nothing is inserted. -/
def parseLines : List Text → Times → Times
  | [], times => times
  | line :: rest, times =>
    parseLines rest <|
      match description line with
      | none => times
      | some testDesc =>
        match (rest.take 3).findSome? timeOf with
        | none => times
        | some timeNs => times.insert testDesc timeNs

/-- `parse_mremap_times`. -/
def parseMremapTimes (output : Text) : Times := parseLines (output.splitOn '\n') ∅

/-! ### The verdict -/

/-- Why the test fails. -/
inductive Failure where
  | exitCode (status : Int)
  | notFastest
  deriving DecidableEq

/-- The message of a failure. -/
def Failure.message : Failure → Text
  | .exitCode status => "mremap_test failed with exit code: ".toList ++ (toString status).toList
  | .notFastest => ("Source+Dest PMD-aligned 4MB mremap is not the fastest. " ++
      "See failures above.").toList

/-- The description of a test whose destination is aligned as well. -/
def destinationAligned (testDesc : Text) : Bool :=
  contains "Destination PMD-aligned".toList testDesc

/-- The exit status, where there are no times to compare. -/
def exitFailure (exitStatus : Int) : Option Failure :=
  if exitStatus ≠ 0 then some (.exitCode exitStatus) else none

/-- `mremaptest`, after the program was run. Without times, or without any for aligned source and
destination, the exit status decides. -/
def mremaptest (exitStatus : Int) (output : Text) : Option Failure :=
  let times := (parseMremapTimes output).entries
  if times.isEmpty then exitFailure exitStatus
  else
    let pmdSrcAndDest := times.filter fun entry => destinationAligned entry.1
    let pmdSrcOnly := times.filter fun entry => !destinationAligned entry.1
    match (pmdSrcAndDest.map (·.2)).min? with
    | none => exitFailure exitStatus
    | some timePmdBoth =>
      if pmdSrcOnly.any fun entry => decide (entry.2 < timePmdBoth) then some .notFastest else none

/-! ### The times of the tests -/

/-- A line that belongs to no earlier test. -/
def resultLine (line : Text) : Bool :=
  ['o', 'k'].isPrefixOf line || ['n', 'o', 't', ' ', 'o', 'k'].isPrefixOf line

/-- The lines that belong to a test, of those after its first one. -/
def ownLines (after : List Text) : List Text := after.takeWhile fun line => !resultLine line

/-- The times in some lines. -/
def timesIn (lines : List Text) : List Nat := lines.filterMap timeOf

/-- A passed test prints one time or none before the line of the next test. -/
def OneTimeEach (lines : List Text) : Prop :=
  AtEvery (fun _ line after =>
    (matchStart tapPattern line).isSome = true → (timesIn (ownLines after)).length ≤ 1) lines

/-- The time of a test of interest is among the three lines after it, and after a test without a
time none of these lines has one. -/
def NearTimes (lines : List Text) : Prop :=
  AtEvery (fun _ line after => (description line).isSome = true →
    (∀ timeNs ∈ timesIn (ownLines after), timeNs ∈ timesIn ((ownLines after).take 3)) ∧
      (timesIn (ownLines after) = [] → timesIn (after.take 3) = [])) lines

/-- A passed test with its time. -/
def Took (lines : List Text) (testDesc : Text) (timeNs : Nat) : Prop :=
  ∃ before line after, lines = before ++ line :: after ∧ description line = some testDesc ∧
    timeNs ∈ timesIn (ownLines after)

/-- The last passed test of a description that printed a time, with its time. -/
def LastTook (lines : List Text) (testDesc : Text) (timeNs : Nat) : Prop :=
  ∃ before line after, lines = before ++ line :: after ∧ description line = some testDesc ∧
    timeNs ∈ timesIn (ownLines after) ∧ ∀ later, ¬Took after testDesc later

/-- The verdict by the times: some test took less time than all with an aligned destination. -/
def Faster (Timed : Text → Nat → Prop) : Prop :=
  ∃ testDesc timeNs, Timed testDesc timeNs ∧ ∀ other otherNs,
    destinationAligned other = true → Timed other otherNs → timeNs < otherNs

/-- The first time in the window after a test of interest is its own. The window starts with the
test's own lines, which have one time at most, and that within the window. -/
theorem findSome_window {after : List Text} (one : (timesIn (ownLines after)).length ≤ 1)
    (near : ∀ timeNs ∈ timesIn (ownLines after), timeNs ∈ timesIn ((ownLines after).take 3))
    (silent : timesIn (ownLines after) = [] → timesIn (after.take 3) = []) (timeNs : Nat) :
    (after.take 3).findSome? timeOf = some timeNs ↔ timeNs ∈ timesIn (ownLines after) := by
  rw [← List.head?_filterMap, ← timesIn]
  cases own : timesIn (ownLines after) with
  | nil => simp [silent own]
  | cons first others =>
    rw [own] at one near
    obtain rfl : others = [] := List.eq_nil_of_length_eq_zero (by simpa using one)
    -- the window starts with the lines of the test
    obtain ⟨further, window⟩ : (ownLines after).take 3 <+: after.take 3 :=
      (List.takeWhile_prefix _).take 3
    obtain ⟨more, part⟩ : timesIn ((ownLines after).take 3) <+: [first] := by
      rw [← own]
      exact (List.take_prefix 3 _).filterMap timeOf
    have inPart := near first (by simp)
    have exact : timesIn ((ownLines after).take 3) = [first] := by
      cases found : timesIn ((ownLines after).take 3) with
      | nil => simp [found] at inPart
      | cons head tail =>
        rw [found] at part
        obtain ⟨rfl, rest⟩ := List.cons.inj part
        rw [(List.append_eq_nil_iff.mp rest).1]
    rw [← window, timesIn, List.filterMap_append, ← timesIn, exact]
    simp [eq_comm]

/-- The first line has a passed test with this description and time. -/
def TookFirst (line : Text) (rest : List Text) (testDesc : Text) (timeNs : Nat) : Prop :=
  description line = some testDesc ∧ timeNs ∈ timesIn (ownLines rest)

/-- The tests of one line more. -/
theorem took_cons {line testDesc : Text} {rest : List Text} {timeNs : Nat} :
    Took (line :: rest) testDesc timeNs ↔
      TookFirst line rest testDesc timeNs ∨ Took rest testDesc timeNs := by
  constructor
  · rintro ⟨before, other, after, split, passed, time⟩
    cases before with
    | nil =>
      obtain ⟨rfl, rfl⟩ := List.cons.inj split
      exact Or.inl ⟨passed, time⟩
    | cons _ before =>
      obtain ⟨rfl, rfl⟩ := List.cons.inj split
      exact Or.inr ⟨before, other, after, rfl, passed, time⟩
  · rintro (⟨passed, time⟩ | ⟨before, other, after, rfl, passed, time⟩)
    · exact ⟨[], line, rest, rfl, passed, time⟩
    · exact ⟨line :: before, other, after, rfl, passed, time⟩

/-- The last test of a description in one line more. -/
theorem lastTook_cons {line testDesc : Text} {rest : List Text} {timeNs : Nat} :
    LastTook (line :: rest) testDesc timeNs ↔
      TookFirst line rest testDesc timeNs ∧ (∀ later, ¬Took rest testDesc later) ∨
        LastTook rest testDesc timeNs := by
  constructor
  · rintro ⟨before, other, after, split, passed, time, last⟩
    cases before with
    | nil =>
      obtain ⟨rfl, rfl⟩ := List.cons.inj split
      exact Or.inl ⟨⟨passed, time⟩, last⟩
    | cons _ before =>
      obtain ⟨rfl, rfl⟩ := List.cons.inj split
      exact Or.inr ⟨before, other, after, rfl, passed, time, last⟩
  · rintro (⟨⟨passed, time⟩, last⟩ | ⟨before, other, after, rfl, passed, time, last⟩)
    · exact ⟨[], line, rest, rfl, passed, time, last⟩
    · exact ⟨line :: before, other, after, rfl, passed, time, last⟩

/-- A line of interest is that of a passed test. -/
theorem tap_of_description {line testDesc : Text} (passed : description line = some testDesc) :
    (matchStart tapPattern line).isSome = true := by
  unfold description at passed
  split at passed
  · obtain ⟨groups, matched, -⟩ := Option.map_eq_some_iff.mp passed
    rw [matched]
    rfl
  · cases passed

/-- What one line does to the time of a description. -/
theorem lookup_first {line testDesc : Text} {rest : List Text} {times : Times} {timeNs : Nat}
    (one : (matchStart tapPattern line).isSome = true → (timesIn (ownLines rest)).length ≤ 1)
    (near : (description line).isSome = true →
      (∀ timeNs ∈ timesIn (ownLines rest), timeNs ∈ timesIn ((ownLines rest).take 3)) ∧
        (timesIn (ownLines rest) = [] → timesIn (rest.take 3) = [])) :
    AList.lookup testDesc (match description line with
      | none => times
      | some testDesc =>
        match (rest.take 3).findSome? timeOf with
        | none => times
        | some timeNs => times.insert testDesc timeNs) = some timeNs ↔
      TookFirst line rest testDesc timeNs ∨
        (∀ later, ¬TookFirst line rest testDesc later) ∧ times.lookup testDesc = some timeNs := by
  unfold TookFirst
  cases passed : description line with
  | none => simp
  | some own =>
    rw [passed] at near
    obtain ⟨inside, silent⟩ := near rfl
    have window := findSome_window (one (tap_of_description passed)) inside silent
    simp only [← window]
    by_cases same : own = testDesc
    · subst same
      cases (rest.take 3).findSome? timeOf with
      | none => simp
      | some found => simp [AList.lookup_insert]
    · cases (rest.take 3).findSome? timeOf with
      | none => simp [same]
      | some found => simp [same, AList.lookup_insert_ne (Ne.symm same)]

/-- The time of a description is that of its last test, or the one before the loop.

Proof: by induction on the lines. A test that comes later replaces the time. -/
theorem lookup_parseLines {lines : List Text} (one : OneTimeEach lines) (near : NearTimes lines)
    (times : Times) (testDesc : Text) (timeNs : Nat) :
    (parseLines lines times).lookup testDesc = some timeNs ↔
      LastTook lines testDesc timeNs ∨
        (∀ later, ¬Took lines testDesc later) ∧ times.lookup testDesc = some timeNs := by
  induction lines generalizing times with
  | nil => simp [parseLines, LastTook, Took]
  | cons line rest inductionHypothesis =>
    obtain ⟨oneFirst, oneRest⟩ := atEvery_cons.mp one
    obtain ⟨nearFirst, nearRest⟩ := atEvery_cons.mp near
    rw [parseLines, inductionHypothesis oneRest nearRest, lookup_first oneFirst nearFirst,
      lastTook_cons]
    simp only [took_cons, not_or, forall_and]
    constructor
    · rintro (last | ⟨never, first | ⟨notFirst, old⟩⟩)
      · exact Or.inl (Or.inr last)
      · exact Or.inl (Or.inl ⟨first, never⟩)
      · exact Or.inr ⟨⟨notFirst, never⟩, old⟩
    · rintro ((⟨first, never⟩ | last) | ⟨⟨notFirst, never⟩, old⟩)
      · exact Or.inr ⟨never, Or.inl first⟩
      · exact Or.inl last
      · exact Or.inr ⟨never, Or.inr ⟨notFirst, old⟩⟩

/-- The exit status counts unless it is 0. -/
theorem exitFailure_isSome_iff (exitStatus : Int) :
    (exitFailure exitStatus).isSome = true ↔ exitStatus ≠ 0 := by
  unfold exitFailure
  split <;> simp_all

/-- There is no fastest test with an aligned destination when there is no such test. -/
theorem fastest_eq_none {times : List (Sigma fun _ : Text => Nat)}
    (none : ((times.filter fun entry => destinationAligned entry.1).map (·.2)).min? = none) :
    ¬∃ entry ∈ times, destinationAligned entry.1 = true := by
  rintro ⟨entry, member, isDest⟩
  rw [List.min?_eq_none_iff, List.map_eq_nil_iff, List.filter_eq_nil_iff] at none
  exact none entry member isDest

/-- The fastest test with an aligned destination is one of them. -/
theorem exists_of_fastest {times : List (Sigma fun _ : Text => Nat)} {timePmdBoth : Nat}
    (fastest : ((times.filter fun entry => destinationAligned entry.1).map (·.2)).min? =
      some timePmdBoth) : ∃ entry ∈ times, destinationAligned entry.1 = true := by
  obtain ⟨both, isBoth, -⟩ := List.mem_map.mp (List.min?_eq_some_iff.mp fastest).1
  obtain ⟨among, isDest⟩ := List.mem_filter.mp isBoth
  exact ⟨both, among, isDest⟩

/-- What takes less time than the fastest takes less than each of them. -/
theorem lt_fastest_iff {times : List (Sigma fun _ : Text => Nat)} {timePmdBoth : Nat}
    (fastest : ((times.filter fun entry => destinationAligned entry.1).map (·.2)).min? =
      some timePmdBoth) (timeNs : Nat) :
    timeNs < timePmdBoth ↔
      ∀ other ∈ times, destinationAligned other.1 = true → timeNs < other.2 := by
  have below : timeNs + 1 ≤ timePmdBoth ↔ _ := List.le_min?_iff fastest
  rw [← Nat.succ_le_iff, Nat.succ_eq_add_one, below]
  constructor
  · intro least other among isDest
    exact least other.2 (List.mem_map.mpr ⟨other, List.mem_filter.mpr ⟨among, isDest⟩, rfl⟩)
  · intro least otherNs isTime
    obtain ⟨other, kept, rfl⟩ := List.mem_map.mp isTime
    obtain ⟨among, isDest⟩ := List.mem_filter.mp kept
    exact least other among isDest

/-- The comparison of the times finds a test that took less time than all with an aligned
destination. It is none of them, for no time is less than itself. -/
theorem slower_iff {times : List (Sigma fun _ : Text => Nat)} {timePmdBoth : Nat}
    (fastest : ((times.filter fun entry => destinationAligned entry.1).map (·.2)).min? =
      some timePmdBoth) :
    ((times.filter fun entry => !destinationAligned entry.1).any
        fun entry => decide (entry.2 < timePmdBoth)) = true ↔
      ∃ entry ∈ times, ∀ other ∈ times, destinationAligned other.1 = true → entry.2 < other.2 := by
  rw [List.any_eq_true]
  constructor
  · rintro ⟨entry, kept, less⟩
    exact ⟨entry, (List.mem_filter.mp kept).1,
      (lt_fastest_iff fastest entry.2).mp (of_decide_eq_true less)⟩
  · rintro ⟨entry, among, less⟩
    have noDest : destinationAligned entry.1 = false := by
      by_contra isDest
      exact Nat.lt_irrefl _ (less entry among (eq_true_of_ne_false isDest))
    exact ⟨entry, List.mem_filter.mpr ⟨among, by simp [noDest]⟩,
      decide_eq_true ((lt_fastest_iff fastest entry.2).mpr less)⟩

/-- When the test fails: by the times, or by the exit status where there is no time with an
aligned destination. -/
theorem mremaptest_isSome_iff (exitStatus : Int) (output : Text) {Timed : Text → Nat → Prop}
    (timed : ∀ testDesc timeNs,
      (parseMremapTimes output).lookup testDesc = some timeNs ↔ Timed testDesc timeNs) :
    (mremaptest exitStatus output).isSome = true ↔
      (∃ testDesc timeNs, destinationAligned testDesc = true ∧ Timed testDesc timeNs) ∧
          Faster Timed ∨
        (¬∃ testDesc timeNs, destinationAligned testDesc = true ∧ Timed testDesc timeNs) ∧
          exitStatus ≠ 0 := by
  have entry : ∀ testDesc timeNs,
      Timed testDesc timeNs ↔ ⟨testDesc, timeNs⟩ ∈ (parseMremapTimes output).entries := by
    intro testDesc timeNs
    rw [← timed]
    exact AList.mem_lookup_iff
  have some_destination : (∃ testDesc timeNs, destinationAligned testDesc = true ∧
      Timed testDesc timeNs) ↔ ∃ entry ∈ (parseMremapTimes output).entries,
        destinationAligned entry.1 = true := by
    simp only [entry, Sigma.exists, and_comm]
  have faster : Faster Timed ↔ ∃ entry ∈ (parseMremapTimes output).entries,
      ∀ other ∈ (parseMremapTimes output).entries, destinationAligned other.1 = true →
        entry.2 < other.2 := by
    constructor
    · rintro ⟨testDesc, timeNs, among, less⟩
      exact ⟨⟨testDesc, timeNs⟩, (entry testDesc timeNs).mp among, fun other inside isDest =>
        less other.1 other.2 isDest ((entry other.1 other.2).mpr inside)⟩
    · rintro ⟨⟨testDesc, timeNs⟩, among, less⟩
      exact ⟨testDesc, timeNs, (entry testDesc timeNs).mpr among, fun other otherNs isDest inside =>
        less ⟨other, otherNs⟩ ((entry other otherNs).mp inside) isDest⟩
  rw [some_destination, faster]
  simp only [mremaptest]
  generalize (parseMremapTimes output).entries = times
  split
  case isTrue empty =>
    rw [List.isEmpty_iff] at empty
    simp [exitFailure_isSome_iff, empty]
  case isFalse =>
    split
    case h_1 none =>
      have noDestination := fastest_eq_none none
      rw [exitFailure_isSome_iff]
      exact ⟨fun fails => Or.inr ⟨noDestination, fails⟩,
        fun fails => (fails.resolve_left fun byTimes => noDestination byTimes.1).2⟩
    case h_2 timePmdBoth fastest =>
      have destination := exists_of_fastest fastest
      rw [Option.isSome_ite, slower_iff fastest]
      exact ⟨fun less => Or.inl ⟨destination, less⟩,
        fun fails => (fails.resolve_right fun byStatus => byStatus.1 destination).2⟩

/-- Where each passed test of interest that prints a time prints it within three lines, and no
other time is within three lines after one that does not, the time of a description is that of its
last test with a time, and nothing else is recorded. The test fails when one of these times is
less than all with an aligned destination, and without such a time when the program failed. -/
theorem times_of_near (exitStatus : Int) (output : Text)
    (one : OneTimeEach (output.splitOn '\n')) (near : NearTimes (output.splitOn '\n')) :
    (∀ testDesc timeNs, (parseMremapTimes output).lookup testDesc = some timeNs ↔
      LastTook (output.splitOn '\n') testDesc timeNs) ∧
    ((mremaptest exitStatus output).isSome = true ↔
      (∃ testDesc timeNs, destinationAligned testDesc = true ∧
          LastTook (output.splitOn '\n') testDesc timeNs) ∧
        Faster (LastTook (output.splitOn '\n')) ∨
      (¬∃ testDesc timeNs, destinationAligned testDesc = true ∧
          LastTook (output.splitOn '\n') testDesc timeNs) ∧ exitStatus ≠ 0) := by
  have timed : ∀ testDesc timeNs, (parseMremapTimes output).lookup testDesc = some timeNs ↔
      LastTook (output.splitOn '\n') testDesc timeNs := by
    intro testDesc timeNs
    rw [parseMremapTimes, lookup_parseLines one near, AList.lookup_empty]
    simp
  exact ⟨timed, mremaptest_isSome_iff exitStatus output timed⟩

/-- Two tests with a time each. -/
def twoTimes : Text :=
  "ok 1 4MB mremap - Source PMD-aligned, Destination PTE-aligned\n\tmremap time: 20ns\n".toList ++
    "ok 2 4MB mremap - Source PMD-aligned, Destination PMD-aligned\n\tmremap time: 10ns".toList

/-- The times of two tests are those that they printed. -/
theorem times_of_two :
    (∀ testDesc timeNs, (parseMremapTimes twoTimes).lookup testDesc = some timeNs ↔
      LastTook (twoTimes.splitOn '\n') testDesc timeNs) ∧
    ((mremaptest 0 twoTimes).isSome = true ↔
      (∃ testDesc timeNs, destinationAligned testDesc = true ∧
          LastTook (twoTimes.splitOn '\n') testDesc timeNs) ∧
        Faster (LastTook (twoTimes.splitOn '\n')) ∨
      (¬∃ testDesc timeNs, destinationAligned testDesc = true ∧
          LastTook (twoTimes.splitOn '\n') testDesc timeNs) ∧ (0 : Int) ≠ 0) := by
  have lines : twoTimes.splitOn '\n' =
      ["ok 1 4MB mremap - Source PMD-aligned, Destination PTE-aligned".toList,
        "\tmremap time: 20ns".toList,
        "ok 2 4MB mremap - Source PMD-aligned, Destination PMD-aligned".toList,
        "\tmremap time: 10ns".toList] := by decide +kernel
  refine times_of_near 0 twoTimes ?_ ?_
  · rw [lines]
    simp only [OneTimeEach, atEvery_cons, atEvery_nil, and_true]
    exact ⟨by decide +kernel, by decide +kernel, by decide +kernel, by decide +kernel⟩
  · rw [lines]
    simp only [NearTimes, atEvery_cons, atEvery_nil, and_true]
    exact ⟨by decide +kernel, by decide +kernel, by decide +kernel, by decide +kernel⟩

/-- A test without a time, in front of another one with a time. -/
def silentFirst : Text :=
  "ok 1 4MB mremap - Source PMD-aligned, A\nok 2 other\n\tmremap time: 20ns".toList

/-- The exit status fails a run without any test, and the time of the next test is recorded for a
test without one. -/
theorem times_of_others :
    (¬ ∀ exitStatus output, OneTimeEach (output.splitOn '\n') →
      ((mremaptest exitStatus output).isSome = true ↔ Faster (Took (output.splitOn '\n')))) ∧
    ¬ ∀ output, OneTimeEach (output.splitOn '\n') → ∀ testDesc timeNs,
      (parseMremapTimes output).lookup testDesc = some timeNs →
        Took (output.splitOn '\n') testDesc timeNs := by
  constructor
  · intro all
    have lines : ([] : Text).splitOn '\n' = [[]] := by decide
    have nothing : description [] = none := by decide +kernel
    have one : OneTimeEach (([] : Text).splitOn '\n') := by
      rw [lines]
      exact atEvery_cons.mpr ⟨by decide +kernel, atEvery_nil⟩
    obtain ⟨testDesc, timeNs, took, -⟩ := (all 1 [] one).mp (by decide +kernel)
    rw [lines, took_cons, TookFirst, nothing] at took
    simp [Took] at took
  · intro all
    have lines : silentFirst.splitOn '\n' = ["ok 1 4MB mremap - Source PMD-aligned, A".toList,
        "ok 2 other".toList, "\tmremap time: 20ns".toList] := by decide +kernel
    have one : OneTimeEach (silentFirst.splitOn '\n') := by
      rw [lines]
      simp only [OneTimeEach, atEvery_cons, atEvery_nil, and_true]
      exact ⟨by decide +kernel, by decide +kernel, by decide +kernel⟩
    have recorded : (parseMremapTimes silentFirst).lookup
        "4MB mremap - Source PMD-aligned, A".toList = some 20 := by decide +kernel
    have took := all silentFirst one _ _ recorded
    rw [lines] at took
    have noTime : timesIn (ownLines ["ok 2 other".toList, "\tmremap time: 20ns".toList]) = [] := by
      decide +kernel
    have second : description "ok 2 other".toList = none := by decide +kernel
    have third : description "\tmremap time: 20ns".toList = none := by decide +kernel
    simp only [took_cons, TookFirst, noTime, second, third] at took
    simp [Took] at took

end AvocadoMisc.Kselftest.MremapTimes
