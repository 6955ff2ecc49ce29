import Mathlib.Data.Char
import Mathlib.Data.Finset.Sort
import Mathlib.Data.List.Lex
import AvocadoMisc.Library.TextFiles

/-!
# Skip files

`_merge_skipfiles` writes the tests of two skip files to a third one. A test is a line that is
neither blank nor a comment, without the white space around it. The tests are written in order,
each once.

Reading the merged file gives the tests of both files. So it does not matter in which order files
are merged, nor how often one of them is.
-/

namespace AvocadoMisc.Ltp.Skipfiles

open Library.Text Library.TextFiles

/-- A text. -/
abbrev Text := List Char

/-- What is met at the path of a skip file. Reading may end in an `IOError` behind some lines. -/
inductive Skipfile where
  | absent
  | present (text : Text)
  | broken (text : Text) (count : Nat)

/-- The lines that are read. -/
def Skipfile.lines : Skipfile → List Text
  | .absent => []
  | .present text => readlines text
  | .broken text count => (readlines text).take count

/-- `line and not line.startswith('#')`. -/
def namesTest (line : Text) : Bool := !line.isEmpty && !(['#'].isPrefixOf line)

/-- The tests of a skip file. -/
def Skipfile.tests (skipfile : Skipfile) : Finset Text :=
  ((skipfile.lines.map (strip charSpace)).filter namesTest).toFinset

/-- `all_tests`. -/
def allTests (skipfile1 skipfile2 : Skipfile) : Finset Text := skipfile1.tests ∪ skipfile2.tests

/-- What is written for some tests. -/
def printTests (tests : Finset Text) : Text :=
  (tests.sort (· ≤ ·)).flatMap fun test => test ++ ['\n']

/-- `_merge_skipfiles`: what is at the path that is returned. It is the first path where the merged
file cannot be written. -/
def mergeSkipfiles (writes : Bool) (skipfile1 skipfile2 : Skipfile) : Skipfile :=
  if writes then .present (printTests (allTests skipfile1 skipfile2)) else skipfile1

/-! ### Tests -/

/-- A test, as it is added. -/
structure IsTest (test : Text) : Prop where
  named : namesTest test = true
  stripped : strip charSpace test = test
  newline : '\n' ∉ test
  carriageReturn : '\r' ∉ test

/-- What a line is stripped to has no newline. A line has one at its end at most, where stripping
takes it away with the other white space. -/
theorem newline_notMem_strip {line : Text} (inner : '\n' ∉ line.dropLast) :
    '\n' ∉ strip charSpace line := by
  intro member
  obtain ⟨front, back, -, -, split⟩ := exists_strip charSpace line
  obtain ⟨before, last, whole⟩ :
      ∃ before last, strip charSpace line = before ++ [last] := by
    rcases (strip charSpace line).eq_nil_or_concat with nothing | ⟨before, last, whole⟩
    · rw [nothing] at member
      cases member
    · exact ⟨before, last, by rw [whole, List.concat_eq_append]⟩
  have solid : charSpace last = false := getLast_strip charSpace line last (by simp [whole])
  have early : '\n' ∈ before := by
    rw [whole] at member
    rcases List.mem_append.mp member with early | atEnd
    · exact early
    · rw [← List.mem_singleton.mp atEnd] at solid
      exact absurd solid (by decide)
  have regrouped : line = (front ++ before) ++ last :: back := by
    rw [split, whole]
    simp
  rw [regrouped, List.dropLast_append_cons] at inner
  exact inner (by simp [early])

/-- What is added is a test. -/
theorem isTest_of_mem_tests {skipfile : Skipfile} {test : Text} (member : test ∈ skipfile.tests) :
    IsTest test := by
  have read (text line : Text)
      (inText : line ∈ readlines text)
      (named : namesTest (strip charSpace line) = true) : IsTest (strip charSpace line) := by
    refine ⟨named, strip_strip charSpace line, newline_notMem_strip (mem_splitLines inText).1,
      fun isReturn => ?_⟩
    exact return_notMem_of_mem_readlines inText (strip_subset charSpace line isReturn)
  rw [Skipfile.tests, List.mem_toFinset, List.mem_filter, List.mem_map] at member
  obtain ⟨⟨line, inFile, rfl⟩, named⟩ := member
  cases skipfile with
  | absent => cases inFile
  | present text => exact read text line inFile named
  | broken text count => exact read text line (List.mem_of_mem_take inFile) named

/-! ### The merged file -/

/-- Printed tests are read again, line by line and in order. -/
theorem lines_printTests {tests : Finset Text} (proper : ∀ test ∈ tests, IsTest test) :
    (Skipfile.present (printTests tests)).lines =
      (tests.sort (· ≤ ·)).map fun test => test ++ ['\n'] := by
  refine readlines_unlines fun test inTests => ?_
  have isTest := proper test (by simpa using inTests)
  exact ⟨isTest.newline, isTest.carriageReturn⟩

/-- Printed tests are the tests that are read. -/
theorem tests_printTests {tests : Finset Text} (proper : ∀ test ∈ tests, IsTest test) :
    (Skipfile.present (printTests tests)).tests = tests := by
  have white : Blank charSpace ['\n'] := forall_of_check (by decide)
  have again (test : Text) (inTests : test ∈ tests) : strip charSpace (test ++ ['\n']) = test := by
    rw [strip_append_blank white, (proper test inTests).stripped]
  ext test
  rw [Skipfile.tests, lines_printTests proper, List.map_map, List.mem_toFinset, List.mem_filter,
    List.mem_map]
  constructor
  · rintro ⟨⟨other, inTests, rfl⟩, -⟩
    have inSet : other ∈ tests := by simpa using inTests
    rwa [Function.comp_apply, again other inSet]
  · intro inTests
    exact ⟨⟨test, by simpa using inTests, again test inTests⟩, (proper test inTests).named⟩

/-- All tests are tests. -/
theorem isTest_of_mem_allTests {skipfile1 skipfile2 : Skipfile} {test : Text}
    (member : test ∈ allTests skipfile1 skipfile2) : IsTest test := by
  rcases Finset.mem_union.mp member with first | second
  · exact isTest_of_mem_tests first
  · exact isTest_of_mem_tests second

/-- The merged file has the tests of both. -/
theorem tests_mergeSkipfiles (skipfile1 skipfile2 : Skipfile) :
    (mergeSkipfiles true skipfile1 skipfile2).tests = skipfile1.tests ∪ skipfile2.tests :=
  tests_printTests fun _ => isTest_of_mem_allTests

/-- Files are merged to the same text exactly when they have the same tests. -/
theorem mergeSkipfiles_eq_iff (skipfile1 skipfile2 other1 other2 : Skipfile) :
    mergeSkipfiles true skipfile1 skipfile2 = mergeSkipfiles true other1 other2 ↔
      skipfile1.tests ∪ skipfile2.tests = other1.tests ∪ other2.tests := by
  constructor
  · intro same
    rw [← tests_mergeSkipfiles, same, tests_mergeSkipfiles]
  · intro same
    exact congrArg (fun tests => Skipfile.present (printTests tests)) same

/-- A merged file lists the tests of both files, each once on a line of its own and in ascending
order. Merging is a join: its order does not matter, and a file that was merged adds nothing.

The files may be absent or end in an error behind some lines, and have any comments and white space.
It is assumed that the merged file can be written; if not, the first file is kept. -/
theorem mergeSkipfiles_join (skipfile1 skipfile2 skipfile3 : Skipfile) :
    (mergeSkipfiles true skipfile1 skipfile2).tests = skipfile1.tests ∪ skipfile2.tests ∧
      (∃ listed : List Text, listed.Pairwise (· < ·) ∧
        listed.toFinset = skipfile1.tests ∪ skipfile2.tests ∧
        (mergeSkipfiles true skipfile1 skipfile2).lines = listed.map fun test => test ++ ['\n']) ∧
      mergeSkipfiles true skipfile1 skipfile2 = mergeSkipfiles true skipfile2 skipfile1 ∧
      mergeSkipfiles true (mergeSkipfiles true skipfile1 skipfile2) skipfile3 =
        mergeSkipfiles true skipfile1 (mergeSkipfiles true skipfile2 skipfile3) ∧
      mergeSkipfiles true (mergeSkipfiles true skipfile1 skipfile2) skipfile2 =
        mergeSkipfiles true skipfile1 skipfile2 := by
  refine ⟨tests_mergeSkipfiles _ _, ⟨(allTests skipfile1 skipfile2).sort (· ≤ ·), ?_, ?_, ?_⟩,
    ?_, ?_, ?_⟩
  · exact (Finset.sortedLT_sort _).pairwise
  · exact Finset.sort_toFinset _ _
  · exact lines_printTests fun _ => isTest_of_mem_allTests
  · rw [mergeSkipfiles_eq_iff, Finset.union_comm]
  · rw [mergeSkipfiles_eq_iff, tests_mergeSkipfiles, tests_mergeSkipfiles, Finset.union_assoc]
  · rw [mergeSkipfiles_eq_iff, tests_mergeSkipfiles, Finset.union_assoc, Finset.union_self]

end AvocadoMisc.Ltp.Skipfiles
