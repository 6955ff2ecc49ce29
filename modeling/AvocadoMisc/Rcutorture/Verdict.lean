import AvocadoMisc.Library.NumberTexts
import AvocadoMisc.Library.Patterns
import AvocadoMisc.Library.Scripts
import AvocadoMisc.Library.Text

/-!
# The verdict of the RCU torture test

After the torture `rcutorture.py` searches the kernel log for the messages of the torture module,
and looks at the lines of the result for grace-period failures. The result of the search is a match
object, and its text is a line about the match: where it is, and the words that were searched for.
No message of the log is in it, so nothing is found in any log.
-/

namespace AvocadoMisc.Rcutorture.Verdict

open Library.Patterns Library.Scripts Library.Text
open Library.NumberTexts (int)

/-- A character string. -/
abbrev Text := List Char

/-! ### Searching the log -/

/-- A text that is looked for without regard to case. -/
def ignoringCase (text : Text) : Pattern Char :=
  text.map fun c => .one fun other => decide (other.toLower = c.toLower)

/-- A match object: where it begins, and the text that was found. -/
structure Match where
  start : Nat
  found : Text

/-- `re.search`, at this place of the text and after it. -/
def reSearch (pattern : Pattern Char) (start : Nat) : Text → Option Match
  | [] => (matchHere pattern []).map fun found => ⟨start, found⟩
  | c :: rest =>
    match matchHere pattern (c :: rest) with
    | some found => some ⟨start, found⟩
    | none => reSearch pattern (start + 1) rest

/-- How the text of a match object begins. -/
def objectSpan : Text := "<re.Match object; span=(".toList

/-- What comes before the text that was found. -/
def objectMatch : Text := "), match='".toList

/-- `str` of what a search returns. -/
def str : Option Match → Text
  | none => "None".toList
  | some result =>
    objectSpan ++ (decimal result.start ++ (", ".toList ++
      (decimal (result.start + result.found.length) ++ (objectMatch ++
        (result.found ++ "'>".toList)))))

/-! ### The analysis -/

/-- How the test ends before its end. -/
inductive Ending where
  | error (message : String)
  | indexError
  | valueError
  deriving DecidableEq

/-- The state is what was logged. -/
abbrev Script := EStateM Ending (List String)

/-- `int(line.split(" ")[7])`. Anything that is not a number raises a `ValueError`. -/
def nmiss (line : Text) : Script Int :=
  match (line.splitOn ' ')[7]? with
  | none => throw .indexError
  | some field =>
    match int field with
    | none => throw .valueError
    | some count => pure count

/-- The body of the loop over `pipe2`. -/
def checkPipe (line : Text) : Script PUnit := do
  let count ← nmiss line
  demand (count = 0) (.error "\nBUG: rcutorture tests failed !")

/-- The body of the loop over `batch`. -/
def checkBatch (line : Text) : Script PUnit := do
  let count ← nmiss line
  if count ≠ 0 then modify fun log => log ++ ["\nWarning: near mis failure !!"]

/-- What is done with `self.results`. -/
def analyse (results : List Text) : Script PUnit := do
  let pipe1 := results.filter (contains "!!! Reader Pipe:".toList)
  demand (pipe1.length = 0) (.error "\nBUG: grace-period failure !")
  forEach checkPipe (results.filter (contains "Reader Pipe".toList))
  forEach checkBatch (results.filter (contains "Reader Batch".toList))

/-- The part of `test` after `dmesg` was read. -/
def test (dmesg : Text) : Script PUnit :=
  analyse (charLines (str (reSearch (ignoringCase "rcu-torture: Reader".toList) 0 dmesg)))

/-! ### What is asked of it -/

/-- A number other than zero is the eighth field of a line. -/
def Missed (line : Text) : Prop :=
  ∃ field count, (line.splitOn ' ')[7]? = some field ∧ int field = some count ∧ count ≠ 0

/-- The log has a line about a grace-period failure: one with the mark of it, or a line of the
readers' pipe with a number other than zero in its eighth field. -/
def Broken (dmesg : Text) : Prop :=
  ∃ line ∈ charLines dmesg, contains "!!! Reader Pipe:".toList line = true ∨
    (contains "Reader Pipe".toList line = true ∧ Missed line)

/-- The log has a line about a near miss: one of the readers' batch with a number other than zero in
its eighth field. -/
def NearMiss (dmesg : Text) : Prop :=
  ∃ line ∈ charLines dmesg, contains "Reader Batch".toList line = true ∧ Missed line

/-- The test ends in an error exactly for the failures, and warns exactly of the near misses. -/
def Reports (dmesg : Text) : Prop :=
  (stopped (test dmesg) [] ≠ none ↔ Broken dmesg) ∧
    (leaves (test dmesg) [] ≠ [] ↔ NearMiss dmesg)

/-! ### Nothing is found -/

/-- What is found has the letters of what was searched for. -/
theorem accepts_ignoringCase {text found : Text} (accepts : Accepts (ignoringCase text) found) :
    found.map Char.toLower = text.map Char.toLower := by
  induction text generalizing found with
  | nil => rw [show found = [] from accepts]
  | cons c rest inductionHypothesis =>
    obtain ⟨other, remaining, rfl, same, further⟩ := accepts
    rw [List.map_cons, List.map_cons, inductionHypothesis further, of_decide_eq_true same]

/-- A match is described by the pattern. -/
theorem reSearch_accepts {pattern : Pattern Char} {start : Nat} {text : Text} {result : Match}
    (searched : reSearch pattern start text = some result) : Accepts pattern result.found := by
  induction text generalizing start with
  | nil =>
    obtain ⟨found, matched, rfl⟩ := Option.map_eq_some_iff.mp searched
    exact (matchHere_sound matched).2
  | cons c rest inductionHypothesis =>
    unfold reSearch at searched
    split at searched
    case h_1 found matched =>
      obtain rfl := Option.some.inj searched
      exact (matchHere_sound matched).2
    case h_2 => exact inductionHypothesis searched

/-- A character that is in none of the messages' distinguishing words. -/
def Harmless (c : Char) : Prop := c ≠ 'P' ∧ c ≠ 'B'

instance : DecidablePred Harmless := fun _ => inferInstanceAs (Decidable (_ ∧ _))

/-- Digits are harmless. -/
theorem decimal_harmless (n : Nat) : ∀ c ∈ decimal n, Harmless c := by
  intro c member
  have digit : c.isDigit = true := Nat.isDigit_of_mem_toDigits (by decide) (by decide) member
  constructor
  · rintro rfl
    exact absurd digit (by decide)
  · rintro rfl
    exact absurd digit (by decide)

/-- The letters of what was searched for are harmless in any case. -/
theorem found_harmless {found : Text}
    (letters : found.map Char.toLower = "rcu-torture: Reader".toList.map Char.toLower) :
    ∀ c ∈ found, Harmless c := by
  intro c member
  have small : c.toLower ∈ "rcu-torture: Reader".toList.map Char.toLower :=
    letters ▸ List.mem_map_of_mem member
  constructor
  · rintro rfl
    exact absurd small (by decide +kernel)
  · rintro rfl
    exact absurd small (by decide +kernel)

/-- The text of the result is harmless, whatever is in the log. -/
theorem str_harmless (dmesg : Text) :
    ∀ c ∈ str (reSearch (ignoringCase "rcu-torture: Reader".toList) 0 dmesg), Harmless c := by
  cases searched : reSearch (ignoringCase "rcu-torture: Reader".toList) 0 dmesg with
  | none => exact forall_of_check (by decide +kernel)
  | some result =>
    have found := found_harmless (accepts_ignoringCase (reSearch_accepts searched))
    have span : ∀ c ∈ objectSpan, Harmless c := forall_of_check (by decide +kernel)
    have middle : ∀ c ∈ objectMatch, Harmless c := forall_of_check (by decide +kernel)
    intro c member
    simp only [str, List.mem_append] at member
    rcases member with inSpan | inStart | inComma | inStop | inMiddle | inFound | inEnd
    · exact span c inSpan
    · exact decimal_harmless _ c inStart
    · exact forall_of_check (by decide +kernel) c inComma
    · exact decimal_harmless _ c inStop
    · exact middle c inMiddle
    · exact found c inFound
    · exact forall_of_check (by decide +kernel) c inEnd

/-- A text with a character that is not harmless is not in a harmless line. -/
theorem filter_contains_eq_nil {lines : List Text}
    (harmless : ∀ line ∈ lines, ∀ c ∈ line, Harmless c) {pattern : Text} {c : Char}
    (member : c ∈ pattern) (harmful : ¬ Harmless c) : lines.filter (contains pattern) = [] := by
  rw [List.filter_eq_nil_iff]
  intro line listed inLine
  have part : pattern <:+: line := of_decide_eq_true inLine
  exact harmful (harmless line listed c (part.subset member))

/-- No log makes the test end in an error, or warn. -/
theorem test_passes (dmesg : Text) : test dmesg [] = .ok ⟨⟩ [] := by
  have harmless : ∀ line ∈ charLines
      (str (reSearch (ignoringCase "rcu-torture: Reader".toList) 0 dmesg)),
      ∀ c ∈ line, Harmless c :=
    fun line isLine c member => str_harmless dmesg c (mem_of_mem_lines isLine member)
  have none_with {pattern : Text} {c : Char} (member : c ∈ pattern) (harmful : ¬ Harmless c) :
      (charLines (str (reSearch (ignoringCase "rcu-torture: Reader".toList) 0 dmesg))).filter
        (contains pattern) = [] := filter_contains_eq_nil harmless member harmful
  have capitalP : ¬ Harmless 'P' := by decide
  have capitalB : ¬ Harmless 'B' := by decide
  have pipe1 : 'P' ∈ "!!! Reader Pipe:".toList := by decide +kernel
  have pipe2 : 'P' ∈ "Reader Pipe".toList := by decide +kernel
  have batch : 'B' ∈ "Reader Batch".toList := by decide +kernel
  rw [test, analyse, none_with pipe1 capitalP, none_with pipe2 capitalP, none_with batch capitalB]
  rfl

/-- The test reports what it should exactly when there is nothing to report in the log.

The log is any text. So every log with a grace-period failure or a near miss is reported wrongly.

Proof: the text that is searched is the one of the match object, and in this there is no message of
the log. -/
theorem rcuFailures_reported_iff (dmesg : Text) :
    Reports dmesg ↔ ¬ Broken dmesg ∧ ¬ NearMiss dmesg := by
  have ends : stopped (test dmesg) [] = none := by rw [stopped, test_passes]
  have logs : leaves (test dmesg) [] = [] := by rw [leaves, test_passes]
  simp [Reports, ends, logs]

/-- A failure that is lost. -/
theorem gracePeriodFailure_lost : ¬ Reports "rcu-torture: !!! Reader Pipe:  5 1 0".toList := by
  rw [rcuFailures_reported_iff]
  rintro ⟨fine, -⟩
  exact fine ⟨"rcu-torture: !!! Reader Pipe:  5 1 0".toList, by decide +kernel,
    .inl (by decide +kernel)⟩

end AvocadoMisc.Rcutorture.Verdict
