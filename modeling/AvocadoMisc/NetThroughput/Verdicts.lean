import Mathlib.Tactic.IntervalCases
import AvocadoMisc.Library.NumberTexts

/-!
# Verdicts about throughput

`test` of `uperf_test.py` and `test` of `iperf_test.py` read the throughput of a connection from a
report, and fail when it is below a part of the speed of the link. The number is cut off at its
decimal point before it is converted to megabits, and `int` reads a number of megabits only if it
has no point, where uperf wants one. The numbers are exact.

`iperf` prints a line with the sum only for several connections. The test of a vNIC or of a bonded
interface looks for this line, and asks for several connections at two speeds only.
-/

namespace AvocadoMisc.NetThroughput.Verdicts

open Library.Text Library.Parts Library.NumberTexts

/-- A character string. -/
abbrev Text := List Char

/-! ### The tests -/

/-- How far a test comes: an exception, a failure about a throughput, or what comes next. -/
inductive Verdict where
  | raised
  | failed (tput : ℚ)
  | goesOn
  deriving DecidableEq

/-- The part of the speed that is expected. -/
def threshold (expectedTp speed : Nat) : ℚ := expectedTp * speed / 100

/-- `Mb/s`. -/
def mbs : Text := ['M', 'b', '/', 's']

/-- The throughput in a line of uperf. -/
def uperfTput (line : Text) : Option Int := do
  let word ← (words charSpace line)[3]?
  let whole ← int ((word.splitOn '.').headD [])
  some (if contains mbs line then whole else whole * 1000)

/-- The loop of `Uperf.test` over the lines. Every line with the address of the peer is compared,
and the first that is too slow fails the test. -/
def uperfLoop (peerIp : Text) (expectedTp speed : Nat) : List Text → Verdict
  | [] => .goesOn
  | line :: rest =>
    if contains peerIp line then
      match uperfTput line with
      | none => .raised
      | some tput =>
        if (tput : ℚ) < threshold expectedTp speed then .failed tput
        else uperfLoop peerIp expectedTp speed rest
    else uperfLoop peerIp expectedTp speed rest

/-- `Uperf.test`, as far as the throughput. -/
def uperfTest (peerIp : Text) (expectedTp speed : Nat) (stdout : Text) : Verdict :=
  uperfLoop peerIp expectedTp speed (charLines stdout)

/-- `Mbits/sec`. -/
def mbits : Text := "Mbits/sec".toList

/-- `Gbits/sec`. -/
def gbits : Text := "Gbits/sec".toList

/-- `Kbits/sec`. -/
def kbits : Text := "Kbits/sec".toList

/-- `SUM`. -/
def sum : Text := "SUM".toList

/-- The body of a loop of `Iperf.test` over the lines, with the throughput that was read before.
There is no result where an exception leaves it. -/
def iperfTput (selects : Text → Bool) (column : Nat) (tput : Option ℚ) (line : Text) :
    Option (Option ℚ) :=
  if selects line && contains mbits line then do
    let word ← (words charSpace line)[column]?
    let whole ← int word
    some (some whole)
  else if selects line && contains gbits line then do
    let word ← (words charSpace line)[column]?
    let value ← float word
    some (some ((trunc value : ℚ) * 1000))
  else if selects line && contains kbits line then do
    let word ← (words charSpace line)[column]?
    let value ← float word
    some (some ((trunc value : ℚ) / 1000))
  else some tput

/-- `local`, and the address of the interface. -/
def localAddress (ipaddr : Text) : Text := ['l', 'o', 'c', 'a', 'l', ' '] ++ ipaddr

/-- The body of the loop that looks for the connection. -/
def iperfId (ipaddr : Text) (id : Option Char) (text : Text) : Option (Option Char) :=
  if contains (localAddress ipaddr) text then do
    let c ← text[3]?
    some (some c)
  else some id

/-- What `Iperf.test` reads. -/
def iperfRead (summed : Bool) (ipaddr : Text) (listed : List Text) : Option (Option ℚ) :=
  if summed then listed.foldlM (iperfTput (contains sum) 5) none
  else do
    let found ← listed.foldlM (iperfId ipaddr) none
    let id ← found
    listed.foldlM (iperfTput (fun line => decide (id ∈ line)) 6) none

/-- `iperf_pthread`, from the speed. -/
def iperfPthread (speed : Nat) : Nat :=
  if speed = 100000 then 10 else if speed = 25000 then 4 else 1

/-- The connections that the command asks for. Without `-P` it is one. -/
def connections (isVnic hbond : Bool) (speed : Nat) : Nat :=
  if isVnic || hbond then iperfPthread speed else 1

/-- `Iperf.test`, as far as the throughput. A variable that was never assigned raises. -/
def iperfTest (isVnic hbond : Bool) (ipaddr : Text) (expectedTp speed : Nat) (stdout : Text) :
    Verdict :=
  match iperfRead (isVnic || hbond) ipaddr (charLines stdout) with
  | some (some tput) => if tput < threshold expectedTp speed then .failed tput else .goesOn
  | _ => .raised

/-! ### The law -/

/-- A verdict about a throughput: a failure exactly when it is below the threshold, and no
exception. -/
def Decides (verdict : Verdict) (reported threshold : ℚ) : Prop :=
  (reported < threshold → ∃ tput, verdict = .failed tput) ∧
    (¬ reported < threshold → verdict = .goesOn)

/-- Cutting a number off does not take it below the threshold: it was below before, or it is not
below afterwards. -/
def StaysAbove (number : Decimal) (scale threshold : ℚ) : Prop :=
  ¬ (number.whole.toNat * scale < threshold ∧ threshold ≤ number.value * scale)

/-- The verdict of a comparison. -/
def compared (tput threshold : ℚ) : Verdict := if tput < threshold then .failed tput else .goesOn

/-- A comparison with the number that was cut off. -/
theorem decides_compared_iff (number : Decimal) {scale threshold : ℚ} (positive : 0 < scale) :
    Decides (compared (number.whole.toNat * scale) threshold) (number.value * scale) threshold ↔
      StaysAbove number scale threshold := by
  have below : (number.whole.toNat : ℚ) * scale ≤ number.value * scale := by
    apply mul_le_mul_of_nonneg_right _ positive.le
    rw [Decimal.value]
    linarith [(part_bounds number).1]
  unfold Decides compared StaysAbove
  by_cases small : (number.whole.toNat : ℚ) * scale < threshold
  · by_cases low : number.value * scale < threshold
    · simp [small, low]
    · simp [small, low, le_of_not_gt low]
  · have high : ¬ number.value * scale < threshold := fun low => small (below.trans_lt low)
    simp [small, high]

/-- An exception is no verdict. -/
theorem not_decides_raised (reported threshold : ℚ) : ¬ Decides .raised reported threshold := by
  rintro ⟨fails, passes⟩
  by_cases low : reported < threshold
  · obtain ⟨tput, same⟩ := fails low
    cases same
  · cases passes low

/-! ### uperf -/

/-- The units of uperf. -/
inductive UperfUnit where
  | M | G
  deriving DecidableEq

/-- How a unit is written. -/
def UperfUnit.text : UperfUnit → Text
  | .M => mbs
  | .G => ['G', 'b', '/', 's']

/-- The megabits a unit stands for. -/
def UperfUnit.scale : UperfUnit → ℚ
  | .M => 1
  | .G => 1000

/-- A report of uperf. One line is about the connection. It has three words in front of the
throughput, and its other words are no throughput. -/
structure UperfReport where
  stdout : Text
  peerIp : Text
  before : List Text
  line : Text
  after : List Text
  front : List Text
  value : Decimal
  unit : UperfUnit
  back : List Text
  lines : charLines stdout = before ++ line :: after
  about : peerIp <:+: line
  others : ∀ other ∈ before ++ after, ¬ peerIp <:+: other
  words_line : words charSpace line = front ++ (value.text ++ unit.text) :: back
  three : front.length = 3
  plain : ∀ word ∈ front ++ back, ¬ mbs <:+: word

section Uperf

variable (report : UperfReport)

/-- The unit is what the test takes it for. `Mb/s` is looked for in the whole line, so the other
words of the line must not have it, and the value has no such letter. -/
theorem contains_mbs_iff : contains mbs report.line = true ↔ report.unit = .M := by
  have isWord : IsWord charSpace mbs := isWord_of_check (by decide) (by decide)
  rw [contains, decide_eq_true_eq, infix_words_iff isWord, report.words_line]
  constructor
  · rintro ⟨word, member, inside⟩
    have isValue : word = report.value.text ++ report.unit.text := by
      by_contra differs
      apply report.plain word _ inside
      simp only [List.mem_append, List.mem_cons, differs, false_or] at member ⊢
      exact member
    rw [isValue] at inside
    cases unit : report.unit with
    | M => rfl
    | G =>
      have letter : 'M' ∈ report.value.text ++ report.unit.text := inside.subset (by decide)
      rw [unit] at letter
      rcases List.mem_append.mp letter with inValue | inUnit
      · rcases mem_decimal report.value inValue with digit | point
        · exact absurd digit (by decide)
        · exact absurd point (by decide)
      · exact absurd inUnit (by decide)
  · intro unit
    refine ⟨report.value.text ++ report.unit.text, by simp, ?_⟩
    rw [unit]
    exact (List.suffix_append _ _).isInfix

/-- The text in front of the first point of a number with a unit. -/
theorem headD_splitOn_value :
    ((report.value.text ++ report.unit.text).splitOn '.').headD [] =
      if report.value.fraction = none then report.value.text ++ report.unit.text
      else report.value.whole.digits := by
  have noPoint : '.' ∉ report.unit.text := by
    cases report.unit <;> decide
  have wholeDigits : ∀ c ∈ report.value.whole.digits, decide (c ≠ '.') = true := fun c member =>
    decide_eq_true (ne_of_digit (report.value.whole.allDigits c member) (by decide))
  rw [headD_splitOn, Decimal.text]
  cases fraction : report.value.fraction with
  | none =>
    rw [if_pos rfl]
    apply List.takeWhile_eq_self_iff.mpr
    intro c member
    rcases List.mem_append.mp member with inValue | inUnit
    · exact wholeDigits c inValue
    · exact decide_eq_true fun same => noPoint (same ▸ inUnit)
  | some digits =>
    rw [if_neg (by simp), List.append_assoc, List.takeWhile_append_of_pos wholeDigits]
    simp

/-- A number is read when it has a point. -/
theorem uperfTput_eq :
    uperfTput report.line =
      if report.value.fraction = none then none
      else some (if report.unit = .M then (report.value.whole.toNat : Int)
        else report.value.whole.toNat * 1000) := by
  have fourth : (words charSpace report.line)[3]? =
      some (report.value.text ++ report.unit.text) := by
    rw [report.words_line, ← report.three, List.getElem?_append_right (le_refl _), Nat.sub_self]
    rfl
  have unit : (contains mbs report.line = true) = (report.unit = .M) :=
    propext (contains_mbs_iff report)
  simp only [uperfTput, fourth, Option.bind_eq_bind, Option.bind_some, headD_splitOn_value, unit]
  split
  · have slash : '/' ∈ report.value.text ++ report.unit.text := by
      apply List.mem_append_right
      cases report.unit <;> decide
    rw [int_eq_none slash (by decide) (by decide) (by decide)]
    rfl
  · rw [int_numeral]
    rfl

/-- Only the line about the connection counts. A value without a fraction is followed by its unit
where the point is expected, so `int` is given the unit too and raises. -/
theorem uperfTest_eq (expectedTp speed : Nat) :
    uperfTest report.peerIp expectedTp speed report.stdout =
      if report.value.fraction = none then .raised
      else compared (report.value.whole.toNat * report.unit.scale)
        (threshold expectedTp speed) := by
  have skips : ∀ listed : List Text, (∀ other ∈ listed, ¬ report.peerIp <:+: other) →
      ∀ rest, uperfLoop report.peerIp expectedTp speed (listed ++ rest) =
        uperfLoop report.peerIp expectedTp speed rest := by
    intro listed absent rest
    induction listed with
    | nil => rfl
    | cons other further inductionHypothesis =>
      have here : contains report.peerIp other = false :=
        decide_eq_false (absent other List.mem_cons_self)
      rw [List.cons_append, uperfLoop, here]
      exact inductionHypothesis fun line member => absent line (List.mem_cons_of_mem other member)
  have ends : uperfLoop report.peerIp expectedTp speed report.after = .goesOn := by
    have last := skips report.after
      (fun other member => report.others other (List.mem_append_right _ member)) []
    rwa [List.append_nil] at last
  have about : contains report.peerIp report.line = true := decide_eq_true report.about
  rw [uperfTest, report.lines,
    skips report.before fun other member => report.others other (List.mem_append_left _ member),
    uperfLoop, about, uperfTput_eq]
  by_cases fraction : report.value.fraction = none
  · simp [fraction]
  · have converted : ((if report.unit = .M then (report.value.whole.toNat : Int)
        else report.value.whole.toNat * 1000 : Int) : ℚ) =
        report.value.whole.toNat * report.unit.scale := by
      cases report.unit <;> simp [UperfUnit.scale]
    simp only [fraction, if_false, if_true, ends, converted]
    rfl

/-- uperf's verdict is right exactly when the number has a point and stays above the threshold
without what is behind it. -/
theorem uperf_decides_iff (expectedTp speed : Nat) :
    Decides (uperfTest report.peerIp expectedTp speed report.stdout)
        (report.value.value * report.unit.scale) (threshold expectedTp speed) ↔
      report.value.fraction ≠ none ∧
        StaysAbove report.value report.unit.scale (threshold expectedTp speed) := by
  have positive : 0 < report.unit.scale := by
    cases report.unit <;> norm_num [UperfUnit.scale]
  rw [uperfTest_eq]
  by_cases fraction : report.value.fraction = none
  · simp [fraction, not_decides_raised]
  · simp only [fraction, if_false, ne_eq, not_false_eq_true, true_and]
    exact decides_compared_iff report.value positive

end Uperf

/-! ### iperf -/

/-- The units of iperf. -/
inductive IperfUnit where
  | K | M | G
  deriving DecidableEq

/-- How a unit is written. -/
def IperfUnit.text : IperfUnit → Text
  | .K => kbits
  | .M => mbits
  | .G => gbits

/-- The megabits a unit stands for. -/
def IperfUnit.scale : IperfUnit → ℚ
  | .K => 1 / 1000
  | .M => 1
  | .G => 1000

/-- What a line of iperf is about: a connection by its number, or the sum of all connections. -/
inductive Subject where
  | connection (id : Nat)
  | sum
  deriving DecidableEq

/-- How a line begins. The number of a connection takes three characters at least. -/
def Subject.bracket : Subject → Text
  | .connection id =>
    '[' :: (List.replicate (3 - (decimal id).length) ' ' ++ (decimal id ++ [']']))
  | .sum => "[SUM]".toList

/-- What all units have in common. -/
def bitsSec : Text := "bits/sec".toList

/-- A result: behind the bracket four words, which are no throughput, the value and the unit. -/
structure Result (subject : Subject) where
  rest : Text
  front : List Text
  value : Decimal
  unit : IperfUnit
  spaced : ∃ c others, rest = c :: others ∧ charSpace c = true
  words_rest : words charSpace rest = front ++ [value.text, unit.text]
  four : front.length = 4
  plain : ∀ word ∈ front, ¬ bitsSec <:+: word

/-- The line it is on. -/
def Result.line {subject : Subject} (result : Result subject) : Text :=
  subject.bracket ++ result.rest

/-- A number of megabits without a part behind the point. -/
def Result.Whole {subject : Subject} (result : Result subject) : Prop :=
  result.unit = .M → result.value.fraction = none

/-- A line that may have to do with the throughput. -/
def Subject.Reports (subject : Subject) (line : Text) : Prop :=
  (subject = .sum → ['S', 'U', 'M'] <:+: line) ∧ bitsSec <:+: line

/-- A line of a report: a result, or a line without one. -/
inductive Line (subject : Subject) where
  | other (text : Text) (plain : ¬ subject.Reports text)
  | result (result : Result subject)

/-- What is on a line. -/
def Line.text {subject : Subject} : Line subject → Text
  | .other text _ => text
  | .result found => found.line

/-- A report of iperf about so many connections. Its last result is the throughput of the
connection, or the sum of all of them if there are several. For one connection there is no sum, and
one line says that it is local. -/
structure IperfReport (count : Nat) where
  stdout : Text
  ipaddr : Text
  subject : Subject
  before : List (Line subject)
  last : Result subject
  after : List Text
  lines : charLines stdout = before.map Line.text ++ last.line :: after
  done : ∀ line ∈ after, ¬ subject.Reports line
  summed : subject = .sum ↔ 1 < count
  single : subject ≠ .sum → ∀ line ∈ charLines stdout, ¬ Subject.sum.Reports line
  isLocal : subject ≠ .sum → ∃ tail,
    ((charLines stdout).filter fun line => contains (localAddress ipaddr) line) =
      [subject.bracket ++ tail]

/-- The number of a connection leaves a space in the bracket. -/
def Subject.Narrow : Subject → Prop
  | .connection id => id < 100
  | .sum => True

instance (subject : Subject) : Decidable subject.Narrow :=
  match subject with
  | .connection id => inferInstanceAs (Decidable (id < 100))
  | .sum => inferInstanceAs (Decidable True)

instance {subject : Subject} (result : Result subject) : Decidable result.Whole :=
  inferInstanceAs (Decidable (result.unit = .M → result.value.fraction = none))

/-- The words of a bracket. -/
def Subject.words : Subject → List Text
  | .connection id =>
    if id < 100 then [['['], decimal id ++ [']']] else [(Subject.connection id).bracket]
  | .sum => [Subject.sum.bracket]

/-- A number of up to two digits. -/
theorem length_decimal_le_iff (n : Nat) : (decimal n).length ≤ 2 ↔ n < 100 := by
  constructor
  · intro short
    have bound : Library.Numerals.value 10 (decimal n) < 10 ^ (decimal n).length :=
      value_lt (Library.Numerals.ofNat n).allDigits
    have power : 10 ^ (decimal n).length ≤ 10 ^ 2 := Nat.pow_le_pow_right (by decide) short
    rw [Library.Numerals.value_decimal] at bound
    omega
  · intro small
    have all : ∀ m < 100, (decimal m).length ≤ 2 := by decide
    exact all n small

/-- The closing bracket belongs to the number. -/
theorem closed_isWord (id : Nat) : IsWord charSpace (decimal id ++ [']']) := by
  refine ⟨by simp, fun d member => ?_⟩
  rcases List.mem_append.mp member with digit | bracket
  · exact (decimal_isWord id).solid d digit
  · rw [List.mem_singleton.mp bracket]
    decide

section Brackets

variable {id : Nat} {c : Char} (rest : Text) (white : charSpace c = true)
include white

/-- A space in front of the number makes two words of the bracket, and the columns behind it are one
further to the right. That is so below 100, as the number is padded to three places. -/
theorem words_narrow (narrow : id < 100) :
    words charSpace ((Subject.connection id).bracket ++ c :: rest) =
      ['['] :: (decimal id ++ [']']) :: words charSpace (c :: rest) := by
  have none : Blank charSpace ([] : Text) := by simp [Blank]
  have ends : Ends charSpace (c :: rest) := by
    rintro d ⟨⟩
    exact white
  have short := (length_decimal_le_iff id).mpr narrow
  obtain ⟨spaces, more⟩ : ∃ spaces, 3 - (decimal id).length = spaces + 1 :=
    ⟨2 - (decimal id).length, by omega⟩
  have opened : IsWord charSpace ['['] := isWord_of_check (by decide) (by decide)
  have blank : Blank charSpace (List.replicate (spaces + 1) ' ') := by
    intro d member
    rw [List.eq_of_mem_replicate member]
    decide
  have afterOpened : Ends charSpace (List.replicate (spaces + 1) ' ' ++
      ((decimal id ++ [']']) ++ c :: rest)) := by
    rw [List.replicate_succ, List.cons_append]
    rintro d ⟨⟩
    decide
  have first := words_word none opened afterOpened
  rw [words_word blank (closed_isWord id) ends] at first
  rw [Subject.bracket, more]
  simpa using first

/-- Without the space the bracket is one word. -/
theorem words_wide (wide : ¬ id < 100) :
    words charSpace ((Subject.connection id).bracket ++ c :: rest) =
      (Subject.connection id).bracket :: words charSpace (c :: rest) := by
  have none : Blank charSpace ([] : Text) := by simp [Blank]
  have ends : Ends charSpace (c :: rest) := by
    rintro d ⟨⟩
    exact white
  have long : 3 - (decimal id).length = 0 := by
    have notShort := mt (length_decimal_le_iff id).mp wide
    omega
  have bracket : (Subject.connection id).bracket = '[' :: (decimal id ++ [']']) := by
    rw [Subject.bracket, long]
    rfl
  have whole : IsWord charSpace ('[' :: (decimal id ++ [']'])) := by
    refine ⟨by simp, fun d member => ?_⟩
    rcases List.mem_cons.mp member with rfl | inside
    · decide
    · exact (closed_isWord id).solid d inside
  rw [bracket]
  exact words_word none whole ends

end Brackets

/-- The bracket in front of white space. -/
theorem words_bracket (subject : Subject) {c : Char} (rest : Text) (white : charSpace c = true) :
    words charSpace (subject.bracket ++ c :: rest) =
      subject.words ++ words charSpace (c :: rest) := by
  cases subject with
  | sum =>
    have none : Blank charSpace ([] : Text) := by simp [Blank]
    have ends : Ends charSpace (c :: rest) := by
      rintro d ⟨⟩
      exact white
    have isWord : IsWord charSpace Subject.sum.bracket :=
      isWord_of_check (by decide) (by decide)
    exact words_word none isWord ends
  | connection id =>
    rw [Subject.words]
    by_cases narrow : id < 100
    · rw [if_pos narrow]
      exact words_narrow rest white narrow
    · rw [if_neg narrow]
      exact words_wide rest white narrow

section Result

variable {subject : Subject} (result : Result subject)

/-- The words of a result. -/
theorem words_result :
    words charSpace result.line =
      subject.words ++ (result.front ++ [result.value.text, result.unit.text]) := by
  obtain ⟨c, others, rest, white⟩ := result.spaced
  rw [← result.words_rest, Result.line, rest]
  exact words_bracket subject others white

/-- A bracket is no throughput. -/
theorem not_bitsSec_bracket : ∀ word ∈ subject.words, ¬ bitsSec <:+: word := by
  intro word member inside
  have letter : 'b' ∈ word := inside.subset (by decide)
  cases subject with
  | sum =>
    rw [List.mem_singleton.mp member] at letter
    exact absurd letter (by decide)
  | connection id =>
    rw [Subject.words] at member
    have notDigit : 'b' ∉ decimal id := fun digit =>
      absurd (decimal_digits id 'b' digit) (by decide)
    split at member
    · rcases List.mem_pair.mp member with rfl | rfl
      · exact absurd letter (by decide)
      · simp [notDigit] at letter
    · rw [List.mem_singleton.mp member] at letter
      simp [Subject.bracket, notDigit] at letter

/-- A part of a result that has to do with bits is a part of the unit. -/
theorem contains_result_iff {part : Text} (isWord : IsWord charSpace part)
    (bits : bitsSec <:+: part) : contains part result.line = true ↔ part <:+: result.unit.text := by
  rw [contains, decide_eq_true_eq, infix_words_iff isWord, words_result]
  constructor
  · rintro ⟨word, member, inside⟩
    have bitsInside := bits.trans inside
    rcases List.mem_append.mp member with inBracket | later
    · exact absurd bitsInside (not_bitsSec_bracket word inBracket)
    · rcases List.mem_append.mp later with inFront | inBack
      · exact absurd bitsInside (result.plain word inFront)
      · rcases List.mem_pair.mp inBack with rfl | rfl
        · have letter : 'b' ∈ result.value.text := bitsInside.subset (by decide)
          rcases mem_decimal result.value letter with digit | point
          · exact absurd digit (by decide)
          · exact absurd point (by decide)
        · exact inside
  · intro inside
    exact ⟨result.unit.text, by simp, inside⟩

/-- A unit is a word about bits. -/
theorem bitsSec_unit (unit : IperfUnit) :
    IsWord charSpace unit.text ∧ bitsSec <:+: unit.text := by
  cases unit <;> exact ⟨isWord_of_check (by decide) (by decide), by decide⟩

/-- No unit is a part of another one. -/
theorem unit_infix_iff (unit other : IperfUnit) : unit.text <:+: other.text ↔ other = unit := by
  cases unit <;> cases other <;> decide

/-- The tests for the units find out the unit. -/
theorem contains_unit (unit : IperfUnit) :
    contains unit.text result.line = decide (result.unit = unit) := by
  obtain ⟨isWord, bits⟩ := bitsSec_unit unit
  rw [Bool.eq_iff_iff, contains_result_iff result isWord bits, unit_infix_iff, decide_eq_true_eq]

/-- The column that the value is looked for in. -/
def Subject.column : Subject → Nat
  | .connection _ => 6
  | .sum => 5

/-- What stands in that column. -/
theorem column_result :
    (words charSpace result.line)[subject.column]? =
      some (if subject.Narrow then result.value.text else result.unit.text) := by
  obtain ⟨first, second, third, fourth, front⟩ := List.length_eq_four.mp result.four
  rw [words_result, front]
  cases subject with
  | sum => rfl
  | connection id =>
    by_cases narrow : id < 100
    · have isNarrow : (Subject.connection id).Narrow := narrow
      rw [Subject.words, if_pos narrow, if_pos isNarrow]
      rfl
    · have notNarrow : ¬ (Subject.connection id).Narrow := narrow
      rw [Subject.words, if_neg narrow, if_neg notNarrow]
      rfl

/-- A line with a result, which is selected. The column has the value if the bracket is as wide as
the test expects, and `int` reads a value in megabits only if it is whole. -/
theorem iperfTput_result {selects : Text → Bool} (selected : selects result.line = true)
    (tput : Option ℚ) :
    iperfTput selects subject.column tput result.line =
      if subject.Narrow ∧ result.Whole then
        some (some (result.value.whole.toNat * result.unit.scale))
      else none := by
  have isM : contains mbits result.line = decide (result.unit = .M) := contains_unit result .M
  have isG : contains gbits result.line = decide (result.unit = .G) := contains_unit result .G
  have isK : contains kbits result.line = decide (result.unit = .K) := contains_unit result .K
  simp only [iperfTput, selected, isM, isG, isK, column_result, Bool.true_and, decide_eq_true_eq,
    Option.bind_eq_bind, Option.bind_some]
  by_cases narrow : subject.Narrow
  · simp only [narrow, if_true, true_and, int_decimal, float_decimal, Result.Whole]
    cases unit : result.unit with
    | M =>
      by_cases fraction : result.value.fraction = none <;> simp [fraction, IperfUnit.scale]
    | G => simp [trunc_value, IperfUnit.scale]
    | K =>
      simp [trunc_value, IperfUnit.scale]
      rfl
  · have noInt : int result.unit.text = none :=
      int_eq_none ((bitsSec_unit result.unit).2.subset (show 'b' ∈ bitsSec by decide))
        (by decide) (by decide) (by decide)
    have noFloat : float result.unit.text = none := by
      cases result.unit <;> decide
    simp only [narrow, if_false, false_and, noInt, noFloat, Option.bind_none]
    cases unit : result.unit <;> simp

/-- A line without one. -/
theorem iperfTput_other {selects : Text → Bool} {column : Nat} (tput : Option ℚ) {line : Text}
    (plain : ¬ (selects line = true ∧ bitsSec <:+: line)) :
    iperfTput selects column tput line = some tput := by
  have noUnit : ∀ unit : IperfUnit, (selects line && contains unit.text line) = false := by
    intro unit
    apply Bool.eq_false_iff.mpr
    intro both
    obtain ⟨selected, inside⟩ := Bool.and_eq_true_iff.mp both
    exact plain ⟨selected, (bitsSec_unit unit).2.trans (of_decide_eq_true inside)⟩
  have noM : (selects line && contains mbits line) = false := noUnit .M
  have noG : (selects line && contains gbits line) = false := noUnit .G
  have noK : (selects line && contains kbits line) = false := noUnit .K
  simp [iperfTput, noM, noG, noK]

end Result

/-- The lines behind the last result. -/
theorem foldlM_after {selects : Text → Bool} {column : Nat} {after : List Text}
    (plain : ∀ line ∈ after, ¬ (selects line = true ∧ bitsSec <:+: line)) (tput : Option ℚ) :
    after.foldlM (iperfTput selects column) tput = some tput := by
  induction after with
  | nil => rfl
  | cons line rest inductionHypothesis =>
    rw [List.foldlM_cons, iperfTput_other tput (plain line List.mem_cons_self)]
    exact inductionHypothesis fun other member => plain other (List.mem_cons_of_mem line member)

/-- The lines in front of it. -/
theorem foldlM_before {subject : Subject} {selects : Text → Bool}
    (selected : ∀ result : Result subject, selects result.line = true)
    (reports : ∀ line, selects line = true → bitsSec <:+: line → subject.Reports line)
    (narrow : subject.Narrow) (before : List (Line subject)) (tput : Option ℚ) :
    ((∀ result, Line.result result ∈ before → result.Whole) ∧
        ∃ next, (before.map Line.text).foldlM (iperfTput selects subject.column) tput = some next) ∨
      ((¬ ∀ result, Line.result result ∈ before → result.Whole) ∧
        (before.map Line.text).foldlM (iperfTput selects subject.column) tput = none) := by
  induction before generalizing tput with
  | nil => exact Or.inl ⟨fun result member => absurd member List.not_mem_nil, tput, rfl⟩
  | cons line rest inductionHypothesis =>
    rw [List.map_cons, List.foldlM_cons]
    cases line with
    | other text plain =>
      have skipped : ¬ (selects text = true ∧ bitsSec <:+: text) := fun both =>
        plain (reports text both.1 both.2)
      rw [Line.text, iperfTput_other tput skipped]
      simpa using inductionHypothesis tput
    | result found =>
      rw [Line.text, iperfTput_result found (selected found)]
      by_cases whole : found.Whole
      · simpa [narrow, whole] using inductionHypothesis _
      · refine Or.inr ⟨fun all => whole (all found List.mem_cons_self), ?_⟩
        rw [if_neg fun both => whole both.2]
        rfl

/-- The loop that looks for the connection, over the lines that say local. -/
theorem foldlM_iperfId (ipaddr : Text) (id : Option Char) (listed : List Text) :
    listed.foldlM (iperfId ipaddr) id =
      (listed.filter fun line => contains (localAddress ipaddr) line).foldlM
        (fun _ text => text[3]?.map some) id := by
  induction listed generalizing id with
  | nil => rfl
  | cons text rest inductionHypothesis =>
    rw [List.foldlM_cons, iperfId]
    by_cases inside : contains (localAddress ipaddr) text = true
    · rw [if_pos inside, List.filter_cons_of_pos inside, List.foldlM_cons]
      cases text[3]? with
      | none => rfl
      | some c => exact inductionHypothesis (some c)
    · rw [if_neg inside, List.filter_cons_of_neg inside]
      exact inductionHypothesis id

/-- The character that stands for a connection is in its bracket. -/
theorem exists_getElem?_bracket (subject : Subject) (tail : Text) :
    ∃ c ∈ subject.bracket, (subject.bracket ++ tail)[3]? = some c := by
  have long : 3 < subject.bracket.length := by
    cases subject with
    | sum => decide
    | connection id =>
      simp only [Subject.bracket, List.length_cons, List.length_append, List.length_replicate,
        List.length_nil]
      omega
  refine ⟨subject.bracket[3], List.getElem_mem long, ?_⟩
  rw [List.getElem?_append_left long, List.getElem?_eq_getElem long]

section Iperf

variable {count : Nat} (report : IperfReport count)

/-- All numbers of megabits in a report are without a part behind the point. -/
def IperfReport.Whole : Prop :=
  report.last.Whole ∧ ∀ result, Line.result result ∈ report.before → result.Whole

/-- What the loop over the lines reads, when it selects the results. A later result replaces an
earlier one, so the last one stays; one that cannot be read ends the loop. -/
theorem foldlM_report {selects : Text → Bool}
    (selected : ∀ result : Result report.subject, selects result.line = true)
    (reports : ∀ line, selects line = true → bitsSec <:+: line → report.subject.Reports line) :
    (report.subject.Narrow ∧ report.Whole →
      (charLines report.stdout).foldlM (iperfTput selects report.subject.column) none =
        some (some (report.last.value.whole.toNat * report.last.unit.scale))) ∧
      (¬ (report.subject.Narrow ∧ report.Whole) →
        (charLines report.stdout).foldlM (iperfTput selects report.subject.column) none =
          none) := by
  have rest : ∀ tput,
      (report.last.line :: report.after).foldlM (iperfTput selects report.subject.column) tput =
        if report.subject.Narrow ∧ report.last.Whole then
          some (some (report.last.value.whole.toNat * report.last.unit.scale))
        else none := by
    intro tput
    have ends : ∀ line ∈ report.after, ¬ (selects line = true ∧ bitsSec <:+: line) :=
      fun line member both => report.done line member (reports line both.1 both.2)
    rw [List.foldlM_cons, iperfTput_result report.last (selected report.last)]
    split
    · exact foldlM_after ends _
    · rfl
  rw [report.lines, List.foldlM_append]
  by_cases narrow : report.subject.Narrow
  · rcases foldlM_before selected reports narrow report.before none with
      ⟨all, next, run⟩ | ⟨broken, run⟩
    · have same : report.Whole ↔ report.last.Whole := and_iff_left all
      rw [run, Option.bind_eq_bind, Option.bind_some, rest next, same]
      exact ⟨fun readable => if_pos readable, fun broken => if_neg broken⟩
    · rw [run]
      simp [IperfReport.Whole, broken]
  · cases (report.before.map Line.text).foldlM (iperfTput selects report.subject.column) none with
    | none => simp [narrow]
    | some next =>
      rw [Option.bind_eq_bind, Option.bind_some, rest next]
      simp [narrow]

/-- In a report about several connections the number of the last sum is read. -/
theorem iperfRead_sum (isSum : report.subject = .sum) :
    (report.subject.Narrow ∧ report.Whole →
      iperfRead true report.ipaddr (charLines report.stdout) =
        some (some (report.last.value.whole.toNat * report.last.unit.scale))) ∧
      (¬ (report.subject.Narrow ∧ report.Whole) →
        iperfRead true report.ipaddr (charLines report.stdout) = none) := by
  have selected : ∀ result : Result report.subject, contains sum result.line = true := by
    intro result
    have inBracket : sum <:+: report.subject.bracket := by
      rw [isSum]
      decide
    exact decide_eq_true (inBracket.trans (List.prefix_append _ _).isInfix)
  have reports : ∀ line, contains sum line = true → bitsSec <:+: line →
      report.subject.Reports line := fun line inside bits =>
    ⟨fun _ => of_decide_eq_true inside, bits⟩
  have read := foldlM_report report selected reports
  have column : report.subject.column = 5 := by rw [isSum, Subject.column]
  rw [column] at read
  exact read

/-- In a report about one connection the number of its last result is read. The lines are selected
by one character of the identifier, which the lines of the results have in their bracket. -/
theorem iperfRead_connection (isSingle : report.subject ≠ .sum) :
    (report.subject.Narrow ∧ report.Whole →
      iperfRead false report.ipaddr (charLines report.stdout) =
        some (some (report.last.value.whole.toNat * report.last.unit.scale))) ∧
      (¬ (report.subject.Narrow ∧ report.Whole) →
        iperfRead false report.ipaddr (charLines report.stdout) = none) := by
  obtain ⟨tail, one⟩ := report.isLocal isSingle
  obtain ⟨c, inBracket, fourth⟩ := exists_getElem?_bracket report.subject tail
  have found : (charLines report.stdout).foldlM (iperfId report.ipaddr) none =
      some (some c) := by
    rw [foldlM_iperfId, one, List.foldlM_cons, fourth]
    rfl
  have selected : ∀ result : Result report.subject, decide (c ∈ result.line) = true :=
    fun result => decide_eq_true (List.mem_append_left _ inBracket)
  have reports : ∀ line, decide (c ∈ line) = true → bitsSec <:+: line →
      report.subject.Reports line := fun line _ bits => ⟨fun same => absurd same isSingle, bits⟩
  have read := foldlM_report report selected reports
  have column : report.subject.column = 6 := by
    cases subject : report.subject with
    | connection id => rfl
    | sum => exact absurd subject isSingle
  rw [column] at read
  have asConnection : iperfRead false report.ipaddr (charLines report.stdout) =
      (charLines report.stdout).foldlM (iperfTput (fun line => decide (c ∈ line)) 6) none := by
    rw [iperfRead, found]
    rfl
  rw [asConnection]
  exact read

/-- A sum is looked for in vain in a report about one connection. -/
theorem iperfRead_missing (isSingle : report.subject ≠ .sum) :
    iperfRead true report.ipaddr (charLines report.stdout) = some none := by
  have plain : ∀ line ∈ charLines report.stdout,
      ¬ (contains sum line = true ∧ bitsSec <:+: line) := fun line member both =>
    report.single isSingle line member ⟨fun _ => of_decide_eq_true both.1, both.2⟩
  exact foldlM_after plain none

/-- The verdict where the number in front of the point is read, or nothing at all. -/
theorem iperfTest_decides {isVnic hbond : Bool} {speed : Nat}
    (read : (report.subject.Narrow ∧ report.Whole →
      iperfRead (isVnic || hbond) report.ipaddr (charLines report.stdout) =
        some (some (report.last.value.whole.toNat * report.last.unit.scale))) ∧
      (¬ (report.subject.Narrow ∧ report.Whole) →
        iperfRead (isVnic || hbond) report.ipaddr (charLines report.stdout) = none))
    (expectedTp : Nat) :
    Decides (iperfTest isVnic hbond report.ipaddr expectedTp speed report.stdout)
        (report.last.value.value * report.last.unit.scale) (threshold expectedTp speed) ↔
      report.subject.Narrow ∧ report.Whole ∧
        StaysAbove report.last.value report.last.unit.scale (threshold expectedTp speed) := by
  have positive : 0 < report.last.unit.scale := by
    cases report.last.unit <;> norm_num [IperfUnit.scale]
  rw [iperfTest, ← and_assoc]
  by_cases readable : report.subject.Narrow ∧ report.Whole
  · rw [read.1 readable]
    simp only [readable, true_and]
    exact decides_compared_iff report.last.value positive
  · rw [read.2 readable]
    simp only [readable, false_and, iff_false]
    exact not_decides_raised _ _

end Iperf

/-- Several connections are asked for at two speeds, where a sum is looked for. -/
theorem one_lt_connections_iff (isVnic hbond : Bool) (speed : Nat) :
    1 < connections isVnic hbond speed ↔
      (isVnic || hbond) = true ∧ (speed = 100000 ∨ speed = 25000) := by
  have fast : 1 < iperfPthread speed ↔ speed = 100000 ∨ speed = 25000 := by
    rw [iperfPthread]
    split
    · simp [*]
    · split <;> simp [*]
  rw [connections]
  cases isVnic || hbond with
  | false => simp
  | true => simp [fast]

/-- iperf's verdict is right exactly when there are several connections where a sum is looked for,
the number of the connection leaves room in the bracket, no number of megabits has a part behind
the point, and the throughput stays above the threshold without its part.

Proof: where a sum is looked for, the report is about one connection or about several, as the speed
has it. In the one case nothing is read, and the number is missing. Otherwise the loop reads the
last result, of the sum or of the connection. -/
theorem iperf_decides_iff {isVnic hbond : Bool} {speed : Nat}
    (report : IperfReport (connections isVnic hbond speed)) (expectedTp : Nat) :
    Decides (iperfTest isVnic hbond report.ipaddr expectedTp speed report.stdout)
        (report.last.value.value * report.last.unit.scale) (threshold expectedTp speed) ↔
      ((isVnic || hbond) = true → speed = 100000 ∨ speed = 25000) ∧
        report.subject.Narrow ∧ report.Whole ∧
          StaysAbove report.last.value report.last.unit.scale (threshold expectedTp speed) := by
  have summed := report.summed.trans (one_lt_connections_iff isVnic hbond speed)
  cases mode : isVnic || hbond with
  | false =>
    have isSingle : report.subject ≠ .sum := fun isSum =>
      absurd (summed.mp isSum).1 (by simp [mode])
    simpa using iperfTest_decides report (mode ▸ iperfRead_connection report isSingle) expectedTp
  | true =>
    by_cases several : speed = 100000 ∨ speed = 25000
    · have read := iperfRead_sum report (summed.mpr ⟨mode, several⟩)
      simpa [several] using iperfTest_decides report (mode ▸ read) expectedTp
    · have missing := iperfRead_missing report fun isSum => several (summed.mp isSum).2
      rw [iperfTest, mode, missing]
      simp [several, not_decides_raised]

/-- Both verdicts are right under these conditions, and only under them. The interface decides
whether iperf's test looks for a sum, and the speed of the link decides whether there is one. It is
assumed of the reports that they have the line about the connection, or about the sum if there are
several connections. A run that ends with an exit status, and the `nping` behind it, are not
covered. -/
theorem verdicts_decide_iff (isVnic hbond : Bool) (expectedTp speed : Nat) (uperf : UperfReport)
    (iperf : IperfReport (connections isVnic hbond speed)) :
    (Decides (uperfTest uperf.peerIp expectedTp speed uperf.stdout)
        (uperf.value.value * uperf.unit.scale) (threshold expectedTp speed) ↔
      uperf.value.fraction ≠ none ∧
        StaysAbove uperf.value uperf.unit.scale (threshold expectedTp speed)) ∧
      (Decides (iperfTest isVnic hbond iperf.ipaddr expectedTp speed iperf.stdout)
          (iperf.last.value.value * iperf.last.unit.scale) (threshold expectedTp speed) ↔
        ((isVnic || hbond) = true → speed = 100000 ∨ speed = 25000) ∧
          iperf.subject.Narrow ∧ iperf.Whole ∧
            StaysAbove iperf.last.value iperf.last.unit.scale (threshold expectedTp speed)) :=
  ⟨uperf_decides_iff uperf expectedTp speed, iperf_decides_iff iperf expectedTp⟩

/-- A link of 10 Gb/s, and 8.82 Gb/s on it. -/
def tenGb : UperfReport where
  stdout := "10.0.0.2 30.30s 31.12GB 8.82Gb/s".toList
  peerIp := "10.0.0.2".toList
  before := []
  line := "10.0.0.2 30.30s 31.12GB 8.82Gb/s".toList
  after := []
  front := ["10.0.0.2".toList, "30.30s".toList, "31.12GB".toList]
  value := ⟨Library.Numerals.ofNat 8, some (Library.Numerals.ofNat 82)⟩
  unit := .G
  back := []
  lines := by decide +kernel
  about := by decide +kernel
  others := by decide
  words_line := by decide +kernel
  three := rfl
  plain := by decide +kernel

/-- A link of 1 Gb/s, and 942.5 Mb/s on it. -/
def oneGb : IperfReport (connections false false 1000) where
  stdout := "[  3] local 10.0.0.1\n[  3]  0.0-10.0 sec  1.10 GBytes 942.5 Mbits/sec".toList
  ipaddr := "10.0.0.1".toList
  subject := .connection 3
  before := [.other "[  3] local 10.0.0.1".toList fun reports =>
    absurd (reports.2.subset (show 'b' ∈ bitsSec by decide)) (by decide +kernel)]
  last := {
    rest := "  0.0-10.0 sec  1.10 GBytes 942.5 Mbits/sec".toList
    front := ["0.0-10.0".toList, "sec".toList, "1.10".toList, "GBytes".toList]
    value := ⟨Library.Numerals.ofNat 942, some (Library.Numerals.ofNat 5)⟩
    unit := .M
    spaced := ⟨' ', " 0.0-10.0 sec  1.10 GBytes 942.5 Mbits/sec".toList, by decide +kernel, rfl⟩
    words_rest := by decide +kernel
    four := rfl
    plain := by decide +kernel }
  after := []
  lines := by decide +kernel
  done := by simp
  summed := by decide
  single := by
    have noSum : ∀ line ∈ charLines
        "[  3] local 10.0.0.1\n[  3]  0.0-10.0 sec  1.10 GBytes 942.5 Mbits/sec".toList,
        ¬ sum <:+: line := by decide +kernel
    exact fun _ line member reports => noSum line member (reports.1 rfl)
  isLocal := fun _ => ⟨" local 10.0.0.1".toList, by decide +kernel⟩

/-- uperf's test fails at 8.82 Gb/s where 8.5 Gb/s are expected, and iperf's test raises. -/
theorem not_decides_tenGb :
    ¬ Decides (uperfTest tenGb.peerIp 85 10000 tenGb.stdout) (tenGb.value.value * tenGb.unit.scale)
        (threshold 85 10000) ∧
      ¬ Decides (iperfTest false false oneGb.ipaddr 85 1000 oneGb.stdout)
          (oneGb.last.value.value * oneGb.last.unit.scale) (threshold 85 1000) := by
  have fails : uperfTest tenGb.peerIp 85 10000 tenGb.stdout = .failed 8000 := by decide +kernel
  have raises : iperfTest false false oneGb.ipaddr 85 1000 oneGb.stdout = .raised := by
    decide +kernel
  have above : ¬ tenGb.value.value * tenGb.unit.scale < threshold 85 10000 := by decide +kernel
  constructor
  · rintro ⟨_, passes⟩
    rw [fails] at passes
    cases passes above
  · rw [raises]
    exact not_decides_raised _ _

end AvocadoMisc.NetThroughput.Verdicts
