import Mathlib.Data.Rat.Floor
import Mathlib.Tactic.FieldSimp
import Mathlib.Tactic.Linarith
import Mathlib.Tactic.NormNum
import Mathlib.Tactic.Positivity
import AvocadoMisc.Library.Numerals
import AvocadoMisc.Library.Parts

/-!
# Numbers in texts

What Python's `int` and `float` read from a text, with the digits of ASCII. The result of `float`
is the exact number that is written, and the words for infinity and for no number are left out.
Three kinds of texts are read: some digits, digits with a decimal point, and digits in groups of
three with commas between them.
-/

namespace AvocadoMisc.Library.NumberTexts

open Library.Text Library.Numerals

/-! ### Reading -/

/-- Digits, with single underscores between them. -/
def digitRuns (text : List Char) : Option Nat :=
  let runs := text.splitOn '_'
  if (runs.all fun run => run ≠ [] && run.all (isDigit 10)) = true then
    some (value 10 runs.flatten)
  else none

/-- Whether there is a minus sign, and the text without the sign. -/
def sign : List Char → Bool × List Char
  | '-' :: rest => (true, rest)
  | '+' :: rest => (false, rest)
  | text => (false, text)

/-- `int` of a text. Where it raises a `ValueError` there is no result. -/
def int (text : List Char) : Option Int :=
  let signed := sign (strip charSpace text)
  (digitRuns signed.2).map fun (n : Nat) => if signed.1 then -(n : Int) else n

/-- The digits on one side of the point may be missing. -/
def side (text : List Char) : Option Nat := if text = [] then some 0 else digitRuns text

/-- A number with or without a decimal point. One of the sides may be empty, but not both;
underscores between digits are read as `float` reads them. -/
def mantissa (text : List Char) : Option ℚ :=
  match text.splitOn '.' with
  | [whole] => (digitRuns whole).map fun (n : Nat) => (n : ℚ)
  | [whole, fraction] =>
    if whole = [] ∧ fraction = [] then none
    else do
      let high ← side whole
      let low ← side fraction
      some (high + low / 10 ^ (fraction.filter (isDigit 10)).length)
  | _ => none

/-- The letter that an exponent begins with. -/
def isExponent (c : Char) : Bool := c = 'e' || c = 'E'

/-- What comes behind the mantissa: nothing, or an exponent. -/
def exponent : List Char → Option Int
  | [] => some 0
  | _ :: text =>
    let signed := sign text
    (digitRuns signed.2).map fun (n : Nat) => if signed.1 then -(n : Int) else n

/-- `float` of a text. Where it raises a `ValueError` there is no result. -/
def float (text : List Char) : Option ℚ := do
  let signed := sign (strip charSpace text)
  let number ← mantissa (signed.2.takeWhile (!isExponent ·))
  let power ← exponent (signed.2.dropWhile (!isExponent ·))
  some ((if signed.1 then -number else number) * 10 ^ power)

/-- `int` of a number, which leaves out what is behind the point. -/
def trunc (number : ℚ) : Int := if 0 ≤ number then ⌊number⌋ else ⌈number⌉

/-- `str` of an integer. -/
def str : Int → List Char
  | .ofNat n => decimal n
  | .negSucc n => '-' :: decimal (n + 1)

/-! ### Digits -/

/-- Where the digits to base ten are. -/
theorem code_of_digit {c : Char} (digit : isDigit 10 c = true) : 48 ≤ c.toNat ∧ c.toNat ≤ 57 :=
  Char.isDigit_iff_toNat.mp (isDigit_ten_iff.mp digit)

/-- A digit is none of the other characters. -/
theorem ne_of_digit {c other : Char} (digit : isDigit 10 c = true)
    (elsewhere : ¬ (48 ≤ other.toNat ∧ other.toNat ≤ 57)) : c ≠ other := by
  rintro rfl
  exact elsewhere (code_of_digit digit)

/-- White space is no digit. -/
theorem charSpace_of_digit {c : Char} (digit : isDigit 10 c = true) : charSpace c = false :=
  charSpace_digit (isDigit_ten_iff.mp digit)

/-- Digits denote less than the next power. -/
theorem value_lt {digits : List Char} (all : ∀ c ∈ digits, isDigit 10 c = true) :
    value 10 digits < 10 ^ digits.length := by
  induction digits using List.reverseRecOn with
  | nil => simp [value]
  | append_singleton front last inductionHypothesis =>
    have fewer := inductionHypothesis fun c member => all c (List.mem_append_left _ member)
    have small : digitValue last < 10 := of_decide_eq_true (all last (by simp))
    rw [value_append, value_singleton, List.length_append, List.length_singleton, pow_succ]
    omega

section Numeral

variable (numeral : Numeral 10)

/-- A character that is no digit is not in a numeral. -/
theorem not_mem_numeral {c : Char} (other : ¬ (48 ≤ c.toNat ∧ c.toNat ≤ 57)) :
    c ∉ numeral.digits := fun member =>
  ne_of_digit (numeral.allDigits c member) other rfl

/-- A numeral is a word. -/
theorem numeral_isWord : IsWord charSpace numeral.digits :=
  ⟨numeral.nonempty, fun c member => charSpace_of_digit (numeral.allDigits c member)⟩

/-- A numeral is one run of digits. -/
theorem digitRuns_numeral : digitRuns numeral.digits = some numeral.toNat := by
  have noUnderscore : '_' ∉ numeral.digits := not_mem_numeral numeral (by decide)
  have runs : numeral.digits.splitOn '_' = [numeral.digits] :=
    List.splitOn_eq_singleton noUnderscore
  rw [digitRuns, runs]
  simp [numeral.nonempty, List.all_eq_true.mpr numeral.allDigits, Numeral.toNat]

/-- Nothing has to be stripped, and there is no sign. -/
theorem sign_numeral (tail : List Char) :
    sign (numeral.digits ++ tail) = (false, numeral.digits ++ tail) := by
  obtain ⟨first, rest, begins⟩ := List.exists_cons_of_ne_nil numeral.nonempty
  have digit : isDigit 10 first = true := numeral.allDigits first (by simp [begins])
  have noMinus : first ≠ '-' := ne_of_digit digit (by decide)
  have noPlus : first ≠ '+' := ne_of_digit digit (by decide)
  rw [begins, List.cons_append, sign]
  · intro other same
    exact noMinus (List.cons.inj same).1
  · intro other same
    exact noPlus (List.cons.inj same).1

/-- `int` of a numeral. -/
theorem int_numeral : int numeral.digits = some (numeral.toNat : Int) := by
  have unsigned := sign_numeral numeral []
  rw [List.append_nil] at unsigned
  simp [int, (numeral_isWord numeral).strip, unsigned, digitRuns_numeral]

end Numeral

/-- A text with another character is no run of digits. -/
theorem digitRuns_eq_none {text : List Char} {c : Char} (member : c ∈ text)
    (noDigit : isDigit 10 c = false) (noUnderscore : c ≠ '_') : digitRuns text = none := by
  rw [digitRuns, if_neg]
  intro all
  rw [List.all_eq_true] at all
  have joined : ['_'].intercalate (text.splitOn '_') = text := List.intercalate_splitOn '_'
  rw [← joined] at member
  have digits : ∀ other ∈ ['_'].intercalate (text.splitOn '_'),
      isDigit 10 other = true ∨ other = '_' := by
    apply forall_mem_intercalate
    · intro run inRuns other inRun
      have runDigits := all run inRuns
      rw [Bool.and_eq_true, List.all_eq_true] at runDigits
      exact Or.inl (runDigits.2 other inRun)
    · exact Or.inr rfl
  rcases digits c member with digit | underscore
  · rw [noDigit] at digit
    cases digit
  · exact noUnderscore underscore

/-- A text with another character is no number for `int`. -/
theorem int_eq_none {text : List Char} {c : Char} (member : c ∈ text)
    (solid : charSpace c = false) (noDigit : isDigit 10 c = false)
    (noMark : c ∉ ['_', '-', '+']) : int text = none := by
  have noUnderscore : c ≠ '_' := fun same => noMark (by simp [same])
  have inside : c ∈ (sign (strip charSpace text)).2 := by
    have stripped := mem_strip solid member
    unfold sign
    split <;> simp_all
  rw [int, digitRuns_eq_none inside noDigit noUnderscore, Option.map_none]

/-- The characters of an integer. -/
theorem mem_str {n : Int} {c : Char} (member : c ∈ str n) : isDigit 10 c = true ∨ c = '-' := by
  cases n with
  | ofNat n => exact Or.inl ((ofNat n).allDigits c member)
  | negSucc n =>
    rcases List.mem_cons.mp member with minus | digit
    · exact Or.inr minus
    · exact Or.inl ((ofNat (n + 1)).allDigits c digit)

/-- An integer is a word. -/
theorem str_isWord (n : Int) : IsWord charSpace (str n) := by
  constructor
  · cases n with
    | ofNat n => exact (ofNat n).nonempty
    | negSucc n => exact List.cons_ne_nil _ _
  · intro c member
    rcases mem_str member with digit | rfl
    · exact charSpace_of_digit digit
    · decide

/-- An integer is read back. -/
theorem int_str (n : Int) : int (str n) = some n := by
  cases n with
  | ofNat n =>
    have read := int_numeral (ofNat n)
    rw [toNat_ofNat] at read
    exact read
  | negSucc n =>
    have digits := digitRuns_numeral (ofNat (n + 1))
    rw [toNat_ofNat] at digits
    have word : strip charSpace ('-' :: decimal (n + 1)) = '-' :: decimal (n + 1) :=
      (str_isWord (.negSucc n)).strip
    rw [str, int, word]
    simp only [sign]
    rw [show decimal (n + 1) = (ofNat (n + 1)).digits from rfl, digits]
    rfl

/-! ### Decimals -/

/-- Digits, which a decimal point and more digits may follow. -/
structure Decimal where
  whole : Numeral 10
  fraction : Option (Numeral 10)

/-- How it is written. -/
def Decimal.text (number : Decimal) : List Char :=
  match number.fraction with
  | none => number.whole.digits
  | some fraction => number.whole.digits ++ '.' :: fraction.digits

/-- The point and what follows it. -/
def point : Option (Numeral 10) → List Char
  | none => []
  | some fraction => '.' :: fraction.digits

/-- The part behind the point. -/
def Decimal.part (number : Decimal) : ℚ :=
  match number.fraction with
  | none => 0
  | some fraction => fraction.toNat / 10 ^ fraction.digits.length

/-- The number that is written. -/
def Decimal.value (number : Decimal) : ℚ := number.whole.toNat + number.part

section Decimal

variable (number : Decimal)

/-- The part behind the point is less than one. -/
theorem part_bounds : 0 ≤ number.part ∧ number.part < 1 := by
  unfold Decimal.part
  cases number.fraction with
  | none => norm_num
  | some fraction =>
    have small : (fraction.toNat : ℚ) < 10 ^ fraction.digits.length := by
      exact_mod_cast value_lt fraction.allDigits
    constructor
    · positivity
    · rw [div_lt_one (by positivity)]
      exact small

/-- A decimal is not negative. -/
theorem value_nonneg : 0 ≤ number.value := by
  have bounds := part_bounds number
  have whole : (0 : ℚ) ≤ number.whole.toNat := Nat.cast_nonneg _
  rw [Decimal.value]
  linarith

/-- Its floor is what is written in front of the point. -/
theorem floor_value : ⌊number.value⌋ = (number.whole.toNat : Int) := by
  have bounds := part_bounds number
  rw [Int.floor_eq_iff, Decimal.value]
  push_cast
  constructor <;> linarith

/-- And so is what is left of it without the part behind the point. -/
theorem trunc_value : trunc number.value = (number.whole.toNat : Int) := by
  rw [trunc, if_pos (value_nonneg number), floor_value]

/-- A decimal is its digits and the point with what follows it. -/
theorem decimal_text_eq :
    number.text = number.whole.digits ++ point number.fraction := by
  unfold Decimal.text
  cases number.fraction with
  | none => rw [point, List.append_nil]
  | some fraction => rfl

/-- Behind the count there are a point and digits. -/
theorem mem_point {fraction : Option (Numeral 10)} {c : Char} (member : c ∈ point fraction) :
    isDigit 10 c = true ∨ c = '.' := by
  cases fraction with
  | none => cases member
  | some digits =>
    rcases List.mem_cons.mp member with isPoint | inDigits
    · exact Or.inr isPoint
    · exact Or.inl (digits.allDigits c inDigits)

/-- Each character of a decimal is a digit or the point. -/
theorem mem_decimal {c : Char} (member : c ∈ number.text) : isDigit 10 c = true ∨ c = '.' := by
  rw [decimal_text_eq] at member
  rcases List.mem_append.mp member with inWhole | inPoint
  · exact Or.inl (number.whole.allDigits c inWhole)
  · exact mem_point inPoint

/-- A decimal begins with its whole digits. -/
theorem exists_text_eq : ∃ tail, number.text = number.whole.digits ++ tail :=
  ⟨point number.fraction, decimal_text_eq number⟩

/-- A decimal is a word. -/
theorem decimal_isWord : IsWord charSpace number.text := by
  constructor
  · obtain ⟨tail, begins⟩ := exists_text_eq number
    rw [begins]
    exact List.append_ne_nil_of_left_ne_nil number.whole.nonempty tail
  · intro c member
    rcases mem_decimal number member with digit | rfl
    · exact charSpace_of_digit digit
    · decide

/-- `int` reads a decimal exactly when it has no point. -/
theorem int_decimal :
    int number.text =
      if number.fraction = none then some (number.whole.toNat : Int) else none := by
  cases fraction : number.fraction with
  | none => rw [Decimal.text, fraction, if_pos rfl, int_numeral]
  | some digits =>
    have point : '.' ∈ number.text := by
      rw [Decimal.text, fraction]
      simp
    rw [if_neg (by simp)]
    exact int_eq_none point (by decide) (by decide) (by decide)

/-- The mantissa of a decimal is the decimal: it is cut at its point, and both sides are digits that
are read as they were written. -/
theorem mantissa_decimal : mantissa number.text = some number.value := by
  have whole : '.' ∉ number.whole.digits := not_mem_numeral number.whole (by decide)
  cases present : number.fraction with
  | none =>
    have pieces : number.text.splitOn '.' = [number.whole.digits] := by
      rw [Decimal.text, present]
      exact List.splitOn_eq_singleton whole
    rw [mantissa, pieces]
    simp [digitRuns_numeral, Decimal.value, Decimal.part, present]
  | some fraction =>
    have behind : '.' ∉ fraction.digits := not_mem_numeral fraction (by decide)
    have pieces : number.text.splitOn '.' = [number.whole.digits, fraction.digits] := by
      rw [Decimal.text, present]
      dsimp only
      rw [List.splitOn_append_cons_self, List.splitOn_eq_singleton whole,
        List.splitOn_eq_singleton behind]
      rfl
    have digits : fraction.digits.filter (isDigit 10) = fraction.digits :=
      List.filter_eq_self.mpr fraction.allDigits
    rw [mantissa, pieces]
    simp [side, number.whole.nonempty, fraction.nonempty, digitRuns_numeral, digits,
      Decimal.value, Decimal.part, present]

/-- Without a sign and an exponent only the mantissa is read: nothing is stripped from digits and
points, and none of them begins an exponent. -/
theorem float_eq_mantissa (whole : Numeral 10) {tail : List Char}
    (plain : ∀ c ∈ tail, isDigit 10 c = true ∨ c = '.') :
    float (whole.digits ++ tail) = mantissa (whole.digits ++ tail) := by
  have plainText : ∀ c ∈ whole.digits ++ tail, isDigit 10 c = true ∨ c = '.' := by
    intro c member
    rcases List.mem_append.mp member with inWhole | inTail
    · exact Or.inl (whole.allDigits c inWhole)
    · exact plain c inTail
  have isWord : IsWord charSpace (whole.digits ++ tail) := by
    refine ⟨List.append_ne_nil_of_left_ne_nil whole.nonempty tail, fun c member => ?_⟩
    rcases plainText c member with digit | rfl
    · exact charSpace_of_digit digit
    · decide
  have noExponent : ∀ c ∈ whole.digits ++ tail, (!isExponent c) = true := by
    intro c member
    rcases plainText c member with digit | rfl
    · have noSmall : c ≠ 'e' := ne_of_digit digit (by decide)
      have noLarge : c ≠ 'E' := ne_of_digit digit (by decide)
      simp [isExponent, noSmall, noLarge]
    · decide
  have front : (whole.digits ++ tail).takeWhile (!isExponent ·) = whole.digits ++ tail :=
    List.takeWhile_eq_self_iff.mpr noExponent
  have back : (whole.digits ++ tail).dropWhile (!isExponent ·) = [] :=
    List.dropWhile_eq_nil_iff.mpr noExponent
  simp [float, isWord.strip, sign_numeral, front, back, exponent]

/-- `float` of a decimal. -/
theorem float_decimal : float number.text = some number.value := by
  rw [← mantissa_decimal, decimal_text_eq]
  exact float_eq_mantissa number.whole fun c member => mem_point member

/-- The point may be the last character. -/
theorem float_point (whole : Numeral 10) :
    float (whole.digits ++ ['.']) = some (whole.toNat : ℚ) := by
  have noPoint : '.' ∉ whole.digits := not_mem_numeral whole (by decide)
  have pieces : (whole.digits ++ ['.']).splitOn '.' = [whole.digits, []] := by
    rw [List.splitOn_append_cons_self, List.splitOn_eq_singleton noPoint]
    rfl
  rw [float_eq_mantissa whole (by simp), mantissa, pieces]
  simp [side, whole.nonempty, digitRuns_numeral]

end Decimal

/-! ### Thousands separators -/

/-- Digits in groups of three, with commas between them. Only a number that is one group may
begin with a zero. -/
structure Grouped where
  first : Numeral 10
  groups : List (Numeral 10)
  short : first.digits.length ≤ 3
  three : ∀ group ∈ groups, group.digits.length = 3
  leading : groups ≠ [] → 0 < first.toNat

/-- The groups with what is written in them. -/
def Grouped.fields (count : Grouped) : List (List Char) :=
  (count.first :: count.groups).map Numeral.digits

/-- How it is written. -/
def Grouped.text (count : Grouped) : List Char := [','].intercalate count.fields

/-- The number that is written. -/
def Grouped.toNat (count : Grouped) : Nat := value 10 count.fields.flatten

section Grouped

variable (count : Grouped)

/-- The characters in a group are digits. -/
theorem digit_of_mem_fields : ∀ field ∈ count.fields, ∀ c ∈ field, isDigit 10 c = true := by
  intro field member c inField
  obtain ⟨group, _, rfl⟩ := List.mem_map.mp member
  exact group.allDigits c inField

/-- Each character of a count is a digit or a comma. -/
theorem mem_grouped : ∀ c ∈ count.text, isDigit 10 c = true ∨ c = ',' :=
  forall_mem_intercalate (fun field member c inField =>
    Or.inl (digit_of_mem_fields count field member c inField)) (Or.inr rfl)

/-- A count begins with the digits of its first group. -/
theorem exists_grouped_eq : ∃ tail, count.text = count.first.digits ++ tail := by
  have begins : count.first.digits <+: count.text :=
    first_prefix_intercalate count.first.digits (count.groups.map Numeral.digits)
  obtain ⟨tail, same⟩ := begins
  exact ⟨tail, same.symm⟩

/-- A count is a word. -/
theorem grouped_isWord : IsWord charSpace count.text := by
  constructor
  · obtain ⟨tail, begins⟩ := exists_grouped_eq count
    rw [begins]
    exact List.append_ne_nil_of_left_ne_nil count.first.nonempty tail
  · intro c member
    rcases mem_grouped count c member with digit | rfl
    · exact charSpace_of_digit digit
    · decide

/-- What a filter makes of a row of fields that it does not change. -/
theorem filter_intercalate {fields : List (List Char)}
    (inFields : ∀ field ∈ fields, ∀ c ∈ field, c ≠ ',') :
    ([','].intercalate fields).filter (· ≠ ',') = fields.flatten := by
  induction fields with
  | nil => rfl
  | cons field rest inductionHypothesis =>
    have here : field.filter (· ≠ ',') = field := by
      apply List.filter_eq_self.mpr
      intro c member
      exact decide_eq_true (inFields field List.mem_cons_self c member)
    have further := inductionHypothesis fun other member => inFields other (.tail field member)
    cases rest with
    | nil => simpa using here
    | cons second others =>
      rw [List.intercalate_cons_cons, List.append_assoc, List.filter_append, here,
        List.singleton_append, List.filter_cons_of_neg (by simp), further]
      rfl

/-- The digits of a count, as `replace(',', '')` leaves them. They are a numeral, because the first
group has a digit. -/
def Grouped.numeral : Numeral 10 where
  digits := count.text.filter (· ≠ ',')
  nonempty := by
    obtain ⟨first, rest, digits⟩ := List.exists_cons_of_ne_nil count.first.nonempty
    obtain ⟨tail, begins⟩ := exists_grouped_eq count
    have noComma : first ≠ ',' :=
      ne_of_digit (count.first.allDigits first (by simp [digits])) (by decide)
    rw [begins, digits]
    simp [noComma]
  allDigits := by
    intro c member
    obtain ⟨inText, noComma⟩ := List.mem_filter.mp member
    exact (mem_grouped count c inText).resolve_right (of_decide_eq_true noComma)

/-- They denote the number. -/
theorem toNat_numeral : count.numeral.toNat = count.toNat := by
  have noComma : ∀ field ∈ count.fields, ∀ c ∈ field, c ≠ ',' := fun field member c inField =>
    ne_of_digit (digit_of_mem_fields count field member c inField) (by decide)
  exact congrArg (value 10) (filter_intercalate noComma)

/-- Without the commas `int` reads a count. -/
theorem int_grouped : int (count.text.filter (· ≠ ',')) = some (count.toNat : Int) := by
  rw [← toNat_numeral]
  exact int_numeral count.numeral

/-- Three digits do not reach 1000. -/
theorem toNat_lt_thousand {group : Numeral 10} (short : group.digits.length ≤ 3) :
    group.toNat < 1000 := by
  have power : 10 ^ group.digits.length ≤ 10 ^ 3 := Nat.pow_le_pow_right (by decide) short
  exact (value_lt group.allDigits).trans_le power

/-- A count of one group has no comma. -/
theorem text_of_one_group (one : count.groups = []) :
    count.text = count.first.digits ∧ count.toNat = count.first.toNat := by
  simp [Grouped.text, Grouped.toNat, Grouped.fields, one, Numeral.toNat]

/-- The last group is written behind a comma, and it is what is left of the number modulo 1000. -/
theorem exists_last_group (more : count.groups ≠ []) :
    ∃ (front : List Char) (last : Numeral 10), count.text = front ++ ',' :: last.digits ∧
      count.toNat % 1000 = last.toNat ∧ last.toNat < 1000 ∧ 1000 ≤ count.toNat := by
  obtain ⟨before, last, groups⟩ := (List.eq_nil_or_concat' count.groups).resolve_left more
  have fields : count.fields =
      (count.first :: before).map Numeral.digits ++ [last.digits] := by
    simp [Grouped.fields, groups]
  have length : last.digits.length = 3 := count.three last (by simp [groups])
  have small : last.toNat < 1000 := toNat_lt_thousand length.le
  have total : count.toNat =
      value 10 ((count.first :: before).map Numeral.digits).flatten * 1000 + last.toNat := by
    rw [Grouped.toNat, fields, List.flatten_append, value_append, List.flatten_singleton, length,
      Numeral.toNat]
    norm_num
  have positive : 0 < value 10 ((count.first :: before).map Numeral.digits).flatten := by
    have leading : 0 < value 10 count.first.digits := count.leading more
    rw [List.map_cons, List.flatten_cons, value_append]
    positivity
  obtain ⟨front, concat⟩ := exists_intercalate_concat ','
    (List.cons_ne_nil count.first.digits (before.map Numeral.digits))
  refine ⟨front, last, ?_, by omega, small, by omega⟩
  rw [Grouped.text, fields]
  exact concat last.digits

end Grouped

/-- A count, which a decimal point and more digits may follow. -/
structure Amount where
  count : Grouped
  fraction : Option (Numeral 10)

/-- How it is written. -/
def Amount.text (amount : Amount) : List Char := amount.count.text ++ point amount.fraction

/-- The amount without the commas. -/
def Amount.decimal (amount : Amount) : Decimal :=
  { whole := amount.count.numeral, fraction := amount.fraction }

/-- The number that is written. -/
def Amount.value (amount : Amount) : ℚ := amount.decimal.value

section Amount

variable (amount : Amount)

/-- The characters of an amount. -/
theorem mem_amount {c : Char} (member : c ∈ amount.text) :
    isDigit 10 c = true ∨ c = ',' ∨ c = '.' := by
  rcases List.mem_append.mp member with inCount | inPoint
  · exact (mem_grouped amount.count c inCount).imp_right Or.inl
  · exact (mem_point inPoint).imp_right Or.inr

/-- An amount is a word. -/
theorem amount_isWord : IsWord charSpace amount.text := by
  refine ⟨List.append_ne_nil_of_left_ne_nil (grouped_isWord amount.count).nonempty _, ?_⟩
  intro c member
  rcases mem_amount amount member with digit | rfl | rfl
  · exact charSpace_of_digit digit
  · decide
  · decide

/-- Without the commas it is a decimal. -/
theorem filter_amount : amount.text.filter (· ≠ ',') = amount.decimal.text := by
  have noComma : (point amount.fraction).filter (· ≠ ',') = point amount.fraction := by
    apply List.filter_eq_self.mpr
    intro c member
    rcases mem_point member with digit | rfl
    · exact decide_eq_true (ne_of_digit digit (by decide))
    · decide
  rw [Amount.text, List.filter_append, noComma, decimal_text_eq]
  rfl

/-- `float` reads an amount without the commas. -/
theorem float_amount : float (amount.text.filter (· ≠ ',')) = some amount.value := by
  rw [filter_amount]
  exact float_decimal amount.decimal

/-- What is written behind the last comma is the amount only when the amount is less than 1000. -/
theorem exists_last_part :
    ∃ (front : List Char) (last : Decimal), amount.text = front ++ last.text ∧
      (∀ c ∈ front, isDigit 10 c = true ∨ c = ',') ∧ (∀ c ∈ front.getLast?, c = ',') ∧
      (last.value = amount.value ↔ amount.value < 1000) := by
  have total : amount.value = amount.count.toNat + amount.decimal.part := by
    rw [Amount.value, Decimal.value, Amount.decimal, toNat_numeral]
  have bounds := part_bounds amount.decimal
  by_cases one : amount.count.groups = []
  · obtain ⟨text, number⟩ := text_of_one_group amount.count one
    refine ⟨[], ⟨amount.count.first, amount.fraction⟩, ?_, by simp, by simp, ?_⟩
    · rw [decimal_text_eq, Amount.text, text]
      rfl
    · have same : Decimal.value ⟨amount.count.first, amount.fraction⟩ = amount.value := by
        rw [total, number]
        rfl
      have small : (amount.count.first.toNat : ℚ) + 1 ≤ 1000 := by
        have below : amount.count.first.toNat < 1000 := toNat_lt_thousand amount.count.short
        exact_mod_cast Nat.succ_le_of_lt below
      refine iff_of_true same ?_
      rw [total, number]
      linarith
  · obtain ⟨front, last, text, _, small, large⟩ := exists_last_group amount.count one
    refine ⟨front ++ [','], ⟨last, amount.fraction⟩, ?_, ?_, by simp, ?_⟩
    · rw [decimal_text_eq, Amount.text, text]
      simp
    · intro c member
      apply mem_grouped amount.count
      rw [text]
      rcases List.mem_append.mp member with inFront | isComma
      · exact List.mem_append_left _ inFront
      · rw [List.mem_singleton.mp isComma]
        exact List.mem_append_right _ List.mem_cons_self
    · have least : (1000 : ℚ) ≤ amount.count.toNat := by exact_mod_cast large
      have most : (last.toNat : ℚ) + 1 ≤ 1000 := by exact_mod_cast small
      have different : Decimal.value ⟨last, amount.fraction⟩ ≠ amount.value := by
        have parts : Decimal.value ⟨last, amount.fraction⟩ = last.toNat + amount.decimal.part := rfl
        rw [parts, total]
        intro same
        linarith
      refine iff_of_false different ?_
      rw [total]
      linarith

end Amount

end AvocadoMisc.Library.NumberTexts
