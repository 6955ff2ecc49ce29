import Mathlib.Tactic.Ring
import Mathlib.Tactic.SplitIfs
import AvocadoMisc.Library.Text

/-!
# Numerals

The number that a text of digits denotes to a base of at most 36, and what C and Python read
from a text. A numeral may have any number of leading zeros, so the value of its digits is all
that is known of it, besides their number.
-/

namespace AvocadoMisc.Library.Numerals

open Library.Text

/-- The value of a digit, with letters of either case from ten on, and 36 for any other
character. -/
def digitValue (c : Char) : Nat :=
  if 48 ≤ c.toNat ∧ c.toNat ≤ 57 then c.toNat - 48
  else if 97 ≤ c.toNat ∧ c.toNat ≤ 122 then c.toNat - 87
  else if 65 ≤ c.toNat ∧ c.toNat ≤ 90 then c.toNat - 55
  else 36

/-- The character is a digit to the base. -/
def isDigit (base : Nat) (c : Char) : Bool := decide (digitValue c < base)

/-- The number that digits denote, most significant first. -/
def value (base : Nat) (digits : List Char) : Nat :=
  digits.foldl (fun number c => number * base + digitValue c) 0

/-- Some digits, and no other character. -/
structure Numeral (base : Nat) where
  digits : List Char
  nonempty : digits ≠ []
  allDigits : ∀ c ∈ digits, isDigit base c = true

/-- The number a numeral denotes. -/
def Numeral.toNat {base : Nat} (numeral : Numeral base) : Nat := value base numeral.digits

/-- The first digits of a numeral are digits. -/
theorem Numeral.allDigits_front {base : Nat} (numeral : Numeral base) {front back : List Char}
    (split : numeral.digits = front ++ back) : ∀ c ∈ front, isDigit base c = true := by
  intro c member
  refine numeral.allDigits c ?_
  rw [split]
  exact List.mem_append_left back member

/-- The fold from a number on adds that number in front. -/
theorem foldl_value (base : Nat) (digits : List Char) (number : Nat) :
    digits.foldl (fun number c => number * base + digitValue c) number =
      number * base ^ digits.length + value base digits := by
  induction digits generalizing number with
  | nil => simp [value]
  | cons c rest inductionHypothesis =>
    have here := inductionHypothesis (number * base + digitValue c)
    have alone := inductionHypothesis (0 * base + digitValue c)
    rw [value, List.foldl_cons, List.foldl_cons, here, alone, List.length_cons, Nat.pow_succ]
    ring

/-- Digits after digits: the first ones count for more by the number of the second. -/
theorem value_append (base : Nat) (first second : List Char) :
    value base (first ++ second) =
      value base first * base ^ second.length + value base second := by
  rw [value, List.foldl_append, foldl_value]
  rfl

/-- One digit denotes its value. -/
theorem value_singleton (base : Nat) (c : Char) : value base [c] = digitValue c := by
  simp [value]

/-- The digits to base ten are the ten decimal digits. -/
theorem isDigit_ten_iff {c : Char} : isDigit 10 c = true ↔ c.isDigit = true := by
  have range : c.isDigit = true ↔ 48 ≤ c.toNat ∧ c.toNat ≤ 57 := Char.isDigit_iff_toNat
  rw [range, isDigit, decide_eq_true_eq, digitValue]
  split_ifs <;> omega

/-- The digits to base sixteen, by their codes. -/
theorem isDigit_sixteen_iff {c : Char} : isDigit 16 c = true ↔
    (48 ≤ c.toNat ∧ c.toNat ≤ 57) ∨ (97 ≤ c.toNat ∧ c.toNat ≤ 102) ∨
      (65 ≤ c.toNat ∧ c.toNat ≤ 70) := by
  rw [isDigit, decide_eq_true_eq, digitValue]
  split_ifs <;> omega

/-- The digits that a number is written with denote it. -/
theorem value_decimal (n : Nat) : value 10 (decimal n) = n := by
  have sameFold : value 10 (decimal n) = Nat.ofDigitChars 10 (decimal n) 0 := by
    rw [value, Nat.ofDigitChars_eq_foldl]
    refine List.foldl_ext _ _ _ fun number c member => ?_
    have range : 48 ≤ c.toNat ∧ c.toNat ≤ 57 :=
      Char.isDigit_iff_toNat.mp (decimal_digits n c member)
    rw [digitValue, if_pos range, Nat.mul_comm]
    rfl
  rw [sameFold]
  exact Nat.ofDigitChars_ten_toDigits

/-- A number as a numeral. -/
def ofNat (n : Nat) : Numeral 10 where
  digits := decimal n
  nonempty := Nat.toDigits_ne_nil
  allDigits := fun c member => isDigit_ten_iff.mpr (decimal_digits n c member)

/-- Written and read again. -/
theorem toNat_ofNat (n : Nat) : (ofNat n).toNat = n := value_decimal n

end AvocadoMisc.Library.Numerals
