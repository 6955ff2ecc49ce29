import Mathlib.Tactic.NormNum
import AvocadoMisc.Library.Numerals

/-!
# Numbers on the command line of dwh

`strtoui` reads a thread count or a time. It throws on a text that is no number and on one that
does not fit 64 bits, and turns a number that does not fit 32 bits into 0. `memsztoull` reads a
size with an optional unit. `strtoull` saturates, but the product with the unit is on 64-bit
unsigned integers and wraps.

A text is the list of its characters before the terminating zero. `memsztoull` keeps the length
in an `int`.
-/

namespace AvocadoMisc.Dwh.SizeParsing

open Library.Numerals

/-- The characters that `isspace` accepts. -/
def cSpace (c : Char) : Bool := [0x9, 0xA, 0xB, 0xC, 0xD, 0x20].contains c.toNat

/-- An optional sign and what follows it. -/
def sign : List Char → Bool × List Char
  | '-' :: rest => (true, rest)
  | '+' :: rest => (false, rest)
  | rest => (false, rest)

/-- The number in front of a text, to base ten: whether it is negative, and its magnitude. -/
def scanNumber (text : List Char) : Option (Bool × Nat) :=
  let (negative, rest) := sign (text.dropWhile cSpace)
  let digits := rest.takeWhile (isDigit 10)
  if digits.isEmpty then none else some (negative, value 10 digits)

/-- A signed number modulo 2^64. -/
def residue (negative : Bool) (magnitude : Nat) : BitVec 64 :=
  if negative then -(BitVec.ofNat 64 magnitude) else BitVec.ofNat 64 magnitude

/-- `strtoull` to base ten. -/
def strtoull (text : List Char) : BitVec 64 :=
  match scanNumber text with
  | none => 0
  | some (negative, magnitude) =>
    if 2 ^ 64 ≤ magnitude then BitVec.allOnes 64 else residue negative magnitude

/-- `std::stoul` to base ten, and `none` when it throws. -/
def stoul (text : List Char) : Option (BitVec 64) :=
  match scanNumber text with
  | none => none
  | some (negative, magnitude) =>
    if 2 ^ 64 ≤ magnitude then none else some (residue negative magnitude)

/-- `strtoui`. -/
def strtoui (text : List Char) : Option (BitVec 32) :=
  (stoul text).map fun lresult =>
    let result := lresult.setWidth 32
    if result.setWidth 64 ≠ lresult then 0 else result

/-- The multiplier of a last character, when it is a unit. -/
def unitOf : Char → Option (BitVec 64)
  | 'k' => some 1024
  | 'K' => some 1024
  | 'M' => some (1024 * 1024)
  | 'G' => some (1024 * 1024 * 1024)
  | _ => none

/-- The length as an `int`. -/
def intLength (text : List Char) : Int := (BitVec.ofNat 32 text.length).toInt

/-- `memsztoull`, for a null pointer or a text. -/
def memsztoull : Option (List Char) → BitVec 64
  | none => 0
  | some s =>
    let ln := intLength s
    if ln > 1 then
      match s[(ln - 1).toNat]?.bind unitOf with
      | some mult => strtoull (s.take (ln - 1).toNat) * mult
      | none => strtoull s * 1
    else strtoull s * 1

/-- The unit at the end of a requested size. -/
inductive Suffix where
  | none | k | K | M | G
  deriving DecidableEq

/-- How a unit is written. -/
def Suffix.chars : Suffix → List Char
  | .none => []
  | .k => ['k']
  | .K => ['K']
  | .M => ['M']
  | .G => ['G']

/-- The power of 1024 that a unit stands for. -/
def Suffix.exponent : Suffix → Nat
  | .none => 0
  | .k => 1
  | .K => 1
  | .M => 2
  | .G => 3

/-- A decimal numeral and a unit, which together are the text of an argument. -/
structure Request where
  numeral : Numeral 10
  suffix : Suffix

/-- The request as it is written. -/
def Request.text (request : Request) : List Char :=
  request.numeral.digits ++ request.suffix.chars

/-- The size that is requested. -/
def Request.size (request : Request) : Nat :=
  request.numeral.toNat * 1024 ^ request.suffix.exponent

/-- The size read for a request. -/
def Request.parsed (request : Request) : Nat := (memsztoull (some request.text)).toNat

/-- What reading a size promises: the exact number when it fits 64 bits, one that is not below any
that fits when it does not, and zero only for zero. -/
structure Faithful (request : Request) : Prop where
  exact : request.size < 2 ^ 64 → request.parsed = request.size
  saturated : 2 ^ 64 ≤ request.size →
    ∀ other : Request, other.size < 2 ^ 64 → other.size ≤ request.parsed
  nonzero : request.size ≠ 0 → request.parsed ≠ 0

/-- When the promise is kept: without a unit always; with one, when the size is below 2^64. The
unit of a text that is too long for an `int` is not seen, which only matters for a number that is
neither zero nor saturated. -/
def Request.Kept (request : Request) : Prop :=
  request.suffix ≠ .none →
    if request.text.length < 2 ^ 31 then request.size < 2 ^ 64
    else request.numeral.toNat = 0 ∨ 2 ^ 64 - 1 ≤ request.numeral.toNat

/-- A digit is neither white space nor a sign. -/
theorem digit_solid {c : Char} (digit : isDigit 10 c = true) :
    cSpace c = false ∧ c ≠ '-' ∧ c ≠ '+' := by
  have range : 48 ≤ c.toNat ∧ c.toNat ≤ 57 :=
    Char.isDigit_iff_toNat.mp (isDigit_ten_iff.mp digit)
  refine ⟨?_, ?_, ?_⟩
  · by_contra white
    rw [Bool.not_eq_false, cSpace, List.contains_iff_mem] at white
    simp only [List.mem_cons, List.not_mem_nil, or_false] at white
    omega
  · rintro rfl
    exact absurd range (by decide)
  · rintro rfl
    exact absurd range (by decide)

/-- A numeral in front of no other digit is the number that is scanned. Its first character is a
digit, so no white space is skipped and no sign is read in front of it. -/
theorem scanNumber_numeral (numeral : Numeral 10) (tail : List Char)
    (ends : ∀ c ∈ tail.head?, isDigit 10 c = false) :
    scanNumber (numeral.digits ++ tail) = some (false, numeral.toNat) := by
  obtain ⟨first, rest, digits⟩ := List.exists_cons_of_ne_nil numeral.nonempty
  have firstDigit : isDigit 10 first = true := numeral.allDigits first (by simp [digits])
  obtain ⟨solid, noMinus, noPlus⟩ := digit_solid firstDigit
  have begins : numeral.digits ++ tail = first :: (rest ++ tail) := by
    rw [digits, List.cons_append]
  have kept : (numeral.digits ++ tail).dropWhile cSpace = numeral.digits ++ tail := by
    rw [begins, List.dropWhile_cons, solid]
    rfl
  have unsigned : sign (numeral.digits ++ tail) = (false, numeral.digits ++ tail) := by
    rw [begins]
    unfold sign
    split
    case h_1 same => exact absurd (List.cons.inj same).1 noMinus
    case h_2 same => exact absurd (List.cons.inj same).1 noPlus
    case h_3 => rfl
  have stops : tail.takeWhile (isDigit 10) = [] := by
    cases tail with
    | nil => rfl
    | cons c more => rw [List.takeWhile_cons, ends c rfl]; rfl
  have taken : (numeral.digits ++ tail).takeWhile (isDigit 10) = numeral.digits := by
    rw [List.takeWhile_append_of_pos numeral.allDigits, stops, List.append_nil]
  simp only [scanNumber, kept, unsigned, taken, List.isEmpty_iff, numeral.nonempty, if_false]
  rfl

/-- `strtoull` saturates. -/
theorem strtoull_numeral (numeral : Numeral 10) (tail : List Char)
    (ends : ∀ c ∈ tail.head?, isDigit 10 c = false) :
    (strtoull (numeral.digits ++ tail)).toNat = min numeral.toNat (2 ^ 64 - 1) := by
  simp only [strtoull, scanNumber_numeral numeral tail ends]
  split
  case isTrue large =>
    rw [BitVec.toNat_allOnes]
    omega
  case isFalse fits =>
    simp only [residue, Bool.false_eq_true, if_false, BitVec.toNat_ofNat]
    omega

/-- A length below 2^31 is what the `int` says. -/
theorem intLength_short {text : List Char} (short : text.length < 2 ^ 31) :
    intLength text = text.length := by
  rw [intLength, BitVec.toInt_eq_toNat_cond, BitVec.toNat_ofNat]
  omega

/-- From 2^31 characters on the `int` stays below the length. -/
theorem intLength_long {text : List Char} (long : 2 ^ 31 ≤ text.length) :
    intLength text < text.length := by
  rw [intLength, BitVec.toInt_eq_toNat_cond, BitVec.toNat_ofNat]
  omega

/-- No digit is a unit. -/
theorem unitOf_digit {c : Char} (digit : isDigit 10 c = true) : unitOf c = none := by
  unfold unitOf
  split
  case h_5 => rfl
  all_goals exact absurd digit (by decide)

/-- Without a unit where it is looked for, the number counts as it is. -/
theorem memsztoull_of_no_unit {s : List Char}
    (noUnit : intLength s > 1 → s[(intLength s - 1).toNat]?.bind unitOf = none) :
    memsztoull (some s) = strtoull s := by
  dsimp only [memsztoull]
  split
  case isTrue several => rw [noUnit several]; exact BitVec.mul_one _
  case isFalse => exact BitVec.mul_one _

/-- With a unit at the end of a text of ordinary length the number is multiplied. -/
theorem memsztoull_of_unit {s : List Char} {c : Char} {mult : BitVec 64} (something : s ≠ [])
    (short : (s ++ [c]).length < 2 ^ 31) (unit : unitOf c = some mult) :
    memsztoull (some (s ++ [c])) = strtoull s * mult := by
  have length : (s ++ [c]).length = s.length + 1 := by simp
  have exists_char : 0 < s.length := List.length_pos_iff.mpr something
  have ln : intLength (s ++ [c]) = s.length + 1 := by rw [intLength_short short, length]; rfl
  have several : intLength (s ++ [c]) > 1 := by omega
  have last : (intLength (s ++ [c]) - 1).toNat = s.length := by omega
  dsimp only [memsztoull]
  rw [if_pos several, last, List.getElem?_concat_length, Option.bind_some, unit,
    List.take_left]

/-- A unit is written as one character that is no digit and that the code multiplies by. -/
theorem Suffix.unit {suffix : Suffix} (given : suffix ≠ .none) :
    ∃ c mult, suffix.chars = [c] ∧ isDigit 10 c = false ∧ unitOf c = some mult ∧
      mult.toNat = 1024 ^ suffix.exponent := by
  cases suffix with
  | none => exact absurd rfl given
  | k => exact ⟨'k', 1024, rfl, by decide, rfl, rfl⟩
  | K => exact ⟨'K', 1024, rfl, by decide, rfl, rfl⟩
  | M => exact ⟨'M', 1024 * 1024, rfl, by decide, rfl, rfl⟩
  | G => exact ⟨'G', 1024 * 1024 * 1024, rfl, by decide, rfl, rfl⟩

/-- A unit stands for a multiple of 1024. -/
theorem Suffix.exponent_pos {suffix : Suffix} (given : suffix ≠ .none) : 0 < suffix.exponent := by
  cases suffix with
  | none => exact absurd rfl given
  | k | K | M | G => decide

/-- A request without a unit saturates. -/
theorem parsed_plain {request : Request} (plain : request.suffix = .none) :
    request.parsed = min request.numeral.toNat (2 ^ 64 - 1) := by
  have text : request.text = request.numeral.digits ++ [] := by
    rw [Request.text, plain]
    rfl
  have noUnit (position : Nat) : request.text[position]?.bind unitOf = none := by
    cases found : request.text[position]? with
    | none => rfl
    | some c =>
      have member : c ∈ request.numeral.digits := by
        rw [text, List.append_nil] at found
        exact List.mem_of_getElem? found
      exact unitOf_digit (request.numeral.allDigits c member)
  rw [Request.parsed, memsztoull_of_no_unit fun _ => noUnit _, text]
  exact strtoull_numeral _ [] (by simp)

/-- A request with a unit is the saturated number, multiplied modulo 2^64. -/
theorem parsed_short {request : Request} (given : request.suffix ≠ .none)
    (short : request.text.length < 2 ^ 31) :
    request.parsed = min request.numeral.toNat (2 ^ 64 - 1) *
      1024 ^ request.suffix.exponent % 2 ^ 64 := by
  obtain ⟨c, mult, chars, -, unit, multiplier⟩ := Suffix.unit given
  have text : request.text = request.numeral.digits ++ [c] := by rw [Request.text, chars]
  have number := strtoull_numeral request.numeral [] (by simp)
  rw [List.append_nil] at number
  rw [Request.parsed, text, memsztoull_of_unit request.numeral.nonempty (text ▸ short) unit,
    BitVec.toNat_mul, number, multiplier]

/-- The unit of a request of 2^31 characters or more is not seen. -/
theorem parsed_long {request : Request} (given : request.suffix ≠ .none)
    (long : 2 ^ 31 ≤ request.text.length) :
    request.parsed = min request.numeral.toNat (2 ^ 64 - 1) := by
  obtain ⟨c, mult, chars, noDigit, -, -⟩ := Suffix.unit given
  have text : request.text = request.numeral.digits ++ [c] := by rw [Request.text, chars]
  have length : request.text.length = request.numeral.digits.length + 1 := by simp [text]
  have noUnit (several : intLength request.text > 1) :
      request.text[(intLength request.text - 1).toNat]?.bind unitOf = none := by
    have below := intLength_long long
    have inside : (intLength request.text - 1).toNat < request.numeral.digits.length := by
      omega
    rw [text] at inside ⊢
    rw [List.getElem?_append_left inside, List.getElem?_eq_getElem inside, Option.bind_some]
    exact unitOf_digit (request.numeral.allDigits _ (List.getElem_mem inside))
  rw [Request.parsed, memsztoull_of_no_unit noUnit, text]
  exact strtoull_numeral _ [c] (by simpa using noDigit)

/-- Only the largest 64-bit number is not smaller than every size that can be requested. -/
theorem saturates_iff (n : Nat) :
    (∀ other : Request, other.size < 2 ^ 64 → other.size ≤ n) ↔ 2 ^ 64 - 1 ≤ n := by
  constructor
  · intro all
    have largest : (Request.mk (ofNat (2 ^ 64 - 1)) .none).size = 2 ^ 64 - 1 := by
      rw [Request.size, toNat_ofNat]
      rfl
    have below := all ⟨ofNat (2 ^ 64 - 1), .none⟩ (by rw [largest]; decide)
    rwa [largest] at below
  · intro large other small
    omega

/-- A size with a unit is at least 1024 times the number. -/
theorem le_size {request : Request} (given : request.suffix ≠ .none) :
    1024 * request.numeral.toNat ≤ request.size := by
  have factor : 1024 ^ 1 ≤ 1024 ^ request.suffix.exponent :=
    Nat.pow_le_pow_right (by decide) (Suffix.exponent_pos given)
  rw [Request.size, Nat.mul_comm]
  exact Nat.mul_le_mul_left _ factor

/-- Without a unit the promise is kept. -/
theorem faithful_plain {request : Request} (plain : request.suffix = .none) :
    Faithful request := by
  have size : request.size = request.numeral.toNat := by
    rw [Request.size, plain]
    exact Nat.mul_one _
  have parsed := parsed_plain plain
  constructor
  case exact => intro fits; omega
  case saturated => intro large; rw [saturates_iff]; omega
  case nonzero => intro something; omega

/-- With a unit the promise is kept when the size fits 64 bits, and only then. -/
theorem faithful_short {request : Request} (given : request.suffix ≠ .none)
    (short : request.text.length < 2 ^ 31) : Faithful request ↔ request.size < 2 ^ 64 := by
  have parsed := parsed_short given short
  have grows := le_size given
  constructor
  · intro faithful
    by_contra large
    have saturated := (saturates_iff _).mp (faithful.saturated (Nat.le_of_not_lt large))
    -- what the product leaves is a multiple of 1024, and 2^64 - 1 is odd
    have kilo : 1024 ∣ request.parsed := by
      have unit : 1024 ∣ 1024 ^ request.suffix.exponent :=
        dvd_pow_self 1024 (Suffix.exponent_pos given).ne'
      have wide : 1024 ∣ 2 ^ 64 := by decide
      rw [parsed]
      exact (Nat.dvd_mod_iff wide).mpr (Dvd.dvd.mul_left unit _)
    have below : request.parsed < 2 ^ 64 := parsed ▸ Nat.mod_lt _ (by decide)
    omega
  · intro fits
    have number : min request.numeral.toNat (2 ^ 64 - 1) = request.numeral.toNat := by omega
    have exact : request.parsed = request.size := by
      rw [parsed, number]
      exact Nat.mod_eq_of_lt fits
    exact ⟨fun _ => exact, fun large => absurd fits (Nat.not_lt.mpr large), fun something => by
      rwa [exact]⟩

/-- Where the unit is not seen, the promise is kept for zero and for a saturated number. -/
theorem faithful_long {request : Request} (given : request.suffix ≠ .none)
    (long : 2 ^ 31 ≤ request.text.length) :
    Faithful request ↔ request.numeral.toNat = 0 ∨ 2 ^ 64 - 1 ≤ request.numeral.toNat := by
  have parsed := parsed_long given long
  have grows := le_size given
  constructor
  · intro faithful
    by_cases fits : request.size < 2 ^ 64
    · have exact := faithful.exact fits
      omega
    · have saturated := (saturates_iff _).mp (faithful.saturated (Nat.le_of_not_lt fits))
      omega
  · rintro (zero | large)
    · have size : request.size = 0 := by rw [Request.size, zero, Nat.zero_mul]
      exact ⟨fun _ => by omega, fun _ => by omega, fun something => absurd size something⟩
    · refine ⟨fun _ => by omega, fun _ => ?_, fun _ => by omega⟩
      rw [saturates_iff]
      omega

/-- Reading a size keeps its promise exactly when the request is one of the kept ones.

The numeral and the text may have any length. From 2^31 characters on the length does not fit an
`int`, and the unit letter is not seen.

Proof: `strtoull` saturates, and the product with the unit wraps, so that it is too small as soon as
it does not fit. -/
theorem faithful_iff_kept (request : Request) : Faithful request ↔ request.Kept := by
  unfold Request.Kept
  by_cases plain : request.suffix = .none
  · exact ⟨fun _ given => absurd plain given, fun _ => faithful_plain plain⟩
  · split
    case isTrue short => simp only [ne_eq, plain, not_false_eq_true, true_implies,
      faithful_short plain short]
    case isFalse long => simp only [ne_eq, plain, not_false_eq_true, true_implies,
      faithful_long plain (Nat.le_of_not_lt long)]

/-- Sixteen exbibytes are read as no limit. -/
theorem sixteen_exbibytes_unlimited :
    memsztoull (some ['1', '7', '1', '7', '9', '8', '6', '9', '1', '8', '4', 'G']) = 0 ∧
      ¬ ∀ request, Faithful request := by
  have unlimited :
      memsztoull (some ['1', '7', '1', '7', '9', '8', '6', '9', '1', '8', '4', 'G']) = 0 := by
    decide
  refine ⟨unlimited, fun all => ?_⟩
  let request : Request :=
    ⟨⟨['1', '7', '1', '7', '9', '8', '6', '9', '1', '8', '4'], by decide,
      List.all_eq_true.mp (by decide)⟩, .G⟩
  have size : request.size ≠ 0 := by decide
  exact (all request).nonzero size (congrArg BitVec.toNat unlimited)

end AvocadoMisc.Dwh.SizeParsing
