import Mathlib.Data.Int.Bitwise
import Mathlib.Data.List.DropRight
import AvocadoMisc.Library.Numerals

/-!
# Raw codes of generic performance events

The test reads the first line of an event file, such as `event=0xc0,umask=0x1`, and makes the raw
code of it. It cuts the fields out by splitting and stripping. `rstrip(',umask=')` takes any of
these characters off the end, so also the digit `a` of the event. On AMD processors the fields are
shifted into place; on others the text of the event is put behind that of the unit mask.

`sysfs` prints ASCII digits, so `int` is modelled for these.
-/

namespace AvocadoMisc.Perf.GenericEvents

open Library.Text Library.Numerals

/-- A text. -/
abbrev Text := List Char

/-- `text.split(separator, limit)`. -/
def splitAtMost (separator : Char) : Nat → Text → List Text
  | 0, text => [text]
  | limit + 1, text =>
    match text.dropWhile (· ≠ separator) with
    | [] => [text]
    | _ :: rest => text.takeWhile (· ≠ separator) :: splitAtMost separator limit rest

/-- The text behind the first `0x`. -/
def afterHexMark : Text → Option Text
  | [] => none
  | c :: rest => if ['0', 'x'].isPrefixOf (c :: rest) then some (rest.drop 1) else afterHexMark rest

/-- The text in front of the first `0x`, or all of it. -/
def beforeHexMark : Text → Text
  | [] => []
  | c :: rest => if ['0', 'x'].isPrefixOf (c :: rest) then [] else c :: beforeHexMark rest

/-- `text.split('0x')[1]`. -/
def secondPiece (text : Text) : Option Text := (afterHexMark text).map beforeHexMark

/-- The characters of `,umask=`. -/
def umaskChars : Text := [',', 'u', 'm', 'a', 's', 'k', '=']

/-- `text.rstrip(',umask=')`. -/
def rstripUmask (text : Text) : Text := text.rdropWhile fun c => umaskChars.contains c

/-- Digits to a base, with single underscores between them. -/
def readDigits (base : Nat) (text : Text) : Option Nat :=
  let groups := text.splitOn '_'
  if groups.all fun group => !group.isEmpty && group.all (isDigit base) then
    some (value base groups.flatten)
  else none

/-- The digits behind a mark of the base, where an underscore may come first. -/
def readMarked (base : Nat) (text : Text) : Option Nat :=
  readDigits base (if text.head? = some '_' then text.tail else text)

/-- A literal without sign. A decimal one has no zero in front, unless it is zero. -/
def readLiteral : Text → Option Nat
  | '0' :: mark :: rest =>
    if mark = 'x' ∨ mark = 'X' then readMarked 16 rest
    else if mark = 'o' ∨ mark = 'O' then readMarked 8 rest
    else if mark = 'b' ∨ mark = 'B' then readMarked 2 rest
    else (readDigits 10 ('0' :: mark :: rest)).filter (· = 0)
  | text => readDigits 10 text

/-- `hex_to_int`, which is `int(input, 0)`. -/
def hexToInt (input : Text) : Option Int :=
  match strip charSpace input with
  | '-' :: rest => (readLiteral rest).map fun magnitude => -(magnitude : Int)
  | '+' :: rest => (readLiteral rest).map fun magnitude => (magnitude : Int)
  | rest => (readLiteral rest).map fun magnitude => (magnitude : Int)

/-- `(event & 0xff) | (umask << 8) | ((event & 0xf00) << 24)`. -/
def pack (event umask : Int) : Int :=
  Int.lor (Int.lor (Int.land event 0xff) (umask <<< 8)) (Int.land event 0xf00 <<< 24)

/-- The raw code of a line, unless a piece is missing or no number. `amd` says whether the
architecture is `x86_64` and the vendor has `amd` in its name. -/
def rawCode (amd : Bool) (eventCode : Text) : Option Int :=
  let pieces := splitAtMost '=' 2 eventCode
  if contains ['u', 'm', 'a', 's', 'k'] eventCode then do
    let umask := rstrip charSpace (← pieces[2]?)
    if amd then
      let umask ← hexToInt umask
      let event ← hexToInt (rstripUmask (← pieces[1]?))
      some (pack event umask)
    else
      let event := rstripUmask (← secondPiece eventCode)
      hexToInt (umask ++ event)
  else do
    hexToInt (rstrip charSpace (← pieces[1]?))

/-- `readline`. -/
def readline (file : Text) : Text :=
  file.takeWhile (· ≠ '\n') ++ (file.dropWhile (· ≠ '\n')).take 1

/-- An event file with its fields as hexadecimal numerals of any length. -/
structure EventFile where
  event : Numeral 16
  umask : Option (Numeral 16)
  closing : Text
  closes : ∀ c ∈ closing.head?, c = '\n'
  eventBits : event.toNat < 2 ^ 12
  umaskBits : ∀ numeral ∈ umask, numeral.toNat < 2 ^ 8

/-- The name of the first field. -/
def eventName : Text := ['e', 'v', 'e', 'n', 't']

/-- The name of the second field, with the comma before it. -/
def maskName : Text := [',', 'u', 'm', 'a', 's', 'k']

/-- The line `event=0xE`. -/
def eventLine (event : Numeral 16) : Text := eventName ++ '=' :: '0' :: 'x' :: event.digits

/-- The line `event=0xE,umask=0xU`. -/
def maskedLine (event umask : Numeral 16) : Text :=
  eventLine event ++ (maskName ++ '=' :: '0' :: 'x' :: umask.digits)

/-- The content of the file. -/
def EventFile.content (file : EventFile) : Text :=
  (match file.umask with
  | none => eventLine file.event
  | some umask => maskedLine file.event umask) ++ file.closing

/-- The raw code that the test computes for a file. -/
def EventFile.computed (file : EventFile) (amd : Bool) : Option Int :=
  rawCode amd (readline file.content)

/-- The raw code is the encoding of the fields. On processors other than AMD this is said of an
event of eight bits. -/
def EventFile.Encoded (file : EventFile) (amd : Bool) : Prop :=
  match file.umask with
  | none => file.computed amd = some (file.event.toNat : Int)
  | some umask =>
    if amd then
      file.computed amd = some ((((file.event.toNat &&& 0xff) ||| (umask.toNat <<< 8)) |||
        ((file.event.toNat >>> 8) <<< 32) : Nat) : Int)
    else file.event.toNat < 2 ^ 8 →
      file.computed amd =
        some (((umask.toNat <<< 8) ||| (file.event.toNat &&& 0xff) : Nat) : Int)

/-- When that is so: without a unit mask always; with one, the last digit of the event must not be
a small `a`, and on processors other than AMD the event must have two digits, or the mask be
zero. -/
def EventFile.Kept (file : EventFile) (amd : Bool) : Prop :=
  match file.umask with
  | none => True
  | some umask =>
    if amd then file.event.digits.getLast? ≠ some 'a'
    else file.event.toNat < 2 ^ 8 → file.event.digits.getLast? ≠ some 'a' ∧
      (umask.toNat = 0 ∨ file.event.digits.length = 2)

/-! ### Cutting a line -/

/-- What comes after the first separator is split on. -/
theorem splitAtMost_cons {separator : Char} {front : Text} (absent : separator ∉ front)
    (limit : Nat) (rest : Text) :
    splitAtMost separator (limit + 1) (front ++ separator :: rest) =
      front :: splitAtMost separator limit rest := by
  have different : ∀ c ∈ front, decide (c ≠ separator) = true := fun c member =>
    decide_eq_true fun same => absent (same ▸ member)
  rw [splitAtMost, List.dropWhile_append_of_pos different,
    List.takeWhile_append_of_pos different]
  simp

/-- Without a separator there is one piece. -/
theorem splitAtMost_self {separator : Char} {text : Text} (absent : separator ∉ text)
    (limit : Nat) : splitAtMost separator limit text = [text] := by
  cases limit with
  | zero => rfl
  | succ limit =>
    have different : ∀ c ∈ text, decide (c ≠ separator) = true := fun c member =>
      decide_eq_true fun same => absent (same ▸ member)
    have ended : text.dropWhile (fun c => decide (c ≠ separator)) = [] :=
      List.dropWhile_eq_nil_iff.mpr different
    rw [splitAtMost, ended]

/-- A text without an `x` is not cut before the mark behind it. -/
theorem hexMark_append {front : Text} (absent : 'x' ∉ front) (rest : Text) :
    afterHexMark (front ++ '0' :: 'x' :: rest) = some rest ∧
      beforeHexMark (front ++ '0' :: 'x' :: rest) = front := by
  induction front with
  | nil => exact ⟨rfl, rfl⟩
  | cons c front inductionHypothesis =>
    obtain ⟨after, before⟩ :=
      inductionHypothesis fun member => absent (List.mem_cons_of_mem c member)
    have noMark : ['0', 'x'].isPrefixOf (c :: (front ++ '0' :: 'x' :: rest)) = false := by
      cases front with
      | nil => simp [List.isPrefixOf]
      | cons d front =>
        have notX : 'x' ≠ d := fun same => absent (by simp [← same])
        simp [List.isPrefixOf, notX]
    rw [List.cons_append, afterHexMark, beforeHexMark, noMark, after, before]
    exact ⟨rfl, rfl⟩

/-- Stripping takes the characters of `,umask=` off the end and no others. -/
theorem rstripUmask_append {front tail : Text} (inTail : ∀ c ∈ tail, umaskChars.contains c = true)
    (last : ∀ c ∈ front.getLast?, umaskChars.contains c = false) :
    rstripUmask (front ++ tail) = front := by
  rw [rstripUmask, rdropWhile_append inTail, List.rdropWhile_eq_self_iff]
  intro something
  simpa using last _ (List.getLast?_eq_some_getLast something)

/-! ### Hexadecimal digits -/

section Digits

variable {digits : Text}

/-- A hexadecimal digit is no white space. -/
theorem charSpace_hexDigit {c : Char} (digit : isDigit 16 c = true) : charSpace c = false := by
  have range := isDigit_sixteen_iff.mp digit
  by_contra white
  rw [Bool.not_eq_false, charSpace, List.contains_iff_mem] at white
  simp only [List.mem_cons, List.not_mem_nil, or_false] at white
  omega

/-- Of the characters of `,umask=` only the small `a` is one. -/
theorem umaskChars_hexDigit {c : Char} (digit : isDigit 16 c = true) :
    umaskChars.contains c = decide (c = 'a') := by
  by_cases small : c = 'a'
  · rw [small]
    rfl
  · rw [decide_eq_false small, ← Bool.not_eq_true, umaskChars, List.contains_iff_mem]
    intro member
    simp only [List.mem_cons, List.not_mem_nil, or_false, small, false_or] at member
    rcases member with rfl | rfl | rfl | rfl | rfl | rfl <;> exact absurd digit (by decide)

/-- A character that is no digit is not among digits. -/
theorem notMem_digits (allDigits : ∀ c ∈ digits, isDigit 16 c = true) {c : Char}
    (other : isDigit 16 c = false) : c ∉ digits := by
  intro member
  rw [allDigits c member] at other
  cases other

/-- A marked number is a word. -/
theorem marked_isWord (allDigits : ∀ c ∈ digits, isDigit 16 c = true) :
    IsWord charSpace ('0' :: 'x' :: digits) := by
  refine ⟨List.cons_ne_nil _ _, ?_⟩
  rw [List.forall_mem_cons, List.forall_mem_cons]
  exact ⟨by decide, by decide, fun c member => charSpace_hexDigit (allDigits c member)⟩

/-- A marked number is read. -/
theorem hexToInt_marked (nonempty : digits ≠ [])
    (allDigits : ∀ c ∈ digits, isDigit 16 c = true) :
    hexToInt ('0' :: 'x' :: digits) = some (value 16 digits : Int) := by
  have noUnderscore : '_' ∉ digits := notMem_digits allDigits (by decide)
  have first : digits.head? ≠ some '_' := fun head =>
    noUnderscore (List.mem_of_mem_head? head)
  have groups : digits.splitOn '_' = [digits] := List.splitOn_eq_singleton noUnderscore
  have read : readMarked 16 digits = some (value 16 digits) := by
    have fine : (!digits.isEmpty && digits.all (isDigit 16)) = true := by
      simpa [nonempty] using allDigits
    rw [readMarked, if_neg first, readDigits, groups]
    simp [fine]
  rw [hexToInt, (marked_isWord allDigits).strip]
  simp [readLiteral, read]

/-- A marked number is read in front of white space. -/
theorem hexToInt_stripped (numeral : Numeral 16) {blank : Text} (white : Blank charSpace blank) :
    hexToInt (rstrip charSpace ('0' :: 'x' :: numeral.digits ++ blank)) =
      some (numeral.toNat : Int) := by
  rw [(marked_isWord numeral.allDigits).rstrip white]
  exact hexToInt_marked numeral.nonempty numeral.allDigits

/-- A mark without digits is no number. -/
theorem hexToInt_mark : hexToInt ['0', 'x'] = none := by decide

/-- Digits without the small `a`s at their end. -/
theorem exists_trimmed (digits : Text) : ∃ kept tail, digits = kept ++ tail ∧
    (∀ c ∈ tail, c = 'a') ∧ kept.getLast? ≠ some 'a' := by
  induction digits using List.reverseRecOn with
  | nil => exact ⟨[], [], rfl, by simp, by simp⟩
  | append_singleton front last inductionHypothesis =>
    by_cases small : last = 'a'
    · obtain ⟨kept, tail, rfl, allSmall, ends⟩ := inductionHypothesis
      refine ⟨kept, tail ++ [last], by rw [List.append_assoc], ?_, ends⟩
      intro c member
      rcases List.mem_append.mp member with inTail | isLast
      · exact allSmall c inTail
      · rw [List.mem_singleton.mp isLast, small]
    · exact ⟨front ++ [last], [], by simp, by simp, by simpa using small⟩

/-- Small `a`s at the end add to the number. -/
theorem value_lt_of_tail {kept tail : Text} (allSmall : ∀ c ∈ tail, c = 'a')
    (some_tail : tail ≠ []) : value 16 kept < value 16 (kept ++ tail) := by
  have split : tail = tail.dropLast ++ ['a'] := by
    have last := allSmall _ (List.getLast_mem some_tail)
    rw [← last, List.dropLast_append_getLast]
  have ten : 10 ≤ value 16 tail := by
    rw [split, value_append, value_singleton]
    exact Nat.le_add_left 10 _
  have power : 1 ≤ 16 ^ tail.length := Nat.one_le_two_pow.trans
    (Nat.pow_le_pow_left (by decide) _)
  have grows := Nat.mul_le_mul_left (value 16 kept) power
  rw [value_append]
  omega

end Digits

/-! ### Shifted fields -/

/-- The encoding as a sum. -/
theorem packed_eq {event umask : Nat} (umaskBits : umask < 2 ^ 8) :
    ((event &&& 0xff) ||| (umask <<< 8)) ||| ((event >>> 8) <<< 32) =
      event % 256 + umask * 256 + event / 256 * 2 ^ 32 := by
  have low : event &&& 0xff = event % 256 := Nat.and_two_pow_sub_one_eq_mod event 8
  have small : event % 256 < 2 ^ 8 := Nat.mod_lt _ (by decide)
  have middle : event % 256 ||| umask <<< 8 = event % 256 + umask * 256 := by
    rw [Nat.or_comm, ← Nat.shiftLeft_add_eq_or_of_lt small, Nat.shiftLeft_eq, Nat.add_comm]
  have below : event % 256 + umask * 256 < 2 ^ 32 := by omega
  rw [low, middle, Nat.or_comm, ← Nat.shiftLeft_add_eq_or_of_lt below, Nat.shiftLeft_eq,
    Nat.shiftRight_eq_div_pow, Nat.add_comm]

/-- The high bits of an event of twelve bits, masked or shifted. -/
theorem high_eq {event : Nat} (eventBits : event < 2 ^ 12) :
    (event &&& 0xf00) <<< 24 = (event >>> 8) <<< 32 := by
  have mask : event &&& 0xf00 = (event >>> 8) <<< 8 := by
    apply Nat.eq_of_testBit_eq
    intro i
    have bits : (0xf00 : Nat) = (2 ^ 4 - 1) <<< 8 := by decide
    rw [bits, Nat.testBit_and, Nat.testBit_shiftLeft, Nat.testBit_shiftLeft,
      Nat.testBit_shiftRight, Nat.testBit_two_pow_sub_one]
    by_cases low : 8 ≤ i
    · have place : 8 + (i - 8) = i := by omega
      by_cases high : i < 12
      · have inside : i - 8 < 4 := by omega
        simp [low, inside, place]
      · have zero : event.testBit i = false :=
          Nat.testBit_lt_two_pow (Nat.lt_of_lt_of_le eventBits
            (Nat.pow_le_pow_right (by decide) (Nat.le_of_not_lt high)))
        simp [place, zero]
    · simp [low]
  rw [mask, ← Nat.shiftLeft_add]

/-- On natural numbers the operations are those of natural numbers. -/
theorem pack_natCast (event umask : Nat) : pack event umask =
    ((((event &&& 0xff) ||| (umask <<< 8)) ||| ((event &&& 0xf00) <<< 24) : Nat) : Int) := rfl

/-! ### Raw codes -/

/-- What follows a line in the file does not matter but for the line break. -/
theorem readline_eq {line closing : Text} (oneLine : '\n' ∉ line)
    (closes : ∀ c ∈ closing.head?, c = '\n') :
    ∃ ending, readline (line ++ closing) = line ++ ending ∧ Blank charSpace ending ∧
      'u' ∉ ending ∧ '=' ∉ ending := by
  have inLine : ∀ c ∈ line, decide (c ≠ '\n') = true := fun c member =>
    decide_eq_true fun same => oneLine (same ▸ member)
  rw [readline, List.takeWhile_append_of_pos inLine, List.dropWhile_append_of_pos inLine]
  cases closing with
  | nil => exact ⟨[], by simp, by simp [Blank], by simp, by simp⟩
  | cons c rest =>
    obtain rfl : c = '\n' := closes c rfl
    exact ⟨['\n'], by simp, by rw [Blank, List.forall_mem_singleton]; rfl, by decide, by decide⟩

/-- A character that is no digit and not in the text before them is not in the line. -/
theorem notMem_eventLine (event : Numeral 16) {c : Char}
    (outside : c ∉ eventName ++ ['=', '0', 'x']) (noDigit : isDigit 16 c = false) :
    c ∉ eventLine event := by
  have split : eventLine event = (eventName ++ ['=', '0', 'x']) ++ event.digits := by
    simp [eventLine]
  rw [split, List.mem_append, not_or]
  exact ⟨outside, notMem_digits event.allDigits noDigit⟩

/-- Without a unit mask the raw code is the event. -/
theorem rawCode_event (amd : Bool) (event : Numeral 16) {ending : Text}
    (white : Blank charSpace ending) (noMask : 'u' ∉ ending) (noField : '=' ∉ ending) :
    rawCode amd (eventLine event ++ ending) = some (event.toNat : Int) := by
  have absent : contains ['u', 'm', 'a', 's', 'k'] (eventLine event ++ ending) = false := by
    rw [contains, decide_eq_false_iff_not]
    intro inside
    rcases List.mem_append.mp (inside.subset (List.mem_cons_self : 'u' ∈ _)) with inLine | inEnding
    · exact notMem_eventLine event (by decide) (by decide) inLine
    · exact noMask inEnding
  have rest : '=' ∉ '0' :: 'x' :: event.digits ++ ending := by
    simp [notMem_digits event.allDigits (show isDigit 16 '=' = false by decide), noField]
  have line : eventLine event ++ ending =
      eventName ++ '=' :: ('0' :: 'x' :: event.digits ++ ending) := by simp [eventLine]
  have pieces : splitAtMost '=' 2 (eventLine event ++ ending) =
      [eventName, '0' :: 'x' :: event.digits ++ ending] := by
    rw [line, splitAtMost_cons (by decide), splitAtMost_self rest]
  simp only [rawCode, absent, pieces, Bool.false_eq_true, if_false]
  exact hexToInt_stripped event white

section Masked

variable {event umask : Numeral 16} {ending : Text}

/-- The pieces of a line with a unit mask. -/
theorem pieces_masked :
    splitAtMost '=' 2 (maskedLine event umask ++ ending) =
      [eventName, '0' :: 'x' :: event.digits ++ maskName,
        '0' :: 'x' :: umask.digits ++ ending] := by
  have first : '=' ∉ '0' :: 'x' :: event.digits ++ maskName := by
    have inName : '=' ∉ maskName := by decide
    simp [notMem_digits event.allDigits (show isDigit 16 '=' = false by decide), inName]
  have line : maskedLine event umask ++ ending =
      eventName ++ '=' :: (('0' :: 'x' :: event.digits ++ maskName) ++
        '=' :: ('0' :: 'x' :: umask.digits ++ ending)) := by simp [maskedLine, eventLine]
  rw [line, splitAtMost_cons (by decide), splitAtMost_cons first]
  rfl

/-- The text behind the first mark and before the second. -/
theorem secondPiece_masked :
    secondPiece (maskedLine event umask ++ ending) =
      some (event.digits ++ (maskName ++ ['='])) := by
  have line : maskedLine event umask ++ ending =
      (eventName ++ ['=']) ++ '0' :: 'x' :: ((event.digits ++ (maskName ++ ['='])) ++
        '0' :: 'x' :: (umask.digits ++ ending)) := by simp [maskedLine, eventLine]
  have noMark : 'x' ∉ event.digits ++ (maskName ++ ['=']) := by
    rw [List.mem_append, not_or]
    exact ⟨notMem_digits event.allDigits (by decide), by decide⟩
  rw [secondPiece, line, (hexMark_append (by decide) _).1, Option.map_some,
    (hexMark_append noMark _).2]

/-- The line has a unit mask. -/
theorem contains_masked :
    contains ['u', 'm', 'a', 's', 'k'] (maskedLine event umask ++ ending) = true := by
  rw [contains, decide_eq_true_eq]
  refine ⟨eventLine event ++ [','], '=' :: '0' :: 'x' :: umask.digits ++ ending, ?_⟩
  simp [maskedLine, maskName]

variable {kept tail : Text}

/-- What is left of the event when small `a`s at its end are taken for characters of `,umask`. -/
theorem rstripUmask_event (allDigits : ∀ c ∈ kept, isDigit 16 c = true)
    (allSmall : ∀ c ∈ tail, c = 'a') (ends : kept.getLast? ≠ some 'a') {front name : Text}
    (inName : ∀ c ∈ name, umaskChars.contains c = true)
    (last : ∀ c ∈ front.getLast?, umaskChars.contains c = false) :
    rstripUmask (front ++ (kept ++ tail) ++ name) = front ++ kept := by
  have regrouped : front ++ (kept ++ tail) ++ name = (front ++ kept) ++ (tail ++ name) := by
    simp
  rw [regrouped]
  apply rstripUmask_append
  · intro c member
    rcases List.mem_append.mp member with inTail | inRest
    · rw [allSmall c inTail]
      decide
    · exact inName c inRest
  · intro c isLast
    cases final : kept.getLast? with
    | none =>
      rw [List.getLast?_eq_none_iff.mp final, List.append_nil] at isLast
      exact last c isLast
    | some other =>
      have same : other = c := by simpa [List.getLast?_append, final] using isLast
      subst same
      have digit := allDigits other (List.mem_of_getLast? final)
      rw [umaskChars_hexDigit digit, decide_eq_false_iff_not]
      rintro rfl
      exact ends final

/-- On AMD processors the raw code packs what is left of the event. -/
theorem rawCode_amd (white : Blank charSpace ending) (digits : event.digits = kept ++ tail)
    (allSmall : ∀ c ∈ tail, c = 'a') (ends : kept.getLast? ≠ some 'a') :
    rawCode true (maskedLine event umask ++ ending) =
      (hexToInt ('0' :: 'x' :: kept)).map fun number => pack number umask.toNat := by
  have eventText : rstripUmask ('0' :: 'x' :: event.digits ++ maskName) = '0' :: 'x' :: kept := by
    rw [digits]
    exact @rstripUmask_event kept tail (event.allDigits_front digits) allSmall ends ['0', 'x']
      maskName (forall_of_check (by decide)) (first_of_check (by decide))
  have maskText := hexToInt_stripped umask white
  simp only [rawCode, contains_masked, pieces_masked, if_true, List.getElem?_cons_succ,
    List.getElem?_cons_zero, Option.bind_eq_bind, Option.bind_some, maskText, eventText]
  cases hexToInt ('0' :: 'x' :: kept) <;> rfl

/-- On other processors it has the digits of the mask in front of what is left of the event. -/
theorem rawCode_other (white : Blank charSpace ending) (digits : event.digits = kept ++ tail)
    (allSmall : ∀ c ∈ tail, c = 'a') (ends : kept.getLast? ≠ some 'a') :
    rawCode false (maskedLine event umask ++ ending) =
      some ((umask.toNat * 16 ^ kept.length + value 16 kept : Nat) : Int) := by
  have keptDigits := event.allDigits_front digits
  have eventText : rstripUmask (event.digits ++ (maskName ++ ['='])) = kept := by
    rw [digits]
    exact @rstripUmask_event kept tail keptDigits allSmall ends [] (maskName ++ ['='])
      (forall_of_check (by decide)) (by simp)
  have joined : hexToInt (rstrip charSpace ('0' :: 'x' :: umask.digits ++ ending) ++ kept) =
      some ((umask.toNat * 16 ^ kept.length + value 16 kept : Nat) : Int) := by
    rw [(marked_isWord umask.allDigits).rstrip white, List.cons_append, List.cons_append,
      hexToInt_marked (by simp [umask.nonempty])
        (fun c member => (List.mem_append.mp member).elim (umask.allDigits c) (keptDigits c)),
      value_append]
    rfl
  simp only [rawCode, contains_masked, pieces_masked, secondPiece_masked, if_true,
    Bool.false_eq_true, if_false, List.getElem?_cons_succ, List.getElem?_cons_zero,
    Option.bind_eq_bind, Option.bind_some, eventText]
  exact joined

end Masked

/-! ### The encoding -/

section Fields

variable {event umask : Numeral 16} {kept tail : Text}

/-- The last digit is a small `a` exactly when one is cut off. -/
theorem getLast_ne_iff (digits : event.digits = kept ++ tail) (allSmall : ∀ c ∈ tail, c = 'a')
    (ends : kept.getLast? ≠ some 'a') : event.digits.getLast? ≠ some 'a' ↔ tail = [] := by
  constructor
  · intro other
    by_contra some_tail
    have last := allSmall _ (List.getLast_mem some_tail)
    refine other ?_
    rw [digits, List.getLast?_append_of_ne_nil _ some_tail,
      List.getLast?_eq_some_getLast some_tail, last]
  · rintro rfl
    rw [digits, List.append_nil]
    exact ends

/-- A packed event gives the event back. -/
theorem pack_eq_iff {number : Nat} (numberBits : number < 2 ^ 12) (eventBits : event.toNat < 2 ^ 12)
    (umaskBits : umask.toNat < 2 ^ 8) :
    pack number umask.toNat = ((((event.toNat &&& 0xff) ||| (umask.toNat <<< 8)) |||
      ((event.toNat >>> 8) <<< 32) : Nat) : Int) ↔ number = event.toNat := by
  rw [pack_natCast, high_eq numberBits, Int.natCast_inj, packed_eq umaskBits, packed_eq umaskBits]
  omega

/-- On AMD processors the encoding is right when nothing is cut off. -/
theorem amd_iff (digits : event.digits = kept ++ tail) (allSmall : ∀ c ∈ tail, c = 'a')
    (eventBits : event.toNat < 2 ^ 12) (umaskBits : umask.toNat < 2 ^ 8) :
    (hexToInt ('0' :: 'x' :: kept)).map (fun number => pack number umask.toNat) =
      some ((((event.toNat &&& 0xff) ||| (umask.toNat <<< 8)) |||
        ((event.toNat >>> 8) <<< 32) : Nat) : Int) ↔ tail = [] := by
  by_cases nothing : kept = []
  · rw [nothing, hexToInt_mark]
    have some_tail : tail ≠ [] := by
      rintro rfl
      exact event.nonempty (by rw [digits, nothing]; rfl)
    simp [some_tail]
  · have whole : event.toNat = value 16 (kept ++ tail) := by rw [Numeral.toNat, digits]
    rw [hexToInt_marked nothing (event.allDigits_front digits), Option.map_some, Option.some.injEq]
    by_cases ended : tail = []
    · rw [ended, List.append_nil] at whole
      rw [← whole, pack_eq_iff eventBits eventBits umaskBits]
      simp [ended]
    · have less : value 16 kept < event.toNat := whole ▸ value_lt_of_tail allSmall ended
      rw [pack_eq_iff (less.trans eventBits) eventBits umaskBits]
      simp [ended, Nat.ne_of_lt less]

/-- Put together as text, the fields are right when nothing is cut off and the event has two
digits, or the mask is zero. -/
theorem other_iff (digits : event.digits = kept ++ tail) (allSmall : ∀ c ∈ tail, c = 'a')
    (eventByte : event.toNat < 2 ^ 8) :
    umask.toNat * 16 ^ kept.length + value 16 kept =
        (umask.toNat <<< 8) ||| (event.toNat &&& 0xff) ↔
      tail = [] ∧ (umask.toNat = 0 ∨ event.digits.length = 2) := by
  have low : event.toNat &&& 0xff = event.toNat :=
    (Nat.and_two_pow_sub_one_eq_mod event.toNat 8).trans (Nat.mod_eq_of_lt eventByte)
  have wanted : (umask.toNat <<< 8) ||| (event.toNat &&& 0xff) =
      umask.toNat * 256 + event.toNat := by
    rw [low, ← Nat.shiftLeft_add_eq_or_of_lt eventByte, Nat.shiftLeft_eq]
  have whole : event.toNat = value 16 (kept ++ tail) := by rw [Numeral.toNat, digits]
  rw [wanted]
  by_cases ended : tail = []
  · rw [ended, List.append_nil] at whole digits
    rw [← whole, digits, Nat.add_right_cancel_iff, mul_eq_mul_left_iff]
    have two : 16 ^ kept.length = 256 ↔ kept.length = 2 :=
      Nat.pow_right_inj (show 1 < 16 by decide) (n := 2)
    rw [two, or_comm]
    simp [ended]
  · have less : value 16 kept < event.toNat := whole ▸ value_lt_of_tail allSmall ended
    simp only [ended, false_and, iff_false]
    intro same
    by_cases short : kept.length < 2
    · have power : 16 ^ kept.length ≤ 256 :=
        (Nat.pow_le_pow_right (by decide) (Nat.le_of_lt short)).trans (by decide)
      have product := Nat.mul_le_mul_left umask.toNat power
      omega
    · -- from two digits on, what is in front of them is a multiple of 256
      have multiple : 256 ∣ umask.toNat * 16 ^ kept.length :=
        Dvd.dvd.mul_left (pow_dvd_pow 16 (Nat.le_of_not_lt short)) _
      omega

end Fields

/-- The raw code is the encoding of the fields exactly in the kept cases.

An event has at most 12 bits and a unit mask at most 8, written with any number of digits. Whatever
follows the first newline is free.

Proof: by processor and by the presence of a unit mask. `rstrip` may take a digit off the event, and
outside of AMD the digits of both are put in a row. -/
theorem encoded_iff_kept (file : EventFile) (amd : Bool) : file.Encoded amd ↔ file.Kept amd := by
  obtain ⟨event, masked, closing, closes, eventBits, umaskBits⟩ := file
  have oneLine : '\n' ∉ eventLine event := notMem_eventLine event (by decide) (by decide)
  cases masked with
  | none =>
    obtain ⟨ending, line, white, noMask, noField⟩ := readline_eq oneLine closes
    simp only [EventFile.Encoded, EventFile.Kept, EventFile.computed, EventFile.content, line,
      rawCode_event amd event white noMask noField]
  | some umask =>
    have oneMaskedLine : '\n' ∉ maskedLine event umask := by
      rw [maskedLine, List.mem_append, List.mem_append, not_or, not_or]
      refine ⟨oneLine, by decide, ?_⟩
      simp [notMem_digits umask.allDigits (show isDigit 16 '\n' = false by decide)]
    obtain ⟨ending, line, white, -, -⟩ := readline_eq oneMaskedLine closes
    obtain ⟨kept, tail, digits, allSmall, ends⟩ := exists_trimmed event.digits
    have maskBits := umaskBits umask rfl
    simp only [EventFile.Encoded, EventFile.Kept, EventFile.computed, EventFile.content, line,
      getLast_ne_iff digits allSmall ends]
    cases amd with
    | true =>
      rw [if_pos rfl, if_pos rfl, rawCode_amd white digits allSmall ends]
      exact amd_iff digits allSmall eventBits maskBits
    | false =>
      rw [if_neg Bool.false_ne_true, if_neg Bool.false_ne_true,
        rawCode_other white digits allSmall ends, Option.some.injEq, Int.natCast_inj]
      exact forall_congr' fun eventByte => other_iff digits allSmall eventByte

/-- The file `event=0x1a,umask=0x2`. -/
def endingInA : EventFile where
  event := ⟨['1', 'a'], by decide, forall_of_check (by decide)⟩
  umask := some ⟨['2'], by decide, forall_of_check (by decide)⟩
  closing := ['\n']
  closes := by simp
  eventBits := by decide
  umaskBits := by decide

/-- The `a` of that event is lost on every processor. -/
theorem small_a_lost : endingInA.computed true = some 0x201 ∧
    endingInA.computed false = some 0x21 ∧
    ¬ ∀ (file : EventFile) (amd : Bool), file.Encoded amd := by
  have lost : endingInA.computed true = some 0x201 := by decide
  refine ⟨lost, by decide, fun all => ?_⟩
  have encoded : endingInA.computed true = some 0x21a := all endingInA true
  rw [lost] at encoded
  cases encoded

end AvocadoMisc.Perf.GenericEvents
