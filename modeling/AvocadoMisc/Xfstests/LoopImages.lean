import AvocadoMisc.Library.Text

/-!
# The images behind the loop devices

`_create_loop_device` of `xfstests.py` makes the images with `fallocate -l`, which understands the
unit of the size, or with `dd`, which gets the first number of the size as a count of blocks of
1 GiB. `setUp` calls it with a size from the parameters, which has to be in GiB when the images are
made on the root file system, and `setup_nvdimm` with `2038M`. Both look at the free space of the
root file system before.

`dd` and `fallocate` are not part of the repository. `Tools` has the sizes that they make of their
arguments, and `Documented` what their manual pages say about them. Free space is counted in bytes.

`fallocate` reads more numbers than `int` does: a zero in front makes a number octal, `0x` makes it
hexadecimal, and a fraction may follow. The digits that a size begins with are read as a decimal
number for `dd`. So the two agree where the size has as many GiB as these digits say. A size has no
digits but those of ASCII, since `fallocate` reads no others.
-/

namespace AvocadoMisc.Xfstests.LoopImages

open Library.Text (charSpace decimal decimal_digits strip)

/-- A text. -/
abbrev Text := List Char

/-! ### The commands -/

/-- A command that makes an image. -/
inductive Command where
  | dd (imgFile bs : Text) (count : Nat)
  | fallocate (length imgFile : Text)
  deriving DecidableEq

/-- The command line. -/
def Command.text : Command → Text
  | .dd imgFile bs count =>
    "dd if=/dev/zero of=".toList ++ imgFile ++ " bs=".toList ++ bs ++ " count=".toList ++
      decimal count
  | .fallocate length imgFile => "fallocate -o 0 -l ".toList ++ length ++ [' '] ++ imgFile

/-- `os.path.join` with a file name. -/
def joinPath (directory file : Text) : Text :=
  if directory = [] ∨ directory.getLast? = some '/' then directory ++ file
  else directory ++ '/' :: file

/-- The first image file, the second, and so on. -/
def imgFile (diskMnt : Text) (i : Nat) : Text :=
  joinPath diskMnt ("file-".toList ++ decimal i ++ ".img".toList)

/-- `int` of a text. Digits without white space around them are the only numbers that occur. -/
def int (text : Text) : Option Nat :=
  if strip charSpace text ≠ [] ∧ (strip charSpace text).all Char.isDigit then
    some (Nat.ofDigitChars 10 (strip charSpace text) 0)
  else none

/-- The first number in a text. -/
def firstNumber (text : Text) : Option Nat :=
  int ((text.dropWhile fun c => !c.isDigit).takeWhile Char.isDigit)

/-- The size of a block of `dd`. -/
def oneG : Text := ['1', 'G']

/-- The loop of `_create_loop_device`. Without a number in the size there is no result. -/
def createLoopDevice (useDd : Bool) (loopSize diskMnt : Text) (numLoopDev : Nat) :
    Option (List Command) :=
  (List.range numLoopDev).mapM fun i => do
    let ddCount ← firstNumber loopSize
    return if useDd then .dd (imgFile diskMnt i) oneG ddCount
      else .fallocate loopSize (imgFile diskMnt i)

/-! ### The callers -/

/-- How a caller ends without a call: with an exception, or with the test cancelled. -/
inductive Stop where
  | raised
  | cancelled (message : Text)
  deriving DecidableEq

/-- The call of `_create_loop_device`, with `disk_mnt` as it is then. -/
structure Call where
  loopSize : Text
  diskMnt : Text
  mount : Bool
  deriving DecidableEq

/-- The message when the free space does not suffice. -/
def needSpace (check : Nat) : Text :=
  "Need ".toList ++ decimal check ++ " GB to create loop devices".toList

/-- The unit that `setUp` cuts off. -/
def giB : Text := ['G', 'i', 'B']

/-- `loop_size.split('GiB')[0]`. -/
def beforeGiB : Text → Text
  | [] => []
  | c :: rest => if giB.isPrefixOf (c :: rest) then [] else c :: beforeGiB rest

/-- `setUp` for loop devices. No disk and a disk without a name are the same to it. -/
def setUpLoop (baseDisk : Option Text) (loopSize diskMnt : Text) (numLoopDev freespace : Nat) :
    Except Stop Call :=
  if baseDisk.getD [] = [] then
    match int (beforeGiB loopSize) with
    | none => .error .raised
    | some number =>
      let check := number * numLoopDev + 1
      if freespace < check * 1073741824 then .error (.cancelled (needSpace check))
      else .ok ⟨loopSize, diskMnt, false⟩
  else .ok ⟨loopSize, diskMnt, true⟩

/-- `setup_nvdimm` for log devices. -/
def setupNvdimm (freespace : Nat) : Except Stop Call :=
  let check := 2
  if check * 1073741824 < freespace then .ok ⟨['2', '0', '3', '8', 'M'], [], false⟩
  else .error (.cancelled (needSpace check))

/-! ### Sizes -/

/-- A unit of a size. -/
inductive SizeUnit where
  | M
  | MiB
  | MB
  | G
  | GiB
  | GB
  deriving DecidableEq

/-- The text of a unit. -/
def SizeUnit.text : SizeUnit → Text
  | .M => ['M']
  | .MiB => ['M', 'i', 'B']
  | .MB => ['M', 'B']
  | .G => ['G']
  | .GiB => giB
  | .GB => ['G', 'B']

/-- The bytes of a unit. -/
def SizeUnit.bytes : SizeUnit → Nat
  | .M | .MiB => 1048576
  | .MB => 1000000
  | .G | .GiB => 1073741824
  | .GB => 1000000000

/-- A unit starts with a letter. -/
theorem SizeUnit.text_cons (unit : SizeUnit) :
    ∃ letter rest, unit.text = letter :: rest ∧ letter.isDigit = false := by
  cases unit <;> exact ⟨_, _, rfl, by decide⟩

/-- A unit has no white space. -/
theorem SizeUnit.text_solid (unit : SizeUnit) : ∀ c ∈ unit.text, charSpace c = false := by
  cases unit <;> exact Library.Text.none_of_check (by decide)

/-- A size as it is written. It begins with digits, and it has no white space, which would end it in
the command line. What follows the digits is left to `fallocate`: a unit in any spelling, a fraction
in front of it, or the rest of a hexadecimal number. -/
structure Size where
  digits : Text
  rest : Text
  begins : digits ≠ []
  allDigits : ∀ c ∈ digits, c.isDigit = true
  ends : ∀ c ∈ rest.head?, c.isDigit = false
  solid : ∀ c ∈ rest, charSpace c = false

/-- The size. -/
def Size.text (size : Size) : Text := size.digits ++ size.rest

/-- The digits that a size begins with, as a decimal number. -/
def Size.leading (size : Size) : Nat := Nat.ofDigitChars 10 size.digits 0

/-- A size with a whole number without zeros in front. -/
def wholeSize (number : Nat) (unit : SizeUnit) : Size where
  digits := decimal number
  rest := unit.text
  begins := (Library.Text.decimal_isWord number).nonempty
  allDigits := decimal_digits number
  ends := by
    obtain ⟨letter, rest, split, noDigit⟩ := unit.text_cons
    intro c isHead
    obtain rfl : letter = c := by simpa [split] using isHead
    exact noDigit
  solid := unit.text_solid

/-- The sizes that the tools make of their arguments, in bytes. A tool that refuses them makes none.
-/
structure Tools where
  dd : (bs : Text) → (count : Nat) → Option Nat
  fallocate : (length : Text) → Option Nat

/-- What the tools promise: `fallocate` knows the units, and a block of `1G` has 1 GiB. Nothing is
said about other numbers than whole ones without zeros in front. -/
structure Documented (tools : Tools) : Prop where
  dd : ∀ count, tools.dd oneG count = some (count * 1073741824)
  fallocate : ∀ number unit, 0 < number →
    tools.fallocate (wholeSize number unit).text = some (number * unit.bytes)

/-- The size of the image that a command makes. -/
def Tools.size (tools : Tools) : Command → Option Nat
  | .dd _ bs count => tools.dd bs count
  | .fallocate length _ => tools.fallocate length

/-- The sizes of the images. -/
def imageSizes (tools : Tools) (useDd : Bool) (loopSize diskMnt : Text) (numLoopDev : Nat) :
    Option (List Nat) := do
  let commands ← createLoopDevice useDd loopSize diskMnt numLoopDev
  commands.mapM tools.size

/-! ### What is expected of the images -/

/-- Both tools make images of the size that is meant, and all of them have room in the free space
that a caller asks for. With a disk of its own `setUp` asks for none. -/
structure Sound (tools : Tools) (size : Size) (bytes numLoopDev : Nat) : Prop where
  sizes : ∀ useDd diskMnt, imageSizes tools useDd size.text diskMnt numLoopDev =
    some (List.replicate numLoopDev bytes)
  setUp : ∀ baseDisk diskMnt freespace call, baseDisk.getD [] = [] →
    setUpLoop baseDisk size.text diskMnt numLoopDev freespace = .ok call →
      numLoopDev * bytes ≤ freespace
  nvdimm : ∀ freespace call, setupNvdimm freespace = .ok call →
    call.loopSize = size.text → numLoopDev * bytes ≤ freespace

/-! ### Reading a size -/

/-- Digits that stand alone are read. -/
theorem int_digits {digits : Text} (begins : digits ≠ [])
    (allDigits : ∀ c ∈ digits, c.isDigit = true) :
    int digits = some (Nat.ofDigitChars 10 digits 0) := by
  have isWord : Library.Text.IsWord charSpace digits :=
    ⟨begins, fun c member => Library.Text.charSpace_digit (allDigits c member)⟩
  rw [int, isWord.strip, if_pos ⟨begins, List.all_eq_true.mpr allDigits⟩]

section Size

variable (size : Size)

/-- The digits at the start of a size. -/
theorem takeWhile_text : size.text.takeWhile Char.isDigit = size.digits := by
  rw [Size.text, List.takeWhile_append_of_pos size.allDigits]
  cases following : size.rest with
  | nil => simp
  | cons c others =>
    have noDigit : c.isDigit = false := size.ends c (by simp [following])
    simp [noDigit]

/-- The first number of a size is that of its first digits. -/
theorem firstNumber_text : firstNumber size.text = some size.leading := by
  obtain ⟨first, others, isFirst⟩ := List.exists_cons_of_ne_nil size.begins
  have digit : first.isDigit = true := size.allDigits first (by rw [isFirst]; simp)
  have kept : size.text.dropWhile (fun c => !c.isDigit) = size.text := by
    rw [Size.text, isFirst]
    simp [digit]
  rw [firstNumber, kept, takeWhile_text, int_digits size.begins size.allDigits, Size.leading]

end Size

/-! ### The images of a size -/

/-- A loop whose passes all have a result has all the results. -/
theorem mapM_eq_map {α β : Type} {f : α → Option β} {g : α → β} {items : List α}
    (each : ∀ item ∈ items, f item = some (g item)) : items.mapM f = some (items.map g) := by
  induction items with
  | nil => rfl
  | cons item rest ih =>
    have first := each item (by simp)
    have others := ih fun other isOther => each other (by simp [isOther])
    rw [List.mapM_cons, first, others]
    rfl

/-- The images of a size: `dd` counts the first digits in GiB, and `fallocate` reads the size. -/
theorem imageSizes_eq {tools : Tools} (documented : Documented tools) {size : Size} {bytes : Nat}
    (accepted : tools.fallocate size.text = some bytes) (useDd : Bool) (diskMnt : Text)
    (numLoopDev : Nat) :
    imageSizes tools useDd size.text diskMnt numLoopDev =
      some (List.replicate numLoopDev
        (if useDd then size.leading * 1073741824 else bytes)) := by
  let command (i : Nat) : Command :=
    if useDd then .dd (imgFile diskMnt i) oneG size.leading
    else .fallocate size.text (imgFile diskMnt i)
  have commands : createLoopDevice useDd size.text diskMnt numLoopDev =
      some ((List.range numLoopDev).map command) := by
    refine mapM_eq_map fun i _ => ?_
    rw [firstNumber_text]
    rfl
  have made (i : Nat) : tools.size (command i) =
      some (if useDd then size.leading * 1073741824 else bytes) := by
    cases useDd with
    | false => exact accepted
    | true => exact documented.dd size.leading
  have sizes : ((List.range numLoopDev).map command).mapM tools.size =
      some (((List.range numLoopDev).map command).map
        fun _ => if useDd then size.leading * 1073741824 else bytes) := by
    refine mapM_eq_map fun item isMade => ?_
    obtain ⟨i, -, rfl⟩ := List.mem_map.mp isMade
    exact made i
  rw [imageSizes, commands]
  refine sizes.trans ?_
  rw [List.map_const', List.length_map, List.length_range]

/-! ### The space that the callers ask for -/

/-- The digits of a size are kept. -/
theorem beforeGiB_append {digits : Text} (allDigits : ∀ c ∈ digits, c.isDigit = true)
    (rest : Text) : beforeGiB (digits ++ rest) = digits ++ beforeGiB rest := by
  induction digits with
  | nil => rfl
  | cons c others ih =>
    have notG : c ≠ 'G' := by
      rintro rfl
      exact absurd (allDigits 'G' (by simp)) (by decide)
    have noUnit : giB.isPrefixOf (c :: (others ++ rest)) = false := by
      simp [giB, List.isPrefixOf, Ne.symm notG]
    rw [List.cons_append, beforeGiB, if_neg (by simp [noUnit]),
      ih fun d isOther => allDigits d (by simp [isOther])]
    rfl

/-- Only the end of a text is cut off. -/
theorem beforeGiB_prefix (text : Text) : beforeGiB text <+: text := by
  induction text with
  | nil => exact List.prefix_rfl
  | cons c rest ih =>
    rw [beforeGiB]
    split
    · exact List.nil_prefix
    · exact List.cons_prefix_cons.mpr ⟨rfl, ih⟩

/-- The number that `setUp` reads from a size is that of its first digits.

Proof: nothing in a size is white space, so it reads all that is in front of `GiB`, and this has to
be digits. A size goes on behind its first digits with something else. -/
theorem int_beforeGiB {size : Size} {number : Nat}
    (reads : int (beforeGiB size.text) = some number) : number = size.leading := by
  have isPrefix := beforeGiB_prefix size.rest
  have solid : ∀ c ∈ size.digits ++ beforeGiB size.rest,
      charSpace c = false := by
    intro c member
    rcases List.mem_append.mp member with isDigit | follows
    · exact Library.Text.charSpace_digit (size.allDigits c isDigit)
    · exact size.solid c (isPrefix.subset follows)
  have isWord : Library.Text.IsWord charSpace
      (size.digits ++ beforeGiB size.rest) :=
    ⟨by simp [size.begins], solid⟩
  rw [Size.text, beforeGiB_append size.allDigits, int, isWord.strip] at reads
  obtain ⟨⟨-, digits⟩, same⟩ := Option.ite_none_right_eq_some.mp reads
  have nothing : beforeGiB size.rest = [] := by
    cases cut : beforeGiB size.rest with
    | nil => rfl
    | cons c others =>
      obtain ⟨tail, whole⟩ := isPrefix
      have noDigit : c.isDigit = false := size.ends c (by rw [← whole, cut]; rfl)
      have isDigit := List.all_eq_true.mp digits c (by simp [cut])
      rw [noDigit] at isDigit
      cases isDigit
  rw [nothing, List.append_nil] at same
  exact (Option.some_inj.mp same).symm

/-- Without a disk `setUp` raises unless it can read the size, and asks for 1 GiB more than that. -/
theorem setUpLoop_ok {baseDisk : Option Text} {size : Size} {diskMnt : Text}
    {numLoopDev freespace : Nat} {call : Call} (noDisk : baseDisk.getD [] = [])
    (result : setUpLoop baseDisk size.text diskMnt numLoopDev freespace = .ok call) :
    (size.leading * numLoopDev + 1) * 1073741824 ≤ freespace := by
  rw [setUpLoop, if_pos noDisk] at result
  cases reads : int (beforeGiB size.text) with
  | none =>
    rw [reads] at result
    cases result
  | some number =>
    rw [reads] at result
    simp only at result
    split at result
    case isTrue => cases result
    case isFalse enough =>
      rw [← int_beforeGiB reads]
      exact Nat.le_of_not_lt enough

/-- `setup_nvdimm` makes a call with `2038M`, and only with more than 2 GiB of free space. -/
theorem setupNvdimm_ok {freespace : Nat} {call : Call}
    (result : setupNvdimm freespace = .ok call) :
    call.loopSize = (wholeSize 2038 .M).text ∧ 2147483648 < freespace := by
  have text : (wholeSize 2038 .M).text = ['2', '0', '3', '8', 'M'] := by decide
  rw [setupNvdimm] at result
  split at result
  case isTrue enough =>
    cases result
    exact ⟨text.symm, enough⟩
  case isFalse => cases result

/-- The size of the log devices does not have as many GiB as its digits say. -/
theorem leading_of_nvdimm {tools : Tools} (documented : Documented tools) {size : Size}
    {bytes : Nat} (accepted : tools.fallocate size.text = some bytes)
    (isSize : size.text = (wholeSize 2038 .M).text) : bytes ≠ size.leading * 1073741824 := by
  have read := firstNumber_text size
  rw [isSize, firstNumber_text, Option.some_inj] at read
  rw [isSize, documented.fallocate 2038 .M (by decide), Option.some_inj] at accepted
  have count : (wholeSize 2038 .M).leading = 2038 := by decide
  rw [← accepted, ← read, count]
  decide

/-- The images are as they should be when the size has as many GiB as its first digits say, and
without devices. -/
theorem sound_iff_leading {tools : Tools} (documented : Documented tools) {size : Size}
    {bytes : Nat} (accepted : tools.fallocate size.text = some bytes) (numLoopDev : Nat) :
    Sound tools size bytes numLoopDev ↔
      numLoopDev = 0 ∨ bytes = size.leading * 1073741824 := by
  constructor
  · intro sound
    by_cases none_needed : numLoopDev = 0
    · exact Or.inl none_needed
    · have same := sound.sizes true []
      rw [imageSizes_eq documented accepted, Option.some_inj, if_pos rfl] at same
      exact Or.inr ((List.replicate_right_inj none_needed).mp same).symm
  · rintro (rfl | inGiB)
    · refine ⟨fun useDd diskMnt => ?_, fun _ _ freespace _ _ _ => ?_, fun freespace _ _ _ => ?_⟩
      · rw [imageSizes_eq documented accepted]
        simp
      · simp
      · simp
    · refine ⟨fun useDd diskMnt => ?_, fun baseDisk diskMnt freespace call noDisk result => ?_,
        fun freespace call result isSize => ?_⟩
      · rw [imageSizes_eq documented accepted, ← inGiB, ite_self]
      · have enough := setUpLoop_ok noDisk result
        calc numLoopDev * bytes = size.leading * numLoopDev * 1073741824 := by
              rw [inGiB, ← Nat.mul_assoc, Nat.mul_comm numLoopDev]
          _ ≤ (size.leading * numLoopDev + 1) * 1073741824 :=
              Nat.mul_le_mul_right _ (Nat.le_succ _)
          _ ≤ freespace := enough
      · have inMiB := isSize.symm.trans (setupNvdimm_ok result).1
        exact absurd inGiB (leading_of_nvdimm documented accepted inMiB)

/-- A whole number of a unit is that number of GiB when the unit is 1 GiB. -/
theorem leading_of_whole {tools : Tools} (documented : Documented tools) {size : Size}
    {bytes number : Nat} {unit : SizeUnit} (accepted : tools.fallocate size.text = some bytes)
    (positive : 0 < number) (whole : size.text = (wholeSize number unit).text) :
    bytes = size.leading * 1073741824 ↔ unit = .G ∨ unit = .GiB := by
  have read := firstNumber_text size
  rw [whole, firstNumber_text, Option.some_inj] at read
  have count : (wholeSize number unit).leading = number := Nat.ofDigitChars_ten_toDigits
  rw [whole, documented.fallocate number unit positive, Option.some_inj] at accepted
  rw [← accepted, ← read, count, Nat.mul_right_inj (Nat.ne_of_gt positive)]
  cases unit <;> decide

/-- The images are as they should be exactly when there are no devices, or the size has as many GiB
as its first digits say when they are read as a decimal number. For a whole number without zeros in
front, this means that the unit is G or GiB. Every size that `fallocate` accepts and that begins
with a digit is covered: a number with a fraction, with a zero in front or in hexadecimal digits
has the size that `fallocate` gives it.

Proof: `dd` makes as many GiB as the first digits say, so the two tools differ unless the size has
just that many. Then `setUp` asks for enough space, since it reads the same number, and the size of
the log devices does not occur. -/
theorem sound_iff_gib {tools : Tools} (documented : Documented tools) {size : Size} {bytes : Nat}
    (accepted : tools.fallocate size.text = some bytes) (numLoopDev : Nat) :
    (Sound tools size bytes numLoopDev ↔
      numLoopDev = 0 ∨ bytes = size.leading * 1073741824) ∧
    ∀ number unit, 0 < number → size.text = (wholeSize number unit).text →
      (bytes = size.leading * 1073741824 ↔ unit = .G ∨ unit = .GiB) :=
  ⟨sound_iff_leading documented accepted numLoopDev,
    fun _ _ positive whole => leading_of_whole documented accepted positive whole⟩

/-! ### Tools that keep the promise -/

/-- The unit with a text. -/
def SizeUnit.ofText (text : Text) : Option SizeUnit :=
  [.M, .MiB, .MB, .G, .GiB, .GB].find? fun unit : SizeUnit => unit.text = text

/-- The unit of its own text. -/
theorem SizeUnit.ofText_text (unit : SizeUnit) : ofText unit.text = some unit := by
  cases unit <;> rfl

/-- Digits with a zero in front are octal. -/
def wholeNumber (digits : Text) : Option Nat :=
  if digits.head? = some '0' then
    if (digits.all fun c => '0' ≤ c ∧ c ≤ '7') = true then some (Nat.ofDigitChars 8 digits 0)
    else none
  else int digits

/-- Tools that know whole numbers and these units only. An image has to have a size. -/
def utilLinux : Tools where
  dd bs count := if bs = oneG then some (count * 1073741824) else none
  fallocate length := do
    let number ← wholeNumber (length.takeWhile Char.isDigit)
    let unit ← SizeUnit.ofText (length.dropWhile Char.isDigit)
    if number = 0 then none else some (number * unit.bytes)

/-- A positive number has no zero in front. -/
theorem head_decimal {number : Nat} (positive : 0 < number) :
    (decimal number).head? ≠ some '0' := by
  induction number using Nat.strongRecOn with
  | ind number ih =>
    by_cases small : number < 10
    · rw [decimal, Nat.toDigits_of_lt_base small]
      simp [Nat.ne_of_gt positive]
    · have fewer : (decimal (number / 10)).head? ≠ some '0' :=
        ih (number / 10) (by omega) (by omega)
      rw [decimal, Nat.toDigits_of_base_le (by decide) (by omega), List.head?_append_of_ne_nil _
        Nat.toDigits_ne_nil]
      exact fewer

/-- They keep the promise. -/
theorem documented_utilLinux : Documented utilLinux where
  dd _ := rfl
  fallocate number unit positive := by
    have isNumber : wholeNumber ((wholeSize number unit).text.takeWhile Char.isDigit) =
        some number := by
      have digits : (wholeSize number unit).digits = decimal number := rfl
      rw [takeWhile_text, digits, wholeNumber, if_neg (head_decimal positive),
        int_digits (Library.Text.decimal_isWord number).nonempty (decimal_digits number), decimal,
        Nat.ofDigitChars_ten_toDigits]
    have isUnit : SizeUnit.ofText ((wholeSize number unit).text.dropWhile Char.isDigit) =
        some unit := by
      obtain ⟨letter, rest, split, noDigit⟩ := unit.text_cons
      have text : (wholeSize number unit).text = decimal number ++ unit.text := rfl
      rw [text, List.dropWhile_append_of_pos (decimal_digits number), split,
        List.dropWhile_cons_of_neg (by simp [noDigit]), ← split, SizeUnit.ofText_text]
    simp [utilLinux, isNumber, isUnit, Nat.ne_of_gt positive]

/-- The size that `setUp` takes when it is given none. -/
theorem sound_default :
    utilLinux.fallocate (wholeSize 7 .GiB).text = some 7516192768 ∧
    (Sound utilLinux (wholeSize 7 .GiB) 7516192768 2 ↔
      2 = 0 ∨ 7516192768 = (wholeSize 7 .GiB).leading * 1073741824) ∧
    ∀ number unit, 0 < number → (wholeSize 7 .GiB).text = (wholeSize number unit).text →
      (7516192768 = (wholeSize 7 .GiB).leading * 1073741824 ↔ unit = .G ∨ unit = .GiB) := by
  have accepted : utilLinux.fallocate (wholeSize 7 .GiB).text = some 7516192768 := by
    decide +kernel
  exact ⟨accepted, sound_iff_gib documented_utilLinux accepted 2⟩

/-- The size of the log devices: on a root file system of type `ext3` each image has 2038 GiB, and
two images of the size that is meant do not fit into the space that suffices. -/
theorem log_devices_unsound :
    imageSizes utilLinux true ['2', '0', '3', '8', 'M'] [] 2 =
        some [2038 * 1073741824, 2038 * 1073741824] ∧
      imageSizes utilLinux false ['2', '0', '3', '8', 'M'] [] 2 =
        some [2038 * 1048576, 2038 * 1048576] ∧
      setupNvdimm 2147483649 = .ok ⟨['2', '0', '3', '8', 'M'], [], false⟩ ∧
      2147483649 < 2 * (2038 * 1048576) ∧
      ¬ ∀ tools, Documented tools → ∀ size bytes numLoopDev,
        tools.fallocate size.text = some bytes → Sound tools size bytes numLoopDev := by
  have dd : imageSizes utilLinux true ['2', '0', '3', '8', 'M'] [] 2 =
      some [2038 * 1073741824, 2038 * 1073741824] := by decide +kernel
  have text : (wholeSize 2038 .M).text = ['2', '0', '3', '8', 'M'] := by decide
  have accepted : utilLinux.fallocate (wholeSize 2038 .M).text = some (2038 * 1048576) :=
    documented_utilLinux.fallocate 2038 .M (by decide)
  refine ⟨dd, by decide +kernel, by decide, by decide, fun always => ?_⟩
  have sound := always utilLinux documented_utilLinux (wholeSize 2038 .M) _ 2 accepted
  have same := sound.sizes true []
  rw [text, dd] at same
  cases same

end AvocadoMisc.Xfstests.LoopImages
