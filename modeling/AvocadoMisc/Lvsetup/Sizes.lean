import AvocadoMisc.Library.NumberTexts

/-!
# The sizes of the LVM test

`setUp` of `lvsetup.py` reads the size of the logical volume as megabytes. With disks it stays in
megabytes. Without disks the same number is handed to the loop device, which is created from
bytes, and is divided by 1024 * 1024 a second time afterwards. Only the default of 1 GiB, which is
written in bytes, comes out right. The numbers are exact.
-/

namespace AvocadoMisc.Lvsetup.Sizes

open Library.Text Library.Numerals Library.NumberTexts

/-- A character string. -/
abbrev Text := List Char

/-! ### The setup -/

/-- `disk.create_loop_device` of the test framework: the capacity in bytes of the device for a
size in bytes, or no device. A size that is a number of blocks is the capacity. -/
structure LoopDevices where
  createLoopDevice : ℚ → Option Nat
  blocks : ∀ count bytes : Nat, createLoopDevice (4096 * count) = some bytes → bytes = 4096 * count

/-- The parameters that sizes come out of, an absent one being empty, and the bytes of the disks
where there are some. -/
structure Params where
  lvSize : Text
  lvSnapshotSize : Option Text
  lvExtendSize : Text
  disks : Option Nat

/-- The size of the snapshot: the parameter, or megabytes. -/
inductive SnapshotSize where
  | given (text : Text)
  | megabytes (size : ℚ)
  deriving DecidableEq

/-- What `setUp` leaves behind, with the capacity in bytes of the device. -/
structure Setup where
  lvSize : ℚ
  lvSnapshotSize : SnapshotSize
  lvExtendSize : Int
  capacity : Nat
  deriving DecidableEq

/-- How `setUp` ends. -/
inductive Outcome where
  | valueError
  | cancelled (message : String)
  | ready (setup : Setup)
  deriving DecidableEq

/-- The size a loop device is asked for, if one is, and the end. -/
structure Run where
  asked : Option ℚ
  outcome : Outcome
  deriving DecidableEq

/-- `lv_size` in megabytes. -/
def megabytes (lvSize : Text) : Option ℚ :=
  if lvSize.getLast? = some 'G' then
    (int (strip (· = 'G') lvSize)).map fun (n : Int) => ((n * 1024 : Int) : ℚ)
  else if lvSize.getLast? = some 'M' then
    (int (strip (· = 'M') lvSize)).map fun (n : Int) => (n : ℚ)
  else (int lvSize).map fun (n : Int) => (n : ℚ) / 1024 / 1024

/-- `lv_extend_size`, whose plain numbers stay what they are. -/
def extendSize (lvExtendSize : Text) : Option Int :=
  if lvExtendSize.getLast? = some 'G' then
    (int (strip (· = 'G') lvExtendSize)).map (· * 1024)
  else if lvExtendSize.getLast? = some 'M' then int (strip (· = 'M') lvExtendSize)
  else int lvExtendSize

/-- A parameter that is empty counts as zero. -/
def orZero {α : Type} [Zero α] (read : Text → Option α) (text : Text) : Option α :=
  if text = [] then some 0 else read text

/-- The end of `setUp`, from the 45% on: the size of the volume, of the snapshot, which is as large
by default, and of the extension, which is a tenth by default and never zero. -/
def finish (params : Params) (size : ℚ) (capacity : Nat) : Outcome :=
  let lvSize := size * 45 / 100
  let lvSnapshotSize := match params.lvSnapshotSize with
    | none => .megabytes lvSize
    | some text => .given text
  match orZero extendSize params.lvExtendSize with
  | none => .valueError
  | some extend =>
    let tenth := trunc (lvSize * 10 / 100)
    let lvExtendSize := if extend ≠ 0 then extend else if tenth ≠ 0 then tenth else 1
    .ready { lvSize, lvSnapshotSize, lvExtendSize, capacity }

/-- `setUp`, from the conversion of `lv_size` on. What it asks of the loop device is recorded, since
with disks nothing is asked. -/
def setUp (loop : LoopDevices) (params : Params) : Run :=
  match orZero megabytes params.lvSize with
  | none => { asked := none, outcome := .valueError }
  | some lvSize =>
    match params.disks with
    | some bytes =>
      let diskSize : ℚ := bytes / (1024 * 1024)
      if lvSize ≠ 0 then
        if lvSize > diskSize then
          { asked := none, outcome := .cancelled "lv size provided more than size of disks" }
        else { asked := none, outcome := finish params lvSize bytes }
      else { asked := none, outcome := finish params diskSize bytes }
    | none =>
      let size : ℚ := if lvSize = 0 then 1024 * 1024 * 1024 else lvSize
      match loop.createLoopDevice size with
      | none => { asked := some size, outcome := .cancelled "Could not create loop device" }
      | some bytes => { asked := some size, outcome := finish params (size / (1024 * 1024)) bytes }

/-! ### The law -/

/-- The suffix of a size. -/
inductive Suffix where
  | plain | M | G
  deriving DecidableEq

/-- How a suffix is written. -/
def Suffix.chars : Suffix → Text
  | .plain => []
  | .M => ['M']
  | .G => ['G']

/-- The power of 1024 a suffix stands for. -/
def Suffix.exponent : Suffix → Nat
  | .plain => 0
  | .M => 2
  | .G => 3

/-- A requested size. -/
structure Request where
  numeral : Numeral 10
  suffix : Suffix

/-- How it is written. -/
def Request.text (request : Request) : Text := request.numeral.digits ++ request.suffix.chars

/-- What it stands for. -/
def Request.bytes (request : Request) : Nat :=
  request.numeral.toNat * 1024 ^ request.suffix.exponent

/-- The bytes that are requested. None are requested by zero, which is the default. -/
def requested : Option Request → Nat
  | none => 0
  | some request => request.bytes

/-- The bytes the sizes are taken from: the requested ones, or else those of the disks, or else
1 GiB. -/
def basis (request : Option Request) (disks : Option Nat) : Nat :=
  if requested request ≠ 0 then requested request else disks.getD (1024 ^ 3)

/-- A loop device is asked for the requested bytes at least. When `setUp` ends without being
cancelled, the size is 45% of the requested capacity in megabytes, the device has that capacity,
and the volume fits it together with the default snapshot. -/
def Consistent (request : Option Request) (disks : Option Nat) (run : Run) : Prop :=
  (∀ size ∈ run.asked, (requested request : ℚ) ≤ size) ∧
  ∀ setup, run.outcome = .ready setup →
    setup.lvSize = basis request disks / 1024 ^ 2 * 45 / 100 ∧
    requested request ≤ setup.capacity ∧
    ∀ size, setup.lvSnapshotSize = .megabytes size →
      (setup.lvSize + size) * 1024 ^ 2 ≤ setup.capacity

section Setup

variable (loop : LoopDevices) (request : Option Request) (snapshot : Option Text) (extend : Text)

end Setup

end AvocadoMisc.Lvsetup.Sizes
