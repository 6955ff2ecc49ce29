import AvocadoMisc.Library.Strides
import AvocadoMisc.Dwh.Sizing

/-!
# Filling the data file

`setupDataFile` opens the data file, chooses its size and writes zeros in pieces of ten
mebibytes, or of the whole size when that is less. The loop goes on while the bytes
counted so far are not more than the file size, so it always writes past that size.
`--maxfilesize` is given as the maximum size of the file.

The count is kept on 64 bits. It ends the loop when it exceeds the file size, which a
count of ten-mebibyte pieces does at some time unless the size is within two mebibytes
of 2^64.
-/

namespace AvocadoMisc.Dwh.FillFile

open VerifySettings Sizing
open Library.Strides

/-- The globals of the data file: which streams are open, and its size. -/
structure Files where
  ioReadStream : Bool
  ioWriteStream : Bool
  fileSize : BitVec 64
  deriving DecidableEq

/-- What the calls of one `setupDataFile` answer: true for a stream, a buffer, and for
each `fwrite`, by its number, for one item. -/
structure FillCalls where
  openWrite : Bool
  openRead : Bool
  calloc : Bool
  fwrite : Nat → Bool

/-- What a `setupDataFile` that returned leaves: its result, the globals and the bytes it
wrote. -/
structure Filled where
  result : Bool
  files : Files
  written : Nat
  deriving DecidableEq

/-- The largest piece that is written at once. -/
def largestPiece : BitVec 64 := 1024 * 1024 * 10

/-- `writeSize`. -/
def pieceSize (fileSize : BitVec 64) : BitVec 64 :=
  if largestPiece > fileSize then fileSize else largestPiece

/-- The fill loop from a given count, with the writes that succeeded before. The answer
is whether all of them did, with their number. -/
def fillLoop (fileSize writeSize : BitVec 64) (fwrite : Nat → Bool) :
    Nat → BitVec 64 → Nat → Option (Bool × Nat)
  | 0, _, _ => none
  | fuel + 1, curSize, writes =>
    if curSize ≤ fileSize then
      if fwrite writes then
        fillLoop fileSize writeSize fwrite fuel (curSize + writeSize) (writes + 1)
      else some (false, writes)
    else some (true, writes)

/-- Open and fill the data file, with the calls of the library as parameters. There is no result if
the loop needs more turns than `fuel`; the files that were opened stay open on every way out. -/
def setupDataFile (fuel : Nat) (settings : Settings) (calls : FillCalls) (files : Files) :
    Option Filled :=
  if files.ioReadStream = false ∧ files.ioWriteStream = false then
    if settings.ioFilename = "" then some ⟨false, files, 0⟩
    else if calls.openWrite = false then some ⟨false, files, 0⟩
    else if calls.openRead = false then some ⟨false, { files with ioWriteStream := true }, 0⟩
    else
      let fileSize := chosenFileSize settings
      let writeSize := pieceSize fileSize
      if calls.calloc = false then some ⟨false, ⟨true, true, 0⟩, 0⟩
      else
        match fillLoop fileSize writeSize calls.fwrite fuel 0 0 with
        | none => none
        | some (true, writes) =>
          some ⟨true, ⟨true, true, fileSize⟩, writes * writeSize.toNat⟩
        | some (false, writes) => some ⟨false, ⟨true, true, 0⟩, writes * writeSize.toNat⟩
  else some ⟨true, files, 0⟩

/-- The fill loop is reached: no stream is open yet, there is a file name, both streams open, and
the buffer is there. -/
structure Reaches (settings : Settings) (calls : FillCalls) (files : Files) : Prop where
  closed : files.ioReadStream = false ∧ files.ioWriteStream = false
  named : settings.ioFilename ≠ ""
  opened : calls.openWrite = true ∧ calls.openRead = true
  allocated : calls.calloc = true

/-- The file is filled: the function returns, what it wrote covers the file size, and a
size given by `--maxfilesize` is not exceeded. -/
structure Populates (settings : Settings) (calls : FillCalls) (files : Files) : Prop where
  returns : ∃ fuel filled, setupDataFile fuel settings calls files = some filled
  covers : ∀ fuel filled, setupDataFile fuel settings calls files = some filled →
    filled.files.fileSize.toNat ≤ filled.written
  limited : ∀ fuel filled, setupDataFile fuel settings calls files = some filled →
    settings.maxFileSize ≠ 0 → filled.written ≤ settings.maxFileSize.toNat

/-- The count after a number of pieces. -/
def counted (writeSize : BitVec 64) (writes : Nat) : BitVec 64 :=
  BitVec.ofNat 64 writes * writeSize

/-- The count advances by one piece. -/
theorem counted_succ (writeSize : BitVec 64) (writes : Nat) :
    counted writeSize writes + writeSize = counted writeSize (writes + 1) := by
  rw [counted, counted, BitVec.ofNat_add, BitVec.add_mul, BitVec.one_mul]

/-- The count is the number of bytes modulo 2^64. -/
theorem counted_toNat (writeSize : BitVec 64) (writes : Nat) :
    (counted writeSize writes).toNat = writes * writeSize.toNat % 2 ^ 64 := by
  rw [counted, BitVec.toNat_mul, BitVec.toNat_ofNat, Nat.mod_mul_mod]

section Loop

variable {fileSize writeSize : BitVec 64} {fwrite : Nat → Bool}

/-- When every write succeeds, a loop that ended counted past the file size. -/
theorem fillLoop_result (succeed : ∀ call, fwrite call = true) {fuel writes total : Nat}
    {complete : Bool}
    (ended : fillLoop fileSize writeSize fwrite fuel (counted writeSize writes) writes =
      some (complete, total)) : complete = true ∧ fileSize < counted writeSize total := by
  induction fuel generalizing writes with
  | zero => cases ended
  | succ fuel inductionHypothesis =>
    rw [fillLoop, counted_succ] at ended
    by_cases within : counted writeSize writes ≤ fileSize
    · rw [if_pos within, if_pos (succeed writes)] at ended
      exact inductionHypothesis ended
    · rw [if_neg within] at ended
      obtain ⟨rfl, rfl⟩ := Prod.mk.inj (Option.some.inj ended)
      exact ⟨rfl, BitVec.not_le.mp within⟩

/-- The loop ends no later than at a count beyond the file size. -/
theorem fillLoop_ends (succeed : ∀ call, fwrite call = true) (further writes : Nat)
    (beyond : fileSize < counted writeSize (writes + further)) :
    ∃ total, fillLoop fileSize writeSize fwrite (further + 1) (counted writeSize writes) writes =
      some (true, total) := by
  induction further generalizing writes with
  | zero =>
    have past : ¬ counted writeSize writes ≤ fileSize := BitVec.not_le.mpr beyond
    exact ⟨writes, by rw [fillLoop, if_neg past]⟩
  | succ further inductionHypothesis =>
    by_cases within : counted writeSize writes ≤ fileSize
    · obtain ⟨total, ended⟩ := inductionHypothesis (writes + 1)
        (by rwa [Nat.add_assoc, Nat.add_comm 1 further])
      exact ⟨total, by
        rw [fillLoop, if_pos within, if_pos (succeed writes), counted_succ, ended]⟩
    · exact ⟨writes, by rw [fillLoop, if_neg within]⟩

/-- The loop ends exactly when its count exceeds the file size at some time. -/
theorem fillLoop_ends_iff (succeed : ∀ call, fwrite call = true) :
    (∃ fuel answer, fillLoop fileSize writeSize fwrite fuel 0 0 = some answer) ↔
      fileSize.toNat < 2 ^ 64 - Nat.gcd writeSize.toNat (2 ^ 64) := by
  have start : counted writeSize 0 = 0 := BitVec.zero_mul
  have reached (writes : Nat) : fileSize < counted writeSize writes ↔
      fileSize.toNat < writes * writeSize.toNat % 2 ^ 64 := by
    rw [BitVec.lt_def, counted_toNat]
  rw [← exceeds_iff writeSize.toNat (2 ^ 64) fileSize.toNat (by decide)]
  constructor
  · rintro ⟨fuel, ⟨complete, total⟩, ended⟩
    rw [← start] at ended
    exact ⟨total, (reached total).mp (fillLoop_result succeed ended).2⟩
  · rintro ⟨writes, beyond⟩
    obtain ⟨total, ended⟩ := fillLoop_ends succeed writes 0
      (by rw [Nat.zero_add]; exact (reached writes).mpr beyond)
    exact ⟨writes + 1, (true, total), start ▸ ended⟩

end Loop

/-- The chosen size is not zero. -/
theorem chosenFileSize_pos (settings : Settings) : 0 < (chosenFileSize settings).toNat := by
  unfold chosenFileSize
  by_cases zero : (if settings.maxFileSize ≠ 0 then settings.maxFileSize
      else settings.maxMem * 2) = 0
  · rw [if_pos zero]
    decide
  · rw [if_neg zero]
    exact Nat.pos_of_ne_zero fun none => zero (BitVec.eq_of_toNat_eq none)

/-- The greatest common divisor of a piece with the range of the count is two mebibytes for
the largest piece, and otherwise at most the file size, which is then small: either way the
count exceeds the file size unless that is within two mebibytes of 2^64. -/
theorem piece_exceeds_iff (fileSize : BitVec 64) (positive : 0 < fileSize.toNat) :
    fileSize.toNat < 2 ^ 64 - Nat.gcd (pieceSize fileSize).toNat (2 ^ 64) ↔
      fileSize.toNat < 2 ^ 64 - 2 ^ 21 := by
  by_cases small : largestPiece > fileSize
  · have tiny : fileSize.toNat < 10485760 := small
    have divisor : Nat.gcd fileSize.toNat (2 ^ 64) ≤ fileSize.toNat :=
      Nat.gcd_le_left _ positive
    rw [pieceSize, if_pos small]
    omega
  · have whole : Nat.gcd largestPiece.toNat (2 ^ 64) = 2 ^ 21 := by decide
    rw [pieceSize, if_neg small, whole]

section Function

variable {settings : Settings} {calls : FillCalls} {files : Files}

/-- Where the loop is reached, the function returns what the loop returns. -/
theorem setupDataFile_reaches (reaches : Reaches settings calls files) (fuel : Nat) :
    setupDataFile fuel settings calls files =
      (fillLoop (chosenFileSize settings) (pieceSize (chosenFileSize settings)) calls.fwrite
        fuel 0 0).map fun ended =>
          ⟨ended.1, ⟨true, true, if ended.1 then chosenFileSize settings else 0⟩,
            ended.2 * (pieceSize (chosenFileSize settings)).toNat⟩ := by
  obtain ⟨closed, named, ⟨openWrite, openRead⟩, allocated⟩ := reaches
  simp only [setupDataFile, closed, named, openWrite, openRead, allocated, and_self, ↓reduceIte,
    Bool.true_eq_false]
  cases fillLoop (chosenFileSize settings) (pieceSize (chosenFileSize settings)) calls.fwrite
      fuel 0 0 with
  | none => rfl
  | some ended =>
    obtain ⟨complete, writes⟩ := ended
    cases complete <;> rfl

/-- A call that returned wrote more than the file size. -/
theorem setupDataFile_beyond (reaches : Reaches settings calls files)
    (succeed : ∀ call, calls.fwrite call = true) {fuel : Nat} {filled : Filled}
    (returned : setupDataFile fuel settings calls files = some filled) :
    filled.files.fileSize = chosenFileSize settings ∧
      (chosenFileSize settings).toNat < filled.written := by
  rw [setupDataFile_reaches reaches, Option.map_eq_some_iff] at returned
  obtain ⟨⟨complete, writes⟩, ended, rfl⟩ := returned
  have start : counted (pieceSize (chosenFileSize settings)) 0 = 0 := BitVec.zero_mul
  rw [← start] at ended
  obtain ⟨rfl, beyond⟩ := fillLoop_result succeed ended
  refine ⟨rfl, ?_⟩
  rw [BitVec.lt_def, counted_toNat] at beyond
  exact Nat.lt_of_lt_of_le beyond (Nat.mod_le _ _)

/-- A call returns exactly when the file size is not within two mebibytes of 2^64. -/
theorem setupDataFile_returns_iff (reaches : Reaches settings calls files)
    (succeed : ∀ call, calls.fwrite call = true) :
    (∃ fuel filled, setupDataFile fuel settings calls files = some filled) ↔
      (chosenFileSize settings).toNat < 2 ^ 64 - 2 ^ 21 := by
  rw [← piece_exceeds_iff _ (chosenFileSize_pos settings), ← fillLoop_ends_iff succeed]
  constructor
  · rintro ⟨fuel, filled, returned⟩
    rw [setupDataFile_reaches reaches, Option.map_eq_some_iff] at returned
    obtain ⟨answer, ended, -⟩ := returned
    exact ⟨fuel, answer, ended⟩
  · rintro ⟨fuel, answer, ended⟩
    exact ⟨fuel, _, by rw [setupDataFile_reaches reaches, ended]; rfl⟩

/-- The data file is filled as documented exactly when no maximum size was given and twice
the memory limit is not within two mebibytes of 2^64: with a maximum size the loop either
does not end or exceeds it. -/
theorem populates_iff (settings : Settings) (calls : FillCalls) (files : Files)
    (reaches : Reaches settings calls files) (succeed : ∀ call, calls.fwrite call = true) :
    Populates settings calls files ↔
      settings.maxFileSize = 0 ∧ (settings.maxMem * 2).toNat < 2 ^ 64 - 2 ^ 21 := by
  have returns := setupDataFile_returns_iff reaches succeed
  constructor
  · intro populates
    obtain ⟨fuel, filled, returned⟩ := populates.returns
    have ends := returns.mp populates.returns
    have beyond := (setupDataFile_beyond reaches succeed returned).2
    have unlimited : settings.maxFileSize = 0 := by
      by_contra given
      have limited := populates.limited fuel filled returned given
      have chosen : chosenFileSize settings = settings.maxFileSize := by
        simp only [chosenFileSize, ne_eq, given, not_false_eq_true, ↓reduceIte]
      rw [chosen] at beyond
      exact absurd limited (Nat.not_le_of_lt beyond)
    refine ⟨unlimited, ?_⟩
    by_cases zero : settings.maxMem * 2 = 0
    · rw [zero]
      decide
    · have chosen : chosenFileSize settings = settings.maxMem * 2 := by
        simp only [chosenFileSize, unlimited, ne_eq, not_true_eq_false, ↓reduceIte, zero]
      rwa [chosen] at ends
  · rintro ⟨unlimited, below⟩
    have ends : (chosenFileSize settings).toNat < 2 ^ 64 - 2 ^ 21 := by
      simp only [chosenFileSize, unlimited, ne_eq, not_true_eq_false, ↓reduceIte]
      split
      · decide
      · exact below
    refine ⟨returns.mpr ends, ?_, ?_⟩
    · intro fuel filled returned
      obtain ⟨size, beyond⟩ := setupDataFile_beyond reaches succeed returned
      rw [size]
      exact Nat.le_of_lt beyond
    · intro fuel filled _ given
      exact absurd unlimited given

end Function

/-- Every call succeeds. -/
def allSucceed : FillCalls := ⟨true, true, true, fun _ => true⟩

/-- No stream is open. -/
def closedFiles : Files := ⟨false, false, 0⟩

/-- Ten I/O threads among twenty, and a maximum file size. -/
def limitedTo (maxFileSize : BitVec 64) : Settings :=
  { defaults 20 20 10 "dwh.dat" with maxFileSize := maxFileSize }

/-- Without `--maxfilesize` and `--maxmem` the file is filled. -/
theorem populates_default : Populates (limitedTo 0) allSucceed closedFiles :=
  (populates_iff (limitedTo 0) allSucceed closedFiles
    ⟨⟨rfl, rfl⟩, by decide, ⟨rfl, rfl⟩, rfl⟩ (fun _ => rfl)).mpr ⟨rfl, by decide⟩

/-- With `--maxfilesize 4096` the loop writes twice, 8192 bytes. -/
theorem populates_fails :
    ¬ ∀ settings calls files, Reaches settings calls files →
      (∀ call, calls.fwrite call = true) → Populates settings calls files := by
  intro always
  have populates := always (limitedTo 4096) allSucceed closedFiles
    ⟨⟨rfl, rfl⟩, by decide, ⟨rfl, rfl⟩, rfl⟩ (fun _ => rfl)
  have twice : setupDataFile 3 (limitedTo 4096) allSucceed closedFiles =
      some ⟨true, ⟨true, true, 4096⟩, 8192⟩ := by decide
  exact absurd (populates.limited 3 _ twice (by decide)) (by decide)

end AvocadoMisc.Dwh.FillFile
