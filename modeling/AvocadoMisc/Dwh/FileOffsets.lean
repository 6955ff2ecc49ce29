import AvocadoMisc.Dwh.Sizing

/-!
# Offsets of the transfers

`ioFileRead` and `ioFileWrite` place a request at a random offset, such that it ends
before the data file does. Both multiply the room that is left by a draw before they
divide by `RAND_MAX`. The read does so on a signed 64-bit number, for which a product
beyond 2^63 is undefined. The write is unsigned: its product is reduced modulo 2^64,
which only makes the offset smaller.
-/

namespace AvocadoMisc.Dwh.FileOffsets

open Sizing

/-- The offsets at which a request can start. -/
def room (fileSize ioLen : BitVec 64) : BitVec 64 := fileSize - ioLen - 1

/-- `pos` of `ioFileRead`, on `off64_t`. An overflow of the signed product has no result. -/
def readPos (fileSize ioLen : BitVec 64) (draw : Rand) : Option (BitVec 64) :=
  let pos := room fileSize ioLen
  if (BitVec.ofNat 64 draw.val).smulOverflow pos then none
  else some ((BitVec.ofNat 64 draw.val * pos).sdiv (BitVec.ofNat 64 randMax))

/-- `pos` of `ioFileWrite`, on `size_t`. -/
def writePos (fileSize ioLen : BitVec 64) (draw : Rand) : BitVec 64 :=
  scaled draw (room fileSize ioLen)

/-- Both offsets let the request end before the file does, and the signed product does not
overflow. -/
structure OffsetsFit (fileSize ioLen : BitVec 64) (draw : Rand) : Prop where
  read : ∃ pos, readPos fileSize ioLen draw = some pos ∧ 0 ≤ pos.toInt ∧
    pos.toInt + ioLen.toNat < fileSize.toNat
  write : (writePos fileSize ioLen draw).toNat + ioLen.toNat < fileSize.toNat

/-- The room in unbounded arithmetic. -/
theorem room_toNat {fileSize ioLen : BitVec 64} (within : ioLen < fileSize) :
    (room fileSize ioLen).toNat = fileSize.toNat - ioLen.toNat - 1 := by
  have smaller : ioLen.toNat < fileSize.toNat := within
  have less : (fileSize - ioLen).toNat = fileSize.toNat - ioLen.toNat :=
    BitVec.toNat_sub_of_le (BitVec.le_of_lt within)
  have one : (1 : BitVec 64) ≤ fileSize - ioLen := by
    rw [BitVec.le_def, less]
    exact Nat.sub_pos_of_lt smaller
  rw [room, BitVec.toNat_sub_of_le one, less]
  rfl

/-- Numbers below 2^63 are not negative. -/
theorem toInt_of_small {number : BitVec 64} (small : number.toNat < 2 ^ 63) :
    number.toInt = number.toNat :=
  BitVec.toInt_eq_toNat_of_lt (by omega)

/-- The signed product of a draw overflows exactly when it reaches 2^63. -/
theorem overflows_iff (draw : Rand) {pos : BitVec 64} (small : pos.toNat < 2 ^ 63) :
    (BitVec.ofNat 64 draw.val).smulOverflow pos = true ↔ 2 ^ 63 ≤ draw.val * pos.toNat := by
  have drawn : (BitVec.ofNat 64 draw.val).toInt = draw.val := by
    rw [toInt_of_small (by rw [draw_toNat]; exact Nat.lt_trans draw.isLt (by decide)), draw_toNat]
  have exact : ((draw.val * pos.toNat : Nat) : Int) =
      (BitVec.ofNat 64 draw.val).toInt * pos.toInt := by
    rw [drawn, toInt_of_small small, Int.natCast_mul]
  rw [BitVec.smulOverflow, ← exact, Bool.or_eq_true, decide_eq_true_eq, decide_eq_true_eq]
  omega

/-- Without overflow the signed offset is the quotient in unbounded arithmetic. -/
theorem signed_quotient (draw : Rand) {pos : BitVec 64}
    (bounded : draw.val * pos.toNat < 2 ^ 63) :
    ((BitVec.ofNat 64 draw.val * pos).sdiv (BitVec.ofNat 64 randMax)).toInt =
      (draw.val * pos.toNat / randMax : Nat) := by
  have product : (BitVec.ofNat 64 draw.val * pos).toNat = draw.val * pos.toNat := by
    rw [BitVec.toNat_mul, draw_toNat]
    exact Nat.mod_eq_of_lt (by omega)
  have positive : (BitVec.ofNat 64 draw.val * pos).msb = false := by
    rw [BitVec.msb_eq_false_iff_two_mul_lt, product]
    omega
  have divisor : (BitVec.ofNat 64 randMax).msb = false := by decide
  have quotient : ((BitVec.ofNat 64 draw.val * pos).sdiv (BitVec.ofNat 64 randMax)).toNat =
      draw.val * pos.toNat / randMax := by
    rw [BitVec.sdiv_eq, positive, divisor]
    simp only [BitVec.udiv_eq]
    rw [BitVec.toNat_udiv, product]
    rfl
  have small : draw.val * pos.toNat / randMax < 2 ^ 63 :=
    Nat.lt_of_le_of_lt (Nat.div_le_self _ _) bounded
  rw [toInt_of_small (by rw [quotient]; exact small), quotient]

/-- The write's offset always fits. -/
theorem writePos_fits {fileSize ioLen : BitVec 64} (within : ioLen < fileSize) (draw : Rand) :
    (writePos fileSize ioLen draw).toNat + ioLen.toNat < fileSize.toNat := by
  have smaller : ioLen.toNat < fileSize.toNat := within
  have part := scaled_le draw (room fileSize ioLen)
  rw [room_toNat within] at part
  rw [writePos]
  omega

/-- Where it has a result, so does the read's. -/
theorem readPos_fits {fileSize ioLen : BitVec 64} (small : fileSize.toNat < 2 ^ 63)
    (within : ioLen < fileSize) (draw : Rand)
    (bounded : draw.val * (fileSize.toNat - ioLen.toNat - 1) < 2 ^ 63) :
    ∃ pos, readPos fileSize ioLen draw = some pos ∧ 0 ≤ pos.toInt ∧
      pos.toInt + ioLen.toNat < fileSize.toNat := by
  have smaller : ioLen.toNat < fileSize.toNat := within
  have size := room_toNat within
  rw [← size] at bounded
  have fits : (room fileSize ioLen).toNat < 2 ^ 63 := by omega
  have inRange : ¬ (BitVec.ofNat 64 draw.val).smulOverflow (room fileSize ioLen) = true := by
    rw [overflows_iff draw fits]
    omega
  have part : draw.val * (room fileSize ioLen).toNat / randMax ≤ (room fileSize ioLen).toNat :=
    Nat.div_le_of_le_mul (Nat.mul_le_mul_right _ (Nat.le_of_lt_succ draw.isLt))
  refine ⟨_, if_neg inRange, ?_, ?_⟩
  · rw [signed_quotient draw bounded]
    exact Int.natCast_nonneg _
  · rw [signed_quotient draw bounded]
    omega

/-- Both offsets fit exactly when the draw times the room stays below 2^63.

It is assumed that the file has fewer than 2^63 bytes and that the request is shorter than it. The
draw is any value of `rand()`.

Proof: the product of the read is on a signed number and has no value beyond the bound. The one of
the write wraps, and is smaller then. -/
theorem offsets_fit_iff (fileSize ioLen : BitVec 64) (draw : Rand)
    (small : fileSize.toNat < 2 ^ 63) (within : ioLen < fileSize) :
    OffsetsFit fileSize ioLen draw ↔
      draw.val * (fileSize.toNat - ioLen.toNat - 1) < 2 ^ 63 := by
  constructor
  · rintro ⟨⟨pos, computed, -⟩, -⟩
    have size := room_toNat within
    by_contra beyond
    have overflow : (BitVec.ofNat 64 draw.val).smulOverflow (room fileSize ioLen) = true :=
      (overflows_iff draw (by omega)).mpr (by rw [size]; omega)
    rw [readPos, if_pos overflow] at computed
    cases computed
  · intro bounded
    exact ⟨readPos_fits small within draw bounded, writePos_fits within draw⟩

/-- A megabyte of a file of one gibibyte fits for the largest draw. -/
theorem offsets_fit_gibibyte : OffsetsFit (1024 * 1024 * 1024) (1024 * 1024) (Fin.last _) :=
  (offsets_fit_iff _ _ _ (by decide) (by decide)).mpr (by decide)

/-- One byte of the default file of six gibibytes does not. -/
theorem offsets_fit_fails :
    ¬ ∀ (fileSize ioLen : BitVec 64) (draw : Rand), fileSize.toNat < 2 ^ 63 → 1 ≤ ioLen →
      ioLen < fileSize → OffsetsFit fileSize ioLen draw := by
  intro always
  obtain ⟨pos, computed, -⟩ := (always (chosenFileSize (manyWorkers 1048576)) 1 (Fin.last _)
    (by decide) (by decide) (by decide)).read
  have overflow : readPos (chosenFileSize (manyWorkers 1048576)) 1 (Fin.last _) = none := by
    decide
  rw [overflow] at computed
  cases computed

end AvocadoMisc.Dwh.FileOffsets
