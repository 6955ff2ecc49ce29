import Mathlib.Tactic.Linarith
import AvocadoMisc.Dwh.VerifySettings

/-!
# Sizes of buffers, requests and the data file

A worker draws a random buffer size up to `--maxiosize`. When the draw gives zero
it takes 4096 bytes, or half the available memory when that is not more, or eight
bytes. A request covers a random part of the buffer. The data file has the size
given by `--maxfilesize`, or twice the memory limit, or six gibibytes.

All arithmetic is on 64-bit unsigned integers. For admitted settings no product of
a draw wraps, and the subtraction of the memory in use, which can wrap when an
allocation is being refused at the same time, only picks the fallback size. The
fallback is not compared with `--maxiosize`, nor either size with the data file.
-/

namespace AvocadoMisc.Dwh.Sizing

open VerifySettings

/-- `RAND_MAX`. -/
def randMax : Nat := 2147483647

/-- A value of `rand()`. -/
abbrev Rand := Fin 2147483648

/-- The part of a limit that a draw selects. -/
def scaled (draw : Rand) (limit : BitVec 64) : BitVec 64 :=
  BitVec.ofNat 64 draw.val * limit / BitVec.ofNat 64 randMax

/-- The memory a worker takes as available, from one load of `memUsed`. -/
def available (settings : Settings) (memUsed : BitVec 64) : BitVec 64 :=
  if settings.maxMem ≠ 0 then settings.maxMem - memUsed else memUsed

/-- The size of a worker's buffer. -/
def bufferSize (settings : Settings) (memUsed : BitVec 64) (draw : Rand) : BitVec 64 :=
  let avail := available settings memUsed
  let sz := scaled draw settings.maxIOSize
  if sz = 0 then
    if avail > 4096 then 4096
    else
      let sz := avail / 2
      if sz = 0 then 8 else sz
  else sz

/-- The length of a request for a buffer of the given size. -/
def requestLength (sz : BitVec 64) (draw : Rand) : BitVec 64 :=
  let len := scaled draw sz
  if len < 1 then 1 else len

/-- The file size that `setupDataFile` chooses. -/
def chosenFileSize (settings : Settings) : BitVec 64 :=
  let fileSize := if settings.maxFileSize ≠ 0 then settings.maxFileSize else settings.maxMem * 2
  if fileSize = 0 then 1024 * 1024 * 1024 * 6 else fileSize

/-- The size taken when the draw gives zero. -/
def fallback (avail : Nat) : Nat :=
  if 4096 < avail then 4096 else if avail < 2 then 8 else avail / 2

/-- The buffer size in unbounded arithmetic. -/
def plainSize (settings : Settings) (memUsed : BitVec 64) (draw : Rand) : Nat :=
  if draw.val * settings.maxIOSize.toNat < randMax then
    fallback (available settings memUsed).toNat
  else draw.val * settings.maxIOSize.toNat / randMax

/-- A draw keeps its value on 64 bits. -/
theorem draw_toNat (draw : Rand) : (BitVec.ofNat 64 draw.val).toNat = draw.val :=
  Nat.mod_eq_of_lt (Nat.lt_trans draw.isLt (by decide))

/-- Below 2^31 a draw's product does not wrap. -/
theorem scaled_toNat (draw : Rand) (limit : BitVec 64) (bounded : limit.toNat ≤ 0x7FFFFFFF) :
    (scaled draw limit).toNat = draw.val * limit.toNat / randMax := by
  have small : draw.val < 2147483648 := draw.isLt
  have product : draw.val * limit.toNat < 2 ^ 64 := by
    calc draw.val * limit.toNat ≤ 2147483648 * 0x7FFFFFFF :=
          Nat.mul_le_mul (Nat.le_of_lt small) bounded
      _ < 2 ^ 64 := by decide
  rw [scaled, BitVec.toNat_udiv, BitVec.toNat_mul, draw_toNat, Nat.mod_eq_of_lt product]
  rfl

/-- A draw's part of a limit is not more than the limit, whether or not the product wraps. -/
theorem scaled_le (draw : Rand) (limit : BitVec 64) :
    (scaled draw limit).toNat ≤ limit.toNat := by
  have drawn : draw.val ≤ randMax := Nat.le_of_lt_succ draw.isLt
  have wrapped : (BitVec.ofNat 64 draw.val * limit).toNat ≤ randMax * limit.toNat := by
    rw [BitVec.toNat_mul, draw_toNat]
    exact (Nat.mod_le _ _).trans (Nat.mul_le_mul_right _ drawn)
  rw [scaled, BitVec.toNat_udiv]
  exact Nat.div_le_of_le_mul wrapped

/-- The fallback is at least one byte and at most a page. -/
theorem fallback_bounds (avail : Nat) : 1 ≤ fallback avail ∧ fallback avail ≤ 4096 := by
  unfold fallback
  split
  · omega
  · split <;> omega

/-- For admitted settings the buffer size is the one of unbounded arithmetic: the product of the
random number and the largest size is scaled without wrapping around. What is available is taken as
the words give it. -/
theorem bufferSize_toNat {settings : Settings} (admitted : Admitted settings)
    (memUsed : BitVec 64) (draw : Rand) :
    (bufferSize settings memUsed draw).toNat = plainSize settings memUsed draw := by
  have drawn := scaled_toNat draw settings.maxIOSize admitted.ioSize
  have zero : scaled draw settings.maxIOSize = 0 ↔
      draw.val * settings.maxIOSize.toNat < randMax := by
    rw [← BitVec.toNat_inj, drawn]
    exact Nat.div_eq_zero_iff_lt (by decide)
  by_cases small : draw.val * settings.maxIOSize.toNat < randMax
  · simp only [bufferSize, plainSize, zero.mpr small, small, ↓reduceIte, fallback]
    by_cases page : 4096 < (available settings memUsed).toNat
    · have beyond : available settings memUsed > 4096 := page
      simp only [beyond, page, ↓reduceIte]
      rfl
    · have under : ¬ available settings memUsed > 4096 := page
      have half : (available settings memUsed / 2).toNat = (available settings memUsed).toNat / 2 :=
        BitVec.toNat_udiv
      have halfZero : available settings memUsed / 2 = 0 ↔
          (available settings memUsed).toNat < 2 := by
        rw [← BitVec.toNat_inj, half]
        exact Nat.div_eq_zero_iff_lt (by decide)
      by_cases tiny : (available settings memUsed).toNat < 2
      · simp only [under, page, halfZero.mpr tiny, tiny, ↓reduceIte]
        rfl
      · have nonzero : ¬ available settings memUsed / 2 = 0 := fun zero => tiny (halfZero.mp zero)
        simp only [under, page, nonzero, tiny, ↓reduceIte, half]
  · have nonzero : ¬ scaled draw settings.maxIOSize = 0 := fun isZero => small (zero.mp isZero)
    simp only [bufferSize, plainSize, nonzero, small, ↓reduceIte, drawn]

/-- The buffer has at least one byte and stays below 2^31. -/
theorem plainSize_bounds {settings : Settings} (admitted : Admitted settings)
    (memUsed : BitVec 64) (draw : Rand) : 1 ≤ plainSize settings memUsed draw ∧
      plainSize settings memUsed draw ≤ 0x7FFFFFFF := by
  have page := fallback_bounds (available settings memUsed).toNat
  unfold plainSize
  split
  · omega
  · rename_i large
    have whole : 1 ≤ draw.val * settings.maxIOSize.toNat / randMax :=
      (Nat.one_le_div_iff (by decide)).mpr (Nat.le_of_not_lt large)
    have within := scaled_le draw settings.maxIOSize
    rw [scaled_toNat draw settings.maxIOSize admitted.ioSize] at within
    exact ⟨whole, within.trans admitted.ioSize⟩

/-- The buffer stays within `--maxiosize` unless a fallback exceeds it. -/
theorem plainSize_le_iff {settings : Settings} (admitted : Admitted settings)
    (memUsed : BitVec 64) (draw : Rand) :
    plainSize settings memUsed draw ≤ settings.maxIOSize.toNat ↔
      (draw.val * settings.maxIOSize.toNat < randMax →
        fallback (available settings memUsed).toNat ≤ settings.maxIOSize.toNat) := by
  have within := scaled_le draw settings.maxIOSize
  rw [scaled_toNat draw settings.maxIOSize admitted.ioSize] at within
  by_cases small : draw.val * settings.maxIOSize.toNat < randMax
  · simp [plainSize, small]
  · simp only [plainSize, small, ↓reduceIte, false_implies, iff_true]
    exact within

/-- A request is the drawn part of its buffer, and one byte when that is none. -/
theorem requestLength_toNat (sz : BitVec 64) (draw : Rand) (bounded : sz.toNat ≤ 0x7FFFFFFF) :
    (requestLength sz draw).toNat = max 1 (sz.toNat * draw.val / randMax) := by
  have drawn := scaled_toNat draw sz bounded
  rw [Nat.mul_comm] at drawn
  by_cases none : scaled draw sz < 1
  · have zero : (scaled draw sz).toNat = 0 := Nat.lt_one_iff.mp none
    simp only [requestLength, none, ↓reduceIte]
    rw [← drawn, zero]
    rfl
  · have some : 1 ≤ (scaled draw sz).toNat := Nat.le_of_not_lt none
    simp only [requestLength, none, ↓reduceIte]
    rw [← drawn]
    omega

/-- Two hundred workers, no I/O threads and no memory limit. -/
def manyWorkers (maxIOSize : BitVec 64) : Settings :=
  { defaults 200 200 0 "dwh.dat" with maxIOSize := maxIOSize }

end AvocadoMisc.Dwh.Sizing
