import Mathlib.Algebra.Order.BigOperators.Group.List
import Mathlib.Tactic.IntervalCases
import Mathlib.Tactic.Ring
import AvocadoMisc.Library.SparseFile
import AvocadoMisc.Library.WordLoops

/-!
# Blocks of the disk test

A block is written as a sequence of sectors, and every sector as 64 copies of a
pattern: the number of the sector and the signature of the run. `verify_block` reads
a block back and counts the fields that differ.

Counts and numbers are 32-bit unsigned integers, so products and sums wrap. Offsets
are 64-bit. No block has an offset that overflows those: a block size beyond one
mebibyte leaves no blocks.

When the block size is a multiple of the sector size, a block write puts the same
bytes on the disk as any other write under its signature that covers the position:
byte `p` belongs to sector `p / 512`. `canonical` is that content.
-/

namespace AvocadoMisc.Disktest.Blocks

open Library.SparseFile Library.WordLoops

/-- `unsigned int`. -/
abbrev Word := BitVec 32

/-- A byte of the file or of a buffer. -/
abbrev Byte := BitVec 8

/-- A hole in the file reads as zero bytes. -/
instance zeroByte : Zero Byte := ⟨0#8⟩

/-- `struct pattern`. -/
structure Pattern where
  sector : Word
  signature : Word
deriving DecidableEq

/-- `SECTOR_SIZE`. -/
def sectorSize : Nat := 512

/-- `PATTERN_PER_SECTOR`: a pattern takes eight bytes. -/
def patternPerSector : Nat := 64

/-- The globals that the options set. -/
structure Options where
  verifyOnly : Bool
  initOnly : Bool
  stopOnError : Bool
  infiniteLoop : Bool
  megabytes : Word
  skipMb : Word
  blocksize : Word
  linearTasks : Word
  randomTasks : Word

/-- Options with the default task counts, for a run that goes on to the tasks. -/
def sized (megabytes skipMb blocksize : Word) : Options where
  verifyOnly := false
  initOnly := false
  stopOnError := false
  infiniteLoop := false
  megabytes := megabytes
  skipMb := skipMb
  blocksize := blocksize
  linearTasks := 1
  randomTasks := 4

/-- The globals that locate the blocks. -/
structure Geometry where
  blocksize : Word
  startBlock : Word
  blocks : Word
  sectorsPerBlock : Word

/-- Blocks in a mebibyte. -/
def blocksPerMb (blocksize : Word) : Word := 1024 * 1024 / blocksize

/-- The block arithmetic at the top of main's loop. A block size of zero makes it divide
by zero, which ends the process. -/
def geometry (options : Options) : Option Geometry :=
  if options.blocksize = 0 then none
  else some {
    blocksize := options.blocksize
    blocks := options.megabytes * blocksPerMb options.blocksize
    startBlock := options.skipMb * blocksPerMb options.blocksize
    sectorsPerBlock := options.blocksize / 512 }

/-! ### Patterns in memory -/

/-- Byte `i` of a pattern in memory, least significant byte of a field first. -/
def Pattern.byte (pattern : Pattern) (i : Nat) : Byte :=
  if i < 4 then BitVec.ofNat 8 (pattern.sector.toNat / 256 ^ i)
  else BitVec.ofNat 8 (pattern.signature.toNat / 256 ^ (i - 4))

/-- The word at an address. -/
def loadWord (bytes : Nat → Byte) (address : Nat) : Word :=
  BitVec.ofNat 32 ((bytes address).toNat + 256 * (bytes (address + 1)).toNat +
    65536 * (bytes (address + 2)).toNat + 16777216 * (bytes (address + 3)).toNat)

/-- The pattern in a slot of eight bytes. -/
def load (bytes : Nat → Byte) (slot : Nat) : Pattern :=
  ⟨loadWord bytes (8 * slot), loadWord bytes (8 * slot + 4)⟩

/-- Assign a pattern to a slot of a buffer. -/
def store (buffer : Nat → Byte) (slot : Nat) (pattern : Pattern) : Nat → Byte :=
  fun position =>
    if position / 8 = slot then pattern.byte (position % 8) else buffer position

/-! ### `write_block` and `verify_block` -/

/-- The slots that the two nested loops visit, as sector offset and index. -/
def slots (g : Geometry) : List (Nat × Nat) :=
  (List.range g.sectorsPerBlock.toNat).flatMap fun secOffset =>
    (List.range patternPerSector).map fun i => (secOffset, i)

/-- `sector_buffer[i]` as a slot of the block buffer. -/
def slotIndex (slot : Nat × Nat) : Nat := slot.1 * patternPerSector + slot.2

/-- The number given to a sector of a block. -/
def sectorNumber (g : Geometry) (block : Word) (secOffset : Nat) : Word :=
  block * g.sectorsPerBlock + BitVec.ofNat 32 secOffset

/-- The pattern that belongs into a slot of a block. -/
def expected (g : Geometry) (signature block : Word) (slot : Nat × Nat) : Pattern :=
  ⟨sectorNumber g block slot.1, signature⟩

/-- The loops of `write_block`. What they do not reach keeps what `malloc` left there. -/
def fillBlock (g : Geometry) (signature block : Word) (buffer : Nat → Byte) : Nat → Byte :=
  (slots g).foldl (fun buffer slot => store buffer (slotIndex slot)
    (expected g signature block slot)) buffer

/-- The offset of a block in the file. -/
def offset (g : Geometry) (block : Word) : Nat := block.toNat * g.blocksize.toNat

/-- `write_block`, on a buffer and the file. -/
def writeBlock (g : Geometry) (signature : Word) (memory : (Nat → Byte) × File Byte)
    (block : Word) : (Nat → Byte) × File Byte :=
  let buffer := fillBlock g signature block memory.1
  (buffer, memory.2.write (offset g block) g.blocksize.toNat buffer)

/-- How many fields of a pattern are wrong. -/
def fieldErrors (wanted found : Pattern) : Nat :=
  (if found.sector ≠ wanted.sector then 1 else 0) +
    (if found.signature ≠ wanted.signature then 1 else 0)

/-- The loops of `verify_block` on a buffer that holds the block. -/
def blockErrors (g : Geometry) (signature block : Word) (buffer : Nat → Byte) : Nat :=
  ((slots g).map fun slot =>
    fieldErrors (expected g signature block slot) (load buffer (slotIndex slot))).sum

/-- `verify_block`. A short read ends the process with status 1. -/
def verifyBlock (g : Geometry) (signature : Word) (file : File Byte) (block : Word) :
    Option Nat :=
  if offset g block + g.blocksize.toNat ≤ file.size then
    some (blockErrors g signature block (file.read (offset g block)))
  else none

/-! ### Stored patterns -/

/-- A word is made up of its bytes. -/
theorem loadWord_of_bytes {bytes : Nat → Byte} {address : Nat} {word : Word}
    (same : ∀ i, i < 4 → bytes (address + i) = BitVec.ofNat 8 (word.toNat / 256 ^ i)) :
    loadWord bytes address = word := by
  have zero := same 0 (by omega)
  have one := same 1 (by omega)
  have two := same 2 (by omega)
  have three := same 3 (by omega)
  have bound := word.isLt
  apply BitVec.eq_of_toNat_eq
  simp only [loadWord, Nat.add_zero] at zero ⊢
  simp only [zero, one, two, three, BitVec.toNat_ofNat]
  omega

/-- The bytes of a word are those it was loaded from. -/
theorem bytes_of_loadWord (bytes : Nat → Byte) (address i : Nat) (field : i < 4) :
    BitVec.ofNat 8 ((loadWord bytes address).toNat / 256 ^ i) = bytes (address + i) := by
  have zero := (bytes address).isLt
  have one := (bytes (address + 1)).isLt
  have two := (bytes (address + 2)).isLt
  have three := (bytes (address + 3)).isLt
  apply BitVec.eq_of_toNat_eq
  simp only [loadWord, BitVec.toNat_ofNat]
  interval_cases i <;> simp only [Nat.add_zero, Nat.reducePow] <;> omega

/-- A slot holds a pattern exactly when its eight bytes are the pattern's, in the order in which the
machine stores the two words. -/
theorem load_eq_iff (bytes : Nat → Byte) (slot : Nat) (pattern : Pattern) :
    load bytes slot = pattern ↔ ∀ i, i < 8 → bytes (8 * slot + i) = pattern.byte i := by
  constructor
  · rintro rfl i inside
    unfold Pattern.byte
    by_cases field : i < 4
    · simp only [field, ↓reduceIte, load]
      exact (bytes_of_loadWord bytes _ i field).symm
    · simp only [field, ↓reduceIte, load]
      rw [bytes_of_loadWord bytes _ _ (by omega), Nat.add_assoc, Nat.add_sub_cancel' (by omega)]
  · intro same
    have sector : loadWord bytes (8 * slot) = pattern.sector := by
      apply loadWord_of_bytes
      intro i field
      simpa [Pattern.byte, field] using same i (by omega)
    have signature : loadWord bytes (8 * slot + 4) = pattern.signature := by
      apply loadWord_of_bytes
      intro i field
      have behind : ¬ 4 + i < 4 := by omega
      rw [Nat.add_assoc, same (4 + i) (by omega), Pattern.byte]
      simp only [behind, ↓reduceIte, Nat.add_sub_cancel_left]
    rw [load, sector, signature]

/-! ### Filled and verified blocks -/

variable {g : Geometry} {signature block : Word} {buffer : Nat → Byte}

/-- The slots visited: all indices of all sectors of a block. -/
theorem mem_slots {slot : Nat × Nat} :
    slot ∈ slots g ↔ slot.1 < g.sectorsPerBlock.toNat ∧ slot.2 < patternPerSector := by
  obtain ⟨secOffset, index⟩ := slot
  simp only [slots, List.mem_flatMap, List.mem_map, List.mem_range, Prod.mk.injEq]
  constructor
  · rintro ⟨sector, inside, i, small, rfl, rfl⟩
    exact ⟨inside, small⟩
  · rintro ⟨inside, small⟩
    exact ⟨secOffset, inside, index, small, rfl, rfl⟩

/-- A slot determines its sector offset and its index. -/
theorem slotIndex_split {slot : Nat × Nat} (inside : slot ∈ slots g) :
    slotIndex slot / 64 = slot.1 ∧ slotIndex slot % 64 = slot.2 := by
  have small : slot.2 < 64 := (mem_slots.mp inside).2
  unfold slotIndex patternPerSector
  omega

/-- Stores leave a position alone unless one of them covers it. When those that do
agree on the pattern, the position ends up with that pattern's byte. -/
theorem foldl_store (entries : List (Nat × Nat)) (pattern : Nat × Nat → Pattern)
    (target : Pattern) (position : Nat)
    (agree : ∀ entry ∈ entries, slotIndex entry = position / 8 → pattern entry = target)
    (buffer : Nat → Byte) :
    (entries.foldl (fun buffer entry => store buffer (slotIndex entry) (pattern entry)) buffer)
        position =
      if ∃ entry ∈ entries, slotIndex entry = position / 8 then target.byte (position % 8)
      else buffer position := by
  induction entries generalizing buffer with
  | nil => simp
  | cons entry rest inductionHypothesis =>
    rw [List.foldl_cons, inductionHypothesis fun later member =>
      agree later (List.mem_cons_of_mem entry member)]
    by_cases later : ∃ entry ∈ rest, slotIndex entry = position / 8
    · have covered : ∃ found ∈ entry :: rest, slotIndex found = position / 8 := by
        obtain ⟨found, member, covers⟩ := later
        exact ⟨found, List.mem_cons_of_mem entry member, covers⟩
      rw [ite_cond_eq_true _ _ (eq_true later), ite_cond_eq_true _ _ (eq_true covered)]
    · rw [ite_cond_eq_false _ _ (eq_false later)]
      by_cases here : slotIndex entry = position / 8
      · have same := agree entry List.mem_cons_self here
        simp [store, here, same]
      · have elsewhere : position / 8 ≠ slotIndex entry := Ne.symm here
        simp [store, here, elsewhere, later]

/-- Every byte of the sectors of a filled block is that of the sector's pattern. -/
theorem fillBlock_byte {position : Nat} (inside : position < g.sectorsPerBlock.toNat * 512) :
    fillBlock g signature block buffer position =
      (expected g signature block (position / 512, position / 8 % 64)).byte (position % 8) := by
  unfold fillBlock
  rw [foldl_store (slots g) (expected g signature block)
    (expected g signature block (position / 512, position / 8 % 64)) position]
  · have covered : ∃ slot ∈ slots g, slotIndex slot = position / 8 := by
      refine ⟨(position / 512, position / 8 % 64), mem_slots.mpr ⟨?_, ?_⟩, ?_⟩
      · exact Nat.div_lt_of_lt_mul (by omega)
      · exact Nat.mod_lt _ (by decide)
      · unfold slotIndex patternPerSector
        omega
    exact ite_cond_eq_true _ _ (eq_true covered)
  · intro slot member covers
    have split := (slotIndex_split member).1
    have sector : slot.1 = position / 512 := by omega
    simp only [expected, sector]

/-- A slot of a filled block holds the pattern that belongs there. -/
theorem load_fillBlock {slot : Nat × Nat} (inside : slot ∈ slots g) :
    load (fillBlock g signature block buffer) (slotIndex slot) =
      expected g signature block slot := by
  obtain ⟨sector, small⟩ := mem_slots.mp inside
  obtain ⟨high, low⟩ := slotIndex_split inside
  rw [load_eq_iff]
  intro i field
  have reached : 8 * slotIndex slot + i < g.sectorsPerBlock.toNat * 512 := by omega
  have place : (8 * slotIndex slot + i) / 512 = slot.1 := by omega
  have byte : (8 * slotIndex slot + i) % 8 = i := by omega
  rw [fillBlock_byte reached, place, byte]
  rfl

/-- No field is wrong exactly when the pattern is the wanted one. -/
theorem fieldErrors_eq_zero {wanted found : Pattern} :
    fieldErrors wanted found = 0 ↔ found = wanted := by
  cases wanted
  cases found
  simp [fieldErrors]

/-- A block has no errors exactly when all its slots hold the patterns that belong there. -/
theorem blockErrors_eq_zero {bytes : Nat → Byte} :
    blockErrors g signature block bytes = 0 ↔
      ∀ slot ∈ slots g, load bytes (slotIndex slot) = expected g signature block slot := by
  simp only [blockErrors, List.sum_eq_zero_iff, List.forall_mem_map, fieldErrors_eq_zero]

/-- The count of errors of a block fits an `int`. -/
theorem blockErrors_lt {bytes : Nat → Byte} (whole : g.sectorsPerBlock.toNat ≤ 2 ^ 23) :
    blockErrors g signature block bytes < 2 ^ 31 := by
  have each (errors : Nat) (member : errors ∈ (slots g).map fun slot =>
      fieldErrors (expected g signature block slot) (load bytes (slotIndex slot))) :
      errors ≤ 2 := by
    obtain ⟨slot, _, rfl⟩ := List.mem_map.mp member
    unfold fieldErrors
    split <;> split <;> omega
  have count : (slots g).length = g.sectorsPerBlock.toNat * 64 := by
    simp [slots, patternPerSector]
  have total := List.sum_le_card_nsmul _ 2 each
  rw [List.length_map, count, nsmul_eq_mul, Nat.cast_id] at total
  unfold blockErrors
  omega

/-! ### The content of the disk -/

/-- What belongs at every position of the file under a signature. -/
def canonical (signature : Word) (position : Nat) : Byte :=
  Pattern.byte ⟨BitVec.ofNat 32 (position / 512), signature⟩ (position % 8)

/-- The pattern that belongs into a slot of the file. -/
theorem load_canonical (signature : Word) (slot : Nat) :
    load (canonical signature) slot = ⟨BitVec.ofNat 32 (slot / 64), signature⟩ := by
  rw [load_eq_iff]
  intro i field
  have sector : (8 * slot + i) / 512 = slot / 64 := by omega
  have byte : (8 * slot + i) % 8 = i := by omega
  rw [canonical, sector, byte]

/-- A block is a whole number of sectors. -/
def WholeSectors (g : Geometry) : Prop := g.blocksize.toNat = g.sectorsPerBlock.toNat * 512

/-- So it is for a block size that is a multiple of the sector size. -/
theorem wholeSectors_of_geometry {options : Options} (set : geometry options = some g)
    (multiple : 512 ∣ options.blocksize.toNat) : WholeSectors g := by
  unfold geometry at set
  split_ifs at set
  obtain rfl := Option.some.inj set
  have quotient : (options.blocksize / 512).toNat = options.blocksize.toNat / 512 := by
    simp [BitVec.toNat_udiv]
  rw [WholeSectors, quotient, Nat.div_mul_cancel multiple]

/-- Then the number of a sector is its place in the file. -/
theorem sectorNumber_eq (whole : WholeSectors g) (block : Word) (i : Nat) :
    sectorNumber g block (i / 512) = BitVec.ofNat 32 ((offset g block + i) / 512) := by
  have place : (offset g block + i) / 512 = block.toNat * g.sectorsPerBlock.toNat + i / 512 := by
    rw [offset, whole, ← Nat.mul_assoc]
    omega
  rw [place]
  apply BitVec.eq_of_toNat_eq
  simp [sectorNumber, BitVec.toNat_add, BitVec.toNat_mul]

/-- The pattern that belongs into a slot of a block is the one that belongs there in the
file. -/
theorem expected_eq (whole : WholeSectors g) {i : Nat} :
    expected g signature block (i / 512, i / 8 % 64) =
      ⟨BitVec.ofNat 32 ((offset g block + i) / 512), signature⟩ := by
  rw [expected, sectorNumber_eq whole]

/-- Offsets of blocks are multiples of the size of a pattern. -/
theorem offset_mod (whole : WholeSectors g) (block : Word) (i : Nat) :
    (offset g block + i) % 8 = i % 8 := by
  have multiple : offset g block = 8 * (block.toNat * (g.sectorsPerBlock.toNat * 64)) := by
    rw [offset, whole]
    ring
  omega

/-- A block write puts the content there that belongs there. -/
theorem fillBlock_canonical (whole : WholeSectors g) {i : Nat} (inside : i < g.blocksize.toNat) :
    fillBlock g signature block buffer i = canonical signature (offset g block + i) := by
  rw [fillBlock_byte (whole ▸ inside), expected_eq whole, canonical, offset_mod whole]

/-- `verify_block` finds no error exactly in that content. It is assumed that a block has whole
sectors; a rest of a sector would not be compared. -/
theorem blockErrors_eq_zero_iff (whole : WholeSectors g) {bytes : Nat → Byte} :
    blockErrors g signature block bytes = 0 ↔
      ∀ i, i < g.blocksize.toNat → bytes i = canonical signature (offset g block + i) := by
  rw [blockErrors_eq_zero]
  constructor
  · intro clean i inside
    have sector : i / 512 < g.sectorsPerBlock.toNat := by
      rw [whole] at inside
      omega
    have stored := clean (i / 512, i / 8 % 64) (mem_slots.mpr ⟨sector, Nat.mod_lt _ (by decide)⟩)
    rw [load_eq_iff, expected_eq whole] at stored
    have place : 8 * slotIndex (i / 512, i / 8 % 64) + i % 8 = i := by
      unfold slotIndex patternPerSector
      omega
    have byte := stored (i % 8) (Nat.mod_lt i (by decide))
    rwa [place, ← offset_mod whole block i] at byte
  · intro same slot member
    obtain ⟨sector, small⟩ := mem_slots.mp member
    obtain ⟨high, low⟩ := slotIndex_split member
    rw [load_eq_iff]
    intro i field
    have inside : 8 * slotIndex slot + i < g.blocksize.toNat := by
      rw [whole]
      omega
    have place : (8 * slotIndex slot + i) / 512 = slot.1 := by omega
    have byte : (8 * slotIndex slot + i) % 8 = i := by omega
    rw [same _ inside, canonical, ← sectorNumber_eq whole, offset_mod whole, place, byte]
    rfl

end AvocadoMisc.Disktest.Blocks
