import AvocadoMisc.Disktest.Blocks

/-!
# Detection of misdirected and stale writes

A block that carries the data of another block, or its own data of an earlier signature,
must not pass `verify_block`. A stale signature always shows. The data of another block
shows only through the numbers of the sectors, and these are `block * sectors_per_block`
in 32 bits. They repeat when the region is longer than 2^32 sectors, which is two
tebibytes, and possibly only there: the exact bound is on the block count times the common
divisor of `sectors_per_block` with 2^32.
-/

namespace AvocadoMisc.Disktest.Detection

open Library.SparseFile Library.WordLoops Blocks

/-- The blocks from `start_block` to below `start_block + blocks`, in 32-bit arithmetic. -/
def InRegion (g : Geometry) (block : Word) : Prop :=
  ∃ i, i < g.blocks.toNat ∧ block = g.startBlock + BitVec.ofNat 32 i

/-- A block on disk holds the data of a buffer. -/
structure Stored (g : Geometry) (file : File Byte) (block : Word) (data : Nat → Byte) :
    Prop where
  inside : offset g block + g.blocksize.toNat ≤ file.size
  same : ∀ i, i < g.blocksize.toNat → file.byte (offset g block + i) = data i

/-- `verify_block` returns a value greater than zero. -/
def Alarm (g : Geometry) (signature : Word) (file : File Byte) (block : Word) : Prop :=
  ∃ errors, verifyBlock g signature file block = some errors ∧ 0 < errors

/-- Whatever `write_block` produced for another block of the region, and whatever it
produced for this one under another signature, is reported. -/
structure Detects (g : Geometry) : Prop where
  misdirected : ∀ written signature buffer file block other, InRegion g block →
    InRegion g other → block ≠ other →
    Stored g file other (fillBlock g written block buffer) → Alarm g signature file other
  stale : ∀ written signature buffer file block, InRegion g block → written ≠ signature →
    Stored g file block (fillBlock g written block buffer) → Alarm g signature file block

/-- The region is no longer than the sector numbers last. -/
def Numbered (g : Geometry) : Prop :=
  g.blocks.toNat * Nat.gcd (2 ^ 32) g.sectorsPerBlock.toNat ≤ 2 ^ 32

variable {g : Geometry} {written signature block other : Word} {buffer : Nat → Byte}
  {file : File Byte}

/-- A write to the block's place stores its data. -/
theorem stored_write (positive : 0 < g.blocksize.toNat) (block : Word) (data : Nat → Byte) :
    Stored g (File.empty.write (offset g block) g.blocksize.toNat data) block data := by
  refine ⟨File.end_le_write _ data positive, ?_⟩
  intro i inside
  rw [File.write_byte_inside _ data (Nat.le_add_right _ i) (Nat.add_lt_add_left inside _),
    Nat.add_sub_cancel_left]

/-- The sectors of a block lie within it, and there is at least one. -/
structure Divided (g : Geometry) : Prop where
  within : g.sectorsPerBlock.toNat * 512 ≤ g.blocksize.toNat
  sector : 0 < g.sectorsPerBlock.toNat

/-- So it is for a block size that is a positive multiple of the sector size. -/
theorem divided_of_geometry {options : Options} (set : geometry options = some g)
    (multiple : 512 ∣ options.blocksize.toNat) : Divided g := by
  have whole := wholeSectors_of_geometry set multiple
  unfold geometry at set
  split_ifs at set with zero
  obtain rfl := Option.some.inj set
  have positive := BitVec.toNat_pos_of_ne_zero zero
  rw [WholeSectors] at whole
  exact ⟨Nat.le_of_eq whole.symm, Nat.pos_of_mul_pos_right (whole ▸ positive)⟩

/-- The fields of a stored block are compared with the ones that it was written with. The
block passes exactly when the signatures and the numbers of the first sectors agree. -/
theorem alarm_iff (divided : Divided g)
    (stored : Stored g file other (fillBlock g written block buffer)) :
    Alarm g signature file other ↔
      ¬(written = signature ∧ block * g.sectorsPerBlock = other * g.sectorsPerBlock) := by
  have slot (found : Nat × Nat) (member : found ∈ slots g) :
      load (file.read (offset g other)) (slotIndex found) = expected g written block found := by
    have small := mem_slots.mp member
    obtain ⟨high, low⟩ := slotIndex_split member
    have filled : load (fillBlock g written block buffer) (slotIndex found) =
        expected g written block found := load_fillBlock member
    rw [← filled, load_eq_iff]
    intro i field
    have inside : 8 * slotIndex found + i < g.blocksize.toNat :=
      Nat.lt_of_lt_of_le (by omega) divided.within
    rw [File.read, stored.same _ inside]
    exact (load_eq_iff _ _ _).mp rfl i field
  have clean : blockErrors g signature other (file.read (offset g other)) = 0 ↔
      written = signature ∧ block * g.sectorsPerBlock = other * g.sectorsPerBlock := by
    rw [blockErrors_eq_zero]
    constructor
    · intro same
      have first : (0, 0) ∈ slots g := mem_slots.mpr ⟨divided.sector, by decide⟩
      have fields := (slot (0, 0) first).symm.trans (same (0, 0) first)
      simpa [expected, sectorNumber, and_comm] using fields
    · rintro ⟨rfl, numbers⟩ found member
      rw [slot found member, expected, expected, sectorNumber, sectorNumber, numbers]
  rw [← clean]
  simp [Alarm, verifyBlock, stored.inside, Nat.pos_iff_ne_zero]

/-- A numbered region tells its blocks apart. -/
theorem detects_of_numbered (divided : Divided g) (numbered : Numbered g) : Detects g := by
  constructor
  · rintro written signature buffer file block other ⟨i, first, rfl⟩ ⟨j, second, rfl⟩ distinct
      stored
    rw [alarm_iff divided stored]
    rintro ⟨-, numbers⟩
    exact distinct (congrArg (fun k => g.startBlock + BitVec.ofNat 32 k)
      (product_injective numbered first second numbers))
  · intro written signature buffer file block _ changed stored
    rw [alarm_iff divided stored]
    exact fun same => changed same.1

/-- A longer region has a block with the numbers of its first block. -/
theorem not_detects_of_long (divided : Divided g) (long : ¬ Numbered g) : ¬ Detects g := by
  intro detects
  obtain ⟨i, positive, inside, same⟩ :=
    product_repeats g.startBlock (Nat.lt_of_not_le long)
  have bound : i < 2 ^ 32 := Nat.lt_trans inside g.blocks.isLt
  have distinct : g.startBlock + BitVec.ofNat 32 i ≠ g.startBlock + BitVec.ofNat 32 0 := by
    intro equal
    have offsets := congrArg BitVec.toNat (BitVec.add_right_inj g.startBlock |>.mp equal)
    rw [BitVec.toNat_ofNat, BitVec.toNat_ofNat, Nat.mod_eq_of_lt bound] at offsets
    exact Nat.ne_of_gt positive offsets
  have size : 0 < g.blocksize.toNat :=
    Nat.lt_of_lt_of_le (Nat.mul_pos divided.sector (by decide)) divided.within
  have stored := stored_write size (g.startBlock + BitVec.ofNat 32 0)
    (fillBlock g 0 (g.startBlock + BitVec.ofNat 32 i) fun _ => 0)
  have alarm := detects.misdirected 0 0 (fun _ => 0) _ _ _ ⟨i, inside, rfl⟩
    ⟨0, Nat.lt_trans positive inside, rfl⟩ distinct stored
  exact (alarm_iff divided stored).mp alarm ⟨rfl, same⟩

/-- Detection. For every region that main sets up with a block size that is a multiple of
the sector size, all misdirected and stale writes are reported exactly when the block count
times the common divisor of `sectors_per_block` with 2^32 is at most 2^32.

A write under another signature is always reported, so only a write to another block can pass. -/
theorem detects_iff (options : Options) (g : Geometry) (set : geometry options = some g)
    (multiple : 512 ∣ options.blocksize.toNat) :
    Detects g ↔ g.blocks.toNat * Nat.gcd (2 ^ 32) g.sectorsPerBlock.toNat ≤ 2 ^ 32 := by
  have divided := divided_of_geometry set multiple
  constructor
  · intro detects
    by_contra long
    exact not_detects_of_long divided long detects
  · exact detects_of_numbered divided

/-- The default region of one mebibyte. -/
theorem detects_iff_default : ∃ g, geometry (sized 1 0 4096) = some g ∧ Detects g := by
  have set : geometry (sized 1 0 4096) = some ⟨4096, 0, 256, 8⟩ := by rfl
  exact ⟨_, set, (detects_iff (sized 1 0 4096) _ set (by decide)).mpr (by decide)⟩

/-- One mebibyte beyond two tebibytes, block 2^29 has the numbers of block 0. -/
theorem detects_fails_beyond_two_tebibytes :
    ¬ ∀ options g, geometry options = some g → 512 ∣ options.blocksize.toNat → Detects g := by
  intro always
  have set : geometry (sized 2097153 0 4096) = some ⟨4096, 0, 536871168, 8⟩ := by rfl
  have divided := divided_of_geometry set (by decide)
  exact not_detects_of_long divided (by
    unfold Numbered
    decide) (always _ _ set (by decide))

end AvocadoMisc.Disktest.Detection
