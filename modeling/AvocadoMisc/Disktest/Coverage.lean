import AvocadoMisc.Disktest.Passes

/-!
# Coverage of the requested range

The options ask for the bytes from `-M` mebibytes on, `-m` mebibytes long. A block size
that is a whole number of sectors and divides one mebibyte, with as many blocks as fit
32 bits, makes the initialisation loop write exactly these bytes, every pattern once, and
`double_verify` compare every one of them once.

Nothing enforces this. A block size that does not divide one mebibyte shortens the range,
one below a sector writes and compares no pattern, and a block count that wraps leaves
blocks out. `covered_iff` says that these are all the ways to lose coverage.
-/

namespace AvocadoMisc.Disktest.Coverage

open Library.SparseFile Library.WordLoops Blocks Passes

/-- A mebibyte. -/
def mebibyte : Nat := 1048576

/-- The positions that a write of a block covers, in order. -/
def blockBytes (g : Geometry) (block : Word) : List Nat :=
  List.range' (offset g block) g.blocksize.toNat

/-- The positions of the patterns of a block that `write_block` stores and `verify_block`
compares, in order. -/
def patternOffsets (g : Geometry) (block : Word) : List Nat :=
  (slots g).map fun slot => offset g block + 8 * slotIndex slot

/-- The bytes that the options ask for. -/
def requestedBytes (options : Options) : List Nat :=
  List.range' (options.skipMb.toNat * mebibyte) (options.megabytes.toNat * mebibyte)

/-- The patterns in them, one every eight bytes. -/
def requestedPatterns (options : Options) : List Nat :=
  (List.range' (options.skipMb.toNat * 131072) (options.megabytes.toNat * 131072)).map (8 * ·)

/-- The initialisation loop writes, and a pass of `double_verify` compares, exactly what the
options ask for, each position once. A pass may be cut short by an error only. -/
structure Covered (options : Options) (g : Geometry) : Prop where
  bytesWritten : (visited g).flatMap (blockBytes g) = requestedBytes options
  patternsWritten : (visited g).flatMap (patternOffsets g) = requestedPatterns options
  patternsCompared : ∀ stopOnError signature file pass,
    doubleVerify g stopOnError signature file = some pass →
    stopOnError = false ∨ pass.errors = 0 →
    pass.verified.flatMap (patternOffsets g) = requestedPatterns options
  checked : ∀ stopOnError signature file,
    (∃ pass, doubleVerify g stopOnError signature file = some pass ∧ pass.errors = 0) ↔
      Holds file (canonical signature) (options.skipMb.toNat * mebibyte)
        ((options.skipMb.toNat + options.megabytes.toNat) * mebibyte)
  content : ∀ signature buffer position,
    (initialise g signature buffer File.empty).byte position =
      if options.skipMb.toNat * mebibyte ≤ position ∧
          position < (options.skipMb.toNat + options.megabytes.toNat) * mebibyte then
        canonical signature position
      else 0

/-- Blocks are whole sectors, they divide a mebibyte, and their count fits 32 bits. -/
structure Fitting (options : Options) : Prop where
  sectors : 512 ∣ options.blocksize.toNat
  divisor : options.blocksize.toNat ∣ mebibyte
  room : (options.skipMb.toNat + options.megabytes.toNat) *
    (mebibyte / options.blocksize.toNat) < 2 ^ 32

/-! ### The geometry in unbounded arithmetic -/

/-- The number of blocks in a mebibyte, rounded down. -/
theorem blocksPerMb_toNat (blocksize : Word) :
    (blocksPerMb blocksize).toNat = mebibyte / blocksize.toNat := by
  simp [blocksPerMb, BitVec.toNat_udiv, mebibyte]

variable {options : Options} {g : Geometry}

/-- Blocks that tile a mebibyte are not empty, and there is one. -/
theorem tiles_positive (tiles : mebibyte / g.blocksize.toNat * g.blocksize.toNat = mebibyte) :
    0 < mebibyte / g.blocksize.toNat ∧ 0 < g.blocksize.toNat := by
  have product : 0 < mebibyte / g.blocksize.toNat * g.blocksize.toNat := by
    rw [tiles]
    decide
  exact ⟨Nat.pos_of_mul_pos_right product, Nat.pos_of_mul_pos_left product⟩

/-- What the geometry computes, for a block size other than zero. -/
theorem geometry_eq_some (set : geometry options = some g) :
    options.blocksize ≠ 0 ∧ g.blocksize = options.blocksize ∧
      g.startBlock = options.skipMb * blocksPerMb options.blocksize ∧
      g.blocks = options.megabytes * blocksPerMb options.blocksize ∧
      g.sectorsPerBlock.toNat = options.blocksize.toNat / 512 := by
  unfold geometry at set
  split_ifs at set with zero
  obtain rfl := Option.some.inj set
  exact ⟨zero, rfl, rfl, rfl, by simp [BitVec.toNat_udiv]⟩

/-- A geometry without wrapped numbers: blocks tile mebibytes, and the loops run from the
first block asked for to the last. -/
structure Exact (options : Options) (g : Geometry) : Prop where
  whole : WholeSectors g
  tiles : mebibyte / g.blocksize.toNat * g.blocksize.toNat = mebibyte
  first : g.startBlock.toNat = options.skipMb.toNat * (mebibyte / g.blocksize.toNat)
  count : g.blocks.toNat = options.megabytes.toNat * (mebibyte / g.blocksize.toNat)
  last : (g.startBlock + g.blocks).toNat =
    (options.skipMb.toNat + options.megabytes.toNat) * (mebibyte / g.blocksize.toNat)

/-- Fitting options have an exact geometry: no product wraps, because the count of blocks fits 32
bits, and no division leaves a rest. -/
theorem Fitting.exact (fitting : Fitting options) :
    ∃ g, geometry options = some g ∧ Exact options g := by
  have nonzero : options.blocksize ≠ 0 := by
    intro zero
    have divisor := fitting.divisor
    rw [zero] at divisor
    exact absurd divisor (by decide)
  obtain ⟨g, set⟩ : ∃ g, geometry options = some g := ⟨_, if_neg nonzero⟩
  obtain ⟨_, size, start, blocks, _⟩ := geometry_eq_some set
  have room := fitting.room
  rw [Nat.add_mul] at room
  have first : g.startBlock.toNat =
      options.skipMb.toNat * (mebibyte / options.blocksize.toNat) := by
    rw [start, BitVec.toNat_mul, blocksPerMb_toNat]
    exact Nat.mod_eq_of_lt (by omega)
  have count : g.blocks.toNat =
      options.megabytes.toNat * (mebibyte / options.blocksize.toNat) := by
    rw [blocks, BitVec.toNat_mul, blocksPerMb_toNat]
    exact Nat.mod_eq_of_lt (by omega)
  refine ⟨g, set, wholeSectors_of_geometry set fitting.sectors, ?_, ?_, ?_, ?_⟩ <;> rw [size]
  · exact Nat.div_mul_cancel fitting.divisor
  · exact first
  · exact count
  · rw [BitVec.toNat_add, first, count, ← Nat.add_mul]
    exact Nat.mod_eq_of_lt fitting.room

namespace Exact

variable (exact : Exact options g)
include exact

/-- The blocks visited are those from the first one asked for to the last. -/
theorem visited_toNat : (visited g).map BitVec.toNat =
    List.range' (options.skipMb.toNat * (mebibyte / g.blocksize.toNat))
      (options.megabytes.toNat * (mebibyte / g.blocksize.toNat)) := by
  rw [visited, loopFrom_toNat, exact.first, exact.last, Nat.add_mul, Nat.add_sub_cancel_left]

/-- The requested range ends at the end of the last block. -/
theorem tiled (megabytes : Nat) :
    megabytes * (mebibyte / g.blocksize.toNat) * g.blocksize.toNat = megabytes * mebibyte := by
  rw [Nat.mul_assoc, exact.tiles]

/-- Pieces of the visited blocks make up the range they tile. -/
theorem flatMap_visited (width total : Nat)
    (size : mebibyte / g.blocksize.toNat * width = total) :
    (visited g).flatMap (fun block => List.range' (block.toNat * width) width) =
      List.range' (options.skipMb.toNat * total) (options.megabytes.toNat * total) := by
  have pieces := List.flatMap_map BitVec.toNat (fun block => List.range' (block * width) width)
    (visited g)
  rw [← pieces, exact.visited_toNat, flatMap_pieces, Nat.mul_assoc, Nat.mul_assoc, size]

/-- The bytes written are those asked for. -/
theorem bytesWritten : (visited g).flatMap (blockBytes g) = requestedBytes options :=
  exact.flatMap_visited g.blocksize.toNat mebibyte exact.tiles

/-- The patterns of a block, one every eight bytes. -/
theorem patternOffsets_eq (block : Word) : patternOffsets g block =
    (List.range' (block.toNat * (g.sectorsPerBlock.toNat * 64))
      (g.sectorsPerBlock.toNat * 64)).map (8 * ·) := by
  have indices : (slots g).map slotIndex = List.range' 0 (g.sectorsPerBlock.toNat * 64) := by
    have pieces := flatMap_pieces 0 g.sectorsPerBlock.toNat 64
    rw [Nat.zero_mul, ← List.range_eq_range'] at pieces
    simp only [← pieces, slots, List.map_flatMap, List.map_map, List.range'_eq_map_range]
    rfl
  have start : offset g block = 8 * (block.toNat * (g.sectorsPerBlock.toNat * 64)) := by
    rw [offset, exact.whole]
    ring
  rw [← Nat.add_zero (block.toNat * _), ← List.map_add_range', ← indices, List.map_map,
    List.map_map, patternOffsets, start]
  apply List.map_congr_left
  intro slot _
  exact (Nat.mul_add 8 _ _).symm

/-- The patterns stored are those asked for. -/
theorem patternsWritten :
    (visited g).flatMap (patternOffsets g) = requestedPatterns options := by
  have size : mebibyte / g.blocksize.toNat * (g.sectorsPerBlock.toNat * 64) = 131072 := by
    have tiles := exact.tiles
    rw [show g.blocksize.toNat = g.sectorsPerBlock.toNat * 64 * 8 by rw [exact.whole]; ring,
      ← Nat.mul_assoc] at tiles
    rw [show g.blocksize.toNat = g.sectorsPerBlock.toNat * 64 * 8 by rw [exact.whole]; ring]
    unfold mebibyte at tiles ⊢
    omega
  rw [requestedPatterns, ← exact.flatMap_visited _ _ size, List.map_flatMap]
  congr 1
  funext block
  exact exact.patternOffsets_eq block

/-- Holding the content in the requested range is holding it in every visited block. -/
theorem holds_iff {file : File Byte} {content : Nat → Byte} :
    Holds file content (options.skipMb.toNat * mebibyte)
        ((options.skipMb.toNat + options.megabytes.toNat) * mebibyte) ↔
      ∀ block ∈ visited g,
        Holds file content (offset g block) (offset g block + g.blocksize.toNat) := by
  have covers (position : Nat) : (options.skipMb.toNat * mebibyte ≤ position ∧
      position < (options.skipMb.toNat + options.megabytes.toNat) * mebibyte) ↔
      ∃ block ∈ visited g, offset g block ≤ position ∧
        position < offset g block + g.blocksize.toNat := by
    have member : position ∈ (visited g).flatMap (blockBytes g) ↔
        position ∈ requestedBytes options := by
      rw [exact.bytesWritten]
    simpa only [List.mem_flatMap, blockBytes, requestedBytes, List.mem_range'_1, Nat.add_mul]
      using member.symm
  constructor
  · intro holds block member position above below
    obtain ⟨after, before⟩ := (covers position).mpr ⟨block, member, above, below⟩
    exact holds position after before
  · intro each position after before
    obtain ⟨block, member, above, below⟩ := (covers position).mp ⟨after, before⟩
    exact each block member position above below

/-- The loops of an exact geometry cover the requested range: they visit its blocks from the first
to the last, and each block has its patterns in eight bytes each. -/
theorem covered : Covered options g := by
  have positive := (tiles_positive exact.tiles).2
  refine ⟨exact.bytesWritten, exact.patternsWritten, ?_, ?_, ?_⟩
  · intro stopOnError signature file pass finished complete
    have verified := verifyLoop_verified (visited g) ⟨[], 0⟩ pass finished complete
    rw [verified, List.nil_append, exact.patternsWritten]
  · intro stopOnError signature file
    rw [doubleVerify_clean, exact.holds_iff]
    simp only [verifyBlock_eq_zero exact.whole positive]
  · intro signature buffer position
    have written := exact.holds_iff.mpr fun block member =>
      initialise_written exact.whole signature buffer File.empty member
    split_ifs with inside
    · exact (written position inside.1 inside.2).2
    · apply foldl_writeBlock_outside
      intro block member
      by_contra overlap
      have bytes := congrArg (position ∈ ·) exact.bytesWritten
      simp only [List.mem_flatMap, blockBytes, requestedBytes, List.mem_range'_1, eq_iff_iff]
        at bytes
      exact inside (by
        rw [Nat.add_mul]
        exact bytes.mp ⟨block, member, by omega⟩)

end Exact

/-- Coverage. For fitting options main's block arithmetic does not divide by zero, the
initialisation loop writes exactly the requested bytes and patterns, once each, a complete
pass compares each of the patterns once, and a pass reports no error exactly when the whole
requested range holds what belongs there.

Options that do not fit are not covered here. `covered_iff` says of all options when they are. -/
theorem coverage (options : Options) (fitting : Fitting options) :
    ∃ g, geometry options = some g ∧ Covered options g := by
  obtain ⟨g, set, exact⟩ := fitting.exact
  exact ⟨g, set, exact.covered⟩

/-- The default block size covers two mebibytes behind the first one. -/
theorem coverage_default : Fitting (sized 2 1 4096) ∧
    ∃ g, geometry (sized 2 1 4096) = some g ∧ Covered (sized 2 1 4096) g := by
  have fitting : Fitting (sized 2 1 4096) := by
    constructor <;> decide
  exact ⟨fitting, coverage (sized 2 1 4096) fitting⟩

/-- Blocks of two mebibytes leave no block in a mebibyte, so nothing is written. -/
theorem coverage_fails_beyond_mebibyte :
    ¬ ∀ options, ∃ g, geometry options = some g ∧ Covered options g := by
  intro always
  obtain ⟨g, set, covered⟩ := always (sized 1 0 2097152)
  obtain ⟨_, _, start, blocks, _⟩ := geometry_eq_some set
  have nothing : visited g = [] := by
    apply loopFrom_eq_nil
    rw [start, blocks]
    decide
  have written := congrArg List.length covered.bytesWritten
  rw [nothing, requestedBytes, List.flatMap_nil, List.length_range'] at written
  exact absurd written (by decide)

/-! ### All ways to lose coverage -/

/-- The loops visit no more blocks than there are, and all of them only when the sum of the
first block and the count does not wrap. -/
theorem visited_count (g : Geometry) : (visited g).length ≤ g.blocks.toNat ∧
    (0 < (visited g).length →
      (visited g).length = g.blocks.toNat ∧ g.startBlock.toNat + g.blocks.toNat < 2 ^ 32) := by
  have length := congrArg List.length (loopFrom_toNat g.startBlock (g.startBlock + g.blocks))
  rw [List.length_map, List.length_range', BitVec.toNat_add] at length
  have start := g.startBlock.isLt
  have count := g.blocks.isLt
  unfold visited
  omega

/-- All blocks have the same number of bytes and the same number of patterns. -/
theorem length_flatMap_visited {piece : Word → List Nat} {width : Nat}
    (same : ∀ block, (piece block).length = width) :
    ((visited g).flatMap piece).length = (visited g).length * width := by
  rw [List.length_flatMap, List.map_congr_left fun block _ => same block]
  simp

/-- The first byte asked for is the first one of the first block. -/
theorem Covered.first_offset (covered : Covered options g) (nonempty : 0 < (visited g).length)
    (positive : 0 < g.blocksize.toNat) (asked : 0 < options.megabytes.toNat) :
    g.startBlock.toNat * g.blocksize.toNat = options.skipMb.toNat * mebibyte := by
  have covers (position : Nat) : (∃ block ∈ visited g, offset g block ≤ position ∧
      position < offset g block + g.blocksize.toNat) ↔
      options.skipMb.toNat * mebibyte ≤ position ∧
        position < options.skipMb.toNat * mebibyte + options.megabytes.toNat * mebibyte := by
    have bytes := congrArg (position ∈ ·) covered.bytesWritten
    simpa only [List.mem_flatMap, blockBytes, requestedBytes, List.mem_range'_1, eq_iff_iff]
      using bytes
  obtain ⟨block, member⟩ := List.exists_mem_of_length_pos nonempty
  have range := mem_loopFrom.mp member
  have started : g.startBlock ∈ visited g :=
    mem_loopFrom.mpr ⟨Nat.le_refl _, Nat.lt_of_le_of_lt range.1 range.2⟩
  apply Nat.le_antisymm
  · obtain ⟨found, inside, above, _⟩ := (covers (options.skipMb.toNat * mebibyte)).mpr
      ⟨Nat.le_refl _, Nat.lt_add_of_pos_right (Nat.mul_pos asked (by decide))⟩
    exact Nat.le_trans (Nat.mul_le_mul_right _ (mem_loopFrom.mp inside).1) above
  · exact ((covers (offset g g.startBlock)).mp
      ⟨g.startBlock, started, Nat.le_refl _, Nat.lt_add_of_pos_right positive⟩).1

/-- Covered options that ask for something fit. The number of bytes tells that blocks tile
mebibytes, the number of patterns that they are whole sectors. -/
theorem Covered.fitting (set : geometry options = some g) (covered : Covered options g)
    (asked : 0 < options.megabytes.toNat) : Fitting options := by
  obtain ⟨nonzero, size, start, blocks, sectors⟩ := geometry_eq_some set
  have positive : 0 < options.blocksize.toNat := BitVec.toNat_pos_of_ne_zero nonzero
  have bytes := congrArg List.length covered.bytesWritten
  have perBytes (block : Word) : (blockBytes g block).length = options.blocksize.toNat := by
    rw [blockBytes, List.length_range', size]
  rw [length_flatMap_visited perBytes, requestedBytes, List.length_range'] at bytes
  have patterns := congrArg List.length covered.patternsWritten
  have perBlock (block : Word) :
      (patternOffsets g block).length = options.blocksize.toNat / 512 * 64 := by
    simp [patternOffsets, slots, patternPerSector, sectors]
  rw [length_flatMap_visited perBlock, requestedPatterns, List.length_map,
    List.length_range'] at patterns
  have nonempty : 0 < (visited g).length := by
    apply Nat.pos_of_ne_zero
    intro none
    rw [none, Nat.zero_mul] at bytes
    exact absurd bytes.symm (Nat.ne_of_gt (Nat.mul_pos asked (by decide)))
  obtain ⟨count, room⟩ := (visited_count g).2 nonempty
  have tiled : (visited g).length =
      options.megabytes.toNat * (mebibyte / options.blocksize.toNat) := by
    apply Nat.le_antisymm
    · rw [count, blocks, BitVec.toNat_mul, blocksPerMb_toNat]
      exact Nat.mod_le _ _
    · apply Nat.le_of_mul_le_mul_right (c := options.blocksize.toNat) _ positive
      rw [bytes, Nat.mul_assoc]
      exact Nat.mul_le_mul_left _ (Nat.div_mul_le_self mebibyte _)
  have divides : mebibyte / options.blocksize.toNat * options.blocksize.toNat = mebibyte := by
    apply Nat.eq_of_mul_eq_mul_left asked
    rw [← Nat.mul_assoc, ← tiled, bytes]
  have first := covered.first_offset nonempty (size ▸ positive) asked
  rw [size, ← divides, ← Nat.mul_assoc] at first
  have started := Nat.eq_of_mul_eq_mul_right positive first
  refine ⟨?_, ?_, ?_⟩
  · have whole : options.blocksize.toNat / 512 * 512 = options.blocksize.toNat := by
      apply Nat.eq_of_mul_eq_mul_left nonempty
      calc (visited g).length * (options.blocksize.toNat / 512 * 512)
          = (visited g).length * (options.blocksize.toNat / 512 * 64) * 8 := by ring
        _ = options.megabytes.toNat * mebibyte := by rw [patterns, mebibyte]; ring
        _ = (visited g).length * options.blocksize.toNat := bytes.symm
    exact Dvd.intro_left _ whole
  · exact Dvd.intro_left _ divides
  · rw [Nat.add_mul, ← tiled, ← started, count]
    exact room

/-- Coverage is lost exactly for a block size of zero, and for options that ask for
something and do not fit. -/
theorem covered_iff (options : Options) :
    (∃ g, geometry options = some g ∧ Covered options g) ↔
      options.blocksize ≠ 0 ∧ (options.megabytes = 0 ∨ Fitting options) := by
  constructor
  · rintro ⟨g, set, covered⟩
    refine ⟨(geometry_eq_some set).1, ?_⟩
    by_cases zero : options.megabytes = 0
    · exact .inl zero
    · exact .inr (covered.fitting set (BitVec.toNat_pos_of_ne_zero zero))
  · rintro ⟨nonzero, zero | fitting⟩
    · obtain ⟨g, set⟩ : ∃ g, geometry options = some g := ⟨_, if_neg nonzero⟩
      obtain ⟨_, _, _, blocks, _⟩ := geometry_eq_some set
      have none : visited g = [] := by
        apply loopFrom_eq_nil
        simp [blocks, zero]
      refine ⟨g, set, ?_, ?_, ?_, ?_, ?_⟩
      · simp [none, requestedBytes, zero]
      · simp [none, requestedPatterns, zero]
      · intro stopOnError signature file pass finished complete
        have verified := verifyLoop_verified (visited g) ⟨[], 0⟩ pass finished complete
        simp [verified, none, requestedPatterns, zero]
      · intro stopOnError signature file
        rw [doubleVerify_clean, none]
        simp [zero, Holds.nothing]
      · intro signature buffer position
        rw [if_neg (by simp [zero]), initialise, none]
        rfl
    · exact coverage options fitting

end AvocadoMisc.Disktest.Coverage
