import AvocadoMisc.Disktest.Coverage

/-!
# Verifying an existing file

A run with `-i` writes the file and stops. A later run with `-v` takes the size of the
region and the signature from the file, and the first block from its own `-M`. It reads
the signature in the first sector, which a run with `-M` leaves as a hole, and counts the
skipped mebibytes as part of the region that it starts behind them. So it accepts the
file of a run without `-M`, and rejects any other one, unless the end of its region wraps
and it verifies nothing.
-/

namespace AvocadoMisc.Disktest.VerifyOnly

open Library.SparseFile Library.WordLoops Blocks Passes Coverage

/-- A run with `-v` reads only inside the file, finds no error and exits with status 0. -/
structure Accepts (options : Options) (file : File Byte) : Prop where
  inside : ∀ g, geometry options = some g → ∀ block ∈ visited (verifyGeometry g file),
    offset g block + g.blocksize.toNat ≤ file.size
  exits : ∀ signature buffer, (setup options signature buffer file).1 = .exited 0

/-- A run with `-v` that uses the `-M` and `-b` of an earlier one. -/
structure Matching (options later : Options) : Prop where
  verifyOnly : later.verifyOnly = true
  skipMb : later.skipMb = options.skipMb
  blocksize : later.blocksize = options.blocksize

variable {options later : Options} {g : Geometry} {signature : Word} {file : File Byte}

/-- Contents under different signatures differ in every slot. -/
theorem signature_of_canonical {other : Word} (slot : Nat)
    (same : ∀ i, i < 8 → canonical signature (8 * slot + i) = canonical other (8 * slot + i)) :
    signature = other := by
  have loaded := (load_eq_iff _ _ _).mpr fun i field =>
    (same i field).trans ((load_eq_iff _ _ _).mp (load_canonical other slot) i field)
  rw [load_canonical] at loaded
  exact congrArg Pattern.signature loaded

/-- The file of an init-only run: the requested range holds what belongs there, everything
else reads as zero, and the file ends with the range. -/
structure Initialised (options : Options) (signature : Word) (file : File Byte) : Prop where
  range : Holds file (canonical signature) (options.skipMb.toNat * mebibyte)
    ((options.skipMb.toNat + options.megabytes.toNat) * mebibyte)
  hole : ∀ position, position < options.skipMb.toNat * mebibyte → file.byte position = 0
  size : file.size = if options.megabytes = 0 then 0
    else (options.skipMb.toNat + options.megabytes.toNat) * mebibyte

/-- The initialisation loop leaves such a file: the region has the patterns of the signature, and
the skipped mebibytes in front of it are a hole. -/
theorem initialised (exact : Exact options g) (signature : Word) (buffer : Nat → Byte) :
    Initialised options signature (initialise g signature buffer File.empty) := by
  have range := exact.holds_iff.mpr fun block member =>
    initialise_written exact.whole signature buffer File.empty member
  refine ⟨range, ?_, ?_⟩
  · intro position before
    rw [exact.covered.content, if_neg (by omega)]
  · split_ifs with none
    · have nothing : visited g = [] := by
        have count := congrArg List.length exact.visited_toNat
        simpa [none] using count
      rw [initialise, nothing]
      rfl
    · have asked : 0 < options.megabytes.toNat := BitVec.toNat_pos_of_ne_zero none
      apply Nat.le_antisymm
      · apply foldl_writeBlock_size _ _ _ (Nat.zero_le _)
        intro block member
        have last := (mem_loopFrom.mp member).2
        rw [exact.last] at last
        calc offset g block + g.blocksize.toNat = (block.toNat + 1) * g.blocksize.toNat := by
              rw [offset, Nat.add_mul, Nat.one_mul]
          _ ≤ (options.skipMb.toNat + options.megabytes.toNat) *
                (mebibyte / g.blocksize.toNat) * g.blocksize.toNat :=
              Nat.mul_le_mul_right _ last
          _ = _ := exact.tiled _
      · apply range.inside
        unfold mebibyte
        omega

/-- The geometry of the later run, in unbounded arithmetic: it starts where the earlier run
did, and its region is as long as the file. -/
structure Rederived (options : Options) (g : Geometry) : Prop where
  whole : WholeSectors g
  tiles : mebibyte / g.blocksize.toNat * g.blocksize.toNat = mebibyte
  first : g.startBlock.toNat = options.skipMb.toNat * (mebibyte / g.blocksize.toNat)
  count : g.blocks.toNat =
    (options.skipMb.toNat + options.megabytes.toNat) * (mebibyte / g.blocksize.toNat)

/-- The later run has such a geometry when the file is not empty: the block size is the same, and
the size of the file stands in for `-m`. -/
theorem Fitting.rederived (fitting : Fitting options) (matching : Matching options later)
    (size : file.size = (options.skipMb.toNat + options.megabytes.toNat) * mebibyte) :
    ∃ g, geometry later = some g ∧ Rederived options (verifyGeometry g file) := by
  obtain ⟨first, set, exact⟩ := fitting.exact
  obtain ⟨nonzero, firstSize, firstStart, _, _⟩ := geometry_eq_some set
  obtain ⟨g, found⟩ : ∃ g, geometry later = some g :=
    ⟨_, if_neg (matching.blocksize ▸ nonzero)⟩
  obtain ⟨_, laterSize, laterStart, _, _⟩ := geometry_eq_some found
  have sameSize : g.blocksize = first.blocksize := by
    rw [laterSize, firstSize, matching.blocksize]
  have whole : WholeSectors g :=
    wholeSectors_of_geometry found (matching.blocksize ▸ fitting.sectors)
  have room := fitting.room
  rw [← firstSize] at room
  refine ⟨g, found, whole, ?_, ?_, ?_⟩
  · change mebibyte / g.blocksize.toNat * g.blocksize.toNat = mebibyte
    rw [sameSize]
    exact exact.tiles
  · change g.startBlock.toNat = _ * (mebibyte / g.blocksize.toNat)
    rw [laterStart, matching.skipMb, matching.blocksize, ← firstStart, sameSize]
    exact exact.first
  · change (BitVec.ofNat 32 (file.size / (1024 * 1024)) * blocksPerMb g.blocksize).toNat =
      _ * (mebibyte / g.blocksize.toNat)
    rw [size, show mebibyte = 1024 * 1024 from rfl, Nat.mul_div_cancel _ (by decide),
      BitVec.toNat_mul, blocksPerMb_toNat, BitVec.toNat_ofNat, sameSize, Nat.mod_mul_mod]
    exact Nat.mod_eq_of_lt room

/-- What makes the later run accept: there is a first sector, and every block it visits
holds what belongs there under the signature found in that sector. -/
theorem accepts_iff (matching : Matching options later) (set : geometry later = some g)
    (whole : WholeSectors g) (positive : 0 < g.blocksize.toNat) :
    Accepts later file ↔ 512 ≤ file.size ∧ ∀ block ∈ visited (verifyGeometry g file),
      Holds file (canonical (fileSignature file)) (offset g block)
        (offset g block + g.blocksize.toNat) := by
  have clean : verdict (doubleVerify (verifyGeometry g file) later.stopOnError
        (fileSignature file) file) (.exited 0) = .exited 0 ↔
      ∀ block ∈ visited (verifyGeometry g file), Holds file (canonical (fileSignature file))
        (offset g block) (offset g block + g.blocksize.toNat) := by
    rw [verdict_eq_iff (by simp), doubleVerify_clean]
    have found (block : Word) :
        verifyBlock (verifyGeometry g file) (fileSignature file) file block = some 0 ↔
          Holds file (canonical (fileSignature file)) (offset g block)
            (offset g block + g.blocksize.toNat) := verifyBlock_eq_zero whole positive block
    simp only [found]
  have exits (signature : Word) (buffer : Nat → Byte) :
      (setup later signature buffer file).1 = .exited 0 ↔ 512 ≤ file.size ∧
        ∀ block ∈ visited (verifyGeometry g file), Holds file (canonical (fileSignature file))
          (offset g block) (offset g block + g.blocksize.toNat) := by
    rw [← clean]
    simp only [setup, set, matching.verifyOnly, ↓reduceIte, verifyExisting, sectorSize]
    split_ifs with short
    · simp [short, Nat.not_le_of_lt short]
    · simp [short, Nat.le_of_not_lt short]
  constructor
  · intro accepts
    exact (exits 0 fun _ => 0).mp (accepts.exits 0 fun _ => 0)
  · intro holds
    refine ⟨?_, fun signature buffer => (exits signature buffer).mpr holds⟩
    intro found again block member
    obtain rfl := Option.some.inj (set.symm.trans again)
    exact (holds.2 block member).inside (by omega)

/-- The signature in the first sector of the file of an init-only run is the run's own, or
zero when the run skipped something. -/
theorem fileSignature_initialised (written : Initialised options signature file)
    (asked : 0 < options.megabytes.toNat) :
    fileSignature file = if options.skipMb = 0 then signature else 0 := by
  split_ifs with none
  · have loaded : load file.byte 0 = ⟨0, signature⟩ := by
      rw [load_eq_iff]
      intro i field
      have stored := (written.range (8 * 0 + i) (by simp [none]) (by
        unfold mebibyte
        omega)).2
      rw [stored]
      exact (load_eq_iff _ _ _).mp (load_canonical signature 0) i field
    rw [fileSignature, loaded]
  · have skipped : 0 < options.skipMb.toNat := BitVec.toNat_pos_of_ne_zero none
    have loaded : load file.byte 0 = ⟨0, 0⟩ := by
      rw [load_eq_iff]
      intro i field
      rw [written.hole _ (by unfold mebibyte; omega), Pattern.byte]
      split <;> simp
    rw [fileSignature, loaded]

/-- The later run verifies the file of a run without `-M` from its first byte to its last. -/
theorem Rederived.unskipped (exact : Rederived options g)
    (written : Initialised options signature file) (skipped : options.skipMb = 0) :
    ∀ block ∈ visited g, Holds file (canonical signature) (offset g block)
      (offset g block + g.blocksize.toNat) := by
  intro block member
  have last := (mem_loopFrom.mp member).2
  rw [BitVec.toNat_add] at last
  have none : options.skipMb.toNat = 0 := by simp [skipped]
  have inside := Nat.lt_of_lt_of_le last (Nat.mod_le _ _)
  rw [exact.first, exact.count, none, Nat.zero_mul, Nat.zero_add, Nat.zero_add] at inside
  apply written.range.part
  · simp [skipped]
  · calc offset g block + g.blocksize.toNat = (block.toNat + 1) * g.blocksize.toNat := by
          rw [offset, Nat.add_mul, Nat.one_mul]
      _ ≤ options.megabytes.toNat * (mebibyte / g.blocksize.toNat) * g.blocksize.toNat :=
          Nat.mul_le_mul_right _ inside
      _ = options.megabytes.toNat * mebibyte := by rw [Nat.mul_assoc, exact.tiles]
      _ ≤ _ := Nat.mul_le_mul_right _ (Nat.le_add_left _ _)

/-- A region that wraps has no blocks to visit. -/
theorem Rederived.wrapped (exact : Rederived options g)
    (wraps : 2 ^ 32 ≤ (2 * options.skipMb.toNat + options.megabytes.toNat) *
      (mebibyte / g.blocksize.toNat)) : visited g = [] := by
  apply loopFrom_eq_nil
  have start := g.startBlock.isLt
  have count := g.blocks.isLt
  have total : (2 * options.skipMb.toNat + options.megabytes.toNat) *
      (mebibyte / g.blocksize.toNat) = g.startBlock.toNat + g.blocks.toNat := by
    rw [exact.first, exact.count]
    ring
  rw [BitVec.toNat_add]
  omega

/-- Otherwise it visits the first block that the earlier run wrote. -/
theorem Rederived.visits_first (exact : Rederived options g) (asked : 0 < options.megabytes.toNat)
    (fits : ¬ 2 ^ 32 ≤ (2 * options.skipMb.toNat + options.megabytes.toNat) *
      (mebibyte / g.blocksize.toNat)) : g.startBlock ∈ visited g := by
  apply mem_loopFrom.mpr
  have total : (2 * options.skipMb.toNat + options.megabytes.toNat) *
      (mebibyte / g.blocksize.toNat) = g.startBlock.toNat + g.blocks.toNat := by
    rw [exact.first, exact.count]
    ring
  have nonempty : 0 < g.blocks.toNat := by
    rw [exact.count]
    exact Nat.mul_pos (by omega) (tiles_positive exact.tiles).1
  rw [total] at fits
  rw [BitVec.toNat_add, Nat.mod_eq_of_lt (by omega)]
  omega

/-- That block fails under the signature of the hole, which is zero, while the block holds the
patterns of another signature. -/
theorem Rederived.rejects_first (exact : Rederived options g)
    (written : Initialised options signature file) (nonzero : signature ≠ 0)
    (asked : 0 < options.megabytes.toNat) :
    ¬ Holds file (canonical 0) (offset g g.startBlock)
      (offset g g.startBlock + g.blocksize.toNat) := by
  intro holds
  have start : offset g g.startBlock = options.skipMb.toNat * mebibyte := by
    rw [offset, exact.first, Nat.mul_assoc, exact.tiles]
  have size : 512 ≤ g.blocksize.toNat := by
    have whole := exact.whole
    rw [WholeSectors] at whole
    have positive := (tiles_positive exact.tiles).2
    omega
  apply nonzero
  apply signature_of_canonical (options.skipMb.toNat * 131072)
  intro i field
  have place : 8 * (options.skipMb.toNat * 131072) + i = offset g g.startBlock + i := by
    rw [start]
    unfold mebibyte
    omega
  rw [place]
  have own := (written.range (offset g g.startBlock + i) (by omega) (by
    rw [start]
    unfold mebibyte
    omega)).2
  exact own.symm.trans (holds _ (by omega) (by omega)).2

/-- An empty file has no first sector. -/
theorem not_accepts_empty (matching : Matching options later) (empty : file.size = 0) :
    ¬ Accepts later file := by
  intro accepts
  have exits := accepts.exits 0 fun _ => 0
  unfold setup at exits
  split at exits
  · simp at exits
  · simp [matching.verifyOnly, verifyExisting, empty, sectorSize] at exits

/-- An init-only run with fitting options completes and leaves an initialised file. -/
theorem setup_initOnly (fitting : Fitting options)
    (initOnly : options.verifyOnly = false ∧ options.initOnly = true) (signature : Word)
    (buffer : Nat → Byte) (existing : File Byte) :
    (setup options signature buffer existing).1 = .exited 0 ∧
      Initialised options signature (setup options signature buffer existing).2 := by
  obtain ⟨g, set, exact⟩ := fitting.exact
  have written := initialised exact signature buffer
  have clean : verdict (doubleVerify g options.stopOnError signature
      (initialise g signature buffer File.empty)) (.exited 0) = .exited 0 :=
    (verdict_eq_iff (by simp)).mpr ((exact.covered.checked _ _ _).mpr written.range)
  simp only [setup, set, initOnly.1, initOnly.2, Bool.false_eq_true, ↓reduceIte]
  exact ⟨clean, written⟩

/-- The later run accepts an initialised file exactly when something was asked for, and
either nothing was skipped or the later run's region wraps. -/
theorem Initialised.accepts_iff (written : Initialised options signature file)
    (fitting : Fitting options) (matching : Matching options later) (nonzero : signature ≠ 0) :
    Accepts later file ↔ options.megabytes ≠ 0 ∧ (options.skipMb = 0 ∨
      2 ^ 32 ≤ (2 * options.skipMb.toNat + options.megabytes.toNat) *
        (mebibyte / options.blocksize.toNat)) := by
  have size := written.size
  split_ifs at size with none
  · simp [none, not_accepts_empty matching size]
  have asked : 0 < options.megabytes.toNat := BitVec.toNat_pos_of_ne_zero none
  have sector : 512 ≤ file.size := by
    rw [size]
    unfold mebibyte
    omega
  obtain ⟨g, set, exact⟩ := Fitting.rederived fitting matching size
  have blocksize : (verifyGeometry g file).blocksize = options.blocksize := by
    rw [← matching.blocksize]
    exact (geometry_eq_some set).2.1
  rw [VerifyOnly.accepts_iff matching set exact.whole (tiles_positive exact.tiles).2,
    fileSignature_initialised written asked, ← blocksize]
  simp only [sector, none, ne_eq, not_false_eq_true, true_and]
  by_cases skipped : options.skipMb = 0
  · simp only [skipped, ↓reduceIte, true_or, iff_true]
    exact exact.unskipped written skipped
  · simp only [skipped, ↓reduceIte, false_or]
    constructor
    · intro holds
      by_contra fits
      exact exact.rejects_first written nonzero asked (holds _ (exact.visits_first asked fits))
    · intro wraps
      simp [exact.wrapped wraps]

/-- What `-v` makes of a file written with `-i`. For fitting options and a signature other
than zero the init-only run completes. A later run with `-v` and the same `-M` and `-b`
accepts its file exactly when the init-only run was asked for at least one mebibyte and
either skipped nothing or the later run's region wraps. -/
theorem accepts_initialised_iff (options later : Options) (signature : Word)
    (buffer : Nat → Byte) (existing : File Byte) (fitting : Fitting options)
    (initOnly : options.verifyOnly = false ∧ options.initOnly = true)
    (matching : Matching options later) (nonzero : signature ≠ 0) :
    (setup options signature buffer existing).1 = .exited 0 ∧
      (Accepts later (setup options signature buffer existing).2 ↔
        options.megabytes ≠ 0 ∧ (options.skipMb = 0 ∨
          2 ^ 32 ≤ (2 * options.skipMb.toNat + options.megabytes.toNat) *
            (mebibyte / options.blocksize.toNat))) := by
  obtain ⟨completes, written⟩ := setup_initOnly fitting initOnly signature buffer existing
  exact ⟨completes, written.accepts_iff fitting matching nonzero⟩

/-- The options of an init-only run. -/
def initOnlyRun (megabytes skipMb blocksize : Word) : Options :=
  { sized megabytes skipMb blocksize with initOnly := true }

/-- The options of a run on an existing file. -/
def verifyOnlyRun (skipMb blocksize : Word) : Options :=
  { sized 1 skipMb blocksize with verifyOnly := true }

/-- Without `-M` the file is accepted. -/
theorem accepts_initialised_unskipped : Accepts (verifyOnlyRun 0 4096)
    (setup (initOnlyRun 2 0 4096) 1 (fun _ => 0) File.empty).2 := by
  have fitting : Fitting (initOnlyRun 2 0 4096) := by
    constructor <;> decide
  exact (accepts_initialised_iff (initOnlyRun 2 0 4096) (verifyOnlyRun 0 4096) 1 (fun _ => 0)
    File.empty fitting ⟨rfl, rfl⟩ ⟨rfl, rfl, rfl⟩ (by decide)).2.mpr (by decide)

/-- A file of one mebibyte behind a skipped one is rejected. -/
theorem accepts_fails_skipped : ¬ ∀ (options later : Options) (signature : Word)
    (buffer : Nat → Byte) (existing : File Byte), Fitting options →
    options.verifyOnly = false ∧ options.initOnly = true → Matching options later →
    signature ≠ 0 → (setup options signature buffer existing).1 = .exited 0 →
    Accepts later (setup options signature buffer existing).2 := by
  intro always
  have fitting : Fitting (initOnlyRun 1 1 4096) := by
    constructor <;> decide
  have matching : Matching (initOnlyRun 1 1 4096) (verifyOnlyRun 1 4096) := ⟨rfl, rfl, rfl⟩
  obtain ⟨completes, written⟩ := setup_initOnly fitting ⟨rfl, rfl⟩ 1 (fun _ => 0) File.empty
  have accepts := always (initOnlyRun 1 1 4096) (verifyOnlyRun 1 4096) 1 (fun _ => 0) File.empty
    fitting ⟨rfl, rfl⟩ matching (by decide) completes
  exact absurd ((written.accepts_iff fitting matching (by decide)).mp accepts) (by decide)

end AvocadoMisc.Disktest.VerifyOnly
