import AvocadoMisc.Disktest.Blocks

/-!
# Passes over the file

`main` writes all blocks in one loop and then verifies them in another one, before it
starts the tasks. With `-i` it stops there. With `-v` it only verifies, with a block
count and a signature that it takes from the file.

Both loops run from `start_block` to below `start_block + blocks`. The sum wraps, so the
loops may visit nothing at all, and then nothing is wrong either.
-/

namespace AvocadoMisc.Disktest.Passes

open Library.SparseFile Library.WordLoops Blocks

/-- The blocks of `for (block = start_block; block < start_block + blocks; block++)`. -/
def visited (g : Geometry) : List Word := loopFrom g.startBlock (g.startBlock + g.blocks)

/-- The initialisation loop. -/
def initialise (g : Geometry) (signature : Word) (buffer : Nat → Byte) (file : File Byte) :
    File Byte :=
  ((visited g).foldl (writeBlock g signature) (buffer, file)).2

/-- The blocks that a pass has verified, in order, and the count it returns. -/
structure Pass where
  verified : List Word
  errors : Word

/-- The loop of `double_verify` on the blocks that are left. -/
def verifyLoop (g : Geometry) (stopOnError : Bool) (signature : Word) (file : File Byte) :
    List Word → Pass → Option Pass
  | [], pass => some pass
  | block :: rest, pass =>
    (verifyBlock g signature file block).bind fun errors =>
      let verified := pass.verified ++ [block]
      if errors = 0 then verifyLoop g stopOnError signature file rest ⟨verified, pass.errors⟩
      else if stopOnError then some ⟨verified, 1⟩
      else verifyLoop g stopOnError signature file rest ⟨verified, pass.errors + 1⟩

/-- `double_verify`. It has no result when a short read ends the process. -/
def doubleVerify (g : Geometry) (stopOnError : Bool) (signature : Word) (file : File Byte) :
    Option Pass :=
  verifyLoop g stopOnError signature file (visited g) ⟨[], 0⟩

/-- What becomes of main before it forks the first task. -/
inductive Outcome where
  | killed
  | exited (status : Nat)
  | running
deriving DecidableEq

/-- The exit of main after a pass that decides it. -/
def verdict (pass : Option Pass) (otherwise : Outcome) : Outcome :=
  match pass with
  | none => .exited 1
  | some pass => if pass.errors = 0 then otherwise else .exited 1

/-- The geometry of `-v`: the block count is the file's, the first block the option's. -/
def verifyGeometry (g : Geometry) (file : File Byte) : Geometry :=
  { g with blocks := BitVec.ofNat 32 (file.size / (1024 * 1024)) * blocksPerMb g.blocksize }

/-- The signature of `-v`, from the first pattern of the file. -/
def fileSignature (file : File Byte) : Word := (load file.byte 0).signature

/-- A run with `-v` on an existing file. -/
def verifyExisting (g : Geometry) (stopOnError : Bool) (file : File Byte) : Outcome :=
  if file.size < sectorSize then .exited 1
  else verdict (doubleVerify (verifyGeometry g file) stopOnError (fileSignature file) file)
    (.exited 0)

/-- `main` up to the first fork. Without `-v` the file is truncated and written. When its
verification fails it may be verified once more, and the exit status is 1 anyway. -/
def setup (options : Options) (signature : Word) (buffer : Nat → Byte) (file : File Byte) :
    Outcome × File Byte :=
  match geometry options with
  | none => (.killed, file)
  | some g =>
    if options.verifyOnly then (verifyExisting g options.stopOnError file, file)
    else
      let written := initialise g signature buffer File.empty
      (verdict (doubleVerify g options.stopOnError signature written)
        (if options.initOnly then .exited 0 else .running), written)

/-! ### The initialisation loop -/

variable {g : Geometry} {signature : Word} {file : File Byte}

/-- Writing blocks in whole sectors keeps the content that belongs there. -/
theorem foldl_writeBlock_holds (whole : WholeSectors g) (blocks : List Word) {low high : Nat}
    (memory : (Nat → Byte) × File Byte) (holds : Holds memory.2 (canonical signature) low high) :
    Holds (blocks.foldl (writeBlock g signature) memory).2 (canonical signature) low high := by
  induction blocks generalizing memory with
  | nil => exact holds
  | cons block rest inductionHypothesis =>
    apply inductionHypothesis (writeBlock g signature memory block)
    exact holds.write fun i inside => fillBlock_canonical whole inside

/-- A block that was written holds what belongs there. -/
theorem foldl_writeBlock_written (whole : WholeSectors g) (blocks : List Word) {block : Word}
    (member : block ∈ blocks) (memory : (Nat → Byte) × File Byte) :
    Holds (blocks.foldl (writeBlock g signature) memory).2 (canonical signature)
      (offset g block) (offset g block + g.blocksize.toNat) := by
  induction blocks generalizing memory with
  | nil => simp at member
  | cons first rest inductionHypothesis =>
    rw [List.foldl_cons]
    rcases List.mem_cons.mp member with rfl | later
    · apply foldl_writeBlock_holds whole
      exact Holds.written memory.2 fun i inside => fillBlock_canonical whole inside
    · exact inductionHypothesis later _

/-- The initialisation loop leaves every block with what belongs there. -/
theorem initialise_written (whole : WholeSectors g) (signature : Word) (buffer : Nat → Byte)
    (file : File Byte) {block : Word} (member : block ∈ visited g) :
    Holds (initialise g signature buffer file) (canonical signature) (offset g block)
      (offset g block + g.blocksize.toNat) :=
  foldl_writeBlock_written whole (visited g) member (buffer, file)

/-- A position that no written block covers keeps its byte. -/
theorem foldl_writeBlock_outside (blocks : List Word) {position : Nat}
    (outside : ∀ block ∈ blocks,
      position < offset g block ∨ offset g block + g.blocksize.toNat ≤ position)
    (memory : (Nat → Byte) × File Byte) :
    (blocks.foldl (writeBlock g signature) memory).2.byte position =
      memory.2.byte position := by
  induction blocks generalizing memory with
  | nil => rfl
  | cons block rest inductionHypothesis =>
    rw [List.foldl_cons, inductionHypothesis fun later member =>
      outside later (List.mem_cons_of_mem block member)]
    exact memory.2.write_byte_outside _ (outside block List.mem_cons_self)

/-- The file ends with the last block written, or where it ended before. -/
theorem foldl_writeBlock_size (blocks : List Word) {bound : Nat}
    (below : ∀ block ∈ blocks, offset g block + g.blocksize.toNat ≤ bound)
    (memory : (Nat → Byte) × File Byte) (small : memory.2.size ≤ bound) :
    (blocks.foldl (writeBlock g signature) memory).2.size ≤ bound := by
  induction blocks generalizing memory with
  | nil => exact small
  | cons block rest inductionHypothesis =>
    rw [List.foldl_cons]
    apply inductionHypothesis fun later member => below later (List.mem_cons_of_mem block member)
    have ends := below block List.mem_cons_self
    simp only [writeBlock, File.write]
    split <;> omega

/-! ### The verification loop -/

/-- A pass that is not cut short verifies all blocks in order. -/
theorem verifyLoop_verified {stopOnError : Bool} (blocks : List Word) (start pass : Pass)
    (finished : verifyLoop g stopOnError signature file blocks start = some pass)
    (complete : stopOnError = false ∨ pass.errors = 0) :
    pass.verified = start.verified ++ blocks := by
  induction blocks generalizing start with
  | nil =>
    obtain rfl := Option.some.inj finished
    simp
  | cons block rest inductionHypothesis =>
    simp only [verifyLoop, Option.bind_eq_some_iff] at finished
    obtain ⟨errors, _, continued⟩ := finished
    split_ifs at continued with clean stops
    · simpa using inductionHypothesis _ continued
    · obtain rfl := Option.some.inj continued
      simp [stops] at complete
    · simpa using inductionHypothesis _ continued

/-- The count of a pass is zero exactly when every block was found without errors. The
counter cannot wrap back to zero, because there are fewer blocks than words. -/
theorem verifyLoop_errors {stopOnError : Bool} (blocks : List Word) (start : Pass)
    (room : start.errors.toNat + blocks.length < 2 ^ 32) :
    (∃ pass, verifyLoop g stopOnError signature file blocks start = some pass ∧
        pass.errors = 0) ↔
      start.errors = 0 ∧ ∀ block ∈ blocks, verifyBlock g signature file block = some 0 := by
  induction blocks generalizing start with
  | nil => simp [verifyLoop]
  | cons block rest inductionHypothesis =>
    rw [List.length_cons] at room
    simp only [verifyLoop, List.forall_mem_cons]
    cases found : verifyBlock g signature file block with
    | none => simp
    | some errors =>
      simp only [Option.bind_some, Option.some.injEq]
      by_cases clean : errors = 0
      · simp only [clean, ↓reduceIte, true_and]
        exact inductionHypothesis ⟨start.verified ++ [block], start.errors⟩ (by
          dsimp only
          omega)
      · simp only [clean, ↓reduceIte, false_and, and_false, iff_false]
        cases stopOnError with
        | true => simp
        | false =>
          simp only [Bool.false_eq_true, ↓reduceIte]
          have counted : (start.errors + 1).toNat = start.errors.toNat + 1 := by
            rw [BitVec.toNat_add]
            exact Nat.mod_eq_of_lt (by
              change start.errors.toNat + 1 < 2 ^ 32
              omega)
          rw [inductionHypothesis ⟨start.verified ++ [block], start.errors + 1⟩ (by
            dsimp only
            omega)]
          rintro ⟨zero, -⟩
          rw [show start.errors + 1 = 0 from zero] at counted
          exact absurd counted (Nat.succ_ne_zero start.errors.toNat).symm

/-- There are fewer blocks than words. -/
theorem visited_length (g : Geometry) : (visited g).length < 2 ^ 32 := by
  have length := congrArg List.length (loopFrom_toNat g.startBlock (g.startBlock + g.blocks))
  rw [List.length_map, List.length_range'] at length
  have stop := (g.startBlock + g.blocks).isLt
  rw [visited, length]
  omega

/-- `double_verify` returns zero exactly when no block it visits has an error. -/
theorem doubleVerify_clean (g : Geometry) (stopOnError : Bool) (signature : Word)
    (file : File Byte) :
    (∃ pass, doubleVerify g stopOnError signature file = some pass ∧ pass.errors = 0) ↔
      ∀ block ∈ visited g, verifyBlock g signature file block = some 0 := by
  have fits : (⟨[], 0⟩ : Pass).errors.toNat + (visited g).length < 2 ^ 32 := by
    simpa using visited_length g
  rw [doubleVerify, verifyLoop_errors (visited g) ⟨[], 0⟩ fits]
  simp

/-- The exit that a pass without errors leads to. -/
theorem verdict_eq_iff {pass : Option Pass} {otherwise : Outcome}
    (other : otherwise ≠ .exited 1) :
    verdict pass otherwise = otherwise ↔ ∃ found, pass = some found ∧ found.errors = 0 := by
  cases pass with
  | none => simpa [verdict] using other.symm
  | some found =>
    simp only [verdict, Option.some.injEq, exists_eq_left']
    split_ifs with clean
    · simpa using clean
    · simpa [other.symm] using clean

/-- In whole sectors `verify_block` returns zero exactly for the content that belongs
there. -/
theorem verifyBlock_eq_zero (whole : WholeSectors g) (positive : 0 < g.blocksize.toNat)
    (block : Word) :
    verifyBlock g signature file block = some 0 ↔
      Holds file (canonical signature) (offset g block)
        (offset g block + g.blocksize.toNat) := by
  unfold verifyBlock
  constructor
  · intro clean
    split_ifs at clean with inside
    have matching := (blockErrors_eq_zero_iff whole).mp (Option.some.inj clean)
    intro position above below
    have place := Nat.add_sub_cancel' above
    have byte := matching (position - offset g block) (by omega)
    rw [File.read, place] at byte
    exact ⟨by omega, byte⟩
  · intro holds
    have inside := holds.inside (by omega)
    rw [if_pos inside, (blockErrors_eq_zero_iff whole).mpr fun i small => holds.read small]

end AvocadoMisc.Disktest.Passes
