import AvocadoMisc.Library.Accounting
import AvocadoMisc.Disktest.Tasks

/-!
# No false alarm

All processes of a round write under one signature, and a write under it puts the same
bytes at a position whichever block, process or interleaving it comes from. So the content
of the region, once written, survives every write, torn or not, and every verifier finds
it. A round ends when main has waited for as many children as it forked, and that number
does not wrap because every child has its own process id.

All this rests on the initialisation loop having written the whole region that the random
tasks draw from. It has, unless the end of the region wraps. Then it has written nothing.
-/

namespace AvocadoMisc.Disktest.FalseAlarms

open Library.SparseFile Library.WordLoops Library.Transitions Library.Accounting Blocks
  Detection Tasks

/-- Every block of the region holds what belongs there. -/
def RegionHolds (g : Geometry) (signature : Word) (file : File Byte) : Prop :=
  ∀ block, InRegion g block →
    Holds file (canonical signature) (offset g block) (offset g block + g.blocksize.toNat)

/-- There is no child, running or not waited for. -/
def NoChildren (state : State) : Prop := ∀ pid, state.child pid = none

/-- The file of the current round has been written. -/
def initialised : MainPc → Bool
  | .opening again => again
  | .initialising _ | .initWriting _ => false
  | _ => true

/-- Main is about to truncate the file, or is writing it. -/
def rewriting : MainPc → Bool
  | .opening _ | .initialising _ | .initWriting _ => true
  | _ => false

/-- No false alarm in one state: the region holds the canonical pattern once the file has
been written, every value that `verify_block` has returned is zero, and no child of an
earlier round is left when main truncates and writes the file. -/
structure Safe (options : Options) (state : State) : Prop where
  region : ∀ g, geometry options = some g → initialised state.main = true →
    RegionHolds g state.signature state.file
  mainAlarm : ∀ repeated block errors found,
    state.main = .initChecked repeated block errors found → found = 0
  childAlarm : ∀ pid child block errors, state.child pid = some child →
    child.activity = .checked block errors → errors = 0
  alone : rewriting state.main = true → NoChildren state

/-- The region does not wrap: it is empty, or ends below the last word. -/
def Unwrapped (g : Geometry) : Prop :=
  g.blocks = 0 ∨ g.startBlock.toNat + g.blocks.toNat < 2 ^ 32

/-! ### Blocks of the loops and of the region -/

variable {options : Options} {g : Geometry} {signature : Word} {file : File Byte}

/-- The block is one of those that a linear loop visits. -/
def InLoop (g : Geometry) (block : Word) : Prop :=
  g.startBlock.toNat ≤ block.toNat ∧ block < g.startBlock + g.blocks

/-- Loops stay in the region. -/
theorem InLoop.inRegion {block : Word} (inside : InLoop g block) : InRegion g block := by
  obtain ⟨above, below⟩ := inside
  have last := BitVec.lt_def.mp below
  have sum := BitVec.toNat_add g.startBlock g.blocks
  have start := g.startBlock.isLt
  have count := g.blocks.isLt
  refine ⟨block.toNat - g.startBlock.toNat, by omega, ?_⟩
  apply BitVec.eq_of_toNat_eq
  rw [BitVec.toNat_add, BitVec.toNat_ofNat]
  omega

/-- A region that does not wrap starts at its first block. -/
theorem Unwrapped.above (unwrapped : Unwrapped g) {block : Word} (inside : InRegion g block) :
    g.startBlock.toNat ≤ block.toNat := by
  obtain ⟨i, small, rfl⟩ := inside
  have nonempty : g.blocks ≠ 0 := by
    intro none
    simp [none] at small
  have fits := unwrapped.resolve_left nonempty
  rw [BitVec.toNat_add, BitVec.toNat_ofNat]
  omega

/-- A loop that has ended has passed every block of a region that does not wrap. -/
theorem Unwrapped.passed (unwrapped : Unwrapped g) {block other : Word}
    (ended : ¬ block < g.startBlock + g.blocks) (inside : InRegion g other) :
    other.toNat < block.toNat := by
  obtain ⟨i, small, rfl⟩ := inside
  have end_le : (g.startBlock + g.blocks).toNat ≤ block.toNat :=
    Nat.le_of_not_lt fun less => ended (BitVec.lt_def.mpr less)
  have nonempty : g.blocks ≠ 0 := by
    intro none
    simp [none] at small
  have fits := unwrapped.resolve_left nonempty
  rw [BitVec.toNat_add, Nat.mod_eq_of_lt fits] at end_le
  rw [BitVec.toNat_add, BitVec.toNat_ofNat]
  omega

/-! ### Calls -/

/-- Content under the signature is kept. -/
def Grown (signature : Word) (before after : File Byte) : Prop :=
  ∀ low high, Holds before (canonical signature) low high →
    Holds after (canonical signature) low high

/-- The block of a call. -/
def block : Call → Word
  | .writing block _ => block
  | .reading block _ _ => block

/-- The sectors of a block that have moved hold what belongs there, in the file for a write
and in the buffer for a read. -/
def CallSound (g : Geometry) (signature : Word) (file : File Byte) : Call → Prop
  | .writing block pending => (∀ sector ∈ pending, sector < g.sectorsPerBlock.toNat) ∧
      ∀ sector, sector < g.sectorsPerBlock.toNat → sector ∉ pending →
        Holds file (canonical signature) (offset g block + 512 * sector)
          (offset g block + 512 * sector + 512)
  | .reading block pending buffer => ∀ i, i < g.blocksize.toNat → i / 512 ∉ pending →
      buffer i = canonical signature (offset g block + i)

/-- No sector of a new write has moved. -/
theorem callSound_write (block : Word) :
    CallSound g signature file (.writing block (allSectors g)) := by
  refine ⟨fun sector member => List.mem_range.mp member, ?_⟩
  intro sector small moved
  exact absurd (List.mem_range.mpr small) moved

/-- No sector of a new read has moved. -/
theorem callSound_read (whole : WholeSectors g) {block : Word} {call : Call}
    (begun : beginRead g file block = some call) :
    CallSound g signature file call ∧ FalseAlarms.block call = block ∧
      ∃ pending buffer, call = .reading block pending buffer := by
  unfold beginRead at begun
  split_ifs at begun
  obtain rfl := Option.some.inj begun
  refine ⟨?_, rfl, _, _, rfl⟩
  intro i inside moved
  rw [whole] at inside
  exact absurd (List.mem_range.mpr (by omega)) moved

/-- Other processes' writes do not disturb a call. -/
theorem CallSound.grow {call : Call} {after : File Byte} (sound : CallSound g signature file call)
    (grown : Grown signature file after) : CallSound g signature after call := by
  cases call with
  | writing block pending =>
    exact ⟨sound.1, fun sector small moved => grown _ _ (sound.2 sector small moved)⟩
  | reading block pending buffer => exact sound

/-- A sector moves to the file. The content it brings belongs there, so nothing is lost. -/
theorem moveSector_writing (whole : WholeSectors g) {block : Word} {pending : List Nat}
    {sector : Nat} {moved : File Byte × Call}
    (sound : CallSound g signature file (.writing block pending))
    (taken : moveSector g signature file (.writing block pending) sector = some moved) :
    Grown signature file moved.1 ∧ CallSound g signature moved.1 moved.2 ∧
      moved.2 = .writing block (pending.erase sector) := by
  simp only [moveSector] at taken
  split_ifs at taken with member
  obtain rfl := Option.some.inj taken
  have small := sound.1 sector member
  have same (i : Nat) (inside : i < 512) :
      fillBlock g signature block (fun _ => 0) (512 * sector + i) =
        canonical signature (offset g block + 512 * sector + i) := by
    rw [fillBlock_canonical whole (by rw [whole]; omega), Nat.add_assoc]
  have grown : Grown signature file (file.write (offset g block + 512 * sector) 512 fun i =>
      fillBlock g signature block (fun _ => 0) (512 * sector + i)) :=
    fun low high holds => holds.write same
  refine ⟨grown, ⟨?_, ?_⟩, rfl⟩
  · intro other later
    exact sound.1 other (List.mem_of_mem_erase later)
  · intro other inside gone
    by_cases here : other = sector
    · subst other
      exact Holds.written file same
    · exact grown _ _ (sound.2 other inside fun still =>
        gone ((List.mem_erase_of_ne here).mpr still))

/-- A sector moves to the buffer, from a block that holds what belongs there. -/
theorem moveSector_reading {block : Word} {pending : List Nat} {buffer : Nat → Byte}
    {sector : Nat} {moved : File Byte × Call}
    (holds : Holds file (canonical signature) (offset g block)
      (offset g block + g.blocksize.toNat))
    (sound : CallSound g signature file (.reading block pending buffer))
    (taken : moveSector g signature file (.reading block pending buffer) sector = some moved) :
    moved.1 = file ∧ CallSound g signature file moved.2 ∧
      ∃ after, moved.2 = .reading block (pending.erase sector) after := by
  simp only [moveSector] at taken
  split_ifs at taken with member
  obtain rfl := Option.some.inj taken
  refine ⟨rfl, ?_, _, rfl⟩
  intro i inside gone
  dsimp only
  split_ifs with here
  · exact holds.read inside
  · exact sound i inside fun still => gone ((List.mem_erase_of_ne here).mpr still)

/-- A write whose sectors have all moved has written its block. -/
theorem CallSound.written (whole : WholeSectors g) {block : Word}
    (sound : CallSound g signature file (.writing block [])) :
    Holds file (canonical signature) (offset g block)
      (offset g block + g.blocksize.toNat) := by
  intro position above below
  have small : (position - offset g block) / 512 < g.sectorsPerBlock.toNat := by
    rw [whole] at below
    omega
  exact sound.2 _ small List.not_mem_nil position (by omega) (by omega)

/-- A read whose sectors have all moved is verified without errors. -/
theorem CallSound.verified (whole : WholeSectors g) {block : Word} {buffer : Nat → Byte}
    (sound : CallSound g signature file (.reading block [] buffer)) :
    blockErrors g signature block buffer = 0 :=
  (blockErrors_eq_zero_iff whole).mpr fun i inside => sound i inside List.not_mem_nil

/-! ### Children -/

/-- A block that a task may work on. Linear tasks also need it to have a successor. -/
def Placed (g : Geometry) (access : Access) (block : Word) : Prop :=
  InRegion g block ∧ (access = .linear → InLoop g block)

/-- What a child's place says. -/
def ActivityClause (g : Geometry) (signature : Word) (file : File Byte) (access : Access) :
    Activity → Prop
  | .polling | .ended _ => True
  | .looping block => g.startBlock.toNat ≤ block.toNat
  | .calling call => CallSound g signature file call ∧ Placed g access (block call)
  | .checked block errors => errors = 0 ∧ Placed g access block

/-- A child works under the current signature and has found no error. -/
structure ChildSound (g : Geometry) (signature : Word) (file : File Byte) (child : Child) :
    Prop where
  inherited : child.signature = signature
  clean : child.error = false
  activity : ActivityClause g signature file child.role.access child.activity

/-- The child goes to another place. -/
theorem ChildSound.place {child : Child} {activity : Activity}
    (sound : ChildSound g signature file child)
    (clause : ActivityClause g signature file child.role.access activity) :
    ChildSound g signature file { child with activity := activity } :=
  ⟨sound.inherited, sound.clean, clause⟩

/-- Other processes' writes do not disturb a child. -/
theorem ChildSound.grow {child : Child} {after : File Byte}
    (sound : ChildSound g signature file child) (grown : Grown signature file after) :
    ChildSound g signature after child := by
  refine ⟨sound.inherited, sound.clean, ?_⟩
  have clause := sound.activity
  cases place : child.activity with
  | polling | ended status => trivial
  | looping block | checked block errors =>
    rw [place] at clause
    exact clause
  | calling call =>
    rw [place] at clause
    exact ⟨clause.1.grow grown, clause.2⟩

/-- After a block the child is still in its loop. -/
theorem ChildSound.next {child : Child} {block : Word}
    (sound : ChildSound g signature file child) (placed : Placed g child.role.access block) :
    ChildSound g signature file (child.next block) := by
  unfold Child.next
  split
  · rename_i linear
    obtain ⟨above, below⟩ := placed.2 linear
    apply sound.place
    change g.startBlock.toNat ≤ (block + 1).toNat
    rw [toNat_succ below]
    exact Nat.le_succ_of_le above
  · exact sound.place trivial

/-- A call begins with no sector moved. -/
theorem ChildSound.begin (whole : WholeSectors g) {child : Child} {block : Word}
    (sound : ChildSound g signature file child) (placed : Placed g child.role.access block) :
    ChildSound g signature file (child.begin g file block) := by
  unfold Child.begin
  split
  · exact sound.place ⟨callSound_write block, placed⟩
  · split
    · rename_i call begun
      obtain ⟨reading, same, _⟩ := callSound_read whole begun
      exact sound.place ⟨reading, same ▸ placed⟩
    · exact sound.place trivial

/-- The body of the loop on the clock stays in the region. -/
theorem ChildSound.work (whole : WholeSectors g) {child : Child}
    (sound : ChildSound g signature file child) (draw : Draw) :
    ChildSound g signature file (child.work g file draw) := by
  unfold Child.work
  split
  · exact sound.place (Nat.le_refl _)
  · rename_i random
    split_ifs with none
    · exact sound.place trivial
    · have positive : 0 < g.blocks.toNat := BitVec.toNat_pos_of_ne_zero none
      apply sound.begin whole
      refine ⟨⟨draw.val % g.blocks.toNat, Nat.mod_lt _ positive, rfl⟩, ?_⟩
      intro linear
      simp [random] at linear

/-- A child that exits is sound. -/
theorem ChildSound.leave {child : Child} (sound : ChildSound g signature file child) :
    ChildSound g signature file child.leave := by
  unfold Child.leave
  split <;> exact sound.place trivial

/-- A sector of a call is written or read. A write leaves the content of the file as it is, and
what is read is that content. -/
theorem ChildSound.sector (whole : WholeSectors g) {child : Child} {call : Call} {sector : Nat}
    {moved : File Byte × Call} (region : RegionHolds g signature file)
    (sound : ChildSound g signature file child) (place : child.activity = .calling call)
    (move : moveSector g child.signature file call sector = some moved) :
    Grown signature file moved.1 ∧
      ChildSound g signature moved.1 { child with activity := .calling moved.2 } := by
  have clause := sound.activity
  rw [place] at clause
  rw [sound.inherited] at move
  cases call with
  | writing block pending =>
    obtain ⟨grown, after, same⟩ := moveSector_writing whole clause.1 move
    refine ⟨grown, (sound.grow grown).place ⟨after, ?_⟩⟩
    rw [same]
    exact clause.2
  | reading block pending buffer =>
    obtain ⟨file', after, filled, same⟩ :=
      moveSector_reading (region block clause.2.1) clause.1 move
    rw [file']
    refine ⟨fun _ _ holds => holds, sound.place ⟨after, ?_⟩⟩
    rw [same]
    exact clause.2

/-- A step of a child keeps the content of the file and finds no error in a region that
holds it. -/
theorem ChildSound.step (whole : WholeSectors g) {child : Child} {act : ChildAct}
    {moved : File Byte × Child} (region : RegionHolds g signature file)
    (sound : ChildSound g signature file child)
    (taken : childStep g file child act = some moved) :
    Grown signature file moved.1 ∧ ChildSound g signature moved.1 moved.2 := by
  have clause := sound.activity
  have kept : Grown signature file file := fun _ _ holds => holds
  unfold childStep at taken
  split at taken
  · obtain rfl := Option.some.inj taken
    refine ⟨kept, ?_⟩
    dsimp only
    split
    · exact sound.work whole _
    · exact sound.leave
  · rename_i block place
    rw [place] at clause
    obtain rfl := Option.some.inj taken
    refine ⟨kept, ?_⟩
    dsimp only
    split_ifs with more
    · exact sound.begin whole ⟨InLoop.inRegion ⟨clause, more⟩, fun _ => ⟨clause, more⟩⟩
    · exact sound.place trivial
  · rename_i sector call place
    obtain ⟨moved, move, rfl⟩ := Option.map_eq_some_iff.mp taken
    exact sound.sector whole region place move
  · rename_i block place
    rw [place] at clause
    obtain rfl := Option.some.inj taken
    exact ⟨kept, sound.next clause.2⟩
  · rename_i block buffer place
    rw [place] at clause
    obtain rfl := Option.some.inj taken
    refine ⟨kept, sound.place ⟨?_, clause.2⟩⟩
    rw [sound.inherited]
    exact clause.1.verified whole
  · rename_i block errors place
    rw [place] at clause
    obtain rfl := Option.some.inj taken
    have still : ChildSound g signature file
        { child with error := child.error || decide (errors ≠ 0) } :=
      ⟨sound.inherited, by simp [sound.clean, clause.1], sound.activity⟩
    exact ⟨kept, still.next clause.2⟩
  · simp at taken

/-! ### Main -/

/-- Every block of the region before the given one has been written. -/
def Filled (g : Geometry) (signature : Word) (file : File Byte) (block : Word) : Prop :=
  ∀ other, InRegion g other → other.toNat < block.toNat →
    Holds file (canonical signature) (offset g other) (offset g other + g.blocksize.toNat)

/-- What main's place says. Before the first fork there is no child; from then on children
are counted, up to the last fork against the forks to come and then against the waits. -/
def MainClause (options : Options) (g : Geometry) (state : State) : MainPc → Prop
  | .opening _ | .syncing => NoChildren state
  | .initialising block => NoChildren state ∧ g.startBlock.toNat ≤ block.toNat ∧
      Filled g state.signature state.file block
  | .initWriting call => NoChildren state ∧ ∃ block pending, call = .writing block pending ∧
      InLoop g block ∧ Filled g state.signature state.file block ∧
      CallSound g state.signature state.file call
  | .verifying repeated block errors => NoChildren state ∧ repeated = false ∧ errors = 0 ∧
      g.startBlock.toNat ≤ block.toNat
  | .initReading repeated errors call => NoChildren state ∧ repeated = false ∧ errors = 0 ∧
      ∃ block pending buffer, call = .reading block pending buffer ∧ InLoop g block ∧
        CallSound g state.signature state.file call
  | .initChecked repeated block errors found => NoChildren state ∧ repeated = false ∧
      errors = 0 ∧ found = 0 ∧ InLoop g block
  | .forking remaining => occupancy state.child + remaining.length =
      options.linearTasks.toNat + options.randomTasks.toNat + 4
  | .waiting left => occupancy state.child = left
  | .exited _ => True

/-- The invariant of the machine. -/
structure Sound (options : Options) (g : Geometry) (state : State) : Prop where
  region : initialised state.main = true → RegionHolds g state.signature state.file
  child : ∀ pid child, state.child pid = some child →
    ChildSound g state.signature state.file child
  main : MainClause options g state state.main

variable {state after : State}

/-- Where there is a child there are children. -/
theorem somebody {pid : Pid} {child : Child} (present : state.child pid = some child) :
    ¬ NoChildren state := by
  intro nobody
  rw [nobody pid] at present
  cases present

/-- What holds of all children and of the one that is put in a place holds of all then. -/
theorem children_update {children : Pid → Option Child} {pid : Pid} {slot : Option Child}
    {Holds : Child → Prop} (here : ∀ child, slot = some child → Holds child)
    (others : ∀ other child, children other = some child → Holds child) :
    ∀ other child, Function.update children pid slot other = some child → Holds child := by
  intro other child present
  by_cases same : other = pid
  · subst other
    rw [Function.update_self] at present
    exact here child present
  · rw [Function.update_of_ne same] at present
    exact others other child present

/-- Main goes to another place after the file has been written. -/
theorem Sound.place (sound : Sound options g state) {main : MainPc}
    (written : RegionHolds g state.signature state.file)
    (clause : MainClause options g { state with main := main } main) :
    Sound options g { state with main := main } :=
  ⟨fun _ => written, sound.child, clause⟩

/-- Main goes to another place while there are no children. -/
theorem Sound.alone (file : File Byte) (signature : Word) {main : MainPc}
    (nobody : NoChildren state)
    (written : initialised main = true → RegionHolds g signature file)
    (clause : MainClause options g { state with file, signature, main } main) :
    Sound options g { state with file, signature, main } := by
  refine ⟨written, ?_, clause⟩
  intro pid child present
  exact absurd nobody (somebody present)

/-- The forks of a round. -/
theorem roles_length (options : Options) : (roles options).length =
    options.linearTasks.toNat + options.randomTasks.toNat + 4 := by
  simp [roles, Nat.add_assoc]

/-- Main waits for as many children as it has forked. The number does not wrap, because the
children that exist have different process ids. -/
theorem waits_eq (state : State) (count : occupancy state.child =
    options.linearTasks.toNat + options.randomTasks.toNat + 4) :
    waits options = occupancy state.child := by
  have bound : occupancy state.child ≤ 2 ^ 31 :=
    Nat.le_trans (occupancy_le state.child) (Nat.le_of_eq (Fintype.card_fin _))
  rw [waits, BitVec.toNat_add, BitVec.toNat_add, count]
  rw [count] at bound
  have four : (4 : Word).toNat = 4 := rfl
  rw [four]
  omega

/-- After a verification without errors main stops, or forks while there are no children. -/
theorem Sound.afterVerify (sound : Sound options g state)
    (written : RegionHolds g state.signature state.file) (nobody : NoChildren state) :
    Sound options g { state with main := afterVerify options g false 0 } := by
  unfold Tasks.afterVerify
  simp only [Bool.false_eq_true, ↓reduceIte]
  split
  · exact sound.place written trivial
  · apply sound.place written
    change occupancy state.child + (roles options).length = _
    rw [occupancy_eq_zero nobody, roles_length, Nat.zero_add]

/-- A fork adds a sound child. After the last one main waits for all of them. -/
theorem Sound.fork (sound : Sound options g state) {pid : Pid} {role : Role} {rest : List Role}
    (place : state.main = .forking (role :: rest)) (free : state.child pid = none) :
    Sound options g { state with
      child := Function.update state.child pid (some (newChild role state.signature))
      main := if rest.isEmpty then .waiting (waits options) else .forking rest } := by
  have clause := sound.main
  have region := sound.region
  rw [place] at clause region
  have count : occupancy state.child + (rest.length + 1) =
    options.linearTasks.toNat + options.randomTasks.toNat + 4 := clause
  have more := occupancy_take free (newChild role state.signature)
  refine ⟨fun _ => region rfl, ?_, ?_⟩
  · refine children_update ?_ sound.child
    rintro child ⟨⟩
    exact ⟨rfl, rfl, trivial⟩
  · cases rest with
    | nil =>
      have all : occupancy (Function.update state.child pid
          (some (newChild role state.signature))) =
          options.linearTasks.toNat + options.randomTasks.toNat + 4 := more.trans count
      have settled : waits options = occupancy (Function.update state.child pid
          (some (newChild role state.signature))) :=
        waits_eq { state with child := Function.update state.child pid _ } all
      exact settled.symm
    | cons following rest =>
      have fewer : (following :: rest).length = rest.length + 1 := List.length_cons
      change occupancy (Function.update state.child pid _) + (following :: rest).length = _
      rw [more]
      omega

/-- A wait removes a child. -/
theorem Sound.wait (sound : Sound options g state) {pid : Pid} {left : Nat} {child : Child}
    (place : state.main = .waiting (left + 1)) (present : state.child pid = some child)
    (status : Nat) : Sound options g { state with
      child := Function.update state.child pid none
      main := if status = 0 then .waiting left else .exited 1 } := by
  have clause := sound.main
  have region := sound.region
  rw [place] at clause region
  have fewer := occupancy_free present
  refine ⟨fun _ => region rfl, ?_, ?_⟩
  · refine children_update ?_ sound.child
    rintro child ⟨⟩
  · dsimp only
    split
    · exact Nat.succ.inj (fewer.trans clause)
    · trivial

/-- A round begins with an empty file. Nothing of the region is written. -/
theorem Sound.truncate (unwrapped : Unwrapped g) (sound : Sound options g state) {again : Bool}
    (place : state.main = .opening again) (signature : Word) : Sound options g { state with
      file := File.empty
      signature := signature
      main := .initialising g.startBlock } := by
  have clause := sound.main
  rw [place] at clause
  refine Sound.alone _ _ clause (fun written => absurd written Bool.false_ne_true)
    ⟨clause, Nat.le_refl _, ?_⟩
  intro other inside before
  exact absurd before (Nat.not_lt_of_le (unwrapped.above inside))

/-- The test of the initialisation loop. Behind the last block the whole region is written. -/
theorem Sound.initTest (unwrapped : Unwrapped g) (sound : Sound options g state) {block : Word}
    (place : state.main = .initialising block) : Sound options g { state with
      main := if block < g.startBlock + g.blocks then .initWriting (.writing block (allSectors g))
        else .syncing } := by
  have clause := sound.main
  rw [place] at clause
  obtain ⟨nobody, above, filled⟩ := clause
  split_ifs with more
  · exact Sound.alone _ _ nobody (fun written => absurd written Bool.false_ne_true)
      ⟨nobody, block, allSectors g, rfl, ⟨above, more⟩, filled, callSound_write block⟩
  · exact Sound.alone _ _ nobody (fun _ other inside =>
      filled other inside (unwrapped.passed more inside)) nobody

/-- A sector of the initialisation is written. -/
theorem Sound.initSector (whole : WholeSectors g) (sound : Sound options g state) {call : Call}
    {sector : Nat} {moved : File Byte × Call} (place : state.main = .initWriting call)
    (move : moveSector g state.signature state.file call sector = some moved) :
    Sound options g { state with file := moved.1, main := .initWriting moved.2 } := by
  have clause := sound.main
  rw [place] at clause
  obtain ⟨nobody, block, pending, rfl, inLoop, filled, writing⟩ := clause
  obtain ⟨grown, still, same⟩ := moveSector_writing whole writing move
  exact Sound.alone _ _ nobody (fun written => absurd written Bool.false_ne_true)
    ⟨nobody, block, _, same, inLoop,
      fun other inside before => grown _ _ (filled other inside before), still⟩

/-- A block of the initialisation is written, and the loop goes on behind it. -/
theorem Sound.initFinish (whole : WholeSectors g) (sound : Sound options g state) {block : Word}
    (place : state.main = .initWriting (.writing block [])) :
    Sound options g { state with main := .initialising (block + 1) } := by
  have clause := sound.main
  rw [place] at clause
  obtain ⟨nobody, found, pending, same, inLoop, filled, writing⟩ := clause
  obtain ⟨rfl, rfl⟩ := Call.writing.inj same
  have next := toNat_succ inLoop.2
  refine Sound.alone _ _ nobody (fun written => absurd written Bool.false_ne_true)
    ⟨nobody, ?_, ?_⟩
  · rw [next]
    exact Nat.le_succ_of_le inLoop.1
  · intro other inside before
    rw [next] at before
    rcases Nat.lt_succ_iff_lt_or_eq.mp before with earlier | here
    · exact filled other inside earlier
    · rw [BitVec.eq_of_toNat_eq here]
      exact writing.written whole

/-- The verifying loop begins its first block. -/
theorem Sound.sync (sound : Sound options g state) (place : state.main = .syncing) :
    Sound options g { state with main := .verifying false g.startBlock 0 } := by
  have clause := sound.main
  have region := sound.region
  rw [place] at clause region
  exact sound.place (region rfl) ⟨clause, rfl, rfl, Nat.le_refl _⟩

/-- The file that has just been written is read with no sector missing. -/
theorem Sound.read (whole : WholeSectors g) (sound : Sound options g state) {repeated : Bool}
    {block errors : Word} {call : Call} (place : state.main = .verifying repeated block errors)
    (more : block < g.startBlock + g.blocks) (begun : beginRead g state.file block = some call) :
    Sound options g { state with main := .initReading repeated errors call } := by
  have clause := sound.main
  have region := sound.region
  rw [place] at clause region
  obtain ⟨nobody, rfl, rfl, above⟩ := clause
  obtain ⟨reading, _, pending, buffer, rfl⟩ := callSound_read whole begun
  exact sound.place (region rfl)
    ⟨nobody, rfl, rfl, block, pending, buffer, rfl, ⟨above, more⟩, reading⟩

/-- The verifying loop ends without an error. -/
theorem Sound.verified (sound : Sound options g state) {repeated : Bool} {block errors : Word}
    (place : state.main = .verifying repeated block errors) :
    Sound options g { state with main := Tasks.afterVerify options g repeated errors } := by
  have clause := sound.main
  have region := sound.region
  rw [place] at clause region
  obtain ⟨nobody, rfl, rfl, _⟩ := clause
  exact sound.afterVerify (region rfl) nobody

/-- A sector of the verifying loop is read. -/
theorem Sound.readSector (sound : Sound options g state) {repeated : Bool} {errors : Word}
    {call : Call} {sector : Nat} {moved : File Byte × Call}
    (place : state.main = .initReading repeated errors call)
    (move : moveSector g state.signature state.file call sector = some moved) :
    Sound options g { state with
      file := moved.1
      main := .initReading repeated errors moved.2 } := by
  have clause := sound.main
  have region := sound.region
  rw [place] at clause region
  obtain ⟨nobody, rfl, rfl, block, pending, buffer, rfl, inLoop, reading⟩ := clause
  obtain ⟨same, still, filled, shape⟩ :=
    moveSector_reading (region rfl block inLoop.inRegion) reading move
  rw [same]
  exact sound.place (region rfl)
    ⟨nobody, rfl, rfl, block, _, filled, shape, inLoop, still⟩

/-- A block that has been read has no errors. -/
theorem Sound.readFinish (whole : WholeSectors g) (sound : Sound options g state)
    {repeated : Bool} {errors block : Word} {buffer : Nat → Byte}
    (place : state.main = .initReading repeated errors (.reading block [] buffer)) :
    Sound options g { state with
      main := .initChecked repeated block errors
        (blockErrors g state.signature block buffer) } := by
  have clause := sound.main
  have region := sound.region
  rw [place] at clause region
  obtain ⟨nobody, rfl, rfl, found, pending, filled, same, inLoop, reading⟩ := clause
  obtain ⟨rfl, rfl, rfl⟩ := Call.reading.inj same
  exact sound.place (region rfl) ⟨nobody, rfl, rfl, reading.verified whole, inLoop⟩

/-- A checked block is recorded. No errors were found in it, so the loop goes on behind it. -/
theorem Sound.record (sound : Sound options g state) {repeated : Bool} {block errors : Word}
    {found : Nat} (place : state.main = .initChecked repeated block errors found) :
    found = 0 ∧ Sound options g { state with main := .verifying repeated (block + 1) errors } := by
  have clause := sound.main
  have region := sound.region
  rw [place] at clause region
  obtain ⟨nobody, rfl, rfl, rfl, inLoop⟩ := clause
  refine ⟨rfl, sound.place (region rfl) ⟨nobody, rfl, rfl, ?_⟩⟩
  rw [toNat_succ inLoop.2]
  exact Nat.le_succ_of_le inLoop.1

/-- All children have been waited for. -/
theorem Sound.again (sound : Sound options g state) (place : state.main = .waiting 0) :
    Sound options g { state with
      main := if options.infiniteLoop then .opening true else .exited 0 } := by
  have clause := sound.main
  have region := sound.region
  rw [place] at clause region
  split
  · exact sound.place (region rfl) (free_of_occupancy clause)
  · exact sound.place (region rfl) trivial

/-- Main exits once the file has been written. -/
theorem Sound.exit (sound : Sound options g state) (status : Nat)
    (written : initialised state.main = true) :
    Sound options g { state with main := .exited status } :=
  sound.place (sound.region written) trivial

/-- Main's steps keep the invariant, in a region that does not wrap. There is a lemma above for each
place of main where something is to be shown. -/
theorem Sound.mainStep (whole : WholeSectors g) (unwrapped : Unwrapped g)
    (sound : Sound options g state) {act : MainAct}
    (taken : mainStep options g state act = some after) : Sound options g after := by
  unfold Tasks.mainStep at taken
  split at taken
  · rename_i place
    exact Option.some.inj taken ▸ sound.truncate unwrapped place _
  · rename_i block place
    have kept := sound.initTest unwrapped place
    split_ifs at taken kept <;> exact Option.some.inj taken ▸ kept
  · rename_i place
    obtain ⟨moved, move, rfl⟩ := Option.map_eq_some_iff.mp taken
    exact sound.initSector whole place move
  · rename_i place
    exact Option.some.inj taken ▸ sound.initFinish whole place
  · rename_i place
    exact Option.some.inj taken ▸ sound.sync place
  · rename_i place
    split_ifs at taken with more
    · split at taken <;> obtain rfl := Option.some.inj taken
      · rename_i begun
        exact sound.read whole place more begun
      · exact sound.exit 1 (by rw [place]; rfl)
    · exact Option.some.inj taken ▸ sound.verified place
  · rename_i place
    obtain ⟨moved, move, rfl⟩ := Option.map_eq_some_iff.mp taken
    exact sound.readSector place move
  · rename_i place
    exact Option.some.inj taken ▸ sound.readFinish whole place
  · rename_i place
    obtain ⟨none, kept⟩ := sound.record place
    rw [if_pos none] at taken
    exact Option.some.inj taken ▸ kept
  · rename_i place
    exact Option.some.inj taken ▸ sound.exit 1 (by rw [place]; rfl)
  · rename_i pid role rest place
    by_cases free : state.child pid = none
    · simp only [free, Option.isNone_none, ↓reduceIte, Option.some.injEq] at taken
      exact taken ▸ sound.fork place free
    · simp [free] at taken
  · rename_i pid left place
    split at taken
    · rename_i status present
      exact Option.some.inj taken ▸ sound.wait place present status
    · simp at taken
  · rename_i place
    exact Option.some.inj taken ▸ sound.again place
  · simp at taken

/-! ### Runs -/

/-- While there is a child the file has been written. -/
theorem Sound.initialised (sound : Sound options g state) {pid : Pid} {child : Child}
    (present : state.child pid = some child) : initialised state.main = true := by
  have clause := sound.main
  cases place : state.main with
  | opening again =>
    rw [place] at clause
    exact absurd clause (somebody present)
  | initialising block | initWriting call =>
    rw [place] at clause
    exact absurd clause.1 (somebody present)
  | _ => rfl

/-- Children's steps keep the invariant: a child that is there has been forked behind the
initialisation, and its writes leave the content of the region as it is. -/
theorem Sound.childStep (whole : WholeSectors g) (sound : Sound options g state) {pid : Pid}
    {child : Child} {act : ChildAct} {moved : File Byte × Child}
    (present : state.child pid = some child)
    (taken : childStep g state.file child act = some moved) :
    Sound options g { state with
      file := moved.1
      child := Function.update state.child pid (some moved.2) } := by
  have written := sound.region (sound.initialised present)
  obtain ⟨grown, still⟩ := (sound.child pid child present).step whole written taken
  refine ⟨fun _ block inside => grown _ _ (written block inside), ?_, ?_⟩
  · refine children_update ?_ fun other found there => (sound.child other found there).grow grown
    rintro child ⟨⟩
    exact still
  · have clause := sound.main
    cases place : state.main with
    | opening again | syncing =>
      rw [place] at clause
      exact absurd clause (somebody present)
    | initialising block | initWriting call | verifying repeated block errors
    | initReading repeated errors call | initChecked repeated block errors found =>
      rw [place] at clause
      exact absurd clause.1 (somebody present)
    | forking remaining =>
      rw [place] at clause
      change occupancy (Function.update state.child pid (some moved.2)) + remaining.length = _
      rw [occupancy_replace present]
      exact clause
    | waiting left =>
      rw [place] at clause
      exact (occupancy_replace present moved.2).trans clause
    | exited status => trivial

/-- The invariant holds in every run whose region does not wrap. -/
theorem reachable_sound (set : geometry options = some g)
    (multiple : 512 ∣ options.blocksize.toNat) (unwrapped : Unwrapped g)
    (reached : Reachable (step options) Unrestricted Initial state) : Sound options g state := by
  have whole := wholeSectors_of_geometry set multiple
  apply reached.invariant (Sound options g)
  · rintro state ⟨place, nobody⟩
    refine ⟨?_, ?_, ?_⟩
    · intro written
      rw [place] at written
      exact absurd written Bool.false_ne_true
    · intro pid child present
      exact absurd nobody (somebody present)
    · rw [place]
      exact nobody
  · intro before label after _ sound _ taken
    simp only [step, set] at taken
    cases label with
    | main act => exact sound.mainStep whole unwrapped taken
    | child pid act =>
      obtain ⟨child, present, rest⟩ := Option.bind_eq_some_iff.mp taken
      obtain ⟨moved, move, rfl⟩ := Option.map_eq_some_iff.mp rest
      exact sound.childStep whole present move

/-- Sound states are safe. A child exists only behind the initialisation, so the region holds what
belongs there, and what is found in it is no error. -/
theorem Sound.safe (set : geometry options = some g) (sound : Sound options g state) :
    Safe options state := by
  have clause := sound.main
  refine ⟨?_, ?_, ?_, ?_⟩
  · intro found again written
    obtain rfl := Option.some.inj (set.symm.trans again)
    exact sound.region written
  · intro repeated block errors found place
    rw [place] at clause
    exact clause.2.2.2.1
  · intro pid child block errors present place
    have activity := (sound.child pid child present).activity
    rw [place] at activity
    exact activity.1
  · intro early
    cases place : state.main with
    | opening again =>
      rw [place] at clause
      exact clause
    | initialising block | initWriting call =>
      rw [place] at clause
      exact clause.1
    | _ => simp [place, rewriting] at early

/-- With a block size of zero main ends before it does anything. -/
theorem reachable_killed (killed : geometry options = none)
    (reached : Reachable (step options) Unrestricted Initial state) :
    NoChildren state ∧ (state.main = .opening false ∨ state.main = .exited 8) := by
  apply reached.invariant (fun state =>
    NoChildren state ∧ (state.main = .opening false ∨ state.main = .exited 8))
  · rintro state ⟨place, nobody⟩
    exact ⟨nobody, .inl place⟩
  · intro before label after _ clause _ taken
    simp only [step, killed] at taken
    split at taken
    · obtain rfl := Option.some.inj taken
      exact ⟨clause.1, .inr rfl⟩
    · simp at taken

/-- A wrapped region is not written: main is past the initialisation with an empty file. -/
theorem wrapped_unsafe (set : geometry options = some g) (wrapped : ¬ Unwrapped g) :
    ∃ state, Reachable (step options) Unrestricted Initial state ∧ ¬ Safe options state := by
  have nonempty : 0 < g.blocks.toNat :=
    BitVec.toNat_pos_of_ne_zero fun zero => wrapped (.inl zero)
  have positive : 0 < g.blocksize.toNat := by
    unfold geometry at set
    split_ifs at set with zero
    obtain rfl := Option.some.inj set
    exact BitVec.toNat_pos_of_ne_zero zero
  have ended : ¬ g.startBlock < g.startBlock + g.blocks := by
    intro less
    have start := g.startBlock.isLt
    have count := g.blocks.isLt
    have last := BitVec.lt_def.mp less
    rw [BitVec.toNat_add] at last
    exact wrapped (.inr (by omega))
  let begun : State := ⟨File.empty, 0, .opening false, fun _ => none⟩
  refine ⟨{ begun with main := .syncing }, ?_, ?_⟩
  · refine .next { begun with main := .initialising g.startBlock } (.main .test) _
      (.next begun (.main (.truncate 0)) _ (.start begun ⟨rfl, fun _ => rfl⟩) trivial ?_)
      trivial ?_
    · simp [step, set, mainStep, begun]
    · simp [step, set, mainStep, begun, ended]
  · intro safe
    have holds := safe.region g set rfl (g.startBlock + BitVec.ofNat 32 0) ⟨0, nonempty, rfl⟩
    exact Nat.not_lt_zero _ (holds _ (Nat.le_refl _) (Nat.lt_add_of_pos_right positive)).1

/-- No false alarm. For every block size that is a multiple of the sector size and any number
of tasks, every state of every run is safe exactly when the region that main sets up is
empty or ends below block 2^32. -/
theorem no_false_alarm_iff (options : Options) (multiple : 512 ∣ options.blocksize.toNat) :
    (∀ state, Reachable (step options) Unrestricted Initial state → Safe options state) ↔
      ∀ g, geometry options = some g →
        g.blocks = 0 ∨ g.startBlock.toNat + g.blocks.toNat < 2 ^ 32 := by
  constructor
  · intro always g set
    by_contra wrapped
    obtain ⟨state, reached, harmed⟩ := wrapped_unsafe set wrapped
    exact harmed (always state reached)
  · intro unwrapped state reached
    cases set : geometry options with
    | none =>
      obtain ⟨nobody, place⟩ := reachable_killed set reached
      refine ⟨?_, ?_, ?_, fun _ => nobody⟩
      · intro g found
        simp [set] at found
      · intro repeated block errors found checked
        simp [checked] at place
      · intro pid child block errors present
        simp [nobody pid] at present
    | some g => exact (reachable_sound set multiple (unwrapped g set) reached).safe set

/-- No run of the default options raises an alarm. -/
theorem no_false_alarm_default : 512 ∣ (sized 1 0 4096).blocksize.toNat ∧
    ∀ state, Reachable (step (sized 1 0 4096)) Unrestricted Initial state →
      Safe (sized 1 0 4096) state := by
  have multiple : 512 ∣ (sized 1 0 4096).blocksize.toNat := by decide
  refine ⟨multiple, (no_false_alarm_iff (sized 1 0 4096) multiple).mpr ?_⟩
  intro g found
  have set : geometry (sized 1 0 4096) = some ⟨4096, 0, 256, 8⟩ := by rfl
  obtain rfl := Option.some.inj (set.symm.trans found)
  exact .inr (by decide)

/-- A region of one tebibyte behind the first one, in blocks of a sector, with a writer and
the verifiers. -/
def wrappedOptions : Options :=
  { sized 1048576 1048576 512 with linearTasks := 0, randomTasks := 1 }

/-- Main finds nothing to write and nothing wrong. The writer writes the second block of the
region, and a verifier reads the first one. -/
def alarmSchedule (writer linear direct verifier : Pid) (first second : Draw) : List Label :=
  [.main (.truncate 1), .main .test, .main .sync, .main .test, .main (.fork (some writer)),
    .main (.fork (some linear)), .main (.fork (some direct)), .main (.fork (some verifier)),
    .child writer (.poll true second), .child writer (.sector 0), .child writer .finish,
    .child verifier (.poll true first), .child verifier (.sector 0), .child verifier .finish]

/-- A verifier has found errors. -/
def alarmed (pid : Pid) (state : State) : Bool :=
  match state.child pid with
  | some ⟨_, _, _, .checked _ errors⟩ => errors != 0
  | _ => false

/-- When the region wraps, a verifier reports errors in a block that was never written. -/
theorem false_alarm : ¬ ∀ options state, 512 ∣ options.blocksize.toNat →
    Reachable (step options) Unrestricted Initial state → Safe options state := by
  intro always
  obtain ⟨state, reached, test⟩ := replay_exhibits (step wrappedOptions) (fun _ _ => True) Initial
    (alarmSchedule 1 2 3 4 0 1) ⟨File.empty, 0, .opening false, fun _ => none⟩ (alarmed 4)
    ⟨rfl, fun _ => rfl⟩ (by decide +kernel)
  have safe := always wrappedOptions state (by decide) reached
  unfold alarmed at test
  split at test
  · rename_i present
    rw [safe.childAlarm _ _ _ _ present rfl] at test
    exact absurd test (by decide)
  · exact absurd test Bool.false_ne_true

end AvocadoMisc.Disktest.FalseAlarms
