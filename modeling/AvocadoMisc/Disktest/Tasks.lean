import Mathlib.Logic.Function.Basic
import AvocadoMisc.Library.Transitions
import AvocadoMisc.Disktest.Detection

/-!
# The test with its tasks

A round truncates the file, writes and verifies all blocks, forks the writers and the four
verifiers, and waits for as many children as it has forked. With `-L` another round
follows, under another signature.

The machine interleaves main and its children. A child has its own copy of the signature.
Writes and reads of a block are not atomic: its sectors move one at a time, in any order.
The labels choose which process moves, which sector moves, what `time` and `random` answer
and which process id a fork returns. Reads, writes and `fsync` succeed, but a read behind
the end of the file is short, and a fork may fail. A process id is in use until main has
waited for the process.

The model is for block sizes in whole sectors and for runs without `-v`.
-/

namespace AvocadoMisc.Disktest.Tasks

open Library.SparseFile Library.Transitions Blocks Detection

/-- A positive `pid_t`. -/
abbrev Pid := Fin 2147483648

/-- A value of `random()`. -/
abbrev Draw := Fin 2147483648

/-- The order in which a task goes through the blocks. -/
inductive Access where
  | linear
  | random
deriving DecidableEq

/-- What a child was forked for. -/
inductive Role where
  | writer (access : Access)
  | verifier (access : Access) (direct : Bool)
deriving DecidableEq

/-- The order of a role. -/
def Role.access : Role → Access
  | .writer access => access
  | .verifier access _ => access

/-- A `write` or `read` of a block whose `pending` sectors have not moved yet. -/
inductive Call where
  | writing (block : Word) (pending : List Nat)
  | reading (block : Word) (pending : List Nat) (buffer : Nat → Byte)

/-- Where a child is. -/
inductive Activity where
  | polling
  | looping (block : Word)
  | calling (call : Call)
  | checked (block : Word) (errors : Nat)
  | ended (status : Nat)

/-- A child with its copy of the signature and its `error`. -/
structure Child where
  role : Role
  signature : Word
  error : Bool
  activity : Activity

/-- Where main is. `repeated` tells the second `double_verify` from the first. -/
inductive MainPc where
  | opening (again : Bool)
  | initialising (block : Word)
  | initWriting (call : Call)
  | syncing
  | verifying (repeated : Bool) (block errors : Word)
  | initReading (repeated : Bool) (errors : Word) (call : Call)
  | initChecked (repeated : Bool) (block errors : Word) (found : Nat)
  | forking (remaining : List Role)
  | waiting (left : Nat)
  | exited (status : Nat)

/-- The file and all processes. -/
structure State where
  file : File Byte
  signature : Word
  main : MainPc
  child : Pid → Option Child

/-- Steps of main. -/
inductive MainAct where
  | truncate (signature : Word)
  | test
  | sector (sector : Nat)
  | finish
  | sync
  | record
  | fork (pid : Option Pid)
  | wait (pid : Pid)
  | again

/-- Steps of a child. -/
inductive ChildAct where
  | poll (early : Bool) (draw : Draw)
  | test
  | sector (sector : Nat)
  | finish
  | record

/-- A step and who takes it. -/
inductive Label where
  | main (act : MainAct)
  | child (pid : Pid) (act : ChildAct)

/-! ### Writes and reads by sectors -/

/-- All sectors of a block. -/
def allSectors (g : Geometry) : List Nat := List.range g.sectorsPerBlock.toNat

/-- `read` of a block. It is short behind the end of the file. -/
def beginRead (g : Geometry) (file : File Byte) (block : Word) : Option Call :=
  if offset g block + g.blocksize.toNat ≤ file.size then
    some (.reading block (allSectors g) fun _ => 0)
  else none

/-- One sector moves to or from the file. The loops of `write_block` have filled the whole
buffer before its first sector moves. -/
def moveSector (g : Geometry) (signature : Word) (file : File Byte) (call : Call)
    (sector : Nat) : Option (File Byte × Call) :=
  match call with
  | .writing block pending =>
    if sector ∈ pending then
      some (file.write (offset g block + 512 * sector) 512 fun i =>
        fillBlock g signature block (fun _ => 0) (512 * sector + i),
        .writing block (pending.erase sector))
    else none
  | .reading block pending buffer =>
    if sector ∈ pending then
      some (file, .reading block (pending.erase sector) fun i =>
        if i / 512 = sector then file.byte (offset g block + i) else buffer i)
    else none

/-! ### Children -/

/-- The child after a block: a linear task goes on to the next one. -/
def Child.next (child : Child) (block : Word) : Child :=
  match child.role.access with
  | .linear => { child with activity := .looping (block + 1) }
  | .random => { child with activity := .polling }

/-- The child begins `write_block` or `verify_block`. -/
def Child.begin (g : Geometry) (file : File Byte) (child : Child) (block : Word) : Child :=
  match child.role with
  | .writer _ => { child with activity := .calling (.writing block (allSectors g)) }
  | .verifier _ _ =>
    match beginRead g file block with
    | some call => { child with activity := .calling call }
    | none => { child with activity := .ended 1 }

/-- `exit(0)` of a writer, `exit(error)` of a verifier. -/
def Child.leave (child : Child) : Child :=
  match child.role with
  | .writer _ => { child with activity := .ended 0 }
  | .verifier _ _ => { child with activity := .ended (if child.error then 1 else 0) }

/-- The body of the loop on the clock. A random task divides by `blocks`, and a division by
zero ends it with a signal. -/
def Child.work (g : Geometry) (file : File Byte) (child : Child) (draw : Draw) : Child :=
  match child.role.access with
  | .linear => { child with activity := .looping g.startBlock }
  | .random =>
    if g.blocks = 0 then { child with activity := .ended 8 }
    else child.begin g file (g.startBlock + BitVec.ofNat 32 (draw.val % g.blocks.toNat))

/-- One step of `write_file` or `verify_file` in a child: poll whether to end, test for another
block, transfer a sector, or end the call for a block. A step that does not fit the activity is
none. -/
def childStep (g : Geometry) (file : File Byte) (child : Child) (act : ChildAct) :
    Option (File Byte × Child) :=
  match act, child.activity with
  | .poll early draw, .polling =>
    some (file, if early then child.work g file draw else child.leave)
  | .test, .looping block =>
    some (file, if block < g.startBlock + g.blocks then child.begin g file block
      else { child with activity := .polling })
  | .sector sector, .calling call =>
    (moveSector g child.signature file call sector).map fun moved =>
      (moved.1, { child with activity := .calling moved.2 })
  | .finish, .calling (.writing block []) => some (file, child.next block)
  | .finish, .calling (.reading block [] buffer) =>
    some (file, { child with
      activity := .checked block (blockErrors g child.signature block buffer) })
  | .record, .checked block errors =>
    some (file, { child with error := child.error || errors ≠ 0 }.next block)
  | _, _ => none

/-! ### Main -/

/-- The forks of a round, in order. -/
def roles (options : Options) : List Role :=
  List.replicate options.linearTasks.toNat (.writer .linear) ++
    List.replicate options.randomTasks.toNat (.writer .random) ++
    [.verifier .linear false, .verifier .linear true, .verifier .random false,
      .verifier .random true]

/-- The number of waits, `linear_tasks + random_tasks + 4` in 32 bits. -/
def waits (options : Options) : Nat := (options.linearTasks + options.randomTasks + 4).toNat

/-- After `double_verify` in main. -/
def afterVerify (options : Options) (g : Geometry) (repeated : Bool) (errors : Word) : MainPc :=
  if repeated then .exited 1
  else if errors = 0 then
    if options.initOnly then .exited 0 else .forking (roles options)
  else if options.stopOnError then .exited 1
  else .verifying true g.startBlock 0

/-- A new child of a fork. -/
def newChild (role : Role) (signature : Word) : Child where
  role := role
  signature := signature
  error := false
  activity := .polling

/-- One step of main: write the file, sync it, verify it, make the children, and wait for them. With
`-L` it begins again. A failing call or child ends the program with status 1. -/
def mainStep (options : Options) (g : Geometry) (state : State) (act : MainAct) :
    Option State :=
  match act, state.main with
  | .truncate signature, .opening _ =>
    some { state with
      file := File.empty
      signature := signature
      main := .initialising g.startBlock }
  | .test, .initialising block =>
    if block < g.startBlock + g.blocks then
      some { state with main := .initWriting (.writing block (allSectors g)) }
    else some { state with main := .syncing }
  | .sector sector, .initWriting call =>
    (moveSector g state.signature state.file call sector).map fun moved =>
      { state with file := moved.1, main := .initWriting moved.2 }
  | .finish, .initWriting (.writing block []) =>
    some { state with main := .initialising (block + 1) }
  | .sync, .syncing => some { state with main := .verifying false g.startBlock 0 }
  | .test, .verifying repeated block errors =>
    if block < g.startBlock + g.blocks then
      match beginRead g state.file block with
      | some call => some { state with main := .initReading repeated errors call }
      | none => some { state with main := .exited 1 }
    else some { state with main := afterVerify options g repeated errors }
  | .sector sector, .initReading repeated errors call =>
    (moveSector g state.signature state.file call sector).map fun moved =>
      { state with file := moved.1, main := .initReading repeated errors moved.2 }
  | .finish, .initReading repeated errors (.reading block [] buffer) =>
    some { state with
      main := .initChecked repeated block errors (blockErrors g state.signature block buffer) }
  | .record, .initChecked repeated block errors found =>
    if found = 0 then some { state with main := .verifying repeated (block + 1) errors }
    else if options.stopOnError then
      some { state with main := afterVerify options g repeated 1 }
    else some { state with main := .verifying repeated (block + 1) (errors + 1) }
  | .fork none, .forking (_ :: _) => some { state with main := .exited 1 }
  | .fork (some pid), .forking (role :: rest) =>
    if (state.child pid).isNone then
      some { state with
        child := Function.update state.child pid (some (newChild role state.signature))
        main := if rest.isEmpty then .waiting (waits options) else .forking rest }
    else none
  | .wait pid, .waiting (left + 1) =>
    match state.child pid with
    | some ⟨_, _, _, .ended status⟩ =>
      some { state with
        child := Function.update state.child pid none
        main := if status = 0 then .waiting left else .exited 1 }
    | _ => none
  | .again, .waiting 0 =>
    some { state with main := if options.infiniteLoop then .opening true else .exited 0 }
  | _, _ => none

/-- One step of any process. A block size of zero ends main before its first open. -/
def step (options : Options) (state : State) (label : Label) : Option State :=
  match geometry options with
  | none =>
    match label, state.main with
    | .main (.truncate _), .opening _ => some { state with main := .exited 8 }
    | _, _ => none
  | some g =>
    match label with
    | .main act => mainStep options g state act
    | .child pid act =>
      (state.child pid).bind fun child =>
        (childStep g state.file child act).map fun moved =>
          { state with
            file := moved.1
            child := Function.update state.child pid (some moved.2) }

/-- Before the first round: some file may exist, and there is no child. -/
def Initial (state : State) : Prop :=
  state.main = .opening false ∧ ∀ pid, state.child pid = none

end AvocadoMisc.Disktest.Tasks
