import AvocadoMisc.Library.Scripts

/-!
# The storage stack of the disk benchmarks

`fs_mark.py`, `tiobench.py` and `bonnie.py` have the same code to put a RAID, a logical volume and
a file system on a disk, each of them if it is asked for, and to take them away again. A flag for
each layer is set after the layer was made.

A step that makes something may raise, whether it made it or not. `tearDown` looks at the flags, so
a layer that was made by a step that raised is taken away only together with a flagged layer
below it.

Two of the messages about a clean-up that did not work are given to `append` with two arguments,
which raises. The removal of a logical volume raises when it does not work, and the wiping of what
the volume group leaves on its device is not looked at.
-/

namespace AvocadoMisc.DiskBench.StorageStack

open Library.Scripts

/-! ### The stack -/

/-- What is on the disk. The volume group is on the RAID if one was asked for, and on the disk
otherwise; the file system is on the uppermost layer. -/
structure Stack where
  raid : Bool
  physicalVolume : Bool
  volumeGroup : Bool
  logicalVolume : Bool
  fileSystem : Bool
  mounted : Bool
  deriving DecidableEq

/-- A disk with nothing on it. -/
def bare : Stack := ⟨false, false, false, false, false, false⟩

/-- Neither a file system, a logical volume, a volume group nor a RAID. -/
def Stack.Bare (stack : Stack) : Prop :=
  stack.raid = false ∧ stack.volumeGroup = false ∧ stack.logicalVolume = false ∧
    stack.fileSystem = false

instance (stack : Stack) : Decidable stack.Bare := inferInstanceAs (Decidable (_ ∧ _))

/-- What is asked for, layer by layer, and the name of the disk. -/
structure Request where
  disk : String
  raidNeeded : Bool
  lvNeeded : Bool
  fsNeeded : Bool

/-- `self.raid_name`. -/
def raidName : String := "/dev/md/sraid"

/-- `self.lvname`. -/
def lvName : String := "avocado_lv"

/-- `self.target` when all layers are there. -/
def Request.target (request : Request) : String :=
  if request.lvNeeded then "/dev/avocado_vg/avocado_lv"
  else if request.raidNeeded then raidName
  else request.disk

/-! ### What the test meets -/

/-- How a step ends that makes something: it is done, or it raises and has made it or not. -/
inductive Making where
  | done
  | raised (made : Bool)
  deriving DecidableEq

/-- How the creation of a RAID ends. It may also return without having made one. -/
inductive RaidMaking where
  | returned (made : Bool)
  | raised (made : Bool)
  deriving DecidableEq

/-- What setting up meets: whether it comes to the layers, and how the steps end. -/
structure Creation where
  reachesLayers : Bool
  raid : RaidMaking
  totalSpace : Bool
  vgCreate : Making
  lvCreate : Making
  unmount : Bool
  mkfs : Making
  mount : Making

/-- How the removal of the logical volume and its group ends. It may raise after the volume was
removed. -/
inductive LvRemoval where
  | removed
  | remains
  | raises (lvGone : Bool)
  deriving DecidableEq

/-- What taking down meets: whether the mount is listed under the name of the device, and whether
each of the steps works. -/
structure Cleaning where
  listed : Bool
  unmountDisk : Bool
  unmountDir : Bool
  wipeFs : Bool
  lvRemoval : LvRemoval
  wipeLvDisk : Bool
  wipeRaid : Bool
  raidRemoval : Bool

/-- Every unmount, wipe and remove command works. -/
def Cleaning.Works (cleaning : Cleaning) : Prop :=
  cleaning.unmountDisk = true ∧ cleaning.unmountDir = true ∧ cleaning.wipeFs = true ∧
    cleaning.lvRemoval = .removed ∧ cleaning.wipeLvDisk = true ∧ cleaning.wipeRaid = true ∧
    cleaning.raidRemoval = true

/-- The steps of the clean-up. -/
inductive Step where
  | unmountDisk
  | unmountDir
  | wipeFs
  | removeLv
  | wipeLvDisk
  | wipeRaid
  | removeRaid
  deriving DecidableEq

/-- The message that belongs to a step. There is none for what a volume group leaves. -/
def Step.message (request : Request) (dir : String) : Step → Option String
  | .unmountDisk => some (request.target ++ " unmount failed")
  | .unmountDir => some ("failed to unount " ++ dir)
  | .wipeFs => some ("failed to delete fs on " ++ request.target)
  | .removeLv => some ("failed to delete lv " ++ lvName)
  | .removeRaid => some ("failed to delete sraid " ++ raidName)
  | .wipeLvDisk => none
  | .wipeRaid => none

/-- The stack, the flags, the steps of the clean-up so far with whether they worked, and the steps
whose message was recorded in `err_mesg`. -/
structure State where
  stack : Stack
  raidCreate : Bool
  lvCreate : Bool
  fsCreate : Bool
  steps : List (Step × Bool)
  errMesg : List Step

/-- A script raises when it stops. -/
abbrev Script := EStateM PUnit State

/-- Change the stack. -/
def onStack (change : Stack → Stack) : Script PUnit :=
  modify fun state => { state with stack := change state.stack }

/-! ### Setting up -/

/-- A step that makes something. -/
def make (making : Making) (change : Stack → Stack) : Script PUnit :=
  match making with
  | .done => onStack change
  | .raised true => do
    onStack change
    throw ⟨⟩
  | .raised false => throw ⟨⟩

/-- `create_raid`. Its result is not looked at. -/
def createRaid (creation : Creation) : Script PUnit :=
  match creation.raid with
  | .returned made => onStack fun stack => { stack with raid := made }
  | .raised made => do
    onStack fun stack => { stack with raid := made }
    throw ⟨⟩

/-- A step on a device that is not there raises. -/
def onDevice (missing : Stack → Bool) : Script PUnit := do
  let state ← get
  demand (missing state.stack = false) ⟨⟩

/-- `create_lv`. -/
def createLv (request : Request) (creation : Creation) : Script PUnit := do
  onDevice fun stack => request.raidNeeded && !stack.raid
  demand creation.totalSpace ⟨⟩
  make creation.vgCreate fun stack => { stack with physicalVolume := true, volumeGroup := true }
  make creation.lvCreate fun stack => { stack with logicalVolume := true }

/-- `create_fs`. A mount that does not work makes the test fail. -/
def createFs (request : Request) (creation : Creation) : Script PUnit := do
  onDevice fun stack => request.raidNeeded && !stack.raid
  demand creation.unmount ⟨⟩
  make creation.mkfs fun stack => { stack with fileSystem := true }
  make creation.mount fun stack => { stack with mounted := true }

/-- The layer of the RAID, with its flag. -/
def raidLayer (request : Request) (creation : Creation) : Script PUnit :=
  if request.raidNeeded then do
    createRaid creation
    modify fun state => { state with raidCreate := true }
  else pure ⟨⟩

/-- The layer of the logical volume, with its flag. -/
def lvLayer (request : Request) (creation : Creation) : Script PUnit :=
  if request.lvNeeded then do
    createLv request creation
    modify fun state => { state with lvCreate := true }
  else pure ⟨⟩

/-- The layer of the file system, with its flag. -/
def fsLayer (request : Request) (creation : Creation) : Script PUnit :=
  if request.fsNeeded then do
    createFs request creation
    modify fun state => { state with fsCreate := true }
  else pure ⟨⟩

/-- `setUp`, after the clean-up before the test. -/
def setUp (request : Request) (creation : Creation) : Script PUnit := do
  demand creation.reachesLayers ⟨⟩
  raidLayer request creation
  lvLayer request creation
  fsLayer request creation

/-- The state before anything is made. -/
def start : State := ⟨bare, false, false, false, [], []⟩

/-! ### Taking down -/

/-- A step of the clean-up was tried. -/
def tried (step : Step) (works : Bool) : Script PUnit :=
  modify fun state => { state with steps := state.steps ++ [(step, works)] }

/-- `self.err_mesg.append(message)`. -/
def append (step : Step) : Script PUnit :=
  modify fun state => { state with errMesg := state.errMesg ++ [step] }

/-- Unmount, and raise if that does not work: the message has two arguments. -/
def unmountStep (step : Step) (works : Bool) : Script PUnit := do
  tried step works
  demand works ⟨⟩
  onStack fun stack => { stack with mounted := false }

/-- The part of `delete_fs` about the disk. -/
def unmountDisk (cleaning : Cleaning) : Script PUnit := do
  let state ← get
  if state.stack.mounted && cleaning.listed then unmountStep .unmountDisk cleaning.unmountDisk

/-- The part of `delete_fs` about the directory. -/
def unmountDir (cleaning : Cleaning) : Script PUnit := do
  let state ← get
  if state.stack.mounted then unmountStep .unmountDir cleaning.unmountDir

/-- A step that changes the stack if it works, and has its message recorded otherwise. -/
def recordedStep (step : Step) (works : Bool) (change : Stack → Stack) : Script PUnit := do
  tried step works
  if works then onStack change else append step

/-- The part of `delete_fs` about the file system. -/
def wipeFs (cleaning : Cleaning) : Script PUnit := do
  let state ← get
  if state.stack.fileSystem then
    recordedStep .wipeFs cleaning.wipeFs fun stack => { stack with fileSystem := false }

/-- `delete_fs`, for the target. -/
def deleteFs (cleaning : Cleaning) : Script PUnit := do
  unmountDisk cleaning
  unmountDir cleaning
  wipeFs cleaning

/-- The stack without the logical volume and what is on it. -/
def Stack.withoutLv (stack : Stack) : Stack :=
  { stack with logicalVolume := false, fileSystem := false, mounted := false }

/-- The loop of `delete_lv`. Removing a volume that is not there raises, too. -/
def removeLv (cleaning : Cleaning) : Script PUnit := do
  let state ← get
  if state.stack.volumeGroup && state.stack.logicalVolume then
    match cleaning.lvRemoval with
    | .removed =>
      tried .removeLv true
      onStack fun stack => { stack.withoutLv with volumeGroup := false }
    | .remains =>
      tried .removeLv false
      append .removeLv
    | .raises lvGone =>
      tried .removeLv false
      if lvGone then onStack Stack.withoutLv
      throw ⟨⟩
  else
    tried .removeLv false
    throw ⟨⟩

/-- The stack without the volume group and what is on it. -/
def Stack.withoutGroup (stack : Stack) : Stack :=
  { stack.withoutLv with physicalVolume := false, volumeGroup := false }

/-- Wipe what a volume group leaves on its device. A group that is still there goes with it. -/
def wipeMember (step : Step) (works : Bool) : Script PUnit := do
  let state ← get
  if state.stack.physicalVolume then
    tried step works
    if works then onStack Stack.withoutGroup

/-- `delete_lv`. -/
def deleteLv (cleaning : Cleaning) : Script PUnit := do
  removeLv cleaning
  wipeMember .wipeLvDisk cleaning.wipeLvDisk

/-- `delete_raid`. What is on the RAID goes with it. -/
def deleteRaid (cleaning : Cleaning) : Script PUnit := do
  wipeMember .wipeRaid cleaning.wipeRaid
  recordedStep .removeRaid cleaning.raidRemoval fun _ => bare

/-- `if self.fs_create: self.delete_fs(self.target)`. -/
def fsDown (cleaning : Cleaning) : Script PUnit := do
  let state ← get
  if state.fsCreate then deleteFs cleaning

/-- `if self.lv_create: self.delete_lv()`. -/
def lvDown (cleaning : Cleaning) : Script PUnit := do
  let state ← get
  if state.lvCreate then deleteLv cleaning

/-- `if self.raid_create: self.delete_raid()`. -/
def raidDown (cleaning : Cleaning) : Script PUnit := do
  let state ← get
  if state.raidCreate then deleteRaid cleaning

/-- `tearDown`. -/
def tearDown (cleaning : Cleaning) : Script PUnit := do
  fsDown cleaning
  lvDown cleaning
  raidDown cleaning

/-! ### What is asked of the test -/

/-- Where setting up stopped, or where the test stopped, which does not touch the stack. -/
def stoppedAt (request : Request) (creation : Creation) : State :=
  leaves (setUp request creation) start

/-- After a clean-up in which everything works the disk is bare, wherever the layers stopped. -/
def CleansUp (request : Request) (creation : Creation) : Prop :=
  ∀ cleaning : Cleaning, cleaning.Works →
    (leaves (tearDown cleaning) (stoppedAt request creation)).stack.Bare

/-- A step that does not work has its message recorded, and the clean-up goes on to its end. -/
def Reports (request : Request) (dir : String) (creation : Creation) (cleaning : Cleaning) :
    Prop :=
  ∀ step, (step, false) ∈ (leaves (tearDown cleaning) (stoppedAt request creation)).steps →
    (∃ message, step.message request dir = some message ∧
      step ∈ (leaves (tearDown cleaning) (stoppedAt request creation)).errMesg) ∧
    stopped (tearDown cleaning) (stoppedAt request creation) = none

/-! ### Where setting up stops -/

/-- A flagged logical volume is there, with its group. -/
def Sound (state : State) : Prop :=
  state.lvCreate = true → state.stack.physicalVolume = true ∧
    state.stack.volumeGroup = true ∧ state.stack.logicalVolume = true

/-- Whatever is on the disk is a flagged layer, or above one. -/
def Covered (state : State) : Prop :=
  (state.stack.raid = true → state.raidCreate = true) ∧
    (state.stack.volumeGroup = true ∨ state.stack.logicalVolume = true →
      state.raidCreate = true ∨ state.lvCreate = true) ∧
    (state.stack.fileSystem = true →
      state.raidCreate = true ∨ state.lvCreate = true ∨ state.fsCreate = true)

/-- The step that makes the lowest of the layers stops after it has made something. -/
def LowestLeft (request : Request) (creation : Creation) : Prop :=
  creation.reachesLayers = true ∧
    if request.raidNeeded then creation.raid = .raised true
    else if request.lvNeeded then
      creation.totalSpace = true ∧
        (creation.vgCreate = .raised true ∨
          (creation.vgCreate = .done ∧ creation.lvCreate ≠ .done))
    else
      request.fsNeeded = true ∧ creation.unmount = true ∧
        (creation.mkfs = .raised true ∨ (creation.mkfs = .done ∧ creation.mount ≠ .done))

/-- The state after a volume group. -/
def State.withVg (state : State) : State :=
  { state with stack := { state.stack with physicalVolume := true, volumeGroup := true } }

/-- The state after a logical volume. -/
def State.withLv (state : State) : State :=
  { state with stack := { state.stack with logicalVolume := true } }

/-- A device that is there does not stop a script. -/
theorem onDevice_bind_apply (missing : Stack → Bool) (next : PUnit → Script PUnit)
    (state : State) :
    (onDevice missing >>= next) state =
      if missing state.stack = false then next ⟨⟩ state else .error ⟨⟩ state := by
  rw [onDevice, bind_assoc, get_bind_apply]
  exact demand_bind_apply _ _ _ _

/-- The state after a file system. -/
def State.withFs (state : State) : State :=
  { state with stack := { state.stack with fileSystem := true } }

/-- The state after a mount. -/
def State.withMount (state : State) : State :=
  { state with stack := { state.stack with mounted := true } }

/-- How two steps end that make something on a device, one on top of the other. -/
theorem makeBoth_apply (missing : Stack → Bool) (ready : Bool) (first second : Making)
    (change changeNext : Stack → Stack) (state : State) :
    (onDevice missing >>= fun _ => demand ready ⟨⟩ >>= fun _ =>
        make first change >>= fun _ => make second changeNext) state =
      if missing state.stack = false ∧ ready = true then
        match first, second with
        | .raised false, _ => .error ⟨⟩ state
        | .raised true, _ => .error ⟨⟩ { state with stack := change state.stack }
        | .done, .raised false => .error ⟨⟩ { state with stack := change state.stack }
        | .done, .raised true =>
          .error ⟨⟩ { state with stack := changeNext (change state.stack) }
        | .done, .done => .ok ⟨⟩ { state with stack := changeNext (change state.stack) }
      else .error ⟨⟩ state := by
  rw [onDevice_bind_apply]
  by_cases there : missing state.stack = false
  · rw [if_pos there, demand_bind_apply]
    cases ready with
    | false => simp
    | true =>
      rw [if_pos rfl, if_pos ⟨there, rfl⟩]
      cases first with
      | done =>
        cases second with
        | done => rfl
        | raised made => cases made <;> rfl
      | raised made => cases made <;> rfl
  · rw [if_neg there, if_neg fun both => there both.1]

/-- How the creation of a logical volume ends. -/
theorem createLv_apply (request : Request) (creation : Creation) (state : State) :
    createLv request creation state =
      if (request.raidNeeded && !state.stack.raid) = false ∧ creation.totalSpace = true then
        match creation.vgCreate, creation.lvCreate with
        | .raised false, _ => .error ⟨⟩ state
        | .raised true, _ => .error ⟨⟩ state.withVg
        | .done, .raised false => .error ⟨⟩ state.withVg
        | .done, .raised true => .error ⟨⟩ state.withVg.withLv
        | .done, .done => .ok ⟨⟩ state.withVg.withLv
      else .error ⟨⟩ state :=
  makeBoth_apply _ creation.totalSpace creation.vgCreate creation.lvCreate _ _ state

/-- How the creation of a file system ends. -/
theorem createFs_apply (request : Request) (creation : Creation) (state : State) :
    createFs request creation state =
      if (request.raidNeeded && !state.stack.raid) = false ∧ creation.unmount = true then
        match creation.mkfs, creation.mount with
        | .raised false, _ => .error ⟨⟩ state
        | .raised true, _ => .error ⟨⟩ state.withFs
        | .done, .raised false => .error ⟨⟩ state.withFs
        | .done, .raised true => .error ⟨⟩ state.withFs.withMount
        | .done, .done => .ok ⟨⟩ state.withFs.withMount
      else .error ⟨⟩ state :=
  makeBoth_apply _ creation.unmount creation.mkfs creation.mount _ _ state

/-- A step that makes something keeps what the change keeps. -/
theorem make_keeps {Holds : State → Prop} (making : Making) (change : Stack → Stack)
    (kept : ∀ state : State, Holds state → Holds { state with stack := change state.stack }) :
    Keeps Holds (make making change) :=
  match making with
  | .done => Keeps.modify kept
  | .raised true => (Keeps.modify kept).bind fun _ => Keeps.throw _
  | .raised false => Keeps.throw _

/-- Looking for a device changes nothing. -/
theorem onDevice_keeps {Holds : State → Prop} (missing : Stack → Bool) :
    Keeps Holds (onDevice missing) := by
  intro state holds
  rw [onDevice, leaves_get_bind]
  exact Keeps.demand _ _ state holds

/-- The layer of the file system touches nothing below it, and no other flag. -/
theorem fsLayer_keeps {Holds : State → Prop} (request : Request) (creation : Creation)
    (fileSystem : ∀ state, Holds state → Holds state.withFs)
    (mount : ∀ state, Holds state → Holds state.withMount)
    (flag : ∀ state : State, Holds state → Holds { state with fsCreate := true }) :
    Keeps Holds (fsLayer request creation) := by
  refine Keeps.ite (Keeps.bind ?_ fun _ => Keeps.modify flag) (Keeps.pure _)
  exact (onDevice_keeps _).bind fun _ => (Keeps.demand _ _).bind fun _ =>
    (make_keeps _ _ fileSystem).bind fun _ => make_keeps _ _ mount

/-- The layer of the logical volume leaves the RAID and its flag alone. -/
theorem lvLayer_keeps_raid (request : Request) (creation : Creation) (flag present : Bool) :
    Keeps (fun state => state.raidCreate = flag ∧ state.stack.raid = present)
      (lvLayer request creation) := by
  refine Keeps.ite (Keeps.bind ?_ fun _ => Keeps.modify fun _ holds => holds) (Keeps.pure _)
  exact (onDevice_keeps _).bind fun _ => (Keeps.demand _ _).bind fun _ =>
    (make_keeps _ _ fun _ holds => holds).bind fun _ => make_keeps _ _ fun _ holds => holds

/-- A volume that was made lets the flag be set, so a flagged volume is there. -/
theorem lvLayer_sound (request : Request) (creation : Creation) {state : State}
    (unflagged : state.lvCreate = false) :
    Sound (leaves (lvLayer request creation) state) := by
  by_cases needed : request.lvNeeded = true
  · rw [lvLayer, if_pos needed, leaves_bind, createLv_apply]
    by_cases reached : (request.raidNeeded && !state.stack.raid) = false ∧
        creation.totalSpace = true
    · rw [if_pos reached]
      cases creation.vgCreate with
      | done =>
        cases creation.lvCreate with
        | done => exact fun _ => ⟨rfl, rfl, rfl⟩
        | raised made =>
          cases made <;> exact fun flagged => absurd (unflagged.symm.trans flagged) (by decide)
      | raised made =>
        cases made <;> exact fun flagged => absurd (unflagged.symm.trans flagged) (by decide)
    · rw [if_neg reached]
      exact fun flagged => absurd (unflagged.symm.trans flagged) (by decide)
  · rw [lvLayer, if_neg needed]
    exact fun flagged => absurd flagged (by simp [leaves, pure_apply, unflagged])

/-- The layer of the file system keeps a flagged volume. -/
theorem fsLayer_sound (request : Request) (creation : Creation) :
    Keeps Sound (fsLayer request creation) :=
  fsLayer_keeps request creation (fun _ sound => sound) (fun _ sound => sound)
    fun _ sound => sound

/-- With the RAID in place everything else is above it. -/
theorem covered_of_raid (request : Request) (creation : Creation) {state : State}
    (flagged : state.raidCreate = true) :
    Covered (leaves (lvLayer request creation >>= fun _ => fsLayer request creation) state) := by
  have fsKeeps : Keeps (fun state : State => state.raidCreate = true)
      (fsLayer request creation) :=
    fsLayer_keeps request creation (fun _ holds => holds) (fun _ holds => holds)
      fun _ holds => holds
  have kept : (leaves (lvLayer request creation >>= fun _ => fsLayer request creation)
      state).raidCreate = true :=
    Keeps.after (fun _ => fsKeeps)
      (lvLayer_keeps_raid request creation true state.stack.raid state ⟨flagged, rfl⟩).1
  exact ⟨fun _ => kept, fun _ => .inl kept, fun _ => .inl kept⟩

/-- With a logical volume on the disk itself the file system is above it. -/
theorem covered_of_lv (request : Request) (creation : Creation) {state : State}
    (none : state.stack.raid = false) (flagged : state.lvCreate = true) :
    Covered (leaves (fsLayer request creation) state) := by
  have fsKeeps : Keeps (fun state : State => state.stack.raid = false ∧ state.lvCreate = true)
      (fsLayer request creation) :=
    fsLayer_keeps request creation (fun _ holds => holds) (fun _ holds => holds)
      fun _ holds => holds
  obtain ⟨raid, lv⟩ := fsKeeps state ⟨none, flagged⟩
  exact ⟨fun present => absurd (raid.symm.trans present) (by decide), fun _ => .inr lv,
    fun _ => .inr (.inl lv)⟩

/-- What setting up leaves when it comes to the layers. -/
theorem stoppedAt_of_reached (request : Request) {creation : Creation}
    (reached : creation.reachesLayers = true) :
    stoppedAt request creation =
      leaves (raidLayer request creation >>= fun _ => lvLayer request creation >>= fun _ =>
        fsLayer request creation) start := by
  rw [stoppedAt, setUp, leaves, demand_bind_apply, if_pos reached]
  rfl

/-- What setting up leaves when it does not. -/
theorem stoppedAt_of_not_reached (request : Request) {creation : Creation}
    (missed : creation.reachesLayers ≠ true) : stoppedAt request creation = start := by
  rw [stoppedAt, setUp, leaves, demand_bind_apply, if_neg missed]

/-- The state after the layer of the RAID. -/
def afterRaid (made : Bool) : State :=
  { start with stack := { bare with raid := made }, raidCreate := true }

/-- How the layer of the RAID ends. -/
theorem raidLayer_start (request : Request) (creation : Creation) :
    raidLayer request creation start =
      if request.raidNeeded then
        match creation.raid with
        | .returned made => .ok ⟨⟩ (afterRaid made)
        | .raised made => .error ⟨⟩ { start with stack := { bare with raid := made } }
      else .ok ⟨⟩ start := by
  rw [raidLayer]
  split
  · cases ended : creation.raid <;> simp [createRaid, ended] <;> rfl
  · rfl

/-- A flagged volume is there where setting up stopped. -/
theorem stoppedAt_sound (request : Request) (creation : Creation) :
    Sound (stoppedAt request creation) := by
  have upper : ∀ state : State, state.lvCreate = false →
      Sound (leaves (lvLayer request creation >>= fun _ => fsLayer request creation) state) :=
    fun state unflagged =>
      Keeps.after (fun _ => fsLayer_sound request creation)
        (lvLayer_sound request creation unflagged)
  by_cases reached : creation.reachesLayers = true
  · rw [stoppedAt_of_reached request reached, leaves_bind, raidLayer_start]
    by_cases needed : request.raidNeeded = true
    · rw [if_pos needed]
      cases creation.raid with
      | returned made => exact upper _ rfl
      | raised made => exact fun flagged => nomatch flagged
    · rw [if_neg needed]
      exact upper _ rfl
  · rw [stoppedAt_of_not_reached request reached]
    exact fun flagged => nomatch flagged

/-- Without a RAID and a logical volume, the file system is left exactly when its step stops after
it was made. -/
theorem fsLayer_start_covered_iff (request : Request) (creation : Creation)
    (noRaid : request.raidNeeded = false) :
    Covered (leaves (fsLayer request creation) start) ↔
      ¬ (request.fsNeeded = true ∧ creation.unmount = true ∧
        (creation.mkfs = .raised true ∨
          (creation.mkfs = .done ∧ creation.mount ≠ .done))) := by
  by_cases needed : request.fsNeeded = true
  · rw [fsLayer, if_pos needed, leaves_bind, createFs_apply, noRaid]
    cases unmounted : creation.unmount with
    | false => simp [Covered, start, bare]
    | true =>
      cases creation.mkfs with
      | done =>
        cases creation.mount with
        | done =>
          simp [Covered, start, bare, State.withFs, State.withMount, leaves, modify_apply]
        | raised made =>
          cases made <;> simp [Covered, start, bare, State.withFs, State.withMount, needed]
      | raised made => cases made <;> simp [Covered, start, bare, State.withFs, needed]
  · rw [fsLayer, if_neg needed]
    simp [Covered, leaves, pure_apply, start, bare, needed]

/-- What is on the disk where setting up stopped is covered exactly when the lowest of the layers
was not left behind.

Proof: by the lowest layer that is asked for. Once it is flagged, everything else is above it. -/
theorem stoppedAt_covered_iff (request : Request) (creation : Creation) :
    Covered (stoppedAt request creation) ↔ ¬ LowestLeft request creation := by
  by_cases reached : creation.reachesLayers = true
  case neg =>
    rw [stoppedAt_of_not_reached request reached]
    simp [Covered, start, bare, LowestLeft, reached]
  rw [stoppedAt_of_reached request reached, leaves_bind, raidLayer_start, LowestLeft]
  by_cases raid : request.raidNeeded = true
  · rw [if_pos raid, if_pos raid]
    cases ended : creation.raid with
    | returned made =>
      refine iff_of_true (covered_of_raid request creation rfl) ?_
      exact fun left => nomatch left.2
    | raised made => cases made <;> simp [Covered, start, bare, reached]
  rw [if_neg raid, if_neg raid]
  by_cases lv : request.lvNeeded = true
  · rw [if_pos lv]
    show Covered (leaves (lvLayer request creation >>= fun _ => fsLayer request creation) start) ↔
      _
    rw [leaves_bind, lvLayer, if_pos lv, bind_apply, createLv_apply]
    cases space : creation.totalSpace with
    | false => simp [Covered, start, bare]
    | true =>
      rw [if_pos ⟨by simp [raid], rfl⟩]
      cases creation.vgCreate with
      | done =>
        cases creation.lvCreate with
        | done =>
          simp only [modify_apply, reduceCtorEq, ne_eq, not_true_eq_false, and_false, or_self,
            not_false_eq_true, iff_true]
          exact covered_of_lv request creation rfl rfl
        | raised made =>
          cases made <;> simp [Covered, start, bare, State.withVg, State.withLv, reached]
      | raised made => cases made <;> simp [Covered, start, bare, State.withVg, reached]
  · rw [if_neg lv]
    show Covered (leaves (lvLayer request creation >>= fun _ => fsLayer request creation) start) ↔
      _
    rw [leaves_bind, lvLayer, if_neg lv, pure_apply]
    simp only [reached, true_and]
    exact fsLayer_start_covered_iff request creation (by simpa using raid)

/-! ### What the clean-up does -/

section Cleaning

/-- The stack after the file system was deleted. -/
def fsCleaned (cleaning : Cleaning) (state : State) : Stack :=
  if state.fsCreate then
    { state.stack with
      mounted := false, fileSystem := state.stack.fileSystem && !cleaning.wipeFs }
  else state.stack

/-- The stack after the logical volume was deleted, too. -/
def lvCleaned (cleaning : Cleaning) (state : State) : Stack :=
  if state.lvCreate then (fsCleaned cleaning state).withoutGroup else fsCleaned cleaning state

/-- The stack after the RAID was deleted, too. -/
def raidCleaned (cleaning : Cleaning) (state : State) : Stack :=
  if state.raidCreate then
    if cleaning.raidRemoval then bare
    else if (lvCleaned cleaning state).physicalVolume then
      (lvCleaned cleaning state).withoutGroup
    else lvCleaned cleaning state
  else lvCleaned cleaning state

variable (request : Request) (dir : String)

/-- Every step that did not work has its message recorded. -/
def Recorded (state : State) : Prop :=
  ∀ step, (step, false) ∈ state.steps →
    ∃ message, step.message request dir = some message ∧ step ∈ state.errMesg

/-- The script comes to its end with the given stack, leaves the flags alone, and records what did
not work. -/
def Goes (script : Script PUnit) (state : State) (stack : Stack) : Prop :=
  ∃ after, script state = .ok ⟨⟩ after ∧ after.stack = stack ∧
    (after.raidCreate = state.raidCreate ∧ after.lvCreate = state.lvCreate ∧
      after.fsCreate = state.fsCreate) ∧
    (Recorded request dir state → Recorded request dir after)

/-- A step did not work and is not recorded, or the script stops at it. -/
def Hides (script : Script PUnit) (state : State) : Prop :=
  ∃ step, (step, false) ∈ (leaves script state).steps ∧
    (stopped script state ≠ none ∨ step.message request dir = none)

/-- A script that forgets no step. -/
def Remembers (script : Script PUnit) : Prop :=
  ∀ step, Keeps (fun state : State => (step, false) ∈ state.steps) script

variable {request dir}

/-- Doing nothing. -/
theorem goes_pure (state : State) : Goes request dir (pure ⟨⟩) state state.stack :=
  ⟨state, rfl, rfl, ⟨rfl, rfl, rfl⟩, fun recorded => recorded⟩

/-- One script after another. -/
theorem Goes.bind {first : Script PUnit} {second : PUnit → Script PUnit} {state : State}
    {between stack : Stack} (goes : Goes request dir first state between)
    (next : ∀ after : State, after.stack = between → after.raidCreate = state.raidCreate →
      after.lvCreate = state.lvCreate → after.fsCreate = state.fsCreate →
      Goes request dir (second ⟨⟩) after stack) :
    Goes request dir (first >>= second) state stack := by
  obtain ⟨after, ran, left, ⟨raid, lv, fs⟩, records⟩ := goes
  obtain ⟨last, ranNext, leftNext, ⟨raidNext, lvNext, fsNext⟩, recordsNext⟩ :=
    next after left raid lv fs
  refine ⟨last, ?_, leftNext, ⟨raidNext.trans raid, lvNext.trans lv, fsNext.trans fs⟩,
    fun recorded => recordsNext (records recorded)⟩
  rw [bind_apply, ran]
  exact ranNext

/-- A step that works is no reason to record anything. -/
theorem recorded_append_true {state : State} (step : Step) (stack : Stack)
    (recorded : Recorded request dir state) :
    Recorded request dir { state with stack := stack, steps := state.steps ++ [(step, true)] } := by
  intro failed member
  rcases List.mem_append.1 member with before | now
  · exact recorded failed before
  · simp at now

/-- A step that does not work and is recorded. -/
theorem recorded_append_false {state : State} {step : Step} {message : String}
    (named : step.message request dir = some message) (recorded : Recorded request dir state) :
    Recorded request dir { state with
      steps := state.steps ++ [(step, false)], errMesg := state.errMesg ++ [step] } := by
  intro failed member
  rcases List.mem_append.1 member with before | now
  · obtain ⟨text, named, mem⟩ := recorded failed before
    exact ⟨text, named, List.mem_append_left _ mem⟩
  · obtain rfl : failed = step := by simpa using now
    exact ⟨message, named, by simp⟩

/-- An unmount that works. -/
theorem unmountStep_goes (step : Step) (state : State) :
    Goes request dir (unmountStep step true) state { state.stack with mounted := false } :=
  ⟨_, rfl, rfl, ⟨rfl, rfl, rfl⟩, recorded_append_true step _⟩

/-- An unmount that does not work stops the clean-up. -/
theorem unmountStep_hides (step : Step) (state : State) :
    Hides request dir (unmountStep step false) state := by
  refine ⟨step, ?_, .inl ?_⟩
  · simp [unmountStep, leaves, bind_apply, tried, modify_apply, demand, throw_apply]
  · simp [unmountStep, stopped, bind_apply, tried, modify_apply, demand, throw_apply]

/-- A step with a message. -/
theorem recordedStep_goes {step : Step} {message : String}
    (named : step.message request dir = some message) (works : Bool) (change : Stack → Stack)
    (state : State) :
    Goes request dir (recordedStep step works change) state
      (if works then change state.stack else state.stack) := by
  cases works with
  | true => exact ⟨_, rfl, rfl, ⟨rfl, rfl, rfl⟩, recorded_append_true step _⟩
  | false => exact ⟨_, rfl, rfl, ⟨rfl, rfl, rfl⟩, recorded_append_false named⟩

/-- A script that looks at the state. -/
theorem goes_get {next : State → Script PUnit} {state : State} {stack : Stack}
    (goes : Goes request dir (next state) state stack) :
    Goes request dir (get >>= next) state stack :=
  goes

/-- A script that is run. -/
theorem goes_then {condition : Prop} [Decidable condition] {script : Script PUnit}
    {state : State} {stack : Stack} (holds : condition)
    (goes : Goes request dir script state stack) :
    Goes request dir (if condition then script else pure ⟨⟩) state stack := by
  rw [if_pos holds]
  exact goes

/-- A script that is skipped. -/
theorem goes_else {condition : Prop} [Decidable condition] {script : Script PUnit}
    {state : State} (fails : ¬ condition) :
    Goes request dir (if condition then script else pure ⟨⟩) state state.stack := by
  rw [if_neg fails]
  exact goes_pure state

/-- The two unmounts work when the one that is tried first does. Behind it nothing is mounted any
more, so no other one is tried. -/
theorem unmounts_goes {cleaning : Cleaning} {state : State}
    (works : state.stack.mounted = true →
      (if cleaning.listed then cleaning.unmountDisk else cleaning.unmountDir) = true) :
    Goes request dir (unmountDisk cleaning >>= fun _ => unmountDir cleaning) state
      { state.stack with mounted := false } := by
  have skipped : ∀ (listed : Bool) {step : Step} {works : Bool} {after : State},
      after.stack = { state.stack with mounted := false } →
      Goes request dir
        (if (after.stack.mounted && listed) = true then unmountStep step works else pure ⟨⟩) after
        { state.stack with mounted := false } := by
    intro listed step works after left
    rw [← left]
    exact goes_else (by simp [left])
  cases mounted : state.stack.mounted with
  | false =>
    have same : state.stack = { state.stack with mounted := false } := by rw [← mounted]
    refine Goes.bind (goes_get (skipped _ same)) fun after left _ _ _ => goes_get ?_
    simpa using skipped true left
  | true =>
    cases listed : cleaning.listed with
    | true =>
      have diskWorks : cleaning.unmountDisk = true := by simpa [listed] using works mounted
      have first : Goes request dir (unmountDisk cleaning) state
          { state.stack with mounted := false } := by
        refine goes_get (goes_then (by simp [mounted, listed]) ?_)
        rw [diskWorks]
        exact unmountStep_goes .unmountDisk state
      refine first.bind fun after left _ _ _ => goes_get ?_
      simpa using skipped true left
    | false =>
      have dirWorks : cleaning.unmountDir = true := by simpa [listed] using works mounted
      refine Goes.bind (goes_get (goes_else (by simp [listed]))) fun after left _ _ _ => ?_
      refine goes_get (goes_then (by rw [left, mounted]) ?_)
      rw [dirWorks, ← left]
      exact unmountStep_goes .unmountDir after

/-- `delete_fs` unmounts and wipes what was made. It is assumed that the unmount that is tried first
works where a file system is flagged and mounted. -/
theorem fsDown_goes {cleaning : Cleaning} {state : State}
    (works : state.fsCreate = true → state.stack.mounted = true →
      (if cleaning.listed then cleaning.unmountDisk else cleaning.unmountDir) = true) :
    Goes request dir (fsDown cleaning) state (fsCleaned cleaning state) := by
  refine goes_get ?_
  by_cases made : state.fsCreate = true
  · refine goes_then made ?_
    rw [deleteFs, ← bind_assoc, fsCleaned, if_pos made]
    refine (unmounts_goes (works made)).bind fun after left _ _ _ => goes_get ?_
    cases present : state.stack.fileSystem with
    | false =>
      have same : after.stack =
          { state.stack with mounted := false, fileSystem := false && !cleaning.wipeFs } := by
        rw [left, ← present]
        simp [present]
      rw [← same]
      exact goes_else (by simp [left, present])
    | true =>
      have wiped : Goes request dir (recordedStep .wipeFs cleaning.wipeFs _) after _ :=
        recordedStep_goes rfl cleaning.wipeFs (fun stack => { stack with fileSystem := false })
          after
      refine goes_then (by rw [left, present]) ?_
      cases worked : cleaning.wipeFs with
      | true => simpa [worked, left] using wiped
      | false => simpa [worked, left, present] using wiped
  · have same : fsCleaned cleaning state = state.stack := if_neg made
    rw [same]
    exact goes_else made

/-- The wiping of what a volume group leaves, when it works. -/
theorem wipeMember_goes (step : Step) {works : Bool} {state : State}
    (works_of_there : state.stack.physicalVolume = true → works = true) :
    Goes request dir (wipeMember step works) state
      (if state.stack.physicalVolume then state.stack.withoutGroup else state.stack) := by
  refine goes_get ?_
  cases there : state.stack.physicalVolume with
  | false => exact goes_else (by simp)
  | true =>
    rw [works_of_there there]
    exact goes_then rfl ⟨_, rfl, rfl, ⟨rfl, rfl, rfl⟩, recorded_append_true step _⟩

/-- The volume is removed, or it is recorded that it was not. Either way what the group leaves is
still there. -/
theorem removeLv_goes {cleaning : Cleaning} {state : State}
    (there : state.stack.volumeGroup = true ∧ state.stack.logicalVolume = true)
    (returns : ∀ gone, cleaning.lvRemoval ≠ .raises gone) :
    ∃ stack, Goes request dir (removeLv cleaning) state stack ∧
      stack.physicalVolume = state.stack.physicalVolume ∧
      stack.withoutGroup = state.stack.withoutGroup := by
  have both : (state.stack.volumeGroup && state.stack.logicalVolume) = true := by
    rw [there.1, there.2]
    rfl
  cases ended : cleaning.lvRemoval with
  | removed =>
    refine ⟨{ state.stack.withoutLv with volumeGroup := false }, goes_get ?_, rfl, rfl⟩
    rw [if_pos both, ended]
    exact ⟨_, rfl, rfl, ⟨rfl, rfl, rfl⟩, recorded_append_true .removeLv _⟩
  | remains =>
    refine ⟨state.stack, goes_get ?_, rfl, rfl⟩
    rw [if_pos both, ended]
    exact ⟨_, rfl, rfl, ⟨rfl, rfl, rfl⟩, recorded_append_false rfl⟩
  | raises gone => exact absurd ended (returns gone)

/-- `delete_lv` takes away the volume and its group. -/
theorem lvDown_goes {cleaning : Cleaning} {state : State} (sound : Sound state)
    (works : state.lvCreate = true →
      (∀ gone, cleaning.lvRemoval ≠ .raises gone) ∧ cleaning.wipeLvDisk = true) :
    Goes request dir (lvDown cleaning) state
      (if state.lvCreate then state.stack.withoutGroup else state.stack) := by
  refine goes_get ?_
  cases made : state.lvCreate with
  | false => exact goes_else (by simp)
  | true =>
    obtain ⟨physicalVolume, there⟩ := sound made
    obtain ⟨returns, wiped⟩ := works made
    obtain ⟨stack, removed, onDisk, same⟩ := removeLv_goes there returns
    refine goes_then rfl (removed.bind fun after left _ _ _ => ?_)
    have member : Goes request dir (wipeMember .wipeLvDisk cleaning.wipeLvDisk) after _ :=
      wipeMember_goes .wipeLvDisk fun _ => wiped
    rw [left, onDisk, physicalVolume, if_pos rfl, same] at member
    exact member

/-- `delete_raid` takes away the RAID, or records that it did not. -/
theorem raidDown_goes {cleaning : Cleaning} {state : State}
    (works : state.raidCreate = true → state.stack.physicalVolume = true →
      cleaning.wipeRaid = true) :
    Goes request dir (raidDown cleaning) state
      (if state.raidCreate then
        if cleaning.raidRemoval then bare
        else if state.stack.physicalVolume then state.stack.withoutGroup else state.stack
      else state.stack) := by
  refine goes_get ?_
  cases made : state.raidCreate with
  | false => exact goes_else (by simp)
  | true =>
    refine goes_then rfl ((wipeMember_goes .wipeRaid (works made)).bind fun after left _ _ _ => ?_)
    show Goes request dir _ after (if cleaning.raidRemoval then bare else _)
    rw [← left]
    exact recordedStep_goes rfl cleaning.raidRemoval (fun _ => bare) after

/-- The deletion of the file system touches nothing below it. -/
theorem fsCleaned_below (cleaning : Cleaning) (state : State) :
    (fsCleaned cleaning state).raid = state.stack.raid ∧
      (fsCleaned cleaning state).physicalVolume = state.stack.physicalVolume ∧
      (fsCleaned cleaning state).volumeGroup = state.stack.volumeGroup ∧
      (fsCleaned cleaning state).logicalVolume = state.stack.logicalVolume := by
  unfold fsCleaned
  split <;> exact ⟨rfl, rfl, rfl, rfl⟩

/-- No step fails without being recorded: of the two unmounts the one that is tried works, the
removal of the volume does not raise, and what a group leaves is wiped. -/
def Reportable (cleaning : Cleaning) (state : State) : Prop :=
  (state.fsCreate = true → state.stack.mounted = true →
      (if cleaning.listed then cleaning.unmountDisk else cleaning.unmountDir) = true) ∧
    (state.lvCreate = true →
      (∀ gone, cleaning.lvRemoval ≠ .raises gone) ∧ cleaning.wipeLvDisk = true) ∧
    (state.raidCreate = true → state.lvCreate = false → state.stack.physicalVolume = true →
      cleaning.wipeRaid = true)

/-- What a group leaves is on the RAID only if no volume was deleted. -/
theorem lvCleaned_physicalVolume {cleaning : Cleaning} {state : State}
    (there : (lvCleaned cleaning state).physicalVolume = true) :
    state.lvCreate = false ∧ state.stack.physicalVolume = true := by
  unfold lvCleaned at there
  split at there
  case isTrue => cases there
  case isFalse made =>
    exact ⟨by simpa using made, (fsCleaned_below cleaning state).2.1 ▸ there⟩

/-- The clean-up comes to its end and records what did not work. -/
theorem tearDown_goes {cleaning : Cleaning} {state : State} (sound : Sound state)
    (reportable : Reportable cleaning state) :
    Goes request dir (tearDown cleaning) state (raidCleaned cleaning state) := by
  obtain ⟨fsWorks, lvWorks, raidWorks⟩ := reportable
  obtain ⟨-, physicalVolume, volumeGroup, logicalVolume⟩ := fsCleaned_below cleaning state
  refine (fsDown_goes fsWorks).bind fun first leftFs raidFs lvFs _ => ?_
  have soundFirst : Sound first := by
    rw [Sound, leftFs, lvFs, physicalVolume, volumeGroup, logicalVolume]
    exact sound
  have lvGoes : Goes request dir (lvDown cleaning) first (lvCleaned cleaning state) := by
    rw [lvCleaned, ← leftFs, ← lvFs]
    exact lvDown_goes soundFirst (by rwa [lvFs])
  refine lvGoes.bind fun second leftLv raidLv _ _ => ?_
  rw [raidCleaned, ← leftLv, ← raidFs, ← raidLv]
  refine raidDown_goes fun made there => ?_
  rw [raidLv, raidFs] at made
  rw [leftLv] at there
  obtain ⟨unflagged, onDisk⟩ := lvCleaned_physicalVolume there
  exact raidWorks made unflagged onDisk

/-! ### What the clean-up hides -/

/-- A first script hides what it hides, whatever comes after it. -/
theorem Hides.first {first : Script PUnit} {second : PUnit → Script PUnit} {state : State}
    (hides : Hides request dir first state) (remembers : Remembers (second ⟨⟩)) :
    Hides request dir (first >>= second) state := by
  obtain ⟨step, member, ending⟩ := hides
  refine ⟨step, Keeps.after (fun _ => remembers step) member, ending.imp_left fun stops => ?_⟩
  unfold stopped at stops ⊢
  rw [bind_apply]
  cases ran : first state with
  | ok _ after => exact absurd (by rw [ran]) stops
  | error _ after => exact fun none => nomatch none

/-- A second script hides something if the first one comes to its end. -/
theorem Hides.second {first : Script PUnit} {second : PUnit → Script PUnit} {state : State}
    {between : Stack} (goes : Goes request dir first state between)
    (hides : ∀ after : State, after.stack = between → after.raidCreate = state.raidCreate →
      after.lvCreate = state.lvCreate → Hides request dir (second ⟨⟩) after) :
    Hides request dir (first >>= second) state := by
  obtain ⟨after, ran, left, ⟨raid, lv, _⟩, -⟩ := goes
  obtain ⟨step, member, ending⟩ := hides after left raid lv
  refine ⟨step, ?_, ?_⟩
  · rw [leaves_bind, ran]
    exact member
  · rw [stopped, bind_apply, ran]
    exact ending

/-- Trying a step forgets no other. -/
theorem tried_remembers (step : Step) (works : Bool) : Remembers (tried step works) :=
  fun _ => Keeps.modify fun _ member => List.mem_append_left _ member

/-- Changing the stack forgets no step. -/
theorem onStack_remembers (change : Stack → Stack) : Remembers (onStack change) :=
  fun _ => Keeps.modify fun _ member => member

/-- Looking at the state forgets no step. -/
theorem get_remembers {next : State → Script PUnit}
    (remembers : ∀ state, Remembers (next state)) : Remembers (get >>= next) :=
  fun step state member => remembers state step state member

/-- An unmount forgets no step. -/
theorem unmountStep_remembers (step : Step) (works : Bool) :
    Remembers (unmountStep step works) := fun other =>
  (tried_remembers step works other).bind fun _ => (Keeps.demand _ _).bind fun _ =>
    onStack_remembers _ other

/-- A step with a message forgets no other. -/
theorem recordedStep_remembers (step : Step) (works : Bool) (change : Stack → Stack) :
    Remembers (recordedStep step works change) := fun other =>
  (tried_remembers step works other).bind fun _ =>
    Keeps.ite (onStack_remembers _ other) (Keeps.modify fun _ member => member)

/-- The wiping of what a group leaves forgets no step. -/
theorem wipeMember_remembers (step : Step) (works : Bool) : Remembers (wipeMember step works) :=
  get_remembers fun _ other => Keeps.ite
    ((tried_remembers step works other).bind fun _ =>
      Keeps.ite (onStack_remembers _ other) (Keeps.pure _)) (Keeps.pure _)

/-- `delete_raid` forgets no step. -/
theorem raidDown_remembers (cleaning : Cleaning) : Remembers (raidDown cleaning) :=
  get_remembers fun _ other => Keeps.ite
    ((wipeMember_remembers _ _ other).bind fun _ => recordedStep_remembers _ _ _ other)
    (Keeps.pure _)

/-- Removing the volume forgets no step. -/
theorem removeLv_remembers (cleaning : Cleaning) : Remembers (removeLv cleaning) := by
  refine get_remembers fun state other => Keeps.ite ?_
    ((tried_remembers _ _ other).bind fun _ => Keeps.throw _)
  cases cleaning.lvRemoval with
  | removed => exact (tried_remembers _ _ other).bind fun _ => onStack_remembers _ other
  | remains => exact (tried_remembers _ _ other).bind fun _ => Keeps.modify fun _ member => member
  | raises gone =>
    exact (tried_remembers _ _ other).bind fun _ =>
      Keeps.ite ((onStack_remembers _ other).bind fun _ => Keeps.throw _) (Keeps.throw _)

/-- `delete_lv` forgets no step. -/
theorem lvDown_remembers (cleaning : Cleaning) : Remembers (lvDown cleaning) :=
  get_remembers fun _ other => Keeps.ite
    ((removeLv_remembers cleaning other).bind fun _ => wipeMember_remembers _ _ other)
    (Keeps.pure _)

/-- A script that looks at the state. -/
theorem hides_get {next : State → Script PUnit} {state : State}
    (hides : Hides request dir (next state) state) : Hides request dir (get >>= next) state :=
  hides

/-- A script that is run. -/
theorem hides_then {condition : Prop} [Decidable condition] {script : Script PUnit}
    {state : State} (holds : condition) (hides : Hides request dir script state) :
    Hides request dir (if condition then script else pure ⟨⟩) state := by
  rw [if_pos holds]
  exact hides

/-- The first of the unmounts that is tried does not work. -/
theorem fsDown_hides {cleaning : Cleaning} {state : State} (made : state.fsCreate = true)
    (mounted : state.stack.mounted = true)
    (fails : (if cleaning.listed then cleaning.unmountDisk else cleaning.unmountDir) = false) :
    Hides request dir (fsDown cleaning) state := by
  have wipes : Remembers (wipeFs cleaning) :=
    get_remembers fun _ other => Keeps.ite (recordedStep_remembers _ _ _ other) (Keeps.pure _)
  have unmounts : Remembers (unmountDir cleaning) :=
    get_remembers fun _ other => Keeps.ite (unmountStep_remembers _ _ other) (Keeps.pure _)
  refine hides_get (hides_then made ?_)
  cases listed : cleaning.listed with
  | true =>
    have diskFails : cleaning.unmountDisk = false := by simpa [listed] using fails
    refine Hides.first (hides_get (hides_then (by simp [mounted, listed]) ?_)) fun other =>
      (unmounts other).bind fun _ => wipes other
    rw [diskFails]
    exact unmountStep_hides _ state
  | false =>
    have dirFails : cleaning.unmountDir = false := by simpa [listed] using fails
    refine Hides.second (goes_get (goes_else (by simp [listed]))) fun after left _ _ => ?_
    refine Hides.first (hides_get (hides_then (by rw [left, mounted]) ?_)) wipes
    rw [dirFails]
    exact unmountStep_hides _ after

/-- What a group leaves is not wiped, and there is no message for that. -/
theorem wipeMember_hides {step : Step} {state : State} (unnamed : step.message request dir = none)
    (there : state.stack.physicalVolume = true) :
    Hides request dir (wipeMember step false) state := by
  refine ⟨step, ?_, .inr unnamed⟩
  simp [wipeMember, leaves, bind_apply, get_apply, there, tried, modify_apply]

/-- A step that does not work and raises. -/
theorem tried_throw_hides (step : Step) (state : State) :
    Hides request dir (tried step false >>= fun _ => throw ⟨⟩) state :=
  ⟨step, List.mem_append_right _ (List.mem_singleton.2 rfl), .inl fun ended => nomatch ended⟩

/-- The removal of the volume raises. -/
theorem removeLv_hides {cleaning : Cleaning} {state : State} {gone : Bool}
    (ended : cleaning.lvRemoval = .raises gone) :
    Hides request dir (removeLv cleaning) state := by
  refine hides_get ?_
  rw [ended]
  split
  · cases gone with
    | true => exact ⟨.removeLv, List.mem_append_right _ (List.mem_singleton.2 rfl),
        .inl fun ended => nomatch ended⟩
    | false => exact tried_throw_hides .removeLv state
  · exact tried_throw_hides .removeLv state

/-- `delete_lv` raises, or does not wipe. -/
theorem lvDown_hides {cleaning : Cleaning} {state : State} (sound : Sound state)
    (made : state.lvCreate = true)
    (fails : ¬ ((∀ gone, cleaning.lvRemoval ≠ .raises gone) ∧ cleaning.wipeLvDisk = true)) :
    Hides request dir (lvDown cleaning) state := by
  refine hides_get (hides_then made ?_)
  by_cases returns : ∀ gone, cleaning.lvRemoval ≠ .raises gone
  · obtain ⟨physicalVolume, there⟩ := sound made
    obtain ⟨stack, removed, onDisk, -⟩ := removeLv_goes there returns
    refine Hides.second removed fun after left _ _ => ?_
    have wipeFails : cleaning.wipeLvDisk = false := by simpa [returns] using fails
    rw [wipeFails]
    exact wipeMember_hides rfl (by rw [left, onDisk, physicalVolume])
  · obtain ⟨gone, ended⟩ := Classical.not_forall.1 returns
    exact Hides.first (removeLv_hides (Classical.not_not.1 ended)) (wipeMember_remembers _ _)

/-- `delete_raid` does not wipe what a group leaves on the RAID. -/
theorem raidDown_hides {cleaning : Cleaning} {state : State} (made : state.raidCreate = true)
    (there : state.stack.physicalVolume = true) (fails : cleaning.wipeRaid = false) :
    Hides request dir (raidDown cleaning) state := by
  refine hides_get (hides_then made ?_)
  rw [deleteRaid, fails]
  exact Hides.first (wipeMember_hides rfl there) (recordedStep_remembers _ _ _)

/-- The clean-up hides something when it is not reportable: some step of it does not work, and it
has no message on record or the script stops at it. -/
theorem tearDown_hides {cleaning : Cleaning} {state : State} (sound : Sound state)
    (hidden : ¬ Reportable cleaning state) :
    Hides request dir (tearDown cleaning) state := by
  obtain ⟨-, physicalVolume, volumeGroup, logicalVolume⟩ := fsCleaned_below cleaning state
  by_cases fsWorks : state.fsCreate = true → state.stack.mounted = true →
      (if cleaning.listed then cleaning.unmountDisk else cleaning.unmountDir) = true
  case neg =>
    simp only [Classical.not_imp] at fsWorks
    obtain ⟨made, mounted, fails⟩ := fsWorks
    exact Hides.first (fsDown_hides made mounted (by simpa using fails)) fun other =>
      (lvDown_remembers cleaning other).bind fun _ => raidDown_remembers cleaning other
  refine Hides.second (fsDown_goes fsWorks) fun first leftFs raidFs lvFs => ?_
  have soundFirst : Sound first := by
    rw [Sound, leftFs, lvFs, physicalVolume, volumeGroup, logicalVolume]
    exact sound
  by_cases lvWorks : state.lvCreate = true →
      (∀ gone, cleaning.lvRemoval ≠ .raises gone) ∧ cleaning.wipeLvDisk = true
  case neg =>
    simp only [Classical.not_imp] at lvWorks
    obtain ⟨made, fails⟩ := lvWorks
    exact Hides.first (lvDown_hides soundFirst (lvFs.trans made) fails)
      (raidDown_remembers cleaning)
  refine Hides.second (lvDown_goes soundFirst (by rwa [lvFs])) fun second leftLv raidLv _ => ?_
  have raidFails : ¬ (state.raidCreate = true → state.lvCreate = false →
      state.stack.physicalVolume = true → cleaning.wipeRaid = true) :=
    fun raidWorks => hidden ⟨fsWorks, lvWorks, raidWorks⟩
  simp only [Classical.not_imp] at raidFails
  obtain ⟨made, unflagged, there, fails⟩ := raidFails
  refine raidDown_hides (raidLv.trans (raidFs.trans made)) ?_ (by simpa using fails)
  rw [leftLv, lvFs, unflagged, if_neg (by decide), leftFs, physicalVolume, there]

end Cleaning

/-! ### The result -/

/-- Setting up tries no step of the clean-up. -/
theorem stoppedAt_steps (request : Request) (creation : Creation) :
    (stoppedAt request creation).steps = [] := by
  have raid : Keeps (fun state : State => state.steps = []) (raidLayer request creation) := by
    refine Keeps.ite (Keeps.bind ?_ fun _ => Keeps.modify fun _ none => none) (Keeps.pure _)
    intro state none
    cases ended : creation.raid with
    | returned made => simpa [createRaid, ended, leaves, onStack, modify_apply] using none
    | raised made =>
      simpa [createRaid, ended, leaves, onStack, bind_apply, modify_apply, throw_apply] using none
  have lv : Keeps (fun state : State => state.steps = []) (lvLayer request creation) := by
    refine Keeps.ite (Keeps.bind ?_ fun _ => Keeps.modify fun _ none => none) (Keeps.pure _)
    exact (onDevice_keeps _).bind fun _ => (Keeps.demand _ _).bind fun _ =>
      (make_keeps _ _ fun _ none => none).bind fun _ => make_keeps _ _ fun _ none => none
  have fs : Keeps (fun state : State => state.steps = []) (fsLayer request creation) :=
    fsLayer_keeps request creation (fun _ none => none) (fun _ none => none) fun _ none => none
  have all : Keeps (fun state : State => state.steps = []) (setUp request creation) :=
    (Keeps.demand _ _).bind fun _ => raid.bind fun _ => lv.bind fun _ => fs
  exact all start rfl

/-- The clean-up reports every step that does not work exactly when it can, in the state where the
set-up or the test stopped. -/
theorem reports_iff (request : Request) (dir : String) (creation : Creation)
    (cleaning : Cleaning) :
    Reports request dir creation cleaning ↔ Reportable cleaning (stoppedAt request creation) := by
  have sound := stoppedAt_sound request creation
  constructor
  · intro reports
    refine Classical.byContradiction fun hidden => ?_
    have left : Hides request dir (tearDown cleaning) (stoppedAt request creation) :=
      tearDown_hides sound hidden
    obtain ⟨step, member, hides⟩ := left
    obtain ⟨⟨message, named, _⟩, ended⟩ := reports step member
    rcases hides with stops | unnamed
    · exact stops ended
    · exact nomatch unnamed.symm.trans named
  · intro reportable step member
    have goes : Goes request dir (tearDown cleaning) (stoppedAt request creation) _ :=
      tearDown_goes sound reportable
    obtain ⟨after, ran, -, -, records⟩ := goes
    have recorded : Recorded request dir (stoppedAt request creation) := by
      intro step member
      rw [stoppedAt_steps] at member
      exact nomatch member
    unfold leaves at member ⊢
    rw [ran] at member ⊢
    exact ⟨records recorded step member, by rw [stopped, ran]⟩

/-- A clean-up in which everything works leaves the disk bare exactly when everything on it is a
flagged layer or above one. -/
theorem raidCleaned_bare_iff {cleaning : Cleaning} {state : State} (works : cleaning.Works) :
    (raidCleaned cleaning state).Bare ↔ Covered state := by
  obtain ⟨-, -, wiped, -, -, -, removed⟩ := works
  cases raid : state.raidCreate <;> cases lv : state.lvCreate <;> cases fs : state.fsCreate <;>
    simp [raidCleaned, lvCleaned, fsCleaned, Stack.withoutGroup, Stack.withoutLv, Stack.Bare,
      Covered, bare, raid, lv, fs, wiped, removed, and_assoc]

/-- A clean-up in which everything works. -/
def working : Cleaning := ⟨true, true, true, true, .removed, true, true, true⟩

/-- A clean-up in which everything works can be reported. -/
theorem reportable_of_works {cleaning : Cleaning} (works : cleaning.Works) (state : State) :
    Reportable cleaning state := by
  obtain ⟨disk, dir, -, removed, wipeLvDisk, wipeRaid, -⟩ := works
  refine ⟨fun _ _ => ?_, fun _ => ⟨fun gone raises => ?_, wipeLvDisk⟩, fun _ _ _ => wipeRaid⟩
  · split
    · exact disk
    · exact dir
  · exact nomatch removed.symm.trans raises

/-- The disk is bare after every clean-up that works exactly when setting up did not leave the
lowest of the layers behind. -/
theorem cleansUp_iff (request : Request) (creation : Creation) :
    CleansUp request creation ↔ ¬ LowestLeft request creation := by
  rw [← stoppedAt_covered_iff]
  have cleaned : ∀ cleaning : Cleaning, cleaning.Works →
      (leaves (tearDown cleaning) (stoppedAt request creation)).stack =
        raidCleaned cleaning (stoppedAt request creation) := by
    intro cleaning works
    have goes : Goes request "" (tearDown cleaning) (stoppedAt request creation) _ :=
      tearDown_goes (stoppedAt_sound request creation) (reportable_of_works works _)
    obtain ⟨after, ran, left, -⟩ := goes
    rw [leaves, ran]
    exact left
  constructor
  · intro cleansUp
    have works : working.Works := ⟨rfl, rfl, rfl, rfl, rfl, rfl, rfl⟩
    have bare := cleansUp working works
    rw [cleaned working works] at bare
    exact (raidCleaned_bare_iff works).1 bare
  · intro covered cleaning works
    rw [cleaned cleaning works]
    exact (raidCleaned_bare_iff works).2 covered

/-- The disk is bare after every clean-up that works exactly when the step that made the lowest of
the layers did not stop after it had made something, and a step that does not work is recorded and
the others carried out exactly when the unmount that is tried first works for a file system that is
flagged, the removal of a flagged volume does not raise, and what a group leaves is wiped. -/
theorem storageStack_taken_down_iff (request : Request) (dir : String) (creation : Creation)
    (cleaning : Cleaning) :
    (CleansUp request creation ↔ ¬ LowestLeft request creation) ∧
      (Reports request dir creation cleaning ↔
        Reportable cleaning (stoppedAt request creation)) :=
  ⟨cleansUp_iff request creation, reports_iff request dir creation cleaning⟩

/-- A volume group without the volume on the disk itself. -/
def groupAlone : Creation :=
  ⟨true, .returned true, true, .done, .raised false, true, .done, .done⟩

/-- A volume group on the disk itself stays there when its volume was not made. A file system that
is not unmounted stops the clean-up, which records nothing. -/
theorem storageStack_not_taken_down :
    ¬ CleansUp ⟨"/dev/sdb", false, true, true⟩ groupAlone ∧
      ¬ Reports ⟨"/dev/sdb", false, false, true⟩ "/mnt"
        ⟨true, .returned true, true, .done, .done, true, .done, .done⟩
        { working with unmountDisk := false } := by
  constructor
  · intro cleansUp
    have bare := cleansUp working ⟨rfl, rfl, rfl, rfl, rfl, rfl, rfl⟩
    exact absurd bare (by decide)
  · intro reports
    exact nomatch (reports .unmountDisk (by decide)).2

end AvocadoMisc.DiskBench.StorageStack
