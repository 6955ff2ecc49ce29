import AvocadoMisc.Library.Scripts

/-!
# The self-encrypting drive after its tests

The methods of `nvme_sedtest.py` enable the locking of a drive with one password, lock and unlock
it, change the password in two of the methods, and disable the locking again. `tearDown` unlocks
and reverts the drive with the first password only.

A drive with locking has a password, and only such a drive can be locked. Every command of a
method may be refused, and it may raise whether it was refused or not. The commands of `tearDown`
do what they can do with the password they are given.
-/

namespace AvocadoMisc.NvmeSed.HandBack

open Library.Scripts

/-! ### The drive -/

/-- A password. -/
abbrev Password := List Char

/-- A drive, with what it knows about locking. -/
inductive Drive where
  | unsupported
  | disabled
  | enabled (locked : Bool) (password : Password)
  deriving DecidableEq

/-- "Locking Supported". -/
def Drive.supported : Drive → Bool
  | .unsupported => false
  | _ => true

/-- "Locking Feature Enabled". -/
def Drive.lockingEnabled : Drive → Bool
  | .enabled _ _ => true
  | _ => false

/-- "Locked". -/
def Drive.locked : Drive → Bool
  | .enabled locked _ => locked
  | _ => false

/-- `nvme sed initialize`. -/
def Drive.initializeSed (password : Password) : Drive → Drive
  | .disabled => .enabled false password
  | drive => drive

/-- `nvme sed lock`. -/
def Drive.lock : Drive → Drive
  | .enabled _ password => .enabled true password
  | drive => drive

/-- `nvme sed unlock`, with or without a key. -/
def Drive.unlock (key : Option Password) : Drive → Drive
  | .enabled locked password =>
    if key.all (· = password) then .enabled false password else .enabled locked password
  | drive => drive

/-- `nvme sed password`. -/
def Drive.change (pwd1 pwd2 : Password) : Drive → Drive
  | .enabled locked password =>
    if pwd1 = password then .enabled locked pwd2 else .enabled locked password
  | drive => drive

/-- `nvme sed revert`, destructive or not. -/
def Drive.revert (password : Password) : Drive → Drive
  | .enabled locked current =>
    if password = current then .disabled else .enabled locked current
  | drive => drive

/-! ### Commands -/

/-- What a command meets: whether it does what it can do, and whether it comes to its end. For a
read with `dd` the former is whether it succeeds. -/
structure Answer where
  obeys : Bool
  completes : Bool

/-- The drive, and the number of commands so far. -/
structure Session where
  drive : Drive
  asked : Nat

/-- A script raises when it stops. -/
abbrev Script := EStateM PUnit Session

/-- The answer to the next command. -/
def next (answers : Nat → Answer) : Script Answer := do
  let session ← get
  set { session with asked := session.asked + 1 }
  pure (answers session.asked)

/-- One entry of `get_nvme_sed_discover_parameters`. An output without it makes the caller raise. -/
def discover (answers : Nat → Answer) (entry : Drive → Bool) : Script Bool := do
  let answer ← next answers
  demand answer.completes ⟨⟩
  let session ← get
  pure (entry session.drive)

/-- A command with its effect. -/
def command (answers : Nat → Answer) (effect : Drive → Drive) : Script PUnit := do
  let answer ← next answers
  modify fun session =>
    if answer.obeys then { session with drive := effect session.drive } else session
  demand answer.completes ⟨⟩

/-- `pexpect_cmd_execution` for a command that is sent a password. An absent one cannot be sent. -/
def pexpectCmdExecution (answers : Nat → Answer) (password : Option Password)
    (effect : Password → Drive → Drive) : Script PUnit :=
  match password with
  | none => throw ⟨⟩
  | some sent => command answers (effect sent)

/-- `dd_read_records_device`. -/
def ddReadRecordsDevice (answers : Nat → Answer) : Script Bool := do
  let answer ← next answers
  pure answer.obeys

/-! ### The helpers of the methods -/

/-- `initialize_sed_locking`. -/
def initializeSedLocking (answers : Nat → Answer) (password : Option Password) :
    Script PUnit := do
  let supported ← discover answers Drive.supported
  demand supported ⟨⟩
  let enabled ← discover answers Drive.lockingEnabled
  demand (enabled = false) ⟨⟩
  pexpectCmdExecution answers password Drive.initializeSed
  let initialized ← discover answers Drive.lockingEnabled
  demand initialized ⟨⟩

/-- `revert_sed_locking`. The destructive form sends its confirmations before the password. -/
def revertSedLocking (answers : Nat → Answer) (password : Option Password) : Script PUnit := do
  let supported ← discover answers Drive.supported
  demand supported ⟨⟩
  let enabled ← discover answers Drive.lockingEnabled
  demand enabled ⟨⟩
  pexpectCmdExecution answers password Drive.revert
  let left ← discover answers Drive.lockingEnabled
  demand (left = false) ⟨⟩

/-- Whether a key is passed. An absent key and an empty one are not. -/
def passKey (withPassKey : Option Password) : Option Password :=
  withPassKey.filter (· ≠ [])

/-- `unlock_drive`. -/
def unlockDrive (answers : Nat → Answer) (withPassKey : Option Password) : Script PUnit := do
  let locked ← discover answers Drive.locked
  demand locked ⟨⟩
  command answers (Drive.unlock (passKey withPassKey))
  let left ← discover answers Drive.locked
  demand (left = false) ⟨⟩

/-- `lock_drive`. The key makes no difference. -/
def lockDrive (answers : Nat → Answer) : Script PUnit := do
  let locked ← discover answers Drive.locked
  demand (locked = false) ⟨⟩
  command answers Drive.lock
  let left ← discover answers Drive.locked
  demand left ⟨⟩

/-- `change_sed_password`. -/
def changeSedPassword (answers : Nat → Answer) (pwd1 pwd2 : Option Password) : Script PUnit := do
  let supported ← discover answers Drive.supported
  demand supported ⟨⟩
  let enabled ← discover answers Drive.lockingEnabled
  demand enabled ⟨⟩
  match pwd1 with
  | none => throw ⟨⟩
  | some current => pexpectCmdExecution answers pwd2 (Drive.change current)

/-- `lock_unlock_with_key`, which is `lock_unlock` without a key. A logger has no method to fail,
so both complaints raise. -/
def lockUnlock (answers : Nat → Answer) (key : Option Password) : Script PUnit := do
  lockDrive answers
  let readLocked ← ddReadRecordsDevice answers
  demand (readLocked = false) ⟨⟩
  unlockDrive answers key
  let readUnlocked ← ddReadRecordsDevice answers
  demand readUnlocked ⟨⟩

/-! ### The methods -/

/-- The test methods, under the names they have in the source. -/
inductive Method where
  | test_initialize_locking
  | test_changed_password
  | test_changed_password_with_destructive_revert
  | test_sed_revert
  | test_lock_unlock
  | test_sed_destructive_revert
  deriving DecidableEq

/-- The two passwords of the test. Either of them may be missing from the parameters. -/
structure Passwords where
  sedPassword : Option Password
  changeSedPasswordTo : Option Password

/-- What a method does, as the helpers in order. `tearDown` is not part of it. -/
def Method.script (answers : Nat → Answer) (passwords : Passwords) : Method → Script PUnit
  | .test_initialize_locking => initializeSedLocking answers passwords.sedPassword
  | .test_changed_password => do
    initializeSedLocking answers passwords.sedPassword
    lockDrive answers
    changeSedPassword answers passwords.sedPassword passwords.changeSedPasswordTo
    unlockDrive answers none
    lockDrive answers
    unlockDrive answers passwords.changeSedPasswordTo
    revertSedLocking answers passwords.changeSedPasswordTo
  | .test_changed_password_with_destructive_revert => do
    initializeSedLocking answers passwords.sedPassword
    lockUnlock answers none
    changeSedPassword answers passwords.sedPassword passwords.changeSedPasswordTo
    lockUnlock answers passwords.changeSedPasswordTo
    revertSedLocking answers passwords.changeSedPasswordTo
  | .test_sed_revert => do
    initializeSedLocking answers passwords.sedPassword
    revertSedLocking answers passwords.sedPassword
  | .test_lock_unlock => do
    initializeSedLocking answers passwords.sedPassword
    lockUnlock answers none
    lockUnlock answers passwords.sedPassword
    revertSedLocking answers passwords.sedPassword
  | .test_sed_destructive_revert => do
    initializeSedLocking answers passwords.sedPassword
    lockDrive answers
    revertSedLocking answers passwords.sedPassword

/-- Unlock the drive if it is locked. -/
def unlockIfLocked (answers : Nat → Answer) (passwords : Passwords) : Script PUnit := do
  let locked ← discover answers Drive.locked
  if locked then unlockDrive answers passwords.sedPassword

/-- `tearDown`. -/
def tearDown (answers : Nat → Answer) (passwords : Passwords) : Script PUnit := do
  unlockIfLocked answers passwords
  let enabled ← discover answers Drive.lockingEnabled
  if enabled then revertSedLocking answers passwords.sedPassword

/-- Every command does what it can do. -/
def willing : Nat → Answer := fun _ => ⟨true, true⟩

/-- The drive after a method and `tearDown`. -/
def afterTest (answers : Nat → Answer) (passwords : Passwords) (method : Method)
    (drive : Drive) : Drive :=
  (leaves (tearDown willing passwords)
    (leaves (method.script answers passwords) ⟨drive, 0⟩)).drive

/-- A drive with locking disabled, that supports it or not. -/
def fresh (supported : Bool) : Drive := if supported then .disabled else .unsupported

/-- Not locked, and locking is not enabled. -/
def Drive.Open (drive : Drive) : Prop := drive.locked = false ∧ drive.lockingEnabled = false

/-- The current password, if there is one, is the password that `tearDown` knows. -/
def Known (passwords : Passwords) (drive : Drive) : Prop :=
  ∀ locked password, drive = .enabled locked password → passwords.sedPassword = some password

/-! ### Taking down -/

/-- Reverting a drive with locking sends the password, if there is one, and looks whether locking
is still enabled. -/
theorem revertSedLocking_apply (sent : Password) (locked : Bool) (password : Password)
    (asked : Nat) :
    revertSedLocking willing (some sent) ⟨.enabled locked password, asked⟩ =
      demand ((Drive.revert sent (.enabled locked password)).lockingEnabled = false) ⟨⟩
        ⟨Drive.revert sent (.enabled locked password), asked + 4⟩ :=
  rfl

/-- Reverting a drive with the right password disables its locking, and nothing else does. -/
theorem leaves_revertSedLocking (sent : Option Password) (locked : Bool) (password : Password)
    (asked : Nat) :
    (leaves (revertSedLocking willing sent) ⟨.enabled locked password, asked⟩).drive =
      if sent = some password then .disabled else .enabled locked password := by
  cases sent with
  | none => rfl
  | some sent =>
    rw [leaves, revertSedLocking_apply]
    by_cases right : sent = password
    · simp [Drive.revert, right, Drive.lockingEnabled, demand, pure_apply]
    · simp [Drive.revert, right, Drive.lockingEnabled, demand, throw_apply]

/-- A locked drive is sent the key, if one is passed, and is looked at again. -/
theorem unlockIfLocked_apply (passwords : Passwords) (password : Password)
    (rest : PUnit → Script PUnit) (asked : Nat) :
    (unlockIfLocked willing passwords >>= rest) ⟨.enabled true password, asked⟩ =
      (demand ((Drive.unlock (passKey passwords.sedPassword)
          (.enabled true password)).locked = false) ⟨⟩ >>= rest)
        ⟨Drive.unlock (passKey passwords.sedPassword) (.enabled true password), asked + 4⟩ :=
  rfl

/-- The last part of `tearDown`, on an unlocked drive. -/
theorem tearDown_unlocked (passwords : Passwords) (password : Password) (asked : Nat) :
    (leaves (tearDown willing passwords) ⟨.enabled false password, asked⟩).drive =
      (leaves (revertSedLocking willing passwords.sedPassword)
        ⟨.enabled false password, asked + 2⟩).drive :=
  rfl

/-- On a locked drive `tearDown` goes on when the drive was unlocked. -/
theorem tearDown_locked (passwords : Passwords) (password : Password) (asked : Nat) :
    (leaves (tearDown willing passwords) ⟨.enabled true password, asked⟩).drive =
      if (passKey passwords.sedPassword).all (· = password) then
        (leaves (revertSedLocking willing passwords.sedPassword)
          ⟨.enabled false password, asked + 5⟩).drive
      else .enabled true password := by
  rw [leaves, tearDown, unlockIfLocked_apply, demand_bind_apply]
  by_cases opens : (passKey passwords.sedPassword).all (· = password) = true
  · simp only [Drive.unlock, opens, ↓reduceIte, Drive.locked]
    rfl
  · simp [Drive.unlock, opens, Drive.locked]

/-- The right password opens a drive. -/
theorem passKey_right (password : Password) :
    (passKey (some password)).all (· = password) = true := by
  by_cases empty : password = [] <;> simp [passKey, empty]

/-- A drive is open after `tearDown` exactly when its password, if it has one, is the known one. -/
theorem tearDown_open_iff (passwords : Passwords) (session : Session) :
    (leaves (tearDown willing passwords) session).drive.Open ↔ Known passwords session.drive := by
  obtain ⟨drive, asked⟩ := session
  cases drive with
  | unsupported => exact ⟨fun _ _ _ same => (nomatch same), fun _ => ⟨rfl, rfl⟩⟩
  | disabled => exact ⟨fun _ _ _ same => (nomatch same), fun _ => ⟨rfl, rfl⟩⟩
  | enabled locked password =>
    have known : Known passwords (.enabled locked password) ↔
        passwords.sedPassword = some password :=
      ⟨fun all => all locked password rfl, fun same _ _ equal => by cases equal; exact same⟩
    have reverted : ∀ count : Nat, (leaves (revertSedLocking willing passwords.sedPassword)
        ⟨.enabled false password, count⟩).drive.Open ↔
          passwords.sedPassword = some password := by
      intro count
      rw [leaves_revertSedLocking]
      split <;> simp_all [Drive.Open, Drive.locked, Drive.lockingEnabled]
    rw [known]
    cases locked with
    | false =>
      rw [tearDown_unlocked]
      exact reverted _
    | true =>
      rw [tearDown_locked]
      split
      case isTrue opens => exact reverted _
      case isFalse shut =>
        have wrong : passwords.sedPassword ≠ some password := by
          intro right
          rw [right, passKey_right] at shut
          exact shut rfl
        simp [Drive.Open, Drive.locked, wrong]

/-! ### The methods -/

/-- After a method that may have stopped anywhere, `tearDown` hands the drive back open exactly
when locking is not enabled where the method stopped, or the current password is the one that the
drive was initialised with. -/
theorem afterTest_open_iff (answers : Nat → Answer) (passwords : Passwords) (method : Method)
    (drive : Drive) :
    (afterTest answers passwords method drive).Open ↔
      Known passwords (leaves (method.script answers passwords) ⟨drive, 0⟩).drive :=
  tearDown_open_iff passwords _

/-- Asking for an answer leaves the drive alone. -/
theorem next_keeps {Holds : Drive → Prop} (answers : Nat → Answer) :
    Keeps (fun session => Holds session.drive) (next answers) :=
  fun _ holds => holds

/-- A property of the drive that a command's effect keeps is kept by the command. -/
theorem command_keeps {Holds : Drive → Prop} {effect : Drive → Drive}
    (kept : ∀ drive, Holds drive → Holds (effect drive)) (answers : Nat → Answer) :
    Keeps (fun session => Holds session.drive) (command answers effect) := by
  refine (next_keeps answers).bind fun answer => Keeps.bind (Keeps.modify ?_) fun _ =>
    Keeps.demand _ _
  intro session holds
  split
  · exact kept session.drive holds
  · exact holds

/-- Reading an entry changes nothing. -/
theorem discover_keeps {Holds : Drive → Prop} (answers : Nat → Answer) (entry : Drive → Bool) :
    Keeps (fun session => Holds session.drive) (discover answers entry) :=
  (next_keeps answers).bind fun _ => (Keeps.demand _ _).bind fun _ => fun _ holds => holds

/-- An entry that is looked at, and has to have a value, changes nothing. -/
theorem seen_keeps {Holds : Drive → Prop} (answers : Nat → Answer) (entry : Drive → Bool)
    (wanted : Bool → Prop) [DecidablePred wanted] :
    Keeps (fun session => Holds session.drive)
      (discover answers entry >>= fun seen => demand (wanted seen) ⟨⟩) :=
  (discover_keeps answers entry).bind fun _ => Keeps.demand _ _

/-- What comes after such a look keeps what it keeps by itself. -/
theorem looked_keeps {Holds : Drive → Prop} (answers : Nat → Answer) (entry : Drive → Bool)
    (wanted : Bool → Prop) [DecidablePred wanted] {rest : Script PUnit}
    (kept : Keeps (fun session => Holds session.drive) rest) :
    Keeps (fun session => Holds session.drive)
      (discover answers entry >>= fun seen => demand (wanted seen) ⟨⟩ >>= fun _ => rest) :=
  (discover_keeps answers entry).bind fun _ => (Keeps.demand _ _).bind fun _ => kept

/-- Reading the drive changes nothing. -/
theorem ddRead_keeps {Holds : Drive → Prop} (answers : Nat → Answer) :
    Keeps (fun session => Holds session.drive) (ddReadRecordsDevice answers) :=
  fun _ holds => holds

section Methods

variable (answers : Nat → Answer) (passwords : Passwords)

/-- Initialising a drive gives it the known password. -/
theorem initializeSedLocking_keeps : Keeps (fun session => Known passwords session.drive)
    (initializeSedLocking answers passwords.sedPassword) := by
  refine looked_keeps answers _ _ (looked_keeps answers _ _
    (Keeps.bind ?_ fun _ => seen_keeps answers _ _))
  cases sent : passwords.sedPassword with
  | none => exact Keeps.throw _
  | some password =>
    refine command_keeps (fun drive known => ?_) answers
    cases drive with
    | unsupported => exact known
    | enabled locked current => exact known
    | disabled =>
      intro locked current same
      cases same
      exact sent

/-- Reverting a drive takes its password away, or nothing. -/
theorem revert_keeps (sent : Option Password) :
    Keeps (fun session => Known passwords session.drive) (revertSedLocking answers sent) := by
  refine looked_keeps answers _ _ (looked_keeps answers _ _
    (Keeps.bind ?_ fun _ => seen_keeps answers _ _))
  cases sent with
  | none => exact Keeps.throw _
  | some password =>
    refine command_keeps (fun drive known => ?_) answers
    cases drive with
    | unsupported => exact known
    | disabled => exact known
    | enabled locked current =>
      rw [Drive.revert]
      split
      · exact fun _ _ same => nomatch same
      · exact known

/-- Locking and unlocking leave the password as it is, whatever the drive answers and whichever key
is passed. -/
theorem lockUnlock_keeps (key : Option Password) :
    Keeps (fun session => Known passwords session.drive) (lockDrive answers) ∧
      Keeps (fun session => Known passwords session.drive) (unlockDrive answers key) := by
  have effects : ∀ drive, Known passwords drive →
      Known passwords drive.lock ∧ Known passwords (drive.unlock (passKey key)) := by
    intro drive known
    cases drive with
    | unsupported => exact ⟨known, known⟩
    | disabled => exact ⟨known, known⟩
    | enabled locked current =>
      have same : passwords.sedPassword = some current := known locked current rfl
      refine ⟨fun _ _ equal => by cases equal; exact same, ?_⟩
      rw [Drive.unlock]
      split
      · exact fun _ _ equal => by cases equal; exact same
      · exact known
  constructor
  · exact looked_keeps answers _ _
      ((command_keeps (fun drive known => (effects drive known).1) answers).bind fun _ =>
        seen_keeps answers _ _)
  · exact looked_keeps answers _ _
      ((command_keeps (fun drive known => (effects drive known).2) answers).bind fun _ =>
        seen_keeps answers _ _)

/-- The same for both of them together. -/
theorem lockUnlockWithKey_keeps (key : Option Password) :
    Keeps (fun session => Known passwords session.drive) (lockUnlock answers key) :=
  (lockUnlock_keeps answers passwords none).1.bind fun _ => (ddRead_keeps answers).bind fun _ =>
    (Keeps.demand _ _).bind fun _ => (lockUnlock_keeps answers passwords key).2.bind fun _ =>
      (ddRead_keeps answers).bind fun _ => Keeps.demand _ _

/-- The methods that do not change the password hand the drive back open, wherever they stop. -/
theorem afterTest_open (method : Method) (drive : Drive) (disabled : drive.lockingEnabled = false)
    (first : method ≠ .test_changed_password)
    (second : method ≠ .test_changed_password_with_destructive_revert) :
    (afterTest answers passwords method drive).Open := by
  have start : Known passwords drive := fun locked password same => by
    rw [same] at disabled
    cases disabled
  have initialized := initializeSedLocking_keeps answers passwords
  have revert := revert_keeps answers passwords passwords.sedPassword
  have lock := (lockUnlock_keeps answers passwords none).1
  have lockUnlock := lockUnlockWithKey_keeps answers passwords
  have kept : Keeps (fun session => Known passwords session.drive)
      (method.script answers passwords) := by
    cases method with
    | test_initialize_locking => exact initialized
    | test_changed_password => exact absurd rfl first
    | test_changed_password_with_destructive_revert => exact absurd rfl second
    | test_sed_revert => exact initialized.bind fun _ => revert
    | test_lock_unlock =>
      exact initialized.bind fun _ => (lockUnlock none).bind fun _ =>
        (lockUnlock passwords.sedPassword).bind fun _ => revert
    | test_sed_destructive_revert => exact initialized.bind fun _ => lock.bind fun _ => revert
  exact (tearDown_open_iff passwords _).mpr (kept ⟨drive, 0⟩ start)

/-! ### Which answers leave a changed password -/

/-- The commands from the given one on initialise the drive, and are seen to. -/
def Initializes (n : Nat) : Prop :=
  (answers n).completes = true ∧ (answers (n + 1)).completes = true ∧
    (answers (n + 2)).obeys = true ∧ (answers (n + 2)).completes = true ∧
    (answers (n + 3)).completes = true

/-- The commands from the given one on lock or unlock the drive, and are seen to. -/
def Switches (n : Nat) : Prop :=
  (answers n).completes = true ∧ (answers (n + 1)).obeys = true ∧
    (answers (n + 1)).completes = true ∧ (answers (n + 2)).completes = true

/-- The commands from the given one on lock and unlock the drive, which cannot be read in between
and can be read after that. -/
def SwitchesTwice (n : Nat) : Prop :=
  Switches answers n ∧ (answers (n + 3)).obeys = false ∧ Switches answers (n + 4) ∧
    (answers (n + 7)).obeys = true

/-- The commands from the given one on change or revert the password. -/
def TakesEffect (n : Nat) : Prop :=
  (answers n).completes = true ∧ (answers (n + 1)).completes = true ∧
    (answers (n + 2)).obeys = true

/-- The method comes to the change of the password, and that takes effect. -/
def Method.Changes : Method → Prop
  | .test_changed_password =>
    Initializes answers 0 ∧ Switches answers 4 ∧ TakesEffect answers 7
  | .test_changed_password_with_destructive_revert =>
    Initializes answers 0 ∧ SwitchesTwice answers 4 ∧ TakesEffect answers 12
  | _ => False

/-- After the change the method comes to the revert, and that takes effect. -/
def Method.Reverts : Method → Prop
  | .test_changed_password =>
    (answers 9).completes = true ∧ Switches answers 10 ∧ Switches answers 13 ∧
      Switches answers 16 ∧ TakesEffect answers 19
  | .test_changed_password_with_destructive_revert =>
    (answers 14).completes = true ∧ SwitchesTwice answers 15 ∧ TakesEffect answers 23
  | _ => True

/-- The script comes to its end in the second session if it passes, and leaves a drive with the
property otherwise. -/
structure Comes (script : Script PUnit) (before after : Session) (passes : Prop)
    (Left : Drive → Prop) : Prop where
  ok : passes → script before = .ok ⟨⟩ after
  error : ¬ passes → ∃ left, script before = .error ⟨⟩ left ∧ Left left.drive

variable {answers}

/-- One script after another. -/
theorem Comes.bind {first second : Script PUnit} {before between after : Session}
    {passes passesNext : Prop} {Left : Drive → Prop}
    (comes : Comes first before between passes Left)
    (next : Comes second between after passesNext Left) :
    Comes (first >>= fun _ => second) before after (passes ∧ passesNext) Left where
  ok both := by
    rw [bind_apply, comes.ok both.1]
    exact next.ok both.2
  error fails := by
    by_cases passed : passes
    · obtain ⟨left, ran, holds⟩ := next.error fun rest => fails ⟨passed, rest⟩
      exact ⟨left, by rw [bind_apply, comes.ok passed]; exact ran, holds⟩
    · obtain ⟨left, ran, holds⟩ := comes.error passed
      exact ⟨left, by rw [bind_apply, ran], holds⟩

/-- A weaker property of what is left. -/
theorem Comes.weaken {script : Script PUnit} {before after : Session} {passes : Prop}
    {Left Weaker : Drive → Prop} (comes : Comes script before after passes Left)
    (weaker : ∀ drive, Left drive → Weaker drive) :
    Comes script before after passes Weaker where
  ok := comes.ok
  error fails := by
    obtain ⟨left, ran, holds⟩ := comes.error fails
    exact ⟨left, ran, weaker left.drive holds⟩

/-- What is left of a first script that passes, or does not. -/
theorem Comes.leaves_bind {first second : Script PUnit} {before between : Session}
    {passes : Prop} {Left : Drive → Prop} (comes : Comes first before between passes Left) :
    (passes → leaves (first >>= fun _ => second) before = leaves second between) ∧
      (¬ passes → Left (leaves (first >>= fun _ => second) before).drive) := by
  constructor
  · intro passed
    rw [Library.Scripts.leaves_bind, comes.ok passed]
  · intro failed
    obtain ⟨left, ran, holds⟩ := comes.error failed
    rw [Library.Scripts.leaves_bind, ran]
    exact holds

variable (answers)

/-- Reading an entry. -/
theorem discover_bind_apply {α : Type} (entry : Drive → Bool) (next : Bool → Script α)
    (drive : Drive) (n : Nat) :
    (discover answers entry >>= next) ⟨drive, n⟩ =
      if (answers n).completes = true then next (entry drive) ⟨drive, n + 1⟩
      else .error ⟨⟩ ⟨drive, n + 1⟩ := by
  show ((demand ((answers n).completes = true) ⟨⟩ >>= fun _ =>
    (do let session ← get; pure (entry session.drive))) >>= next) ⟨drive, n + 1⟩ = _
  rw [bind_assoc, demand_bind_apply]
  rfl

/-- A command with its effect. -/
theorem command_bind_apply {α : Type} (effect : Drive → Drive) (next : PUnit → Script α)
    (drive : Drive) (n : Nat) :
    (command answers effect >>= next) ⟨drive, n⟩ =
      let left : Session := ⟨if (answers n).obeys then effect drive else drive, n + 1⟩
      if (answers n).completes = true then next ⟨⟩ left else .error ⟨⟩ left := by
  show (demand ((answers n).completes = true) ⟨⟩ >>= next)
    (if (answers n).obeys then ⟨effect drive, n + 1⟩ else ⟨drive, n + 1⟩) = _
  rw [demand_bind_apply]
  cases (answers n).obeys <;> rfl

/-- What a command leaves when nothing after it changes the drive. -/
theorem leaves_command_bind (effect : Drive → Drive) (rest : PUnit → Script PUnit) {drive : Drive}
    {n : Nat} (looks : Keeps (fun session : Session =>
      session.drive = if (answers n).obeys then effect drive else drive) (rest ⟨⟩)) :
    (leaves (command answers effect >>= rest) ⟨drive, n⟩).drive =
      if (answers n).obeys then effect drive else drive := by
  rw [leaves, command_bind_apply]
  cases (answers n).completes with
  | true => exact looks _ rfl
  | false => rfl

/-- Locking is enabled with the password. -/
def HasPassword (password : Password) (drive : Drive) : Prop :=
  ∃ locked, drive = .enabled locked password

/-- Looking at a drive, changing whether it is locked, and looking again, which are three commands.
It comes to its end if all complete and the second one is obeyed; otherwise the password is what it
was. -/
theorem switch_comes (effect : Drive → Drive) (locked : Bool) {password : Password}
    (works : effect (.enabled locked password) = .enabled (!locked) password) (n : Nat) :
    Comes (discover answers Drive.locked >>= fun first => demand (first = locked) ⟨⟩ >>= fun _ =>
        command answers effect >>= fun _ => discover answers Drive.locked >>= fun second =>
          demand (second = !locked) ⟨⟩)
      ⟨.enabled locked password, n⟩ ⟨.enabled (!locked) password, n + 3⟩
      (Switches answers n) (HasPassword password) := by
  have first : (Drive.enabled locked password).locked = locked := rfl
  constructor
  · rintro ⟨before, obeys, completes, after⟩
    rw [discover_bind_apply, if_pos before, demand_bind_apply, if_pos first, command_bind_apply]
    simp only [obeys, completes, works, ↓reduceIte]
    rw [discover_bind_apply, if_pos after]
    simp [Drive.locked, demand, pure_apply]
  · intro fails
    rw [discover_bind_apply, demand_bind_apply, if_pos first, command_bind_apply]
    cases before : (answers n).completes
    · exact ⟨_, rfl, locked, rfl⟩
    cases completes : (answers (n + 1)).completes
    · cases obeys : (answers (n + 1)).obeys
      · exact ⟨_, rfl, locked, rfl⟩
      · exact ⟨_, rfl, !locked, works⟩
    simp only [↓reduceIte]
    rw [discover_bind_apply]
    cases after : (answers (n + 2)).completes
    · cases obeys : (answers (n + 1)).obeys
      · exact ⟨_, rfl, locked, rfl⟩
      · exact ⟨_, rfl, !locked, works⟩
    have refused : (answers (n + 1)).obeys = false :=
      Bool.eq_false_iff.mpr fun obeys => fails ⟨before, obeys, completes, after⟩
    rw [refused]
    refine ⟨⟨.enabled locked password, n + 3⟩, ?_, locked, rfl⟩
    cases locked <;> rfl

/-- Locking a drive. -/
theorem lockDrive_comes (password : Password) (n : Nat) :
    Comes (lockDrive answers) ⟨.enabled false password, n⟩ ⟨.enabled true password, n + 3⟩
      (Switches answers n) (HasPassword password) :=
  switch_comes answers Drive.lock false rfl n

/-- Unlocking a drive without a key, or with the right one. -/
theorem unlockDrive_comes {key : Option Password} {password : Password}
    (opens : (passKey key).all (· = password) = true) (n : Nat) :
    Comes (unlockDrive answers key) ⟨.enabled true password, n⟩ ⟨.enabled false password, n + 3⟩
      (Switches answers n) (HasPassword password) :=
  switch_comes answers _ true (by rw [Drive.unlock, if_pos opens]; rfl) n

/-- Reading a drive, where one result is asked for. -/
theorem ddRead_comes (expected : Bool) (drive : Drive) (n : Nat) {password : Password}
    (has : HasPassword password drive) :
    Comes (ddReadRecordsDevice answers >>= fun read => demand (read = expected) ⟨⟩)
      ⟨drive, n⟩ ⟨drive, n + 1⟩ ((answers n).obeys = expected) (HasPassword password) := by
  have ran : (ddReadRecordsDevice answers >>= fun read => demand (read = expected) ⟨⟩)
      ⟨drive, n⟩ = demand ((answers n).obeys = expected) ⟨⟩ ⟨drive, n + 1⟩ := rfl
  constructor
  · intro passes
    rw [ran, demand, if_pos passes]
    rfl
  · intro fails
    rw [ran, demand, if_neg fails]
    exact ⟨_, rfl, has⟩

/-- Locking and unlocking. -/
theorem lockUnlock_comes {key : Option Password} {password : Password}
    (opens : (passKey key).all (· = password) = true) (n : Nat) :
    Comes (lockUnlock answers key) ⟨.enabled false password, n⟩
      ⟨.enabled false password, n + 8⟩ (SwitchesTwice answers n) (HasPassword password) := by
  have all := (lockDrive_comes answers password n).bind
    ((ddRead_comes answers false _ (n + 3) ⟨true, rfl⟩).bind
      ((unlockDrive_comes answers opens (n + 4)).bind
        (ddRead_comes answers true _ (n + 7) ⟨false, rfl⟩)))
  simp only [bind_assoc] at all
  exact all

/-- Initialising a drive on which locking is disabled. If it comes to its end the drive has the
password; otherwise it has that one or none, and `tearDown` knows both. -/
theorem initializeSedLocking_comes {passwords : Passwords} {password : Password}
    (known : passwords.sedPassword = some password) (n : Nat) :
    Comes (initializeSedLocking answers passwords.sedPassword) ⟨.disabled, n⟩
      ⟨.enabled false password, n + 4⟩ (Initializes answers n) (Known passwords) := by
  have disabled : Known passwords .disabled := fun _ _ same => nomatch same
  have enabled : Known passwords (.enabled false password) :=
    fun _ _ same => by cases same; exact known
  have supported : Drive.supported .disabled = true := rfl
  have off : Drive.lockingEnabled .disabled = false := rfl
  constructor
  · rintro ⟨first, second, obeys, completes, last⟩
    rw [initializeSedLocking, discover_bind_apply, if_pos first, demand_bind_apply,
      if_pos supported, discover_bind_apply, if_pos second, demand_bind_apply, if_pos off, known,
      pexpectCmdExecution, command_bind_apply]
    simp only [obeys, completes, ↓reduceIte, Drive.initializeSed]
    rw [discover_bind_apply, if_pos last]
    rfl
  · intro fails
    rw [initializeSedLocking, discover_bind_apply, demand_bind_apply, if_pos supported,
      discover_bind_apply, demand_bind_apply, if_pos off, known, pexpectCmdExecution,
      command_bind_apply]
    cases first : (answers n).completes
    · exact ⟨_, rfl, disabled⟩
    cases second : (answers (n + 1)).completes
    · exact ⟨_, rfl, disabled⟩
    cases completes : (answers (n + 2)).completes
    · cases obeys : (answers (n + 2)).obeys
      · exact ⟨_, rfl, disabled⟩
      · exact ⟨_, rfl, enabled⟩
    simp only [↓reduceIte]
    rw [discover_bind_apply]
    cases last : (answers (n + 3)).completes
    · cases obeys : (answers (n + 2)).obeys
      · exact ⟨_, rfl, disabled⟩
      · exact ⟨_, rfl, enabled⟩
    have refused : (answers (n + 2)).obeys = false :=
      Bool.eq_false_iff.mpr fun obeys => fails ⟨first, second, obeys, completes, last⟩
    rw [refused]
    exact ⟨⟨.disabled, n + 4⟩, rfl, disabled⟩

/-- What a revert with the right password leaves. Locking is disabled if the two looks complete and
the command is obeyed, also where the revert is reported as failed. -/
theorem leaves_revertSedLocking_right (locked : Bool) (password : Password) (n : Nat) :
    (TakesEffect answers n → (leaves (revertSedLocking answers (some password))
        ⟨.enabled locked password, n⟩).drive = .disabled) ∧
      (¬ TakesEffect answers n → (leaves (revertSedLocking answers (some password))
        ⟨.enabled locked password, n⟩).drive = .enabled locked password) := by
  have supported : (Drive.enabled locked password).supported = true := rfl
  have on : (Drive.enabled locked password).lockingEnabled = true := rfl
  have effect : (Drive.enabled locked password).revert password = .disabled := if_pos rfl
  have looks : ∀ drive, Keeps (fun session : Session => session.drive = drive)
      (discover answers Drive.lockingEnabled >>= fun left => demand (left = false) ⟨⟩) :=
    fun drive => @seen_keeps (· = drive) answers _ (· = false) _
  have ran : leaves (revertSedLocking answers (some password)) ⟨.enabled locked password, n⟩ =
      if (answers n).completes = true then
        if (answers (n + 1)).completes = true then
          leaves (command answers (Drive.revert password) >>= fun _ =>
            discover answers Drive.lockingEnabled >>= fun left => demand (left = false) ⟨⟩)
              ⟨.enabled locked password, n + 2⟩
        else ⟨.enabled locked password, n + 2⟩
      else ⟨.enabled locked password, n + 1⟩ := by
    rw [leaves, revertSedLocking, discover_bind_apply, demand_bind_apply, if_pos supported,
      discover_bind_apply, demand_bind_apply, if_pos on]
    cases (answers n).completes
    · rfl
    · cases (answers (n + 1)).completes <;> rfl
  rw [ran]
  constructor
  · rintro ⟨first, second, obeys⟩
    rw [if_pos first, if_pos second, leaves_command_bind answers _ _ (looks _), if_pos obeys]
    exact effect
  · intro fails
    cases first : (answers n).completes with
    | false => rfl
    | true =>
      cases second : (answers (n + 1)).completes with
      | false => rfl
      | true =>
        have refused : ¬ (answers (n + 2)).obeys = true :=
          fun obeys => fails ⟨first, second, obeys⟩
        simp only [↓reduceIte]
        rw [leaves_command_bind answers _ _ (looks _), if_neg refused]

/-- A change of the password, and what comes after it. -/
theorem leaves_changeSedPassword_bind (rest : Script PUnit) {old new : Password}
    (locked : Bool) (n : Nat) :
    leaves (changeSedPassword answers (some old) (some new) >>= fun _ => rest)
        ⟨.enabled locked old, n⟩ =
      if (answers n).completes = true then
        if (answers (n + 1)).completes = true then
          let left : Session :=
            ⟨.enabled locked (if (answers (n + 2)).obeys then new else old), n + 3⟩
          if (answers (n + 2)).completes = true then leaves rest left else left
        else ⟨.enabled locked old, n + 2⟩
      else ⟨.enabled locked old, n + 1⟩ := by
  have supported : (Drive.enabled locked old).supported = true := rfl
  have on : (Drive.enabled locked old).lockingEnabled = true := rfl
  have effect : (Drive.enabled locked old).change old new = .enabled locked new := if_pos rfl
  rw [changeSedPassword, bind_assoc, leaves]
  simp only [bind_assoc]
  rw [discover_bind_apply, demand_bind_apply, if_pos supported, discover_bind_apply,
    demand_bind_apply, if_pos on, pexpectCmdExecution, command_bind_apply, effect]
  cases (answers n).completes
  · rfl
  cases (answers (n + 1)).completes
  · rfl
  cases (answers (n + 2)).completes <;> cases (answers (n + 2)).obeys <;> rfl

/-- A method that changes the password, in three parts: what comes before the change, what comes
between the change and the revert, and the revert. The password is known after it, unless the
change took effect and the revert did not.

Proof: by the part that does not pass. -/
theorem known_of_change_iff {passwords : Passwords} {first second : Script PUnit}
    {old new : Password} (sed : passwords.sedPassword = some old)
    (change : passwords.changeSedPasswordTo = some new) (different : old ≠ new)
    {locked lockedNext : Bool} {n m : Nat} {passesFirst passesSecond : Prop}
    (comes : Comes first ⟨.disabled, 0⟩ ⟨.enabled locked old, n⟩ passesFirst (Known passwords))
    (comesNext : Comes second ⟨.enabled locked new, n + 3⟩ ⟨.enabled lockedNext new, m⟩
      passesSecond (HasPassword new))
    (keeps : Keeps (fun session => Known passwords session.drive) second) :
    Known passwords (leaves (first >>= fun _ =>
        changeSedPassword answers passwords.sedPassword passwords.changeSedPasswordTo >>= fun _ =>
          second >>= fun _ => revertSedLocking answers passwords.changeSedPasswordTo)
        ⟨.disabled, 0⟩).drive ↔
      ¬ ((passesFirst ∧ TakesEffect answers n) ∧
        ¬ ((answers (n + 2)).completes = true ∧ passesSecond ∧ TakesEffect answers m)) := by
  have knownOld : ∀ locked, Known passwords (.enabled locked old) :=
    fun _ _ _ same => by cases same; exact sed
  have unknownNew : ∀ {drive}, HasPassword new drive → ¬ Known passwords drive := by
    rintro drive ⟨locked, rfl⟩ known
    exact different (Option.some.inj (sed.symm.trans (known locked new rfl)))
  have disabled : Known passwords .disabled := fun _ _ same => nomatch same
  by_cases passed : passesFirst
  case neg =>
    refine iff_of_true (comes.leaves_bind.2 passed) fun lost => passed lost.1.1
  rw [comes.leaves_bind.1 passed, sed, change, leaves_changeSedPassword_bind]
  cases asked : (answers n).completes with
  | false => exact iff_of_true (knownOld _) fun lost => by simp [TakesEffect, asked] at lost
  | true =>
    cases askedAgain : (answers (n + 1)).completes with
    | false => exact iff_of_true (knownOld _) fun lost => by simp [TakesEffect, askedAgain] at lost
    | true =>
      cases obeys : (answers (n + 2)).obeys with
      | false =>
        refine iff_of_true ?_ fun lost => by simp [TakesEffect, obeys] at lost
        have rest : Keeps (fun session => Known passwords session.drive)
            (second >>= fun _ => revertSedLocking answers (some new)) :=
          keeps.bind fun _ => revert_keeps answers passwords (some new)
        cases (answers (n + 2)).completes with
        | false => exact knownOld locked
        | true => exact rest ⟨.enabled locked old, n + 3⟩ (knownOld locked)
      | true =>
        have changed : passesFirst ∧ TakesEffect answers n := ⟨passed, asked, askedAgain, obeys⟩
        simp only [changed, true_and, Classical.not_not]
        cases completes : (answers (n + 2)).completes with
        | false =>
          refine iff_of_false (unknownNew ⟨locked, rfl⟩) fun reverts => ?_
          exact Bool.noConfusion reverts.1
        | true =>
          simp only [↓reduceIte, true_and]
          by_cases passedNext : passesSecond
          · have reverted := leaves_revertSedLocking_right answers lockedNext new m
            rw [comesNext.leaves_bind.1 passedNext]
            by_cases takes : TakesEffect answers m
            · rw [reverted.1 takes]
              exact iff_of_true disabled ⟨passedNext, takes⟩
            · rw [reverted.2 takes]
              exact iff_of_false (unknownNew ⟨lockedNext, rfl⟩) fun reverts => takes reverts.2
          · exact iff_of_false (unknownNew (comesNext.leaves_bind.2 passedNext))
              fun reverts => passedNext reverts.1

/-- A change to the same password, or to none, keeps it. -/
theorem changeSedPassword_keeps {passwords : Passwords}
    (same : passwords.changeSedPasswordTo = none ∨
      passwords.changeSedPasswordTo = passwords.sedPassword) :
    Keeps (fun session => Known passwords session.drive)
      (changeSedPassword answers passwords.sedPassword passwords.changeSedPasswordTo) := by
  refine looked_keeps answers _ _ (looked_keeps answers _ _ ?_)
  cases sed : passwords.sedPassword with
  | none => exact Keeps.throw _
  | some old =>
    rcases same with none | equal
    · rw [none]
      exact Keeps.throw _
    · rw [equal, sed]
      refine command_keeps (fun drive known => ?_) answers
      cases drive with
      | unsupported => exact known
      | disabled => exact known
      | enabled locked current =>
        rw [Drive.change]
        split
        · intro _ _ enabled
          cases enabled
          exact sed
        · exact known

/-- Without support or without a password the drive is not initialised. -/
theorem initializeSedLocking_stops (supported : Bool) (password : Option Password)
    (fails : supported = false ∨ password = none) :
    ∃ n, initializeSedLocking answers password ⟨fresh supported, 0⟩ =
      .error ⟨⟩ ⟨fresh supported, n⟩ := by
  rw [initializeSedLocking, discover_bind_apply]
  cases (answers 0).completes with
  | false => exact ⟨1, rfl⟩
  | true =>
    rw [if_pos rfl, demand_bind_apply]
    cases supported with
    | false => exact ⟨1, rfl⟩
    | true =>
      obtain rfl : password = none := fails.resolve_left (by decide)
      rw [if_pos (show (fresh true).supported = true from rfl), discover_bind_apply]
      cases (answers 1).completes with
      | false => exact ⟨2, rfl⟩
      | true => exact ⟨2, rfl⟩

/-- The methods that change the password. -/
def Method.Changing (method : Method) : Prop :=
  method = .test_changed_password ∨ method = .test_changed_password_with_destructive_revert

/-- They stop at once on a drive that is not initialised. -/
theorem leaves_of_stops {passwords : Passwords} {method : Method} (changing : method.Changing)
    {supported : Bool} (stops : supported = false ∨ passwords.sedPassword = none) :
    (leaves (method.script answers passwords) ⟨fresh supported, 0⟩).drive = fresh supported := by
  obtain ⟨n, ended⟩ := initializeSedLocking_stops answers supported passwords.sedPassword stops
  rcases changing with rfl | rfl <;> rw [Method.script, leaves_bind, ended]

/-- They keep the password known when they change it to itself, or to none. -/
theorem script_keeps_of_same {passwords : Passwords} {method : Method}
    (changing : method.Changing)
    (same : passwords.changeSedPasswordTo = none ∨
      passwords.changeSedPasswordTo = passwords.sedPassword) :
    Keeps (fun session => Known passwords session.drive) (method.script answers passwords) := by
  have initialized := initializeSedLocking_keeps answers passwords
  have changed := changeSedPassword_keeps answers same
  have reverted := revert_keeps answers passwords passwords.changeSedPasswordTo
  have lockUnlock := lockUnlock_keeps answers passwords
  have twice := lockUnlockWithKey_keeps answers passwords
  rcases changing with rfl | rfl
  · exact initialized.bind fun _ => (lockUnlock none).1.bind fun _ => changed.bind fun _ =>
      (lockUnlock none).2.bind fun _ => (lockUnlock none).1.bind fun _ =>
        (lockUnlock _).2.bind fun _ => reverted
  · exact initialized.bind fun _ => (twice none).bind fun _ => changed.bind fun _ =>
      (twice _).bind fun _ => reverted

/-- Between two different passwords it depends on the change and the revert. The drive is left with
a password that `tearDown` does not know exactly if the change takes effect and the revert does not.
-/
theorem known_of_changing_iff {passwords : Passwords} {method : Method}
    (changing : method.Changing) {old new : Password}
    (sed : passwords.sedPassword = some old) (change : passwords.changeSedPasswordTo = some new)
    (different : old ≠ new) :
    Known passwords (leaves (method.script answers passwords) ⟨.disabled, 0⟩).drive ↔
      ¬ (method.Changes answers ∧ ¬ method.Reverts answers) := by
  have knownOld : ∀ drive, HasPassword old drive → Known passwords drive := by
    rintro drive ⟨locked, rfl⟩ _ _ enabled
    cases enabled
    exact sed
  have right : (passKey passwords.changeSedPasswordTo).all (· = new) = true := by
    rw [change]
    exact passKey_right new
  have lockUnlock := lockUnlock_keeps answers passwords
  rcases changing with rfl | rfl
  · have known := known_of_change_iff answers sed change different
      ((initializeSedLocking_comes answers sed 0).bind
        ((lockDrive_comes answers old 4).weaken knownOld))
      ((@unlockDrive_comes answers none new rfl 10).bind
        ((lockDrive_comes answers new 13).bind (unlockDrive_comes answers right 16)))
      ((lockUnlock none).2.bind fun _ => (lockUnlock none).1.bind fun _ => (lockUnlock _).2)
    simp only [bind_assoc] at known
    refine known.trans (not_congr ?_)
    simp only [Method.Changes, Method.Reverts, and_assoc]
  · have known := known_of_change_iff answers sed change different
      ((initializeSedLocking_comes answers sed 0).bind
        ((@lockUnlock_comes answers none old rfl 4).weaken knownOld))
      (lockUnlock_comes answers right 15) (lockUnlockWithKey_keeps answers passwords _)
    simp only [bind_assoc] at known
    refine known.trans (not_congr ?_)
    simp only [Method.Changes, Method.Reverts, and_assoc]

/-- The drive is handed back open, unless it supports locking, the two passwords are there and
differ, the method comes to the change of the password, this takes effect, and after that the
method does not come to the revert, or the revert does not take effect. -/
theorem afterTest_open_iff_answers (passwords : Passwords) (method : Method) (supported : Bool) :
    (afterTest answers passwords method (fresh supported)).Open ↔
      ¬ (supported = true ∧ passwords.sedPassword ≠ none ∧ passwords.changeSedPasswordTo ≠ none ∧
        passwords.sedPassword ≠ passwords.changeSedPasswordTo ∧
        method.Changes answers ∧ ¬ method.Reverts answers) := by
  have off : (fresh supported).lockingEnabled = false := by cases supported <;> rfl
  have start : Known passwords (fresh supported) := fun locked password same => by
    rw [same] at off
    cases off
  by_cases changing : method.Changing
  case neg =>
    have unchanged : ¬ method.Changes answers := by
      cases method <;> simp_all [Method.Changes, Method.Changing]
    exact iff_of_true (afterTest_open answers passwords method (fresh supported) off
      (fun same => changing (.inl same)) fun same => changing (.inr same))
      fun lost => unchanged lost.2.2.2.2.1
  rw [afterTest_open_iff]
  by_cases stops : supported = false ∨ passwords.sedPassword = none
  · rw [leaves_of_stops answers changing stops]
    refine iff_of_true start fun lost => ?_
    rcases stops with unsupported | none
    · exact Bool.noConfusion (unsupported.symm.trans lost.1)
    · exact lost.2.1 none
  obtain ⟨isSupported, present⟩ := not_or.mp stops
  obtain rfl : supported = true := by simpa using isSupported
  by_cases same : passwords.changeSedPasswordTo = none ∨
      passwords.changeSedPasswordTo = passwords.sedPassword
  · refine iff_of_true (script_keeps_of_same answers changing same ⟨fresh true, 0⟩ start)
      fun lost => ?_
    rcases same with none | equal
    · exact lost.2.2.1 none
    · exact lost.2.2.2.1 equal.symm
  obtain ⟨presentNext, unequal⟩ := not_or.mp same
  obtain ⟨old, sed⟩ := Option.ne_none_iff_exists'.mp present
  obtain ⟨new, change⟩ := Option.ne_none_iff_exists'.mp presentNext
  have different : old ≠ new := fun equal => unequal (by rw [change, sed, equal])
  refine (known_of_changing_iff answers changing sed change different).trans (not_congr ?_)
  simp [present, presentNext, Ne.symm unequal]

end Methods

/-- A drive whose password is changed while it is locked, and where the command to unlock it is
refused after that, stays locked. -/
theorem afterTest_locked :
    ¬ (afterTest (fun k => ⟨k ≠ 11, true⟩) ⟨some ['o', 'l', 'd'], some ['n', 'e', 'w']⟩
      .test_changed_password .disabled).Open := by
  rw [afterTest_open_iff]
  intro known
  exact absurd (known true ['n', 'e', 'w'] (by decide)) (by decide)

end AvocadoMisc.NvmeSed.HandBack
