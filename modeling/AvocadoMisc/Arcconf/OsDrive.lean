import AvocadoMisc.Library.Scripts
import AvocadoMisc.Library.Text

/-!
# The drive of the operating system in the arcconf tests

`arcconf_raid_oper.py` and `arcconf_migration.py` delete a logical drive of the controller before,
in and after their tests. What `process.run` returns are bytes, and this decides everything.

The listing of the PCI devices is cut into lines of bytes, and `replace` with texts raises on the
first of them. So setting up never comes to its end: it is cancelled when there is no line, and it
raises otherwise. Bytes also differ from the empty text, so taking down always goes on to ask
whether `/boot` is on the drive, and it asks for a name in the form that bytes are printed in.

A world answers every command, depending on the commands before it. Commands are recorded when
they are issued. Parameters are texts, or absent.
-/

namespace AvocadoMisc.Arcconf.OsDrive

open Library.Scripts Library.Text

/-! ### Commands -/

/-- A text. -/
abbrev Text := List Char

/-- The output of a command. -/
abbrev Bytes := List UInt8

/-- The commands of the tests. The drives are listed by
`lsscsi | grep LogicalDrv | awk '{print $7}'`, and `dfGrep` is `df -h /boot | grep` with a
pattern. -/
inductive Command where
  | listPci
  | install (package : Text)
  | listDrives
  | dfGrep (pattern : Text)
  | mountGrep (mountPoint : Text)
  | unmount (mountPoint : Text)
  | makeFs (fsType drive mountPoint : Text)
  | delete (crtlNo logicaldrive : Text)
  | arcconf (arguments : List Text)
  deriving DecidableEq

/-- How a command ends. -/
structure Answer where
  status : Nat
  stdout : Bytes

/-- What the tests meet: whether the packages are there, which logical drive holds `/boot`, and
how commands end. -/
structure World where
  lsscsi : Bool
  arcconf : Bool
  ubuntu : Bool
  bootDrive : Option Text
  answer : List Command → Command → Answer

/-- The ways in which a script is stopped. -/
inductive Ending where
  | cancel
  | fail
  | error
  deriving DecidableEq

/-- A script issues commands. -/
abbrev Script := EStateM Ending (List Command)

/-- Issue a command. -/
def issue (world : World) (command : Command) : Script Answer := do
  let before ← get
  set (before ++ [command])
  pure (world.answer before command)

/-! ### Parameters and texts -/

/-- The parameters of both tests. -/
structure Params where
  crtlNo : Option Text
  channelNo : Option Text
  diskNo : Text
  pciId : Text
  logicaldrive : Option Text
  diskoverwrite : Option Text
  fsType : Option Text
  mountPoint : Option Text
  httpPath : Option Text
  toolName : Option Text
  option : Option Text
  diskSize : Option Text
  migrationSleep : Option Text
  initialRaid : Option Text
  migrateRaid : Text
  diskInitial : Option Text
  diskMigrated : Option Text
  spareDrive : Option Text

/-- `"%s" % param`. -/
def format (param : Option Text) : Text := param.getD ['N', 'o', 'n', 'e']

/-- A digit of the number of a byte that is not printed as it is. -/
def hexDigit (value : Nat) : Char := Nat.digitChar value

/-- One byte as it is printed between quotes. -/
def byteRepr (quote : Char) (byte : UInt8) : Text :=
  let c := Char.ofNat byte.toNat
  if c = quote ∨ c = '\\' then ['\\', c]
  else if c = '\t' then ['\\', 't']
  else if c = '\n' then ['\\', 'n']
  else if c = '\r' then ['\\', 'r']
  else if byte < 0x20 ∨ 0x7F ≤ byte then
    ['\\', 'x', hexDigit (byte.toNat / 16), hexDigit (byte.toNat % 16)]
  else [c]

/-- `"%s" % data`, for bytes. -/
def bytesRepr (data : Bytes) : Text :=
  let quote := if data.contains 0x27 && !data.contains 0x22 then '"' else '\''
  'b' :: quote :: data.flatMap (byteRepr quote) ++ [quote]

/-- `bytes.rstrip`. -/
def rstrip (data : Bytes) : Bytes := data.rdropWhile byteSpace

/-- `data != ""`, for bytes. They are never equal to a text. -/
def differsFromText (_ : Bytes) : Bool := true

/-- `line.replace(" ", ":")`, for bytes. The arguments are no bytes. -/
def replaceText (_ : Bytes) : Script Text := throw .error

/-- The loop that reformats the PCI devices. -/
def formatIds : List Bytes → Script (List Text)
  | [] => pure []
  | line :: rest => do
    let formatted ← replaceText line
    let others ← formatIds rest
    pure (formatted :: others)

/-- `comp`: 0 if the lists have a common element. -/
def comp (list1 list2 : List Text) : Nat := if list1.any list2.contains then 0 else 1

/-- `int(param)`, for decimal digits. -/
def toInt (param : Option Text) : Script Nat :=
  match param with
  | none => throw .error
  | some text =>
    if text ≠ [] ∧ text.all Char.isDigit then pure (Nat.ofDigitChars 10 text 0) else throw .error

/-- `check_pass`. -/
def checkPass (world : World) (command : Command) : Script PUnit := do
  let answer ← issue world command
  demand (answer.status = 0) .fail

/-- `cmdop_list`, with the ending that a status other than zero leads to. -/
def outputOf (failed : Ending) (world : World) (command : Command) : Script Bytes := do
  let val ← issue world command
  demand (val.status = 0) failed
  pure (rstrip val.stdout)

/-- The package that is installed when there is no Arcconf. -/
def package (world : World) (params : Params) : Text :=
  format params.httpPath ++ format params.toolName ++
    if world.ubuntu then ['.', 'd', 'e', 'b'] else ['.', 'r', 'p', 'm']

/-- The command that deletes the logical drive of the parameters. -/
def deleteDrive (params : Params) : Command :=
  .delete (format params.crtlNo) (format params.logicaldrive)

/-- Disks with their channel, for a command. -/
def diskValues (params : Params) (disks : List Text) : Text :=
  disks.flatMap fun disk => ' ' :: format params.channelNo ++ ' ' :: strip charSpace disk

/-! ### arcconf_raid_oper.py -/

namespace RaidOper

/-- `cmdop_list`. A status other than zero makes `process.run` raise. -/
def cmdopList (world : World) (command : Command) : Script Bytes := outputOf .error world command

/-- Whether a parameter is missing. The lists are no texts, so they are not compared. -/
def incomplete (params : Params) : Bool :=
  params.crtlNo = some [] || params.channelNo = some [] ||
    (params.diskNo.splitOn ' ').length ≤ 1 || params.fsType = some [] ||
    params.mountPoint = some [] || params.toolName = some [] || params.httpPath = some []

/-- Install Arcconf if it is missing. A failure raises. The result of the command is compared with
0, which it never equals. -/
def installArcconf (world : World) (params : Params) : Script PUnit :=
  if world.arcconf then pure ⟨⟩
  else do
    let answer ← issue world (.install (package world params))
    demand (answer.status = 0) .error

/-- `setUp` of the one test: the adapters that are listed are compared with the parameter, the tool
is installed, and a drive that is listed is deleted if overwriting is asked for and the guard finds
no `/boot` on it. -/
def setUp (world : World) (params : Params) : Script PUnit := do
  demand world.lsscsi .cancel
  let pciId ← cmdopList world .listPci
  let pciIdFormatted ← formatIds (byteLines pciId)
  demand (incomplete params = false) .cancel
  demand (comp (params.pciId.splitOn ' ') pciIdFormatted ≠ 1) .cancel
  installArcconf world params
  let osDrive ← cmdopList world .listDrives
  if params.diskoverwrite = some ['Y'] ∧ differsFromText osDrive then
    let guard ← issue world (.dfGrep (bytesRepr osDrive))
    demand (guard.status ≠ 0) .cancel
    checkPass world (deleteDrive params)

/-- `make_fs`. -/
def makeFs (world : World) (params : Params) : Script PUnit := do
  let drive ← cmdopList world .listDrives
  if differsFromText drive then
    checkPass world (.makeFs (format params.fsType) (bytesRepr drive) (format params.mountPoint))

/-- The first loop of `raid_exec`, over the characters of all disks so far. -/
def formatDrives (world : World) (params : Params) : List Char → Script PUnit
  | [] => pure ⟨⟩
  | val1 :: rest => do
    checkPass world (.arcconf ["task start".toList, format params.crtlNo, "device".toList,
      format params.channelNo, [val1], "INITIALIZE".toList])
    formatDrives world params rest

/-- `raid_exec`. The level is a text, so it is never 0 and no logical drive is formatted. -/
def raidExec (world : World) (params : Params) (dskData raid : Text) (pair1 : List Char) :
    Script PUnit := do
  formatDrives world params pair1
  checkPass world (.arcconf ["create".toList, format params.crtlNo, "LOGICALDRIVE".toList,
    format params.option, "MAX".toList, raid, dskData])
  makeFs world params
  checkPass world (deleteDrive params)

/-- The levels for a number of disks, as far as `raid_create` knows them. -/
def raidLevel (cnt : Nat) : Option (List Text) :=
  if cnt = 2 then some ["0".toList, "1".toList]
  else if cnt = 3 then some ["1E".toList]
  else if cnt = 4 then some ["10".toList, "5".toList, "6".toList]
  else if cnt = 6 then some ["50".toList]
  else if cnt = 8 then some ["60".toList]
  else none

/-- The loop of `raid_create`. -/
def raidExecAll (world : World) (params : Params) (diskData : Text) (pair : List Char) :
    List Text → Script PUnit
  | [] => pure ⟨⟩
  | raidType :: rest => do
    raidExec world params diskData raidType pair
    raidExecAll world params diskData pair rest

/-- `raid_create`. -/
def raidCreate (world : World) (params : Params) (diskData : Text) (cnt : Nat)
    (pair : List Char) : Script PUnit :=
  match raidLevel cnt with
  | none => throw .error
  | some levels => raidExecAll world params diskData pair levels

/-- The loop of `basictest`, after some disks. -/
def eachDisk (world : World) (params : Params) (seen : List Text) : List Text → Script PUnit
  | [] => pure ⟨⟩
  | val :: rest => do
    let disks := seen ++ [val]
    if 1 < disks.length then
      raidCreate world params (diskValues params disks) disks.length
        (disks.flatMap (strip charSpace))
    eachDisk world params disks rest

/-- `test`, with `basictest`. -/
def test (world : World) (params : Params) : Script PUnit := do
  checkPass world (.arcconf ["getconfig".toList, format params.crtlNo, "AL".toList])
  eachDisk world params [] (params.diskNo.splitOn ' ')

/-- The first part of `tearDown`. The command for a mounted directory is "unmount". -/
def cleanMountPoint (world : World) (params : Params) : Script PUnit := do
  let mounted ← issue world (.mountGrep (format params.mountPoint))
  if mounted.status = 0 then checkPass world (.unmount (format params.mountPoint))

/-- The second part of `tearDown`. -/
def cleanDrive (world : World) (params : Params) : Script PUnit := do
  let drive ← cmdopList world .listDrives
  if differsFromText drive then
    let guard ← issue world (.dfGrep (bytesRepr drive))
    if guard.status ≠ 0 then checkPass world (deleteDrive params)

/-- `tearDown`. Without `lsscsi` the parameters were not read. -/
def tearDown (world : World) (params : Params) : Script PUnit := do
  demand world.lsscsi .error
  cleanMountPoint world params
  cleanDrive world params

/-- The whole test. -/
def case (world : World) (params : Params) : Case Ending (List Command) :=
  ⟨setUp world params, test world params, tearDown world params⟩

end RaidOper

/-! ### arcconf_migration.py -/

namespace Migration

/-- `cmdop_list`. -/
def cmdopList (world : World) (command : Command) : Script Bytes := outputOf .fail world command

/-- Whether a parameter is missing, up to the length of the initial level. -/
def incomplete (params : Params) : Bool :=
  params.crtlNo = some [] || params.channelNo = some [] ||
    (params.diskNo.splitOn ' ').length ≤ 1 || params.diskSize = some [] ||
    params.toolName = some [] || params.httpPath = some [] || params.initialRaid = some [] ||
    params.diskInitial = some [] || params.diskMigrated = some []

/-- The checks of the parameters. An absent level has no length. -/
def checkParams (params : Params) : Script PUnit :=
  if incomplete params then throw .cancel
  else
    match params.initialRaid with
    | none => throw .error
    | some initialRaid =>
      if 1 < initialRaid.length ∨ params.migrationSleep = some [] then throw .cancel
      else pure ⟨⟩

/-- `logicalDrive_remove`. The condition is a text, and it is compared with the number 0. The
parameters are only read for the deletion. -/
def logicalDriveRemove (world : World) (params : Params) (device : Bytes) : Script PUnit := do
  let guard ← issue world (.dfGrep (bytesRepr device))
  if guard.status ≠ 0 then
    demand world.lsscsi .error
    checkPass world (deleteDrive params)

/-- Install Arcconf if it is missing. A success cancels the test. -/
def installArcconf (world : World) (params : Params) : Script PUnit :=
  if world.arcconf then pure ⟨⟩
  else do
    let answer ← issue world (.install (package world params))
    demand (answer.status ≠ 0) .cancel

/-- `setUp` of the other test, which checks the parameters and the numbers of drives too, and leaves
the guard and the deletion to `logical_drive_remove`. -/
def setUp (world : World) (params : Params) : Script PUnit := do
  demand world.lsscsi .cancel
  let pciId ← cmdopList world .listPci
  let pciIdFormatted ← formatIds (byteLines pciId)
  checkParams params
  demand (comp (params.pciId.splitOn ' ') pciIdFormatted ≠ 1) .cancel
  let diskInitial ← toInt params.diskInitial
  demand (diskInitial ≤ (params.diskNo.splitOn ' ').length) .cancel
  let diskMigrated ← toInt params.diskMigrated
  demand (diskMigrated ≤ (params.diskNo.splitOn ' ').length) .cancel
  installArcconf world params
  let osDrive ← cmdopList world .listDrives
  if params.diskoverwrite = some ['Y'] ∧ differsFromText osDrive then
    logicalDriveRemove world params osDrive

/-- The disks of the initial level. -/
def initialDisks (params : Params) : List Text :=
  let disks := params.diskNo.splitOn ' '
  if params.initialRaid = some ['0'] ∨ params.initialRaid = some ['1'] then disks.take 2
  else if params.initialRaid = some ['5'] then disks.take 3
  else if params.initialRaid = some ['6'] ∨ params.initialRaid = some ['1', '0'] then disks.take 4
  else disks

/-- `logical_print`. -/
def logicalPrint (world : World) (params : Params) : Script PUnit :=
  checkPass world (.arcconf ["getconfig".toList, format params.crtlNo, "LD".toList])

/-- `arcconf setstate` for a device. -/
def setState (world : World) (params : Params) (device condition : Text) : Script PUnit :=
  checkPass world (.arcconf ["setstate".toList, format params.crtlNo, "device".toList,
    format params.channelNo, device, condition])

/-- The loop of `test` over the levels to migrate to. Each turn creates a drive, breaks or migrates
it, and deletes it if one is listed; a command that fails ends the test. -/
def migrateAll (world : World) (params : Params) (diskVal1 diskVal2 : Text) :
    List Text → Script PUnit
  | [] => pure ⟨⟩
  | migrate :: rest => do
    checkPass world (.arcconf ["create".toList, format params.crtlNo, "logicaldrive".toList,
      format params.diskSize, format params.initialRaid, diskVal1])
    let _ ← toInt params.migrationSleep
    if params.spareDrive ≠ some [] ∧ params.initialRaid = some ['1'] then
      setState world params (format params.spareDrive) "HSP".toList
      let device := (params.diskNo.splitOn ' ').getD 1 []
      setState world params device "DDD".toList
      logicalPrint world params
      setState world params device "RDY".toList
      logicalPrint world params
    else
      checkPass world (.arcconf ["MODIFY".toList, format params.crtlNo, "FROM".toList,
        format params.logicaldrive, "TO".toList, format params.diskSize, migrate, diskVal2])
      logicalPrint world params
    let drives ← cmdopList world .listDrives
    if drives ≠ [] then checkPass world (deleteDrive params)
    if params.spareDrive ≠ some [] then
      setState world params (format params.spareDrive) "RDY".toList
    migrateAll world params diskVal1 diskVal2 rest

/-- `test`. A count of zero is never reached, and then all disks are used. -/
def test (world : World) (params : Params) : Script PUnit := do
  let disks := params.diskNo.splitOn ' '
  let diskMigrated ← toInt params.diskMigrated
  let migrated := if diskMigrated = 0 then disks else disks.take diskMigrated
  migrateAll world params (diskValues params (initialDisks params)) (diskValues params migrated)
    (params.migrateRaid.splitOn ',')

/-- `tearDown`. -/
def tearDown (world : World) (params : Params) : Script PUnit := do
  let drive ← cmdopList world .listDrives
  if differsFromText drive then logicalDriveRemove world params drive

/-- The whole test. -/
def case (world : World) (params : Params) : Case Ending (List Command) :=
  ⟨setUp world params, test world params, tearDown world params⟩

end Migration

/-! ### What is asked of both tests -/

/-- No logical drive is deleted while it holds `/boot`, and when that one is requested to be
overwritten, the test is cancelled. -/
structure Safe (world : World) (params : Params) (case : Case Ending (List Command)) : Prop where
  kept : ∀ crtlNo logicaldrive, .delete crtlNo logicaldrive ∈ case.leaves [] →
    world.bootDrive ≠ some logicaldrive
  cancelled : params.diskoverwrite = some ['Y'] →
    world.bootDrive = some (format params.logicaldrive) →
      stopped case.setUp [] = some .cancel

/-! ### Setting up -/

/-- The question whether `/boot` is on the listed drives, as it is asked. -/
def bootGrep (world : World) (before : List Command) : Command :=
  .dfGrep (bytesRepr (rstrip (world.answer before .listDrives).stdout))

/-- The drives can be listed, and the answer to the question is no. -/
def Unnoticed (world : World) (before : List Command) : Prop :=
  (world.answer before .listDrives).status = 0 ∧
    (world.answer (before ++ [.listDrives]) (bootGrep world before)).status ≠ 0

end AvocadoMisc.Arcconf.OsDrive
