import Mathlib.Logic.Function.Basic
import AvocadoMisc.Library.Text

/-!
# The peer of the NFS stress test

`setup_nfs_server` prepares a peer over ssh: it creates the directory to export, installs
and starts the NFS services, stops and disables firewalld, and exports the directory. It
looks at nothing before it changes it. `tearDown` removes the export and the directory with
everything below it, and nothing else.

The set-up is a list of commands in order. Each may have its effect or not, and may succeed,
fail or raise; which failures end the set-up is the source's. After it the test writes
through the mount, and wherever it stops the peer is left to `tearDown`.
-/

namespace AvocadoMisc.FsstressNfs.PeerRestore

open Library.Text

/-- The units of the NFS services. -/
inductive NfsUnit where
  | rpcbind
  | nfsKernelServer
  | nfsserver
  | nfsServer
  deriving DecidableEq

/-- The files of a directory by name. -/
abbrev Files := String → Option String

/-- The peer: the directory at `nfs_server_path` if there is one, whether it is exported to
the host, the NFS services that run, and firewalld. -/
structure Peer where
  directory : Option Files
  exported : Bool
  running : NfsUnit → Bool
  firewalldActive : Bool
  firewalldEnabled : Bool

/-- The commands of `setup_nfs_server`, all of which it sends to the peer. -/
inductive Command where
  | mkdir
  | install
  | osRelease
  | unitFiles
  | startRpcbind
  | checkRpcbind
  | startNfs
  | checkNfs
  | verifyRpcbind
  | verifyNfs
  | stopFirewalld
  | disableFirewalld
  | exportfs
  | listExports
  deriving DecidableEq

/-- How a command comes back over ssh. -/
inductive Answer where
  | succeeds
  | fails
  | raises
  deriving DecidableEq

/-- One test. `peerDistro` and `unitFiles` are the texts that the set-up looks into,
`pulls` the units that an installation or a start brings up besides, and `writes` what the
test makes of the exported files. -/
structure Run where
  answers : Command → Answer
  takes : Command → Bool
  pulls : Command → NfsUnit → Bool
  peerDistro : List Char
  unitFiles : List Char
  writes : Files → Files

/-- The peer has a distribution that may call the server `nfsserver`. -/
def Run.suse (run : Run) : Bool :=
  !(contains "ubuntu".toList run.peerDistro || contains "debian".toList run.peerDistro) &&
    (contains "suse".toList run.peerDistro || contains "sles".toList run.peerDistro)

/-- `nfs_service_name`. -/
def Run.nfsService (run : Run) : NfsUnit :=
  if contains "ubuntu".toList run.peerDistro || contains "debian".toList run.peerDistro then
    .nfsKernelServer
  else if run.suse then
    if contains "nfsserver.service".toList run.unitFiles then .nfsserver else .nfsServer
  else .nfsServer

/-- The commands in order. A start that fails is followed by a look at the service. -/
def Run.commands (run : Run) : List Command :=
  List.flatten
    [[.mkdir, .install, .osRelease],
      if run.suse then [.unitFiles] else [],
      [.startRpcbind],
      if run.answers .startRpcbind = .fails then [.checkRpcbind] else [],
      [.startNfs],
      if run.answers .startNfs = .fails then [.checkNfs] else [],
      [.verifyRpcbind, .verifyNfs, .stopFirewalld, .disableFirewalld, .exportfs, .listExports]]

/-- The set-up ends at a command that raises, and cancels without the directory, a running
service or the export. -/
def Run.ends (run : Run) (command : Command) : Bool :=
  run.answers command == .raises ||
    match command with
    | .mkdir => run.answers .mkdir == .fails
    | .verifyNfs => run.answers .verifyRpcbind == .fails || run.answers .verifyNfs == .fails
    | .exportfs => run.answers .exportfs == .fails
    | _ => false

/-- The commands that are issued. -/
def Run.upTo (run : Run) : List Command → List Command
  | [] => []
  | command :: rest => command :: if run.ends command then [] else run.upTo rest

def Run.issued (run : Run) : List Command := run.upTo run.commands

/-- Whether a command brings a unit up. -/
def Run.starts (run : Run) (command : Command) (unit : NfsUnit) : Bool :=
  match command with
  | .install => run.pulls .install unit
  | .startRpcbind => (run.takes .startRpcbind && unit == .rpcbind) || run.pulls .startRpcbind unit
  | .startNfs => (run.takes .startNfs && unit == run.nfsService) || run.pulls .startNfs unit
  | _ => false

/-- Whether a command stops firewalld. -/
def Run.stopsFirewalld (run : Run) (command : Command) : Bool :=
  command == .stopFirewalld && run.takes .stopFirewalld

/-- Whether it disables it. -/
def Run.disablesFirewalld (run : Run) (command : Command) : Bool :=
  command == .disableFirewalld && run.takes .disableFirewalld

/-- What a command does to the peer. -/
def Run.apply (run : Run) (peer : Peer) (command : Command) : Peer where
  directory :=
    if command = .mkdir ∧ run.takes .mkdir ∧ peer.directory.isNone then some fun _ => none
    else peer.directory
  exported := peer.exported || (command == .exportfs && run.takes .exportfs)
  running unit := peer.running unit || run.starts command unit
  firewalldActive := peer.firewalldActive && !run.stopsFirewalld command
  firewalldEnabled := peer.firewalldEnabled && !run.disablesFirewalld command

/-- The peer when `setUp` or the test ends. -/
def setUp (run : Run) (peer : Peer) : Peer :=
  let prepared := run.issued.foldl run.apply peer
  { prepared with directory := prepared.directory.map run.writes }

/-- `tearDown`, with every command succeeding. -/
def tearDown (peer : Peer) : Peer :=
  { peer with exported := false, directory := none }

/-- The peer is given back: the directory with its files if there was one, no export, and the
services as they were. -/
structure GivenBack (before after : Peer) : Prop where
  directory : after.directory = before.directory
  exported : after.exported = false
  running : ∀ unit, after.running unit = before.running unit
  firewalldActive : after.firewalldActive = before.firewalldActive
  firewalldEnabled : after.firewalldEnabled = before.firewalldEnabled

/-- One of the commands that the set-up issues has an effect. -/
def Run.issues (run : Run) (effect : Command → Bool) : Prop :=
  ∃ command ∈ run.issued, effect command = true

/-- The set-up has nothing to change: there is no directory, every service that it starts runs,
and it neither stops an active firewalld nor disables an enabled one. -/
structure Spared (run : Run) (peer : Peer) : Prop where
  directory : peer.directory = none
  running : ∀ unit, run.issues (run.starts · unit) → peer.running unit = true
  firewalldActive : run.issues run.stopsFirewalld → peer.firewalldActive = false
  firewalldEnabled : run.issues run.disablesFirewalld → peer.firewalldEnabled = false

section Switches

variable {apply : Peer → Command → Peer} {switch : Peer → Bool} {effect : Command → Bool}

/-- A row of commands that turn a switch on. -/
theorem foldl_on (turns : ∀ peer command, switch (apply peer command) =
      (switch peer || effect command)) (commands : List Command) (peer : Peer) :
    switch (commands.foldl apply peer) = (switch peer || commands.any effect) := by
  induction commands generalizing peer with
  | nil => simp
  | cons command rest inductionHypothesis =>
    rw [List.foldl_cons, inductionHypothesis, turns, List.any_cons, Bool.or_assoc]

/-- A row of commands that turn it off. -/
theorem foldl_off (turns : ∀ peer command, switch (apply peer command) =
      (switch peer && !effect command)) (commands : List Command) (peer : Peer) :
    switch (commands.foldl apply peer) = (switch peer && !commands.any effect) := by
  induction commands generalizing peer with
  | nil => simp
  | cons command rest inductionHypothesis =>
    rw [List.foldl_cons, inductionHypothesis, turns, List.any_cons, Bool.not_or, Bool.and_assoc]

/-- A switch that is turned on is as it was exactly when it was on. -/
theorem on_eq_iff (turns : ∀ peer command, switch (apply peer command) =
      (switch peer || effect command)) (commands : List Command) (peer : Peer) :
    switch (commands.foldl apply peer) = switch peer ↔
      ((∃ command ∈ commands, effect command = true) → switch peer = true) := by
  rw [foldl_on turns, ← List.any_eq_true]
  cases switch peer <;> simp

/-- One that is turned off, when it was off. -/
theorem off_eq_iff (turns : ∀ peer command, switch (apply peer command) =
      (switch peer && !effect command)) (commands : List Command) (peer : Peer) :
    switch (commands.foldl apply peer) = switch peer ↔
      ((∃ command ∈ commands, effect command = true) → switch peer = false) := by
  rw [foldl_off turns, ← List.any_eq_true]
  cases switch peer <;> simp

end Switches

/-- The peer is given back unchanged exactly when the set-up has nothing to change.

Each command of the set-up may fail, raise or have no effect, and may bring up further services. The
commands of `tearDown` succeed.

Proof: `tearDown` removes the export and the directory and looks at nothing else, so all other
changes of the set-up stay. -/
theorem peer_given_back_iff (run : Run) (peer : Peer) :
    GivenBack peer (tearDown (setUp run peer)) ↔ Spared run peer := by
  have running (unit : NfsUnit) : (tearDown (setUp run peer)).running unit = peer.running unit ↔
      (run.issues (run.starts · unit) → peer.running unit = true) :=
    @on_eq_iff run.apply (fun peer => peer.running unit) (run.starts · unit)
      (fun _ _ => rfl) run.issued peer
  have active : (tearDown (setUp run peer)).firewalldActive = peer.firewalldActive ↔
      (run.issues run.stopsFirewalld → peer.firewalldActive = false) :=
    @off_eq_iff run.apply Peer.firewalldActive run.stopsFirewalld
      (fun _ _ => rfl) run.issued peer
  have enabled : (tearDown (setUp run peer)).firewalldEnabled = peer.firewalldEnabled ↔
      (run.issues run.disablesFirewalld → peer.firewalldEnabled = false) :=
    @off_eq_iff run.apply Peer.firewalldEnabled run.disablesFirewalld
      (fun _ _ => rfl) run.issued peer
  constructor
  · intro back
    exact ⟨back.directory.symm, fun unit => (running unit).mp (back.running unit),
      active.mp back.firewalldActive, enabled.mp back.firewalldEnabled⟩
  · intro spared
    exact ⟨spared.directory.symm, rfl, fun unit => (running unit).mpr (spared.running unit),
      active.mpr spared.firewalldActive, enabled.mpr spared.firewalldEnabled⟩

/-- Every command succeeds and has its effect. -/
def smoothRun : Run where
  answers _ := .succeeds
  takes _ := true
  pulls _ _ := false
  peerDistro := "rhel".toList
  unitFiles := []
  writes files := files

/-- A peer with one file in the directory and an active firewalld. -/
def busyPeer : Peer where
  directory := some fun name => if name = "results" then some "1" else none
  exported := false
  running _ := true
  firewalldActive := true
  firewalldEnabled := true

/-- The file is deleted. -/
theorem peer_given_back_fails :
    ¬ ∀ run peer, GivenBack peer (tearDown (setUp run peer)) := by
  intro always
  have directory := (always smoothRun busyPeer).directory
  cases directory

end AvocadoMisc.FsstressNfs.PeerRestore
