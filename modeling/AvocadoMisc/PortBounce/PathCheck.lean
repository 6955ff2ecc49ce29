import AvocadoMisc.Library.Scripts
import AvocadoMisc.Library.Text

/-!
# The paths behind a bounced port

`port_bounce.py` disables ports of a switch and enables them again. After each of the two it looks
at the switch, at the FC hosts and, in `mpath_state_check`, at the paths through these hosts.

`get_paths` takes the paths from a listing that is a text. The loop over this text is a loop over
its characters, and no single character has a host between two slashes in it. So there is never a
path to check, and the check comes to its end in any state of the paths.
-/

namespace AvocadoMisc.PortBounce.PathCheck

open Library.Scripts Library.Text

/-! ### Devices and switch -/

/-- A character string. -/
abbrev Text := List Char

/-- A line of the listing of `/sys/block`: what is in front of the arrow, and the link. -/
structure Device where
  front : Text
  link : Text
  deriving DecidableEq

/-- The line of a device. -/
def Device.line (device : Device) : Text := device.front ++ [' ', '-', '>', ' '] ++ device.link

/-- The name of a device is at the end of its link. -/
def Device.name (device : Device) : Text := (device.link.splitOn '/').getLastD []

/-- A host with its slashes. -/
def slashed (host : Text) : Text := '/' :: host ++ ['/']

/-- The devices, the lines in which `grep -i` finds a host, and the hosts of the ports. -/
structure System where
  devices : List Device
  selects : Text → Text → Bool
  dic : Text → Text

/-- `process.getoutput` of the listing with `grep`. -/
def System.getoutput (system : System) (host : Text) : Text :=
  ['\n'].intercalate ((system.devices.map Device.line).filter (system.selects host))

/-- The status of a path. -/
structure PathStat where
  dmState : Text
  devState : Text
  chkState : Text
  deriving DecidableEq

/-- The status of every path, each time it is polled. -/
abbrev Polls := Text → Text → List PathStat

/-- What stops a bounce. -/
inductive Ending where
  | failed (message : Text)
  | error (state : Text) (paths : List Text)
  | raised

/-- The ports that the switch does not show in the right state. -/
abbrev FailureList := List (Text × Text)

/-- A part of the test. -/
abbrev Script := EStateM Ending FailureList

/-! ### The check of the paths -/

/-- `get_paths`. -/
def getPaths (system : System) (host : Text) : List Text :=
  (((system.getoutput host).map fun c => [c]).filter (contains (slashed host))).map
    fun line => (line.splitOn '/').getLastD []

/-- `is_path_online`. -/
def isPathOnline (state1 state2 : Text) (pathStat : PathStat) : Bool :=
  !(pathStat.dmState != state1 || pathStat.chkState != state2)

/-- The paths of a port that do not come into the state. -/
def errPaths (system : System) (polls : Polls) (state1 state2 port : Text) : List Text :=
  ((getPaths system (system.dic port)).filter fun path =>
    !(polls port path).any (isPathOnline state1 state2)).map fun path => port ++ ':' :: path

/-- `mpath_state_check`. -/
def mpathStateCheck (system : System) (polls : Polls) (ports : List Text) (state1 state2 : Text) :
    Script PUnit :=
  demand (ports.flatMap (errPaths system polls state1 state2) = [])
    (.error state1 (ports.flatMap (errPaths system polls state1 state2)))

/-! ### The bounce -/

/-- The two halves of a bounce. -/
inductive Typ where
  | disable
  | enable

/-- A half as it is written. -/
def Typ.text : Typ → Text
  | .disable => "disable".toList
  | .enable => "enable".toList

/-- The world while ports are bounced. A command that cannot be run raises with a text, and a port
state cannot be read when there is no such host. -/
structure World extends System where
  adapterType : Text
  switchInfo : Typ → Except Text Text
  portCommand : Typ → Except Text Text
  switchState : Typ → Except Text Text
  portState : Typ → Text → Option Text
  polls : Typ → Polls

/-- `run_command`. -/
def runCommand (command : Text) : Except Text Text → Script Text
  | .ok output => pure output
  | .error details =>
    throw (.failed ("Failed to execute command '".toList ++ command ++ "': ".toList ++ details))

/-- The command that lists the ports. -/
def switchshow : Text := "switchshow".toList

/-- `port_enable_disable`. What `run_command` raises is not a `CommandFailed`. -/
def portEnableDisable (world : World) (typ : Typ) (ports : List Text) : Script PUnit := do
  let _ ← runCommand switchshow (world.switchInfo typ)
  let _ ← runCommand ("port".toList ++ typ.text ++ ' ' :: [' '].intercalate ports)
    (world.portCommand typ)

/-- `re.search(".*%s.*%s" % (port, state), text)`, for a port that is no pattern. -/
def searchPort (port state text : Text) : Bool :=
  (text.splitOn '\n').any fun line =>
    line.tails.any fun tail => port.isPrefixOf tail && contains state (tail.drop port.length)

/-- The entry of a port is set. -/
def setFailure (port message : Text) (failures : FailureList) : FailureList :=
  if failures.any (fun failure => failure.1 = port) then
    failures.map fun failure => if failure.1 = port then (port, message) else failure
  else failures ++ [(port, message)]

/-- `verify_switch_port_state`. -/
def verifySwitchPortState (world : World) (typ : Typ) (ports : List Text) (state : Text) :
    Script PUnit := do
  let switchInfo ← runCommand switchshow (world.switchState typ)
  forEach (fun port =>
    if searchPort port state switchInfo then pure ⟨⟩
    else modify (setFailure port
      ("Port ".toList ++ port ++ " is failed to ".toList ++ state))) ports

/-- The port of a host that goes down. -/
def linkdown : Text := "Linkdown".toList

/-- A host has the state that is expected of it. -/
def expectedState (status state : Text) : Bool :=
  state == status || (status == linkdown && state == "Offline".toList)

/-- The message about a host in another state. It is written twice, and indented differently. -/
def notChanged (status state : Text) : Text :=
  "port state not changed in host expected ".toList ++
    List.replicate (if status = linkdown then 30 else 26) ' ' ++ "state: ".toList ++ status ++
    ",actual_state: ".toList ++ state

/-- `verify_port_host_state`. -/
def verifyPortHostState (world : World) (typ : Typ) (ports : List Text) (status : Text) :
    Script PUnit :=
  forEach (fun port =>
    match world.portState typ (world.dic port) with
    | none => throw .raised
    | some content =>
      let state := content.rdropWhile (· == '\n')
      demand (expectedState status state) (.failed (notChanged status state))) ports

/-- The adapters without paths. -/
def nvmf : Text := "nvmf".toList

/-- The states of a path behind a port that is disabled, and behind one that is enabled. -/
def pathStates : Typ → Text × Text
  | .disable => ("failed".toList, "faulty".toList)
  | .enable => ("active".toList, "ready".toList)

/-- One half of `porttoggle`. -/
def half (world : World) (typ : Typ) (ports : List Text) (switchState hostState : Text) :
    Script PUnit := do
  portEnableDisable world typ ports
  verifySwitchPortState world typ ports switchState
  verifyPortHostState world typ ports hostState
  if world.adapterType ≠ nvmf then
    mpathStateCheck world.toSystem (world.polls typ) ports (pathStates typ).1 (pathStates typ).2
  else pure ⟨⟩

/-- `porttoggle`. -/
def porttoggle (world : World) (ports : List Text) : Script PUnit := do
  half world .disable ports "Disabled".toList linkdown
  half world .enable ports "Online".toList "Online".toList

/-! ### What is asked of the check -/

/-- A device behind one of the ports never comes into the state while it is polled. -/
def Lost (system : System) (polls : Polls) (ports : List Text) (state1 state2 : Text) : Prop :=
  ∃ port ∈ ports, ∃ device ∈ system.devices,
    contains (slashed (system.dic port)) device.link = true ∧
      ∀ pathStat ∈ polls port device.name,
        ¬(pathStat.dmState = state1 ∧ pathStat.chkState = state2)

/-- The check ends in an error exactly when there is such a device, whatever was recorded before. -/
def ChecksPaths (system : System) (polls : Polls) (ports : List Text) (state1 state2 : Text) :
    Prop :=
  ∀ failures, (stopped (mpathStateCheck system polls ports state1 state2) failures ≠ none ↔
    Lost system polls ports state1 state2)

/-- The test fails with this bounce: it stops, or it records a failure. -/
def Fails (world : World) (ports : List Text) : Prop :=
  stopped (porttoggle world ports) [] ≠ none ∨ leaves (porttoggle world ports) [] ≠ []

/-- A bounce where paths do not fail, or do not come back, makes the test fail. -/
def ChecksBounce (world : World) (ports : List Text) : Prop :=
  world.adapterType ≠ nvmf →
    (∃ typ, Lost world.toSystem (world.polls typ) ports (pathStates typ).1 (pathStates typ).2) →
      Fails world ports

/-- The same world with the check of the paths left out. -/
def World.unchecked (world : World) : World := { world with adapterType := nvmf }

/-! ### The verdict -/

/-- No character is a host between slashes, so there is no path. -/
theorem getPaths_eq_nil (system : System) (host : Text) : getPaths system host = [] := by
  have none_selected : ((system.getoutput host).map fun c => [c]).filter
      (contains (slashed host)) = [] := by
    rw [List.filter_eq_nil_iff]
    intro line isLine found
    obtain ⟨c, _, rfl⟩ := List.mem_map.mp isLine
    rw [contains, decide_eq_true_iff] at found
    have length := found.length_le
    simp only [slashed, List.length_append, List.length_cons, List.length_nil] at length
    omega
  rw [getPaths, none_selected, List.map_nil]

/-- The check always comes to its end. -/
theorem mpathStateCheck_eq (system : System) (polls : Polls) (ports : List Text)
    (state1 state2 : Text) : mpathStateCheck system polls ports state1 state2 = pure ⟨⟩ := by
  have no_path : ports.flatMap (errPaths system polls state1 state2) = [] := by
    rw [List.flatMap_eq_nil_iff]
    intro port _
    rw [errPaths, getPaths_eq_nil, List.filter_nil, List.map_nil]
  rw [mpathStateCheck, no_path, demand, if_pos rfl]

/-- Half a bounce does not depend on the paths. -/
theorem half_unchecked (world : World) (typ : Typ) (ports : List Text)
    (switchState hostState : Text) :
    half world typ ports switchState hostState =
      half world.unchecked typ ports switchState hostState := by
  rw [half, half, mpathStateCheck_eq, mpathStateCheck_eq, ite_self, ite_self]
  rfl

/-- A bounce ends as it does without the check of the paths. -/
theorem fails_unchecked (world : World) (ports : List Text) :
    Fails world ports ↔ Fails world.unchecked ports := by
  have same : porttoggle world ports = porttoggle world.unchecked ports := by
    rw [porttoggle, porttoggle, half_unchecked world .disable, half_unchecked world .enable]
  rw [Fails, Fails, same]

/-- The check is right exactly when no path is lost. A bounce that loses paths makes the test fail
exactly when it does so without the check.

The states of the paths may change from one poll to the next, and the checks of the switch and of
the hosts may end in any way.

Proof: the paths are looked for in single characters, so none is found and the check passes in any
state. -/
theorem checks_iff (world : World) (polls : Polls) (ports : List Text) (state1 state2 : Text) :
    (ChecksPaths world.toSystem polls ports state1 state2 ↔
      ¬Lost world.toSystem polls ports state1 state2) ∧
    (ChecksBounce world ports ↔
      world.adapterType = nvmf ∨ Fails world.unchecked ports ∨
        ∀ typ, ¬Lost world.toSystem (world.polls typ) ports (pathStates typ).1
          (pathStates typ).2) := by
  have quiet : ∀ failures,
      ¬stopped (mpathStateCheck world.toSystem polls ports state1 state2) failures ≠ none := by
    intro failures
    rw [mpathStateCheck_eq, not_not]
    rfl
  constructor
  · constructor
    · exact fun checks lost => quiet [] ((checks []).mpr lost)
    · exact fun notLost failures =>
        ⟨fun reported => absurd reported (quiet failures), fun lost => absurd lost notLost⟩
  · rw [ChecksBounce, fails_unchecked]
    constructor
    · intro checks
      by_cases isNvmf : world.adapterType = nvmf
      · exact .inl isNvmf
      by_cases lost : ∃ typ, Lost world.toSystem (world.polls typ) ports (pathStates typ).1
          (pathStates typ).2
      · exact .inr (.inl (checks isNvmf lost))
      · exact .inr (.inr (not_exists.mp lost))
    · rintro (isNvmf | fails | notLost) other lost
      · exact absurd isNvmf other
      · exact fails
      · obtain ⟨typ, lostHere⟩ := lost
        exact absurd lostHere (notLost typ)

/-- A device behind a port, which never shows any state. -/
def lostSystem : System where
  devices := [⟨['s', 'd', 'a'], "../devices/host1/block/sda".toList⟩]
  selects := fun _ _ => true
  dic := fun _ => ['h', 'o', 's', 't', '1']

/-- A lost path is not reported. -/
theorem lost_not_reported :
    ∃ (system : System) (polls : Polls) (ports : List Text) (state1 state2 : Text),
      ¬ChecksPaths system polls ports state1 state2 := by
  refine ⟨lostSystem, fun _ _ => [], [['1']], ['f'], ['f'], fun checks => ?_⟩
  have lost : Lost lostSystem (fun _ _ => []) [['1']] ['f'] ['f'] := by
    refine ⟨['1'], by decide, _, List.mem_cons_self, by decide +kernel, by simp⟩
  refine (checks []).mpr lost ?_
  rw [mpathStateCheck_eq]
  rfl

end AvocadoMisc.PortBounce.PathCheck
