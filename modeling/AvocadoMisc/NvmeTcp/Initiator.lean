import Mathlib.Data.List.Dedup
import Mathlib.Data.List.Perm.Basic

/-!
# The host of an NVMe/TCP initiator

What the initiator test touches on its host: the controllers that the kernel holds, the file
`/etc/nvme/discovery.conf` and the two services that reconnect after a boot. The test reads the
controllers from the JSON of `nvme list-subsys`, and knows them by their names.

The kernel and the `nvme` command are not part of the repository. `Nvme` says what is relied on:
a listing shows the connected controllers under the NQN of their subsystem, and a new controller
gets a number that no other one has. Which of the commands succeed is decided by the answers
that the functions take.
-/

namespace AvocadoMisc.NvmeTcp

/-! ### The host -/

/-- A connected controller: one path to a subsystem. -/
structure Controller where
  number : Nat
  nqn : String
  traddr : String
deriving DecidableEq

/-- Its name. -/
def Controller.name (controller : Controller) : String := "nvme" ++ toString controller.number

/-- The services that `configure_persistence` may enable. -/
inductive Service where
  | nvme_connect
  | nvmf_autoconnect
deriving DecidableEq

/-- The part of the host that the test changes. -/
structure Host where
  controllers : List Controller
  discoveryConf : Option String
  enabled : Service → Bool

/-- The controllers of a subsystem. -/
def Host.paths (host : Host) (nqn : String) : List Controller :=
  host.controllers.filter fun controller => controller.nqn = nqn

/-- There is a path of the subsystem to an address. -/
def Host.Connected (host : Host) (nqn traddr : String) : Prop :=
  ∃ controller ∈ host.paths nqn, controller.traddr = traddr

/-! ### The JSON of `nvme list-subsys` -/

/-- An entry of `Paths`. -/
structure Path where
  Name : Option String

/-- An entry of `Subsystems`. -/
structure Subsystem where
  NQN : Option String
  Paths : List Path

/-- An entry of the listing. -/
structure HostEntry where
  Subsystems : List Subsystem

/-- The paths that a listing shows under an NQN. -/
def shownPaths (nqn : String) (data : List HostEntry) : List Path :=
  (data.flatMap HostEntry.Subsystems).flatMap fun subsys =>
    if subsys.NQN = some nqn then subsys.Paths else []

/-- The `nvme` command and the kernel behind it. -/
structure Nvme where
  listSubsys : List Controller → List HostEntry
  unusedNumber : List Controller → Nat
  lists : ∀ controllers nqn, (shownPaths nqn (listSubsys controllers)).Perm
    ((controllers.filter fun controller => controller.nqn = nqn).map fun controller =>
      ⟨some controller.name⟩)
  unused : ∀ controllers, ∀ controller ∈ controllers,
    controller.number ≠ unusedNumber controllers

/-- `get_connected_controllers`. If the command or the reading of its output fails, the list is
empty. -/
def getConnectedControllers (nvme : Nvme) (subsystemNqn : String) (listed : Bool) (host : Host) :
    List String :=
  if listed then
    (nvme.listSubsys host.controllers).flatMap fun entry =>
      entry.Subsystems.flatMap fun subsys =>
        if subsys.NQN = some subsystemNqn then
          subsys.Paths.filterMap fun path => path.Name.filter fun ctrlName => ctrlName ≠ ""
        else []
  else []

/-! ### Commands that succeed -/

/-- `nvme connect`: the kernel holds one more controller. -/
def Host.connect (nvme : Nvme) (nqn traddr : String) (host : Host) : Host :=
  { host with
    controllers := host.controllers ++ [⟨nvme.unusedNumber host.controllers, nqn, traddr⟩] }

/-- `nvme disconnect -d`: the controller of that name is gone. A lost connection ends the same
way. -/
def Host.disconnect (name : String) (host : Host) : Host :=
  { host with controllers := host.controllers.filter fun controller => controller.name ≠ name }

/-! ### Reading the listing -/

/-- A controller's name is not empty. -/
theorem Controller.name_ne_empty (controller : Controller) : controller.name ≠ "" := by
  intro empty
  have chars := congrArg String.toList empty
  simp [Controller.name] at chars

/-- What is read are the shown names that are not empty. -/
theorem getConnectedControllers_eq (nvme : Nvme) (nqn : String) (host : Host) :
    getConnectedControllers nvme nqn true host =
      (shownPaths nqn (nvme.listSubsys host.controllers)).filterMap fun path =>
        path.Name.filter fun ctrlName => ctrlName ≠ "" := by
  have whole (subsys : Subsystem) :
      (if subsys.NQN = some nqn then
          subsys.Paths.filterMap fun path => path.Name.filter fun ctrlName => ctrlName ≠ ""
        else []) =
      (if subsys.NQN = some nqn then subsys.Paths else []).filterMap fun path =>
        path.Name.filter fun ctrlName => ctrlName ≠ "" := by
    split <;> simp
  simp only [getConnectedControllers, ↓reduceIte, shownPaths, whole, List.filterMap_flatMap,
    List.flatMap_assoc]

/-- A listing that succeeds gives the names of the subsystem's controllers. -/
theorem getConnectedControllers_perm (nvme : Nvme) (nqn : String) (host : Host) :
    (getConnectedControllers nvme nqn true host).Perm ((host.paths nqn).map Controller.name) := by
  rw [getConnectedControllers_eq]
  refine ((nvme.lists host.controllers nqn).filterMap _).trans (List.Perm.of_eq ?_)
  rw [List.filterMap_map]
  refine List.filterMap_eq_map_iff_forall_eq_some.mpr fun controller _ => ?_
  simp [Option.filter, controller.name_ne_empty]

/-- It is empty exactly if the subsystem has no controller. -/
theorem getConnectedControllers_eq_nil_iff (nvme : Nvme) (nqn : String) (host : Host) :
    getConnectedControllers nvme nqn true host = [] ↔ host.paths nqn = [] := by
  have length := (getConnectedControllers_perm nvme nqn host).length_eq
  rw [List.length_map] at length
  rw [← List.length_eq_zero_iff, length, List.length_eq_zero_iff]

/-! ### A command that behaves so -/

/-- A listing with one subsystem for each NQN. -/
def groupedListing (controllers : List Controller) : List HostEntry :=
  [⟨(controllers.map Controller.nqn).dedup.map fun nqn =>
    ⟨some nqn, (controllers.filter fun controller => controller.nqn = nqn).map fun controller =>
      ⟨some controller.name⟩⟩⟩]

/-- The number after the greatest one. -/
def nextNumber : List Controller → Nat
  | [] => 0
  | controller :: rest =>
    if nextNumber rest ≤ controller.number then controller.number + 1 else nextNumber rest

/-- Of several subsystems with different NQNs, one shows its paths under its own. -/
theorem shownPaths_groups (paths : String → List Path) (nqn : String) (nqns : List String)
    (different : nqns.Nodup) :
    shownPaths nqn [⟨nqns.map fun other => ⟨some other, paths other⟩⟩] =
      if nqn ∈ nqns then paths nqn else [] := by
  induction nqns with
  | nil => rfl
  | cons other rest inductionHypothesis =>
    obtain ⟨fresh, distinct⟩ := List.nodup_cons.mp different
    have further := inductionHypothesis distinct
    simp only [shownPaths, List.flatMap_cons, List.flatMap_nil, List.append_nil, List.map_cons]
      at further ⊢
    rw [further]
    by_cases same : other = nqn
    · subst same
      simp [fresh]
    · simp [same, Ne.symm same]

/-- The next number is greater than all. -/
theorem number_lt_nextNumber {controllers : List Controller} {controller : Controller}
    (member : controller ∈ controllers) : controller.number < nextNumber controllers := by
  induction controllers with
  | nil => cases member
  | cons first rest inductionHypothesis =>
    rw [nextNumber]
    rcases List.mem_cons.mp member with rfl | later
    · split <;> omega
    · have below := inductionHypothesis later
      split <;> omega

/-- A command with that listing and these numbers. -/
def groupedNvme : Nvme where
  listSubsys := groupedListing
  unusedNumber := nextNumber
  lists controllers nqn := by
    rw [groupedListing, shownPaths_groups _ _ _ (List.nodup_dedup _)]
    split
    · exact .refl _
    · next absent =>
      have nothing : controllers.filter (fun controller => controller.nqn = nqn) = [] := by
        refine List.filter_eq_nil_iff.mpr fun controller member same => absent ?_
        rw [List.mem_dedup, ← of_decide_eq_true same]
        exact List.mem_map_of_mem member
      rw [nothing]
      exact .refl _
  unused _ _ member := Nat.ne_of_lt (number_lt_nextNumber member)

end AvocadoMisc.NvmeTcp
