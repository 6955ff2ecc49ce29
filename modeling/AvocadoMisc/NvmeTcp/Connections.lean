import AvocadoMisc.NvmeTcp.Initiator

/-!
# Connecting to all targets

`connect_to_subsystem` makes one path for each target address. If the subsystem has a controller
already, it takes that for the whole configuration and connects nothing. So a set of paths that
is neither empty nor complete stays as it is.
-/

namespace AvocadoMisc.NvmeTcp.Connections

/-! ### The call -/

/-- What the commands of one call answer: whether each listing succeeds, and the error of each
`nvme connect` that does not. -/
structure Answers where
  listed : Nat → Bool
  connectError : Nat → Option String

/-- Reasons to fail. -/
inductive Failure where
  | connectionFailed (targetIp error : String)
  | noControllers

/-- The text of the failure. -/
def Failure.text : Failure → String
  | .connectionFailed targetIp error => "Connection failed for " ++ targetIp ++ ": " ++ error
  | .noControllers => "No controllers created after connection"

/-- How a call ends. A call that returns sets `self.connected_controllers`. -/
inductive Result where
  | returned (connectedControllers : List String) (host : Host)
  | failed (failure : Failure) (host : Host)

variable (nvme : Nvme) (subsystemNqn : String)

/-- `_connect_to_single_target` for each address. -/
def connectTargets (connectError : Nat → Option String) :
    List String → Host → Option Failure × Host
  | [], host => (none, host)
  | targetIp :: rest, host =>
    match connectError 0 with
    | some error => (some (.connectionFailed targetIp error), host)
    | none =>
      connectTargets (fun k => connectError (k + 1)) rest (host.connect nvme subsystemNqn targetIp)

/-- `connect_to_subsystem`. Controllers that are connected already are returned as they are;
otherwise the targets are tried in order, and what is listed then is returned. -/
def connectToSubsystem (targetIps : List String) (answers : Answers) (host : Host) : Result :=
  let existingControllers := getConnectedControllers nvme subsystemNqn (answers.listed 0) host
  if existingControllers ≠ [] then .returned existingControllers host
  else
    match connectTargets nvme subsystemNqn answers.connectError targetIps host with
    | (some failure, after) => .failed failure after
    | (none, after) =>
      let connectedControllers :=
        getConnectedControllers nvme subsystemNqn (answers.listed 1) after
      if connectedControllers = [] then .failed .noControllers after
      else .returned connectedControllers after

/-! ### Connecting the targets -/

/-- A connection adds a path and keeps the others. -/
theorem connected_connect_iff (host : Host) (targetIp traddr : String) :
    (host.connect nvme subsystemNqn targetIp).Connected subsystemNqn traddr ↔
      host.Connected subsystemNqn traddr ∨ targetIp = traddr := by
  simp [Host.Connected, Host.paths, Host.connect, List.filter_append, or_and_right, exists_or]

/-- The loop connects every target, unless it fails. -/
theorem connectTargets_connected (connectError : Nat → Option String) (targetIps : List String)
    {host after : Host}
    (completed : connectTargets nvme subsystemNqn connectError targetIps host = (none, after))
    (traddr : String) :
    after.Connected subsystemNqn traddr ↔
      host.Connected subsystemNqn traddr ∨ traddr ∈ targetIps := by
  induction targetIps generalizing connectError host with
  | nil =>
    cases completed
    simp
  | cons targetIp rest inductionHypothesis =>
    cases refused : connectError 0 with
    | some error => simp [connectTargets, refused] at completed
    | none =>
      simp only [connectTargets, refused] at completed
      rw [inductionHypothesis _ completed, connected_connect_iff, List.mem_cons, or_assoc,
        eq_comm (a := targetIp)]

/-! ### A call that returns -/

/-- What a call should achieve: every target has a path, the controllers it sets are the
subsystem's, and a second call, whatever its connections would answer, changes nothing. -/
structure Established (targetIps : List String) (connectedControllers : List String)
    (host : Host) : Prop where
  complete : ∀ targetIp ∈ targetIps, host.Connected subsystemNqn targetIp
  exact_list : connectedControllers.Perm ((host.paths subsystemNqn).map Controller.name)
  idempotent : ∀ answers : Answers, (∀ k, answers.listed k = true) →
    connectToSubsystem nvme subsystemNqn targetIps answers host =
      .returned connectedControllers host

/-- With a controller there already, a call returns at once. -/
theorem connectToSubsystem_existing {host : Host} (present : host.paths subsystemNqn ≠ [])
    (targetIps : List String) {answers : Answers} (lists : ∀ k, answers.listed k = true) :
    connectToSubsystem nvme subsystemNqn targetIps answers host =
      .returned (getConnectedControllers nvme subsystemNqn true host) host := by
  have existing : getConnectedControllers nvme subsystemNqn true host ≠ [] :=
    fun empty => present ((getConnectedControllers_eq_nil_iff nvme subsystemNqn host).mp empty)
  simp only [connectToSubsystem, lists]
  rw [if_pos existing]

/-- What a call that returns leaves behind: the listing of a host with some controller. Either
there was one before, and the host is the same, or there was none, and all targets are connected
now. -/
theorem connectToSubsystem_returned {targetIps : List String} {answers : Answers}
    (lists : ∀ k, answers.listed k = true) {host after : Host}
    {connectedControllers : List String}
    (returned : connectToSubsystem nvme subsystemNqn targetIps answers host =
      .returned connectedControllers after) :
    connectedControllers = getConnectedControllers nvme subsystemNqn true after ∧
      after.paths subsystemNqn ≠ [] ∧
      ((host.paths subsystemNqn ≠ [] ∧ after = host) ∨
        (host.paths subsystemNqn = [] ∧
          ∀ targetIp ∈ targetIps, after.Connected subsystemNqn targetIp)) := by
  by_cases present : host.paths subsystemNqn ≠ []
  · rw [connectToSubsystem_existing nvme subsystemNqn present targetIps lists] at returned
    cases returned
    exact ⟨rfl, present, .inl ⟨present, rfl⟩⟩
  · have absent : host.paths subsystemNqn = [] := not_not.mp present
    have existing := (getConnectedControllers_eq_nil_iff nvme subsystemNqn host).mpr absent
    simp only [connectToSubsystem, lists, existing, ne_eq, not_true_eq_false, ↓reduceIte]
      at returned
    cases connected : connectTargets nvme subsystemNqn answers.connectError targetIps host with
    | mk failure middle =>
      rw [connected] at returned
      cases failure with
      | some reason => cases returned
      | none =>
        by_cases created : getConnectedControllers nvme subsystemNqn true middle = []
        · simp [created] at returned
        · simp only [created, ↓reduceIte, Result.returned.injEq] at returned
          obtain ⟨rfl, rfl⟩ := returned
          refine ⟨rfl, fun none => created ?_, .inr ⟨absent, fun targetIp member => ?_⟩⟩
          · exact (getConnectedControllers_eq_nil_iff nvme subsystemNqn middle).mpr none
          · exact (connectTargets_connected nvme subsystemNqn answers.connectError targetIps
              connected targetIp).mpr (.inr member)

/-- A call that returns has established all paths exactly if, before it, the subsystem had no
controller or every target had a path.

The listing of the controllers can be read after each connection, while a connection itself may fail
with any error. A call that does not return is not covered.

Proof: a call that finds a controller connects nothing, and one that finds none returns only with a
path for each target. -/
theorem connect_established_iff {targetIps : List String} {answers : Answers}
    (lists : ∀ k, answers.listed k = true) {host after : Host}
    {connectedControllers : List String}
    (returned : connectToSubsystem nvme subsystemNqn targetIps answers host =
      .returned connectedControllers after) :
    Established nvme subsystemNqn targetIps connectedControllers after ↔
      host.paths subsystemNqn = [] ∨
        ∀ targetIp ∈ targetIps, host.Connected subsystemNqn targetIp := by
  obtain ⟨rfl, present, either⟩ := connectToSubsystem_returned nvme subsystemNqn lists returned
  have established (complete : ∀ targetIp ∈ targetIps, after.Connected subsystemNqn targetIp) :
      Established nvme subsystemNqn targetIps
        (getConnectedControllers nvme subsystemNqn true after) after :=
    { complete
      exact_list := getConnectedControllers_perm nvme subsystemNqn after
      idempotent := fun _ again =>
        connectToSubsystem_existing nvme subsystemNqn present targetIps again }
  rcases either with ⟨existed, rfl⟩ | ⟨absent, complete⟩
  · refine ⟨fun held => .inr held.complete, fun condition => ?_⟩
    rcases condition with absent | complete
    · exact absurd absent existed
    · exact established complete
  · exact ⟨fun _ => .inl absent, fun _ => established complete⟩

/-! ### Two targets -/

/-- Every command succeeds. -/
def succeeding : Answers := ⟨fun _ => true, fun _ => none⟩

/-- Two addresses. -/
def twoTargets : List String := ["192.168.1.10", "192.168.2.10"]

/-- A host with a path to each of some addresses. -/
def hostWith (controllers : List Controller) : Host := ⟨controllers, none, fun _ => false⟩

/-- Without a controller, both targets are connected. -/
theorem both_established : ∃ connectedControllers after,
    connectToSubsystem groupedNvme "nqn" twoTargets succeeding (hostWith []) =
      .returned connectedControllers after ∧
    Established groupedNvme "nqn" twoTargets connectedControllers after := by
  have lists : ∀ k, succeeding.listed k = true := fun _ => rfl
  have absent : (hostWith []).paths "nqn" = [] := rfl
  exact ⟨_, _, rfl, (connect_established_iff groupedNvme "nqn" lists rfl).mpr (.inl absent)⟩

/-- With a controller for the first target only, the second one stays without a path. -/
theorem second_target_skipped :
    ¬ (∀ (nvme : Nvme) (nqn : String) targetIps, targetIps ≠ [] → ∀ answers : Answers,
      (∀ k, answers.listed k = true) → ∀ host after connectedControllers,
      connectToSubsystem nvme nqn targetIps answers host = .returned connectedControllers after →
      Established nvme nqn targetIps connectedControllers after) := by
  intro always
  have established := always groupedNvme "nqn" twoTargets (by decide) succeeding (fun _ => rfl)
    (hostWith [⟨0, "nqn", "192.168.1.10"⟩]) _ _ rfl
  have second := established.complete "192.168.2.10" (by decide)
  simp [Host.Connected, Host.paths, hostWith] at second

end AvocadoMisc.NvmeTcp.Connections
