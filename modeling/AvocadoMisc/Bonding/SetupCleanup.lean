import Mathlib.Data.List.Basic
import Mathlib.Tactic.SplitIfs
import AvocadoMisc.Library.Scripts

/-!
# What a failed bond set-up leaves behind

`test_bond_setup` of `nmcli_bonding.py` adds a bond connection and a slave connection for each
interface, on the peer with one chain of commands and on the host one by one. When the test does not
pass, `tearDown` takes the connections back.

It does so on the peer when the last command of the chain succeeded, and on the host when the bond
was set up to the end or the kernel has the bond device. Connections that were added before
something failed are in neither of these cases.
-/

namespace AvocadoMisc.Bonding.SetupCleanup

open Library.Scripts

/-! ### Two machines -/

/-- A connection that the run adds. A slave connection is named after its interface. -/
inductive Connection where
  | bond
  | slave (interface : String)
  deriving DecidableEq

/-- The parameters. The network mask is the number of its ones, when it can be read. -/
structure Settings where
  bondName : String
  hostInterfaces : List String
  peerInterfaces : List String
  peerBondNeeded : Bool
  netmask : Option Nat

/-- How the commands end. A connection may be added by a command that raises, and a slave connection
is told by its place in the list of interfaces. There is no status when `ssh` raises. Where the
status of a command is not looked at, the answer is whether the command does not raise. -/
structure Answers where
  /-- The chain of the peer. -/
  peerBond : Bool
  peerSlave : Nat → Bool
  peerStatus : Option Nat
  /-- The commands of the host. -/
  loadModule : Bool
  bond : Bool
  bondRaises : Bool
  slave : Nat → Bool
  upRaises : Bool
  verify : Bool
  modify : Bool
  secondUp : Bool
  interface : Bool
  pingCheck : Bool
  /-- The kernel has the bond device in `tearDown`. -/
  device : Bool
  unloadModule : Bool

/-- The connections that the run has added on the two machines, and the variables of the test. -/
structure State where
  host : List Connection
  peer : List Connection
  bondCreated : Bool
  peerBondCreated : Bool
  networkinterface : Bool

/-- How a script is stopped: it fails with a message, or something else raises. -/
inductive Ending where
  | failed (message : String)
  | raised

/-- A script works on the two machines. -/
abbrev Script := EStateM Ending State

/-! ### Setting up -/

/-- The bond connection, if it is added. -/
def bonds (added : Bool) : List Connection := if added then [.bond] else []

/-- The slave connections that are added. -/
def slaves (interfaces : List String) (added : Nat → Bool) : List Connection :=
  (interfaces.zipIdx.filter fun entry => added entry.2).map fun entry => .slave entry.1

/-- The connections that the chain of the peer adds. -/
def peerAdded (settings : Settings) (answers : Answers) : List Connection :=
  bonds answers.peerBond ++ slaves settings.peerInterfaces answers.peerSlave

/-- `nmcli_bond_setup("peer", "")`. -/
def setupPeer (settings : Settings) (answers : Answers) : Script PUnit := do
  demand settings.netmask.isSome .raised
  modify fun state => { state with peer := state.peer ++ peerAdded settings answers }
  demand answers.peerStatus.isSome .raised
  demand (answers.peerStatus = some 0) (.failed "Bond setup failed in peer machine")
  modify fun state => { state with peerBondCreated := true }

/-- The part of `nmcli_bond_setup("local", mode)` that follows the first activation. -/
def finishLocal (settings : Settings) (answers : Answers) : Script PUnit := do
  demand answers.verify
    (.failed ("Bond interface " ++ settings.bondName ++ " not found after creation."))
  demand settings.netmask.isSome .raised
  demand answers.modify .raised
  demand answers.secondUp .raised
  demand answers.interface .raised
  modify fun state => { state with networkinterface := true, bondCreated := true }

/-- `nmcli_bond_setup("local", mode)`. It returns early when the bond cannot be added, and when it
cannot be activated. What a command for a slave connection raises is logged. -/
def setupLocal (settings : Settings) (answers : Answers) : Script PUnit := do
  demand answers.loadModule .raised
  modify fun state => { state with host := state.host ++ bonds answers.bond }
  if answers.bondRaises then pure ⟨⟩
  else do
    modify fun state =>
      { state with host := state.host ++ slaves settings.hostInterfaces answers.slave }
    if answers.upRaises then pure ⟨⟩
    else finishLocal settings answers

/-- `test_bond_setup`. The attribute `networkinterface` is missing after an early return. -/
def testBondSetup (settings : Settings) (answers : Answers) : Script PUnit := do
  if settings.peerBondNeeded then setupPeer settings answers else pure ⟨⟩
  setupLocal settings answers
  let state ← get
  demand state.networkinterface .raised
  demand answers.pingCheck (.failed "Ping test from bond to peer FAILED")

/-! ### Taking down -/

/-- Some commands to delete connections, which succeed for connections that exist. -/
def delete (names connections : List Connection) : List Connection :=
  names.foldl (fun left name => left.filter fun connection => connection ≠ name) connections

/-- `_cleanup_local_bond`. -/
def cleanupLocal (settings : Settings) (answers : Answers) : Script PUnit := do
  let state ← get
  if !answers.device && !state.bondCreated then pure ⟨⟩
  else do
    modify fun state =>
      { state with host := delete (settings.hostInterfaces.map .slave ++ [.bond]) state.host }
    demand answers.unloadModule .raised

/-- `_cleanup_peer_bond`. -/
def cleanupPeer (settings : Settings) : Script PUnit := do
  let state ← get
  if !state.peerBondCreated then pure ⟨⟩
  else modify fun state =>
    { state with peer := delete (.bond :: settings.peerInterfaces.map .slave) state.peer }

/-- `tearDown` after `test_bond_setup`. -/
def tearDown (settings : Settings) (answers : Answers) (passed : Bool) : Script PUnit :=
  if passed then pure ⟨⟩
  else do
    cleanupLocal settings answers
    if settings.peerBondNeeded then cleanupPeer settings else pure ⟨⟩

/-! ### What is asked of the run -/

/-- The state after `setUp`. -/
def start : State := ⟨[], [], false, false, false⟩

/-- Whether the test passes. -/
def passes (settings : Settings) (answers : Answers) : Bool :=
  (stopped (testBondSetup settings answers) start).isNone

/-- The state at the end. -/
def final (settings : Settings) (answers : Answers) : State :=
  leaves (tearDown settings answers (passes settings answers))
    (leaves (testBondSetup settings answers) start)

/-- A run that does not pass leaves no connection that it added, on the host or on the peer. -/
def LeavesNothing (settings : Settings) (answers : Answers) : Prop :=
  passes settings answers = false →
    (final settings answers).host = [] ∧ (final settings answers).peer = []

/-! ### Deleting -/

/-- What is left has none of the names.

Proof: by induction on the names. -/
theorem mem_delete {names connections : List Connection} {connection : Connection} :
    connection ∈ delete names connections ↔ connection ∈ connections ∧ connection ∉ names := by
  induction names generalizing connections with
  | nil => simp [delete]
  | cons name rest inductionHypothesis =>
    have step : delete (name :: rest) connections =
        delete rest (connections.filter fun connection => connection ≠ name) := rfl
    rw [step, inductionHypothesis, List.mem_filter, decide_eq_true_iff, List.mem_cons, not_or,
      and_assoc]

/-- When all names are deleted, nothing is left. -/
theorem delete_eq_nil {names connections : List Connection}
    (all : ∀ connection ∈ connections, connection ∈ names) : delete names connections = [] := by
  rw [List.eq_nil_iff_forall_not_mem]
  intro connection left
  obtain ⟨member, absent⟩ := mem_delete.mp left
  exact absent (all connection member)

/-- A slave connection is named after one of the interfaces. -/
theorem mem_slaves {interfaces : List String} {added : Nat → Bool} {connection : Connection}
    (member : connection ∈ slaves interfaces added) :
    ∃ interface ∈ interfaces, connection = .slave interface := by
  obtain ⟨entry, selected, rfl⟩ := List.mem_map.mp member
  exact ⟨entry.1, List.fst_mem_of_mem_zipIdx (List.mem_filter.mp selected).1, rfl⟩

/-- The only bond connection. -/
theorem mem_bonds {added : Bool} {connection : Connection} (member : connection ∈ bonds added) :
    connection = .bond := by
  cases added with
  | false => cases member
  | true => exact List.mem_singleton.mp member

/-! ### What is added -/

variable {settings : Settings} {answers : Answers}

/-- Setting up the host comes to its end after the first activation. -/
structure Finishes (settings : Settings) (answers : Answers) : Prop where
  verify : answers.verify = true
  netmask : settings.netmask.isSome = true
  modify : answers.modify = true
  secondUp : answers.secondUp = true
  interface : answers.interface = true

/-- Setting up the host comes to its end, with no command on the way that raises. -/
structure Complete (settings : Settings) (answers : Answers) : Prop extends
    Finishes settings answers where
  loadModule : answers.loadModule = true
  bond : answers.bondRaises = false
  up : answers.upRaises = false

/-- The connections that are added on the host, once it is its turn. -/
def hostAdded (settings : Settings) (answers : Answers) : List Connection :=
  if answers.loadModule then
    bonds answers.bond ++
      if answers.bondRaises then [] else slaves settings.hostInterfaces answers.slave
  else []

/-- More connections on the host. -/
def State.withHost (state : State) (connections : List Connection) : State :=
  { state with host := state.host ++ connections }

/-- The host is set up. -/
def State.complete (state : State) : State :=
  { state with networkinterface := true, bondCreated := true }

/-- The last part of setting up the host. -/
theorem finishLocal_of_finishes (finishes : Finishes settings answers) (state : State) :
    finishLocal settings answers state = .ok ⟨⟩ state.complete := by
  rw [finishLocal, demand_bind_apply, if_pos finishes.verify, demand_bind_apply,
    if_pos finishes.netmask, demand_bind_apply, if_pos finishes.modify, demand_bind_apply,
    if_pos finishes.secondUp, demand_bind_apply, if_pos finishes.interface]
  rfl

/-- The last part of setting up the host, when it fails. -/
theorem finishLocal_of_not (fails : ¬Finishes settings answers) (state : State) :
    ∃ ending, finishLocal settings answers state = .error ending state := by
  rw [finishLocal]
  simp only [demand_bind_apply]
  split_ifs with verify netmask modify secondUp interface
  · exact absurd ⟨verify, netmask, modify, secondUp, interface⟩ fails
  all_goals exact ⟨_, rfl⟩

/-- Setting up the host to the end. -/
theorem setupLocal_of_complete (complete : Complete settings answers) (state : State) :
    setupLocal settings answers state =
      .ok ⟨⟩ (state.withHost (hostAdded settings answers)).complete := by
  rw [setupLocal, demand_bind_apply, if_pos complete.loadModule, modify_bind_apply]
  rw [complete.bond, if_neg Bool.false_ne_true, modify_bind_apply]
  rw [complete.up, if_neg Bool.false_ne_true, finishLocal_of_finishes complete.toFinishes,
    State.withHost, hostAdded, if_pos complete.loadModule, complete.bond, if_neg Bool.false_ne_true,
    ← List.append_assoc]

/-- Setting up the host, when it does not come to its end. The connections that were added stay. -/
theorem leaves_setupLocal_of_not (fails : ¬Complete settings answers) (state : State) :
    leaves (setupLocal settings answers) state =
      state.withHost (hostAdded settings answers) := by
  rw [setupLocal, leaves_demand_bind, hostAdded]
  by_cases loadModule : answers.loadModule
  · rw [if_pos loadModule, if_pos loadModule, leaves_modify_bind]
    by_cases bondRaises : answers.bondRaises
    · rw [if_pos bondRaises, if_pos bondRaises, List.append_nil]
      rfl
    · rw [if_neg bondRaises, if_neg bondRaises, leaves_modify_bind]
      rw [State.withHost, ← List.append_assoc]
      by_cases upRaises : answers.upRaises
      · rw [if_pos upRaises]
        rfl
      · have unfinished : ¬Finishes settings answers := fun finishes => fails
          ⟨finishes, loadModule, eq_false_of_ne_true bondRaises, eq_false_of_ne_true upRaises⟩
        rw [if_neg upRaises, leaves]
        obtain ⟨ending, stops⟩ := finishLocal_of_not unfinished _
        rw [stops]
  · rw [if_neg loadModule, if_neg loadModule, State.withHost, List.append_nil]

/-- The part of the test on the host. -/
def testLocal (settings : Settings) (answers : Answers) : Script PUnit := do
  setupLocal settings answers
  let state ← get
  demand state.networkinterface .raised
  demand answers.pingCheck (.failed "Ping test from bond to peer FAILED")

/-- The last steps of the test change nothing. -/
theorem leaves_testLocal (settings : Settings) (answers : Answers) (state : State) :
    leaves (testLocal settings answers) state = leaves (setupLocal settings answers) state := by
  refine @Keeps.after _ _ _ _ (fun left => left = leaves (setupLocal settings answers) state) _ _ _
    (fun _ after same => ?_) rfl
  rw [leaves_get_bind]
  rw [leaves_demand_bind]
  split
  · have kept : Keeps (fun left => left = leaves (setupLocal settings answers) state)
        (demand answers.pingCheck (.failed "Ping test from bond to peer FAILED") : Script PUnit) :=
      Keeps.demand _ _
    exact kept after same
  · exact same

/-- The part of the test on the host comes to its end exactly when the host is set up and can be
reached. -/
theorem stopped_testLocal_iff {state : State} (fresh : state.networkinterface = false) :
    stopped (testLocal settings answers) state = none ↔
      Complete settings answers ∧ answers.pingCheck = true := by
  rw [stopped, testLocal, bind_apply]
  by_cases complete : Complete settings answers
  · rw [setupLocal_of_complete complete]
    dsimp only
    rw [get_bind_apply]
    rw [demand_bind_apply, if_pos (by rfl), demand, and_iff_right complete]
    by_cases pingCheck : answers.pingCheck
    · rw [if_pos pingCheck]
      exact iff_of_true rfl pingCheck
    · rw [if_neg pingCheck]
      refine iff_of_false ?_ pingCheck
      rintro ⟨⟩
  · have left := leaves_setupLocal_of_not complete state
    rw [leaves] at left
    refine iff_of_false ?_ fun both => complete both.1
    cases ran : setupLocal settings answers state with
    | error ending after => rintro ⟨⟩
    | ok value after =>
      rw [ran] at left
      dsimp only at left
      dsimp only
      rw [get_bind_apply]
      rw [demand_bind_apply, if_neg (by rw [left, State.withHost, fresh]; exact Bool.false_ne_true)]
      rintro ⟨⟩

/-- The turn of the host comes: the peer needs no bond, or its chain of commands succeeded. -/
def Reached (settings : Settings) (answers : Answers) : Prop :=
  settings.peerBondNeeded = true →
    settings.netmask.isSome = true ∧ answers.peerStatus = some 0

/-- The connections that are added on the peer. -/
def addedToPeer (settings : Settings) (answers : Answers) : List Connection :=
  if settings.peerBondNeeded && settings.netmask.isSome then peerAdded settings answers else []

/-- The state after the part on the peer. -/
def afterPeer (settings : Settings) (answers : Answers) : State :=
  ⟨[], addedToPeer settings answers, false,
    settings.peerBondNeeded && settings.netmask.isSome && decide (answers.peerStatus = some 0),
    false⟩

/-- When nothing is asked of the peer, nothing happens on it. -/
theorem afterPeer_of_not_needed (notNeeded : settings.peerBondNeeded = false) :
    afterPeer settings answers = start := by
  simp [afterPeer, addedToPeer, notNeeded, start]

/-- The part of the test on the peer comes to its end when the turn of the host comes. -/
theorem testBondSetup_of_reached (reached : Reached settings answers) :
    testBondSetup settings answers start =
      testLocal settings answers (afterPeer settings answers) := by
  rw [testBondSetup]
  by_cases needed : settings.peerBondNeeded = true
  · obtain ⟨netmask, status⟩ := reached needed
    rw [if_pos needed, setupPeer, bind_assoc, demand_bind_apply, if_pos netmask, bind_assoc,
      modify_bind_apply]
    rw [bind_assoc, demand_bind_apply, if_pos (by rw [status]; rfl), bind_assoc,
      demand_bind_apply, if_pos status, bind_apply, modify_apply]
    simp only [afterPeer, addedToPeer, needed, netmask, status, start, Bool.and_self, if_true,
      decide_true, List.nil_append]
    rfl
  · rw [if_neg needed, afterPeer_of_not_needed (eq_false_of_ne_true needed)]
    rfl

/-- Where the turn of the host does not come, the test ends in an error behind the chain of the
peer, with the host as it was. -/
theorem testBondSetup_of_not (notReached : ¬Reached settings answers) :
    ∃ ending, testBondSetup settings answers start =
      .error ending (afterPeer settings answers) := by
  obtain ⟨needed, fails⟩ := Classical.not_imp.mp notReached
  rw [testBondSetup, if_pos needed, setupPeer, bind_assoc, demand_bind_apply]
  by_cases netmask : settings.netmask.isSome = true
  · have status : answers.peerStatus ≠ some 0 := fun status => fails ⟨netmask, status⟩
    have left : { start with peer := start.peer ++ peerAdded settings answers } =
        afterPeer settings answers := by
      simp only [afterPeer, addedToPeer, needed, netmask, status, start, Bool.and_self, if_true,
        decide_false, Bool.and_false, List.nil_append]
    rw [if_pos netmask, bind_assoc, modify_bind_apply, left]
    rw [bind_assoc, demand_bind_apply]
    by_cases answered : answers.peerStatus.isSome = true
    · rw [if_pos answered, bind_assoc, demand_bind_apply, if_neg status]
      exact ⟨_, rfl⟩
    · rw [if_neg answered]
      exact ⟨_, rfl⟩
  · have left : start = afterPeer settings answers := by
      simp only [afterPeer, addedToPeer, netmask, start, Bool.and_false, Bool.false_and,
        Bool.false_eq_true, if_false]
    rw [if_neg netmask]
    exact ⟨_, by rw [left]⟩

/-! ### What is left -/

/-- The test passes when both parts come to their ends. -/
theorem passes_iff : passes settings answers = true ↔
    Reached settings answers ∧ Complete settings answers ∧ answers.pingCheck = true := by
  rw [passes, Option.isNone_iff_eq_none, stopped]
  by_cases reached : Reached settings answers
  · rw [testBondSetup_of_reached reached, ← stopped, stopped_testLocal_iff rfl,
      and_iff_right reached]
  · obtain ⟨ending, stops⟩ := testBondSetup_of_not reached
    rw [stops]
    refine iff_of_false ?_ fun both => reached both.1
    rintro ⟨⟩

/-- What is there after the test, on the two machines. -/
structure Shape (settings : Settings) (state : State) : Prop where
  host : ∀ connection ∈ state.host, connection ∈ settings.hostInterfaces.map .slave ++ [.bond]
  peer : ∀ connection ∈ state.peer, connection ∈ .bond :: settings.peerInterfaces.map .slave

/-- The host is cleaned up. -/
def CleansHost (answers : Answers) (state : State) : Prop :=
  answers.device = true ∨ state.bondCreated = true

/-- Without a device and without a bond that was set up, the host is not looked at. -/
theorem cleanupLocal_of_not {state : State} (untouched : ¬CleansHost answers state) :
    cleanupLocal settings answers state = .ok ⟨⟩ state := by
  have stays : (!answers.device && !state.bondCreated) = true := by
    simpa [CleansHost] using untouched
  rw [cleanupLocal, get_bind_apply]
  rw [if_pos stays]
  rfl

/-- Otherwise all connections of the host are deleted. -/
theorem cleanupLocal_of_cleans {state : State} (shape : Shape settings state)
    (cleans : CleansHost answers state) :
    cleanupLocal settings answers state =
      if answers.unloadModule = true then .ok ⟨⟩ { state with host := [] }
      else .error .raised { state with host := [] } := by
  have goes : ¬(!answers.device && !state.bondCreated) = true := by
    rcases cleans with device | created
    · simp [device]
    · simp [created]
  rw [cleanupLocal, get_bind_apply]
  rw [if_neg goes, modify_bind_apply, delete_eq_nil shape.host, demand]
  split <;> rfl

/-- The connections of the peer are deleted when its chain succeeded. -/
theorem cleanupPeer_apply {state : State} (shape : Shape settings state) :
    cleanupPeer settings state =
      .ok ⟨⟩ (if state.peerBondCreated = true then { state with peer := [] } else state) := by
  rw [cleanupPeer, get_bind_apply]
  by_cases created : state.peerBondCreated = true
  · rw [if_neg (by simp [created]), if_pos created, modify_apply, delete_eq_nil shape.peer]
  · rw [if_pos (by simp [created]), if_neg created]
    rfl

/-- The part of `tearDown` on the peer. -/
theorem leaves_peer {state : State} (shape : Shape settings state) :
    leaves (if settings.peerBondNeeded then cleanupPeer settings else pure ⟨⟩) state =
      if settings.peerBondNeeded = true ∧ state.peerBondCreated = true then
        { state with peer := [] }
      else state := by
  by_cases needed : settings.peerBondNeeded = true
  · rw [if_pos needed, leaves, cleanupPeer_apply shape]
    simp only [needed, true_and]
  · rw [if_neg needed, if_neg fun both => needed both.1]
    rfl

/-- `tearDown` when the host is not looked at. -/
theorem leaves_tearDown_of_not {state : State} (shape : Shape settings state)
    (untouched : ¬CleansHost answers state) :
    leaves (tearDown settings answers false) state =
      if settings.peerBondNeeded = true ∧ state.peerBondCreated = true then
        { state with peer := [] }
      else state := by
  rw [tearDown, if_neg Bool.false_ne_true, leaves_bind, cleanupLocal_of_not untouched]
  exact leaves_peer shape

/-- `tearDown` when the host is cleaned up. The peer is cleaned up after the host. -/
theorem leaves_tearDown_of_cleans {state : State} (shape : Shape settings state)
    (cleans : CleansHost answers state) :
    leaves (tearDown settings answers false) state =
      if answers.unloadModule = true ∧ settings.peerBondNeeded = true ∧
          state.peerBondCreated = true then
        { state with host := [], peer := [] }
      else { state with host := [] } := by
  rw [tearDown, if_neg Bool.false_ne_true, leaves_bind, cleanupLocal_of_cleans shape cleans]
  by_cases unload : answers.unloadModule = true
  · have cleaned : Shape settings { state with host := [] } := ⟨by simp, shape.peer⟩
    rw [if_pos unload]
    dsimp only
    rw [leaves_peer cleaned]
    simp only [unload, true_and]
  · have stops : ¬(answers.unloadModule = true ∧ settings.peerBondNeeded = true ∧
        state.peerBondCreated = true) := fun all => unload all.1
    rw [if_neg unload, if_neg stops]

/-- The host after `tearDown`. -/
theorem host_tearDown {state : State} (shape : Shape settings state) :
    (leaves (tearDown settings answers false) state).host = [] ↔
      state.host = [] ∨ CleansHost answers state := by
  by_cases cleans : CleansHost answers state
  · rw [leaves_tearDown_of_cleans shape cleans]
    refine iff_of_true ?_ (.inr cleans)
    split <;> rfl
  · rw [leaves_tearDown_of_not shape cleans, or_iff_left cleans]
    split <;> rfl

/-- The peer after `tearDown`. -/
theorem peer_tearDown {state : State} (shape : Shape settings state) :
    (leaves (tearDown settings answers false) state).peer = [] ↔
      state.peer = [] ∨ settings.peerBondNeeded = true ∧ state.peerBondCreated = true ∧
        (CleansHost answers state → answers.unloadModule = true) := by
  by_cases cleans : CleansHost answers state
  · rw [leaves_tearDown_of_cleans shape cleans]
    split_ifs with all
    · exact iff_of_true rfl (.inr ⟨all.2.1, all.2.2, fun _ => all.1⟩)
    · exact (or_iff_left fun both => all ⟨both.2.2 cleans, both.1, both.2.1⟩).symm
  · rw [leaves_tearDown_of_not shape cleans]
    split_ifs with both
    · exact iff_of_true rfl (.inr ⟨both.1, both.2, fun cleaned => absurd cleaned cleans⟩)
    · exact (or_iff_left fun all => both ⟨all.1, all.2.1⟩).symm

/-- Connections of the host that `tearDown` does not see: something failed after they were added,
and the kernel has no bond device. -/
structure LeftOnHost (settings : Settings) (answers : Answers) : Prop where
  reached : Reached settings answers
  added : hostAdded settings answers ≠ []
  fails : ¬Complete settings answers
  device : answers.device = false

/-- Connections of the peer that `tearDown` does not see: the last command of the chain failed. Or
it does not come to them, because the module of the host cannot be unloaded. -/
structure LeftOnPeer (settings : Settings) (answers : Answers) : Prop where
  added : addedToPeer settings answers ≠ []
  fails : answers.peerStatus = some 0 →
    answers.unloadModule = false ∧ (answers.device = true ∨ Complete settings answers)

/-- What the chain of the peer adds. -/
theorem mem_addedToPeer {connection : Connection}
    (member : connection ∈ addedToPeer settings answers) :
    connection ∈ .bond :: settings.peerInterfaces.map Connection.slave := by
  rw [addedToPeer] at member
  split at member
  · rcases List.mem_append.mp member with isBond | isSlave
    · rw [mem_bonds isBond]
      exact List.mem_cons_self
    · obtain ⟨interface, given, rfl⟩ := mem_slaves isSlave
      exact List.mem_cons_of_mem _ (List.mem_map_of_mem given)
  · cases member

/-- What the commands of the host add. -/
theorem mem_hostAdded {connection : Connection} (member : connection ∈ hostAdded settings answers) :
    connection ∈ settings.hostInterfaces.map Connection.slave ++ [.bond] := by
  rw [hostAdded] at member
  split at member
  · rcases List.mem_append.mp member with isBond | isSlave
    · rw [mem_bonds isBond]
      exact List.mem_append_right _ List.mem_cons_self
    · split at isSlave
      · cases isSlave
      · obtain ⟨interface, given, rfl⟩ := mem_slaves isSlave
        exact List.mem_append_left _ (List.mem_map_of_mem given)
  · cases member

/-- The state after the test, when the turn of the host came. -/
theorem leaves_test_of_reached (reached : Reached settings answers) :
    leaves (testBondSetup settings answers) start =
      leaves (setupLocal settings answers) (afterPeer settings answers) := by
  rw [leaves, testBondSetup_of_reached reached, ← leaves, leaves_testLocal]

/-- The state after the test. -/
structure After (settings : Settings) (answers : Answers) (state : State) : Prop where
  shape : Shape settings state
  host : state.host = [] ↔ ¬(Reached settings answers ∧ hostAdded settings answers ≠ [])
  peer : state.peer = addedToPeer settings answers
  bondCreated : state.bondCreated = true ↔ Reached settings answers ∧ Complete settings answers
  peerBondCreated : state.peerBondCreated = true ↔
    settings.peerBondNeeded = true ∧ settings.netmask.isSome = true ∧ answers.peerStatus = some 0

/-- The bond of the peer counts as created when the chain succeeded. -/
theorem peerBondCreated_afterPeer : (afterPeer settings answers).peerBondCreated = true ↔
    settings.peerBondNeeded = true ∧ settings.netmask.isSome = true ∧
      answers.peerStatus = some 0 := by
  simp only [afterPeer, Bool.and_eq_true, decide_eq_true_eq, and_assoc]

/-- What a test leaves for `tearDown`, in whichever way it ends: what was added on either side, and
what `tearDown` will look at. -/
theorem after_test (settings : Settings) (answers : Answers) :
    After settings answers (leaves (testBondSetup settings answers) start) := by
  by_cases reached : Reached settings answers
  · rw [leaves_test_of_reached reached]
    have hosts : ∀ state : State, state.host = hostAdded settings answers →
        (state.host = [] ↔ ¬(Reached settings answers ∧ hostAdded settings answers ≠ [])) := by
      intro state same
      rw [same, and_iff_right reached, not_not]
    by_cases complete : Complete settings answers
    · have left : leaves (setupLocal settings answers) (afterPeer settings answers) =
          ((afterPeer settings answers).withHost (hostAdded settings answers)).complete := by
        rw [leaves, setupLocal_of_complete complete]
      rw [left]
      exact ⟨⟨fun _ => mem_hostAdded, fun _ => mem_addedToPeer⟩, hosts _ rfl, rfl,
        iff_of_true rfl ⟨reached, complete⟩, peerBondCreated_afterPeer⟩
    · rw [leaves_setupLocal_of_not complete]
      refine ⟨⟨fun _ => mem_hostAdded, fun _ => mem_addedToPeer⟩, hosts _ rfl, rfl,
        iff_of_false ?_ fun both => complete both.2, peerBondCreated_afterPeer⟩
      exact Bool.false_ne_true
  · have left : leaves (testBondSetup settings answers) start = afterPeer settings answers := by
      obtain ⟨ending, stops⟩ := testBondSetup_of_not reached
      rw [leaves, stops]
    rw [left]
    refine ⟨⟨fun _ member => absurd member List.not_mem_nil, fun _ => mem_addedToPeer⟩,
      iff_of_true rfl fun both => reached both.1, rfl, iff_of_false ?_ fun both => reached both.1,
      peerBondCreated_afterPeer⟩
    exact Bool.false_ne_true

/-- Nothing is left on the host after `tearDown` exactly when it sees what was added there. -/
theorem After.host_iff {state : State} (after : After settings answers state) :
    state.host = [] ∨ CleansHost answers state ↔ ¬LeftOnHost settings answers := by
  rw [after.host, CleansHost, after.bondCreated]
  constructor
  · rintro (nothing | device | both) ⟨reached, added, fails, gone⟩
    · exact nothing ⟨reached, added⟩
    · rw [gone] at device
      cases device
    · exact fails both.2
  · intro notLeft
    by_contra! ⟨added, device, notBoth⟩
    exact notLeft ⟨added.1, added.2, fun complete => notBoth added.1 complete,
      eq_false_of_ne_true device⟩

/-- Nothing is left on the peer after `tearDown` exactly when it sees what was added there. -/
theorem After.peer_iff {state : State} (after : After settings answers state) :
    (state.peer = [] ∨ settings.peerBondNeeded = true ∧ state.peerBondCreated = true ∧
      (CleansHost answers state → answers.unloadModule = true)) ↔
        ¬LeftOnPeer settings answers := by
  rw [after.peer, after.peerBondCreated, CleansHost, after.bondCreated]
  constructor
  · rintro (nothing | ⟨needed, ⟨_, netmask, status⟩, unloads⟩) ⟨added, fails⟩
    · exact added nothing
    · obtain ⟨stuck, cleans⟩ := fails status
      have unloaded := unloads (cleans.imp_right fun complete =>
        ⟨fun _ => ⟨netmask, status⟩, complete⟩)
      rw [stuck] at unloaded
      cases unloaded
  · intro notLeft
    by_cases nothing : addedToPeer settings answers = []
    · exact .inl nothing
    · have asked : settings.peerBondNeeded = true ∧ settings.netmask.isSome = true := by
        by_contra notAsked
        rw [← Bool.and_eq_true] at notAsked
        exact nothing (if_neg notAsked)
      have status : answers.peerStatus = some 0 := by
        by_contra failed
        exact notLeft ⟨nothing, fun status => absurd status failed⟩
      refine .inr ⟨asked.1, ⟨asked.1, asked.2, status⟩, fun cleans => ?_⟩
      by_contra stuck
      exact notLeft ⟨nothing, fun _ => ⟨eq_false_of_ne_true stuck, cleans.imp_right And.right⟩⟩

/-- A run leaves nothing exactly when the test passes, or `tearDown` sees all that was added.

Every command may fail, on the host and on the peer, and may have added its connection all the same.
When the test passes nothing is asked for.

Proof: what `tearDown` sees is told from the end of the host's set-up, the bond device and the last
status of the peer's chain. Whatever it does not see stays. -/
theorem leavesNothing_iff (settings : Settings) (answers : Answers) :
    LeavesNothing settings answers ↔
      (Reached settings answers ∧ Complete settings answers ∧ answers.pingCheck = true) ∨
        ¬LeftOnHost settings answers ∧ ¬LeftOnPeer settings answers := by
  have after := after_test settings answers
  rw [← passes_iff, ← after.host_iff, ← after.peer_iff, ← host_tearDown after.shape,
    ← peer_tearDown after.shape]
  rw [LeavesNothing, final]
  cases passed : passes settings answers with
  | true => simp
  | false => simp

/-- Every command of the host succeeds except the one to add the bond, and there is no device. -/
def withoutBond : Answers where
  peerBond := false
  peerSlave := fun _ => false
  peerStatus := none
  loadModule := true
  bond := false
  bondRaises := false
  slave := fun _ => true
  upRaises := false
  verify := false
  modify := true
  secondUp := true
  interface := true
  pingCheck := true
  device := false
  unloadModule := true

/-- A slave connection is left on the host when the bond could not be added. -/
theorem slave_left :
    ∃ (settings : Settings) (answers : Answers), ¬LeavesNothing settings answers := by
  refine ⟨⟨"bond0", ["eth1"], [], false, some 24⟩, withoutBond, fun nothing => ?_⟩
  exact absurd (nothing (by decide)).1 (by decide)

end AvocadoMisc.Bonding.SetupCleanup
