import Mathlib.Data.List.Basic
import Mathlib.Logic.Function.Basic

/-!
# What the bond failover test leaves of its slaves

`hnv_bond_failover.py` writes down the operational state of every slave of the bond in `setUp`,
takes one slave down in a test method, and goes through the slaves again in `tearDown`. There it
compares the state it reads with the one it wrote down.

The branch it then takes is guarded by `original_state == "up" or "unknown"`. The second operand
is a non-empty text and not a comparison, so the branch that sets a slave down is dead. A slave
that was down before ends as it was only when `tearDown` finds nothing to restore.
-/

namespace AvocadoMisc.HnvBond.SlaveRestore

/-! ### Operational states -/

/-- A network interface. -/
abbrev Interface := String

/-- The stripped text of an `operstate` file. -/
abbrev Word := String

/-- The `operstate` files under `/sys/class/net`. -/
abbrev OperStates := Interface → Word

/-- `_get_interface_state`: a file that cannot be read counts as "unknown". -/
def getInterfaceState (readable : Bool) (states : OperStates) (interface : Interface) : Word :=
  if readable then states interface else "unknown"

/-- `initial_slave_states`. -/
abbrev Recorded := Interface → Option Word

/-- The loop of `setUp` that records the slaves. The answers say, for each turn, whether the file
can be read. -/
def recordStates (readable : Nat → Bool) (states : OperStates) :
    List Interface → Recorded → Recorded
  | [], recorded => recorded
  | slave :: rest, recorded =>
    recordStates (fun k => readable (k + 1)) states rest
      (Function.update recorded slave (some (getInterfaceState (readable 0) states slave)))

/-! ### The test methods -/

/-- How `ip link set` ends: its exit status, and the state of the interface afterwards. -/
structure Outcome where
  succeeded : Bool
  word : Word

/-- How a method ends. -/
inductive Verdict where
  | pass
  | fail
  | error
  | cancel
  deriving DecidableEq

/-- What a failover method meets: the active slave before it, how its two commands end, whether
the bond fails over in time and whether the peer answers. -/
structure Answers where
  active : Option Interface
  setDown : Outcome
  failover : Bool
  ping : Bool
  setUp : Outcome

/-- The body of both failover methods, for the slave they are about. -/
def failover (answers : Answers) (slave : Interface) (states : OperStates) :
    Verdict × OperStates :=
  let down := Function.update states slave answers.setDown.word
  if !answers.setDown.succeeded then (.fail, down)
  else if answers.active = some slave ∧ !answers.failover then (.fail, down)
  else if !answers.ping then (.fail, down)
  else
    let up := Function.update down slave answers.setUp.word
    if !answers.setUp.succeeded then (.error, up) else (.pass, up)

/-- `test_failover_slave1_down`. Without a first slave the index is out of range. -/
def testFailoverSlave1Down (answers : Answers) (slaves : List Interface) (states : OperStates) :
    Verdict × OperStates :=
  match slaves[0]? with
  | none => (.error, states)
  | some slave1 => failover answers slave1 states

/-- `test_failover_slave2_down`. -/
def testFailoverSlave2Down (answers : Answers) (slaves : List Interface) (states : OperStates) :
    Verdict × OperStates :=
  match slaves[1]? with
  | none => (.cancel, states)
  | some slave2 => failover answers slave2 states

/-- The `primary_reselect` file of the bond. -/
inductive Reselect where
  | missing
  | unreadable
  | text (primaryReselect : String)

/-- `test_bond_config_validation`. It performs no command: it reads the policy and the active slave,
and what it cannot read is a failure or an error of the test. -/
def testBondConfigValidation (reselect : Reselect) (active : Option Interface)
    (slaves : List Interface) : Verdict :=
  let checkActive : Verdict :=
    match active with
    | none => .fail
    | some activeSlave => if activeSlave ∈ slaves then .pass else .fail
  match reselect with
  | .missing => .fail
  | .unreadable => .error
  | .text primaryReselect =>
    if "always".toList.isPrefixOf primaryReselect.toList then checkActive else .fail

/-- What runs between the recording and `tearDown`. Nothing does when the connectivity check at
the end of `setUp` fails. -/
inductive Method where
  | none
  | test_bond_config_validation (reselect : Reselect) (active : Option Interface)
  | test_failover_slave1_down (answers : Answers)
  | test_failover_slave2_down (answers : Answers)

/-- The states a method leaves, wherever it ends. -/
def Method.leaves (slaves : List Interface) (states : OperStates) : Method → OperStates
  | .none => states
  | .test_bond_config_validation _ _ => states
  | .test_failover_slave1_down answers => (testFailoverSlave1Down answers slaves states).2
  | .test_failover_slave2_down answers => (testFailoverSlave2Down answers slaves states).2

/-! ### Taking the test down -/

/-- An operand of `or`. -/
inductive Operand where
  | comparison (holds : Bool)
  | text (word : String)

/-- Whether an operand counts as true. -/
def Operand.truthy : Operand → Bool
  | .comparison holds => holds
  | .text word => word ≠ ""

/-- `first or second` is one of its operands. -/
def Operand.or (first second : Operand) : Operand := if first.truthy then first else second

/-- One turn of the loop of `tearDown`. Its commands set the state they name. -/
def restoreSlave (readable : Bool) (recorded : Recorded) (slave : Interface)
    (states : OperStates) : OperStates :=
  let currentState := getInterfaceState readable states slave
  let originalState := (recorded slave).getD "up"
  if currentState ≠ originalState then
    if (Operand.or (.comparison (originalState = "up")) (.text "unknown")).truthy then
      Function.update states slave "up"
    else if originalState = "down" then Function.update states slave "down"
    else states
  else states

/-- The loop of `tearDown`. -/
def tearDown (recorded : Recorded) : (Nat → Bool) → List Interface → OperStates → OperStates
  | _, [], states => states
  | readable, slave :: rest, states =>
    tearDown recorded (fun k => readable (k + 1)) rest
      (restoreSlave (readable 0) recorded slave states)

/-- Every slave that was recorded as down is down, and every one recorded as up is up. -/
def Restored (slaves : List Interface) (recorded : Recorded) (states : OperStates) : Prop :=
  ∀ slave ∈ slaves, (recorded slave = some "down" → states slave = "down") ∧
    (recorded slave = some "up" → states slave = "up")

instance (slaves : List Interface) (recorded : Recorded) (states : OperStates) :
    Decidable (Restored slaves recorded states) :=
  inferInstanceAs (Decidable (∀ slave ∈ slaves, _ ∧ _))

/-! ### One turn -/

/-- The guard of the first branch always holds. -/
theorem guard_true (originalState : Word) :
    (Operand.or (.comparison (originalState = "up")) (.text "unknown")).truthy = true := by
  by_cases recordedUp : originalState = "up" <;> simp [Operand.or, Operand.truthy, recordedUp]

/-- A turn sets its slave up, or leaves it when what it reads is what was recorded. -/
theorem restoreSlave_eq (readable : Bool) (recorded : Recorded) (slave : Interface)
    (states : OperStates) :
    restoreSlave readable recorded slave states =
      if getInterfaceState readable states slave = (recorded slave).getD "up" then states
      else Function.update states slave "up" := by
  by_cases same : getInterfaceState readable states slave = (recorded slave).getD "up"
  · simp [restoreSlave, same]
  · simp only [restoreSlave, guard_true, ↓reduceIte, same, ne_eq, not_false_eq_true]

/-- A turn is about its own slave only. -/
theorem restoreSlave_of_ne {slave other : Interface} (different : slave ≠ other)
    (readable : Bool) (recorded : Recorded) (states : OperStates) :
    restoreSlave readable recorded other states slave = states slave := by
  rw [restoreSlave_eq]
  split
  · rfl
  · exact Function.update_of_ne different _ _

/-- A slave that is up stays up. -/
theorem restoreSlave_up {slave : Interface} {states : OperStates} (up : states slave = "up")
    (readable : Bool) (recorded : Recorded) (other : Interface) :
    restoreSlave readable recorded other states slave = "up" := by
  by_cases same : slave = other
  · subst same
    rw [restoreSlave_eq]
    split
    · exact up
    · exact Function.update_self _ _ _
  · rw [restoreSlave_of_ne same, up]

/-! ### The loop -/

/-- A slave that is up stays up to the end.

Proof: by induction on the slaves that are left. -/
theorem tearDown_up (recorded : Recorded) (slaves : List Interface) {slave : Interface}
    (readable : Nat → Bool) {states : OperStates} (up : states slave = "up") :
    tearDown recorded readable slaves states slave = "up" := by
  induction slaves generalizing readable states with
  | nil => exact up
  | cons other rest inductionHypothesis =>
    exact inductionHypothesis (fun k => readable (k + 1)) (restoreSlave_up up _ _ _)

/-- A slave that was recorded as up ends up. -/
theorem tearDown_recorded_up (recorded : Recorded) (slaves : List Interface) {slave : Interface}
    (recordedUp : recorded slave = some "up") (member : slave ∈ slaves) (readable : Nat → Bool)
    (states : OperStates) : tearDown recorded readable slaves states slave = "up" := by
  induction slaves generalizing readable states with
  | nil => cases member
  | cons other rest inductionHypothesis =>
    by_cases here : slave = other
    · subst here
      have up : restoreSlave (readable 0) recorded slave states slave = "up" := by
        rw [restoreSlave_eq, recordedUp]
        split
        case isTrue same =>
          -- what was read is the word itself, since an unreadable file gives another word
          cases readability : readable 0 <;> simp_all [getInterfaceState]
        case isFalse => exact Function.update_self _ _ _
      exact tearDown_up recorded rest _ up
    · have later : slave ∈ rest := by simpa [here] using member
      exact inductionHypothesis later _ _

/-- Whether every turn about a slave reads it as down, when nothing changes it before. -/
def ReadDown (readable : Nat → Bool) (slaves : List Interface) (states : OperStates)
    (slave : Interface) : Prop :=
  ∀ k, slaves[k]? = some slave → getInterfaceState (readable k) states slave = "down"

/-- The first turn and the others. -/
theorem readDown_cons (readable : Nat → Bool) (other : Interface) (rest : List Interface)
    (states : OperStates) (slave : Interface) :
    ReadDown readable (other :: rest) states slave ↔
      (other = slave → getInterfaceState (readable 0) states slave = "down") ∧
        ReadDown (fun k => readable (k + 1)) rest states slave := by
  constructor
  · intro every
    exact ⟨fun same => every 0 (by simp [same]),
      fun k found => every (k + 1) (by simpa using found)⟩
  · rintro ⟨first, others⟩ (_ | k) found
    · exact first (by simpa using found)
    · exact others k (by simpa using found)

/-- Only the state of the slave itself is read. -/
theorem readDown_congr {states other : OperStates} {slave : Interface}
    (same : states slave = other slave) (readable : Nat → Bool) (slaves : List Interface) :
    ReadDown readable slaves states slave ↔ ReadDown readable slaves other slave := by
  simp [ReadDown, getInterfaceState, same]

/-- A slave that was recorded as down ends down exactly when every turn about it reads it as down.

Proof: by induction on the slaves that are left. A turn that reads anything else sets the slave
up, and it stays up. -/
theorem tearDown_recorded_down (recorded : Recorded) (slaves : List Interface)
    {slave : Interface} (recordedDown : recorded slave = some "down") (member : slave ∈ slaves)
    (readable : Nat → Bool) (states : OperStates) :
    tearDown recorded readable slaves states slave = "down" ↔
      ReadDown readable slaves states slave := by
  suffices general : ∀ slaves : List Interface, ∀ readable states,
      (slave ∈ slaves ∨ states slave = "down") →
      (tearDown recorded readable slaves states slave = "down" ↔
        ReadDown readable slaves states slave) from general slaves readable states (.inl member)
  intro slaves
  induction slaves with
  | nil =>
    intro readable states known
    have down : states slave = "down" := by simpa using known
    simp [tearDown, ReadDown, down]
  | cons other rest inductionHypothesis =>
    intro readable states known
    rw [readDown_cons, tearDown]
    by_cases here : slave = other
    · subst here
      by_cases down : getInterfaceState (readable 0) states slave = "down"
      · have word : states slave = "down" := by
          cases readability : readable 0 <;> simp_all [getInterfaceState]
        have untouched : restoreSlave (readable 0) recorded slave states = states := by
          simp [restoreSlave_eq, recordedDown, down]
        rw [untouched, inductionHypothesis _ _ (.inr word)]
        simp [down]
      · have up : restoreSlave (readable 0) recorded slave states slave = "up" := by
          simp [restoreSlave_eq, recordedDown, down]
        rw [tearDown_up recorded rest _ up]
        simp [down]
    · have unchanged : restoreSlave (readable 0) recorded other states slave = states slave :=
        restoreSlave_of_ne here _ _ _
      have remains : slave ∈ rest ∨
          restoreSlave (readable 0) recorded other states slave = "down" := by
        rcases known with member | down
        · exact .inl (by simpa [here] using member)
        · exact .inr (unchanged.trans down)
      rw [inductionHypothesis _ _ remains, readDown_congr unchanged]
      simp [Ne.symm here]

/-! ### The whole test -/

/-- The record that `setUp` makes. -/
def setUpRecord (readable : Nat → Bool) (slaves : List Interface) (states : OperStates) :
    Recorded :=
  recordStates readable states slaves fun _ => none

/-- The states after `setUp`, a method and `tearDown`. -/
def wholeTest (atSetUp atTearDown : Nat → Bool) (slaves : List Interface) (method : Method)
    (states : OperStates) : OperStates :=
  tearDown (setUpRecord atSetUp slaves states) atTearDown slaves (method.leaves slaves states)

/-- Every slave ends in the state that was recorded for it, up or down, exactly when each slave
recorded as down is read as down where `tearDown` comes to it, in the state the method left.

A slave whose record is neither of the two is free to end in any state, and so is every interface
that is no slave. The operational state may be unreadable for any slave in `setUp` and in
`tearDown`. -/
theorem wholeTest_restored_iff (atSetUp atTearDown : Nat → Bool) (slaves : List Interface)
    (method : Method) (states : OperStates) :
    Restored slaves (setUpRecord atSetUp slaves states)
        (wholeTest atSetUp atTearDown slaves method states) ↔
      ∀ k slave, slaves[k]? = some slave →
        setUpRecord atSetUp slaves states slave = some "down" →
          getInterfaceState (atTearDown k) (method.leaves slaves states) slave = "down" := by
  constructor
  · intro restored k slave found recordedDown
    have member : slave ∈ slaves := List.mem_of_getElem? found
    have down := (restored slave member).1 recordedDown
    exact (tearDown_recorded_down _ slaves recordedDown member _ _).mp down k found
  · intro read slave member
    constructor
    · intro recordedDown
      exact (tearDown_recorded_down _ slaves recordedDown member _ _).mpr
        fun k found => read k slave found recordedDown
    · intro recordedUp
      exact tearDown_recorded_up _ slaves recordedUp member _ _

/-- A bond with one slave up and one down. The failover method for the second slave takes it down
and brings it up again, and `tearDown` does not take it down. -/
theorem wholeTest_not_restored :
    ¬ Restored ["eth0", "eth1"]
      (setUpRecord (fun _ => true) ["eth0", "eth1"]
        fun interface => if interface = "eth0" then "up" else "down")
      (wholeTest (fun _ => true) (fun _ => true) ["eth0", "eth1"]
        (.test_failover_slave2_down ⟨some "eth0", ⟨true, "down"⟩, true, true, ⟨true, "up"⟩⟩)
        fun interface => if interface = "eth0" then "up" else "down") := by
  decide

/-- A failover method that passes with commands that do what they say leaves its slave up, so a
first slave that was down before is not given back. -/
theorem failover_passed_up (answers : Answers) (slave : Interface) (states : OperStates)
    (obeyed : answers.setUp.word = "up")
    (passed : (failover answers slave states).1 = .pass) :
    (failover answers slave states).2 slave = "up" := by
  revert passed
  unfold failover
  dsimp only
  split
  · simp
  · split
    · simp
    · split
      · simp
      · split <;> simp [obeyed]

end AvocadoMisc.HnvBond.SlaveRestore
