import AvocadoMisc.Library.Polling
import AvocadoMisc.Library.Text

/-!
# Waiting for the recovery after an EEH error

`check_eeh_pe_recovery` of `EEH.py` reads the kernel log until the message about the recovery is
in it, at most sixty times. Then it reads the list of PCI addresses, in a loop that is made for
thirty tries. The `return False` of that loop stands behind the loop over the addresses and inside
the loop over the tries, so the list is read once. The loops of `check_eeh_hit` and
`check_eeh_removed` have it behind the loop over the tries.

The logs and the lists are histories, of which a poll reads the entry of its number. The waiting
between two polls is not part of the model.
-/

namespace AvocadoMisc.Eeh.Recovery

open Library.Polling
open Library.Text (contains)

/-- A text. -/
abbrev Text := List Char

/-! ### The polls of the kernel log -/

/-- The answer of `dmesg`. -/
structure Dmesg where
  stdout : Text
  exitStatus : Nat

/-- `check_eeh_hit` and `check_eeh_removed`: one of thirty logs has the message in it. -/
def checkMessage (message : Text) (dmesg : Nat → Dmesg) : Bool :=
  (poll (fun res => if contains message res.stdout && res.exitStatus == 0 then some () else none)
    dmesg 30 0).1.isSome

/-- The check for a frozen adapter. -/
def checkEehHit (dmesg : Nat → Dmesg) : Bool := checkMessage "EEH: Frozen".toList dmesg

/-- The check for an adapter that was given up. -/
def checkEehRemoved (dmesg : Nat → Dmesg) : Bool :=
  checkMessage "permanently disabled".toList dmesg

/-- Thirty logs are enough to find a message in one of them. -/
theorem checkMessage_iff {message : Text} {dmesg : Nat → Dmesg} :
    checkMessage message dmesg = true ↔
      ∃ k < 30, contains message (dmesg k).stdout = true ∧ (dmesg k).exitStatus = 0 := by
  rw [checkMessage, Option.isSome_iff_ne_none, ne_eq, poll_fst_eq_none_iff]
  simp

/-! ### The recovery -/

/-- The message that is waited for. -/
def recoverySuccessful : Text := "EEH: Recovery successful.".toList

/-- How the check ends: with the exception, or with what is returned after some polls of the list
of addresses. A loop that runs out of tries would leave the function without a value. -/
inductive Outcome where
  | raised (msg dev : Text)
  | returned (value : Option Bool) (polls : Nat)
  deriving DecidableEq

/-- The loop over the addresses. -/
def inAddresses (pciDevice : Text) : List Text → Bool
  | [] => false
  | device :: rest => if contains pciDevice device then true else inAddresses pciDevice rest

/-- A turn of the second loop. Without a match it is left with `return False`. -/
def lookUp (pciDevice : Text) (addresses : List Text) : Option Bool :=
  if inAddresses pciDevice addresses then some true else some false

/-- The check for a recovery. -/
def checkEehPeRecovery (pciDevice : Text) (dmesg : Nat → Text)
    (pciAddresses : Nat → List Text) : Outcome :=
  let waited :=
    poll (fun res => if contains recoverySuccessful res then some () else none) dmesg 60 0
  match waited.1 with
  | none => .raised "EEH recovery failed".toList pciDevice
  | some () =>
    let (value, polls) := poll (lookUp pciDevice) pciAddresses 30 0
    .returned value polls

/-! ### What the check promises -/

/-- The device is found in a list of addresses. -/
def Listed (pciDevice : Text) (addresses : List Text) : Prop :=
  ∃ device ∈ addresses, pciDevice <:+: device

/-- The message is in one of the first sixty logs, which are those that are read. -/
def Recovered (dmesg : Nat → Text) : Prop := ∃ k < 60, recoverySuccessful <:+: dmesg k

/-- The check raises the exception exactly when the message does not come. Otherwise it returns
`True` exactly when the device is in one of thirty lists, and `False` after thirty polls only. -/
structure Patient (pciDevice : Text) (dmesg : Nat → Text) (pciAddresses : Nat → List Text)
    (outcome : Outcome) : Prop where
  raises : (∃ msg, outcome = .raised msg pciDevice) ↔ ¬Recovered dmesg
  returns : Recovered dmesg → ∃ value polls, outcome = .returned (some value) polls
  finds : Recovered dmesg → ((∃ polls, outcome = .returned (some true) polls) ↔
    ∃ k < 30, Listed pciDevice (pciAddresses k))
  gives_up : ∀ polls, outcome = .returned (some false) polls → polls = 30

/-- The loop over the addresses finds a device that is listed. -/
theorem inAddresses_iff {pciDevice : Text} {addresses : List Text} :
    inAddresses pciDevice addresses = true ↔ Listed pciDevice addresses := by
  induction addresses with
  | nil => simp [inAddresses, Listed]
  | cons device rest inductionHypothesis =>
    simp only [inAddresses, Listed, List.exists_mem_cons_iff, contains, decide_eq_true_eq] at *
    split
    case isTrue here => simp [here]
    case isFalse missing => simp [missing, inductionHypothesis]

/-- Among addresses of one length the device is found when it is one of them. -/
theorem listed_iff_mem {pciDevice : Text} {addresses : List Text}
    (width : ∀ device ∈ addresses, device.length = pciDevice.length) :
    Listed pciDevice addresses ↔ pciDevice ∈ addresses := by
  constructor
  · rintro ⟨device, member, part⟩
    obtain rfl := part.eq_of_length (width device member).symm
    exact member
  · intro member
    exact ⟨pciDevice, member, List.infix_rfl⟩

/-- A turn of the second loop always ends it. -/
theorem lookUp_eq (pciDevice : Text) (addresses : List Text) :
    lookUp pciDevice addresses = some (inAddresses pciDevice addresses) := by
  unfold lookUp
  cases inAddresses pciDevice addresses <;> rfl

/-- Without the message the exception is raised, and with it the first list decides: the second loop
returns in its first turn, whether the device is found or not. -/
theorem checkEehPeRecovery_eq (pciDevice : Text) (dmesg : Nat → Text)
    (pciAddresses : Nat → List Text) :
    (¬Recovered dmesg ∧ checkEehPeRecovery pciDevice dmesg pciAddresses =
      .raised "EEH recovery failed".toList pciDevice) ∨
    Recovered dmesg ∧ checkEehPeRecovery pciDevice dmesg pciAddresses =
      .returned (some (inAddresses pciDevice (pciAddresses 0))) 1 := by
  have once : poll (lookUp pciDevice) pciAddresses 30 0 =
      (some (inAddresses pciDevice (pciAddresses 0)), 1) :=
    poll_of_always (lookUp_eq pciDevice) (by omega)
  have silent : (poll (fun res => if contains recoverySuccessful res then some () else none)
      dmesg 60 0).1 = none ↔ ∀ k < 60,
        (if contains recoverySuccessful (dmesg (0 + k)) then some () else none) = none :=
    poll_fst_eq_none_iff
  simp only [Nat.zero_add, ite_eq_right_iff, reduceCtorEq, imp_false, contains,
    decide_eq_true_eq] at silent
  unfold checkEehPeRecovery
  simp only [contains, decide_eq_true_eq, once]
  split
  case h_1 nothing =>
    refine Or.inl ⟨?_, rfl⟩
    rintro ⟨k, below, message⟩
    exact silent.mp nothing k below message
  case h_2 message =>
    refine Or.inr ⟨?_, rfl⟩
    by_contra never
    have nothing := silent.mpr fun k below part => never ⟨k, below, part⟩
    rw [nothing] at message
    cases message

/-- The check keeps its promise exactly when the message does not come, or the device is back in
the first list that is read.

Log and list may change from one poll to the next. The waiting in between and the `dmesg` command
are not part of the model.

Proof: the loop over the tries returns in its first turn, so only the first list counts. -/
theorem patient_iff_listed_first (pciDevice : Text) (dmesg : Nat → Text)
    (pciAddresses : Nat → List Text) :
    Patient pciDevice dmesg pciAddresses (checkEehPeRecovery pciDevice dmesg pciAddresses) ↔
      (Recovered dmesg → Listed pciDevice (pciAddresses 0)) := by
  rcases checkEehPeRecovery_eq pciDevice dmesg pciAddresses with ⟨silent, result⟩ |
    ⟨recovered, result⟩
  · rw [result]
    refine ⟨fun _ recovered => absurd recovered silent, fun _ => ?_⟩
    exact {
      raises := ⟨fun _ => silent, fun _ => ⟨_, rfl⟩⟩
      returns := fun recovered => absurd recovered silent
      finds := fun recovered => absurd recovered silent
      gives_up := by rintro polls ⟨⟩ }
  · rw [result, ← inAddresses_iff]
    constructor
    · intro patient _
      cases found : inAddresses pciDevice (pciAddresses 0) with
      | true => rfl
      | false =>
        have polls := patient.gives_up 1 (by rw [found])
        omega
    · intro first
      have found := first recovered
      rw [found]
      exact {
        raises := ⟨by rintro ⟨_, ⟨⟩⟩, fun silent => absurd recovered silent⟩
        returns := fun _ => ⟨true, 1, rfl⟩
        finds := fun _ =>
          ⟨fun _ => ⟨0, by omega, inAddresses_iff.mp found⟩, fun _ => ⟨1, rfl⟩⟩
        gives_up := by rintro polls ⟨⟩ }

/-- A device whose address comes back with the second poll. -/
def backSecond (device : Text) : Nat → List Text
  | 0 => []
  | _ + 1 => [device]

/-- A device that comes back with the second poll is not found. -/
theorem late_device_missed :
    checkEehPeRecovery ['A'] (fun _ => recoverySuccessful) (backSecond ['A']) =
        .returned (some false) 1 ∧
      ¬ ∀ pciDevice dmesg pciAddresses,
        Patient pciDevice dmesg pciAddresses (checkEehPeRecovery pciDevice dmesg pciAddresses) := by
  have missed : checkEehPeRecovery ['A'] (fun _ => recoverySuccessful) (backSecond ['A']) =
      .returned (some false) 1 := by decide +kernel
  refine ⟨missed, fun all => ?_⟩
  have polls := (all ['A'] (fun _ => recoverySuccessful) (backSecond ['A'])).gives_up 1 missed
  omega

end AvocadoMisc.Eeh.Recovery
