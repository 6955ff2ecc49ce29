import AvocadoMisc.Library.Scripts
import AvocadoMisc.Library.Text
import AvocadoMisc.Library.Transitions

/-!
# The boot lists across the tests that change them

The partition has a boot list for the normal mode and one for the service mode. A test of
`bootlist_test.py` puts the devices under test into one of the lists, or into both, shows the
lists, and puts the original list back, which it reads from a file of a fixed name. The tests of
one mode write the list to its file first. The test of both modes does not, so it puts back what
an earlier test has left in the files.

There is no `tearDown`. A test that stops between the change and the restoration leaves the list
changed: when the change itself does not succeed, when the first line that is shown is blank, and
when a list cannot be read back.
-/

namespace AvocadoMisc.Bootlist.Survival

open Library.Scripts Library.Text Library.Transitions

/-! ### Lists and files -/

/-- The two boot lists. -/
inductive Kind where
  | normal
  | service
  deriving DecidableEq

/-- The modes of the command. -/
inductive Mode where
  | only (kind : Kind)
  | both
  deriving DecidableEq

/-- The name of a list. -/
def Kind.name : Kind → String
  | .normal => "normal"
  | .service => "service"

/-- The name of a mode. -/
def Mode.name : Mode → String
  | .only kind => kind.name
  | .both => "both"

/-- The lists a mode is about. -/
def Mode.covers : Mode → Kind → Bool
  | .only addressed, kind => addressed == kind
  | .both, _ => true

/-- The devices of a list, by their paths. -/
abbrev BootList := List String

/-- Both lists, and what is in `/tmp/normal` and `/tmp/service`, one device in a line. -/
structure State where
  lists : Kind → BootList
  files : Kind → Option BootList

/-- Change one of the files. -/
def State.write (state : State) (kind : Kind) (content : Option BootList) : State :=
  { state with files := fun other => if other = kind then content else state.files other }

/-- How a test stops. -/
inductive Ending where
  | fail (message : String)
  | indexError
  deriving DecidableEq

/-- A test, or a part of it. -/
abbrev Script := EStateM Ending State

/-! ### The commands -/

/-- How a command ends that stores a list. When it fails, it may have stored the list before. -/
inductive Storing where
  | works
  | fails (stored : Kind → Bool)

/-- The command succeeds. -/
def Storing.succeeds : Storing → Bool
  | .works => true
  | .fails _ => false

/-- The lists that a command has stored. -/
def Storing.stored : Storing → Kind → Bool
  | .works, _ => true
  | .fails stored, kind => stored kind

/-- How a command ends whose output goes to a file. When it fails, anything may be in the file. -/
inductive Saving where
  | works
  | fails (left : Option BootList)

/-- The state after a command that stores a list. -/
def State.after (state : State) (ending : Storing) (mode : Mode) (given : BootList) : State :=
  { state with
    lists := fun kind =>
      if mode.covers kind && ending.stored kind then given else state.lists kind }

/-- What a test meets: the devices that `self.names` stands for, and how its commands end. -/
structure Setting where
  names : BootList
  save : Kind → Saving
  switch : Storing
  logical : Kind → List UInt8
  firmware : Kind → List UInt8
  reload : Kind → Storing

/-- `bootlist` stores what it is given. -/
def bootlist (ending : Storing) (mode : Mode) (given : BootList) (message : String) :
    Script PUnit := do
  modify fun state => state.after ending mode given
  demand (ending.succeeds = true) (.fail message)

/-- `bootlist_mode`. -/
def bootlistMode (setting : Setting) (param : Mode) : Script PUnit :=
  bootlist setting.switch param setting.names (param.name ++ " bootlist fail")

/-- Write a list to its file. The message is the same for both lists. -/
def bootlistFile (kind : Kind) (setting : Setting) : Script PUnit := do
  let state ← get
  match setting.save kind with
  | .works => set (state.write kind (some (state.lists kind)))
  | .fails left =>
    set (state.write kind left)
    throw (.fail "unable to write normal bootlist in to the file")

/-- `normal_bootlist_file`. -/
def normalBootlistFile : Setting → Script PUnit := bootlistFile .normal

/-- `service_bootlist_file`. -/
def serviceBootlistFile : Setting → Script PUnit := bootlistFile .service

/-- Put back a list from its file. Without the file the command fails. -/
def setOriginalBootlist (kind : Kind) (setting : Setting) : Script PUnit := do
  let state ← get
  match state.files kind with
  | some saved =>
    bootlist (setting.reload kind) (.only kind) saved
      ("failed to set default " ++ kind.name ++ " bootlist")
  | none => throw (.fail ("failed to set default " ++ kind.name ++ " bootlist"))

/-- `set_original_normal_bootlist`. -/
def setOriginalNormalBootlist : Setting → Script PUnit := setOriginalBootlist .normal

/-- `set_original_service_bootlist`. -/
def setOriginalServiceBootlist : Setting → Script PUnit := setOriginalBootlist .service

/-- The last word of the first line. A first line without words raises. -/
def displayDevice (output : List UInt8) : Script (Option (List UInt8)) :=
  match byteLines output with
  | [] => pure none
  | line :: _ =>
    match (words byteSpace line).getLast? with
    | some word => pure (some word)
    | none => throw .indexError

/-- `display_normal_logical_device` and `display_service_logical_device`. -/
def displayLogicalDevice (kind : Kind) (setting : Setting) : Script (Option (List UInt8)) :=
  displayDevice (setting.logical kind)

/-- `display_normal_firmware_device` and `display_service_firmware_device`. -/
def displayFirmwareDevice (kind : Kind) (setting : Setting) : Script (Option (List UInt8)) :=
  displayDevice (setting.firmware kind)

/-! ### The tests -/

/-- The test of one mode. -/
def testMode (kind : Kind) (setting : Setting) : Script PUnit := do
  bootlistFile kind setting
  bootlistMode setting (.only kind)
  let _ ← displayLogicalDevice kind setting
  let _ ← displayFirmwareDevice kind setting
  setOriginalBootlist kind setting

/-- `test_normal_mode`. -/
def testNormalMode : Setting → Script PUnit := testMode .normal

/-- `test_service_mode`. -/
def testServiceMode : Setting → Script PUnit := testMode .service

/-- `test_both_mode`. -/
def testBothMode (setting : Setting) : Script PUnit := do
  bootlistMode setting .both
  let _ ← displayLogicalDevice .normal setting
  let _ ← displayFirmwareDevice .normal setting
  let _ ← displayLogicalDevice .service setting
  let _ ← displayFirmwareDevice .service setting
  setOriginalNormalBootlist setting
  setOriginalServiceBootlist setting

/-- One of the tests is run, with the devices under test and the answers of its commands. -/
inductive Call where
  | testNormalMode (setting : Setting)
  | testServiceMode (setting : Setting)
  | testBothMode (setting : Setting)

/-- What the call runs. -/
def Call.script : Call → Script PUnit
  | .testNormalMode setting => Survival.testNormalMode setting
  | .testServiceMode setting => Survival.testServiceMode setting
  | .testBothMode setting => Survival.testBothMode setting

/-- A call leaves the lists and the files to the next one. -/
def step (state : State) (call : Call) : Option State := some (leaves call.script state)

/-- Both lists are after the call what they were before it, also the one that the call is not about.
-/
def Survives (event : Event State Call) : Prop :=
  ∀ kind, event.after.lists kind = event.before.lists kind

/-! ### When they survive -/

/-- A first line that is shown has a word. -/
def Readable (output : List UInt8) : Prop :=
  ∀ line, (byteLines output).head? = some line → ¬ Blank byteSpace line

instance (output : List UInt8) : Decidable (Readable output) :=
  match found : (byteLines output).head? with
  | none => isTrue fun _ same => nomatch found.symm.trans same
  | some line =>
    decidable_of_iff (¬ line.all byteSpace = true) (by
      rw [List.all_eq_true]
      exact ⟨fun word _ same => Option.some.inj (found.symm.trans same) ▸ word,
        fun readable => readable line found⟩)

/-- The change succeeds, and what the test shows of the lists has a word in its first line. -/
def Setting.Reaches (setting : Setting) (shown : List Kind) : Prop :=
  setting.switch.succeeds = true ∧
    ∀ kind ∈ shown, Readable (setting.logical kind) ∧ Readable (setting.firmware kind)

instance (setting : Setting) (shown : List Kind) : Decidable (setting.Reaches shown) :=
  inferInstanceAs (Decidable (_ ∧ _))

/-- The test of one mode: once the list was written to its file and changed, the test comes to the
restoration, and that stores the list. -/
def KeepsMode (kind : Kind) (setting : Setting) (state : State) : Prop :=
  setting.save kind = .works → setting.switch.stored kind = true →
    setting.names = state.lists kind ∨
      (setting.Reaches [kind] ∧ (setting.reload kind).stored kind = true)

/-- The test of both modes comes to the restoration of a list, and that stores what is in the
file. -/
def ReloadsBoth (setting : Setting) (state : State) : Kind → Prop
  | .normal =>
    setting.Reaches [.normal, .service] ∧ state.files .normal ≠ none ∧
      (setting.reload .normal).stored .normal = true
  | .service =>
    setting.Reaches [.normal, .service] ∧ state.files .normal ≠ none ∧
      (setting.reload .normal).succeeds = true ∧ state.files .service ≠ none ∧
      (setting.reload .service).stored .service = true

/-- The test of both modes: a list that is restored is in its file, and a list that is changed and
not restored has the devices under test in it anyway. -/
def KeepsBoth (setting : Setting) (state : State) : Prop :=
  ∀ kind, (ReloadsBoth setting state kind → state.files kind = some (state.lists kind)) ∧
    (¬ ReloadsBoth setting state kind → setting.switch.stored kind = true →
      setting.names = state.lists kind)

/-- The condition under which a call keeps both lists. -/
def Call.Keeps (state : State) : Call → Prop
  | .testNormalMode setting => KeepsMode .normal setting state
  | .testServiceMode setting => KeepsMode .service setting state
  | .testBothMode setting => KeepsBoth setting state

/-! ### What each command leaves -/

/-- The commands that store a list. -/
theorem leaves_bootlist_bind (ending : Storing) (mode : Mode) (given : BootList)
    (message : String) (next : PUnit → Script PUnit) (state : State) :
    leaves (bootlist ending mode given message >>= next) state =
      if ending.succeeds = true then leaves (next ⟨⟩) (state.after ending mode given)
      else state.after ending mode given := by
  rw [bootlist, bind_assoc, leaves_modify_bind]
  exact leaves_demand_bind _ _ _ _

/-- The last of the commands. -/
theorem leaves_bootlist (ending : Storing) (mode : Mode) (given : BootList) (message : String)
    (state : State) :
    leaves (bootlist ending mode given message) state = state.after ending mode given := by
  cases ending <;> rfl

/-- Only white space has no last word. -/
theorem words_getLast?_eq_none_iff (line : List UInt8) :
    (words byteSpace line).getLast? = none ↔ Blank byteSpace line := by
  rw [List.getLast?_eq_none_iff]
  constructor
  · intro none c member
    cases solid : byteSpace c with
    | true => rfl
    | false => exact absurd none (words_ne_nil member solid)
  · exact fun blank => cut_blank blank _

/-- A first line with a word is shown. -/
theorem displayDevice_of_readable {output : List UInt8} (readable : Readable output) :
    ∃ shown, displayDevice output = pure shown := by
  unfold displayDevice
  cases found : byteLines output with
  | nil => exact ⟨none, rfl⟩
  | cons line rest =>
    have solid : ¬ Blank byteSpace line := readable line (by rw [found]; rfl)
    cases word : (words byteSpace line).getLast? with
    | none => exact absurd ((words_getLast?_eq_none_iff line).1 word) solid
    | some last => exact ⟨some last, by simp only [word]⟩

/-- A blank first line raises. -/
theorem displayDevice_of_not_readable {output : List UInt8} (blank : ¬ Readable output) :
    displayDevice output = throw .indexError := by
  obtain ⟨line, rest⟩ := Classical.not_forall.1 blank
  simp only [Classical.not_imp, Classical.not_not] at rest
  obtain ⟨first, white⟩ := rest
  obtain ⟨others, found⟩ := List.head?_eq_some_iff.1 first
  unfold displayDevice
  simp only [found, (words_getLast?_eq_none_iff line).2 white]

/-- Showing a list changes nothing, and stops the test if the first line is blank. -/
theorem leaves_displayDevice_bind (output : List UInt8) (next : Script PUnit) (state : State) :
    leaves (displayDevice output >>= fun _ => next) state =
      if Readable output then leaves next state else state := by
  by_cases readable : Readable output
  · obtain ⟨shown, same⟩ := displayDevice_of_readable readable
    rw [if_pos readable, same]
    rfl
  · rw [if_neg readable, displayDevice_of_not_readable readable]
    rfl

/-- The change, and then showing one of the lists. -/
theorem leaves_display_bind (kind : Kind) (setting : Setting) (next : Script PUnit)
    (state : State) :
    leaves (displayLogicalDevice kind setting >>= fun _ =>
        displayFirmwareDevice kind setting >>= fun _ => next) state =
      if Readable (setting.logical kind) ∧ Readable (setting.firmware kind) then
        leaves next state
      else state := by
  rw [displayLogicalDevice, leaves_displayDevice_bind, displayFirmwareDevice,
    leaves_displayDevice_bind]
  by_cases logical : Readable (setting.logical kind) <;>
    by_cases firmware : Readable (setting.firmware kind) <;> simp [logical, firmware]

/-- Restoring one list. -/
theorem leaves_setOriginalBootlist (kind : Kind) (setting : Setting) (state : State) :
    leaves (setOriginalBootlist kind setting) state =
      match state.files kind with
      | some saved => state.after (setting.reload kind) (.only kind) saved
      | none => state := by
  rw [setOriginalBootlist, leaves_get_bind]
  cases found : state.files kind with
  | none => simp [leaves, throw_apply]
  | some saved => simpa [found] using leaves_bootlist _ _ _ _ _

/-- Restoring one list before another. -/
theorem leaves_setOriginalBootlist_bind (kind : Kind) (setting : Setting)
    (next : PUnit → Script PUnit) (state : State) :
    leaves (setOriginalBootlist kind setting >>= next) state =
      match state.files kind with
      | some saved =>
        if (setting.reload kind).succeeds = true then
          leaves (next ⟨⟩) (state.after (setting.reload kind) (.only kind) saved)
        else state.after (setting.reload kind) (.only kind) saved
      | none => state := by
  rw [setOriginalBootlist, bind_assoc, leaves_get_bind]
  cases found : state.files kind with
  | none => simp [leaves_bind, throw_apply]
  | some saved => simpa [found] using leaves_bootlist_bind _ _ _ _ _ _

/-- The list is in its file and was changed. -/
def State.switched (state : State) (kind : Kind) (setting : Setting) : State :=
  (state.write kind (some (state.lists kind))).after setting.switch (.only kind) setting.names

/-- What the test of one mode leaves. -/
theorem leaves_testMode (kind : Kind) (setting : Setting) (state : State) :
    leaves (testMode kind setting) state =
      match setting.save kind with
      | .fails left => state.write kind left
      | .works =>
        if setting.Reaches [kind] then
          leaves (setOriginalBootlist kind setting) (state.switched kind setting)
        else state.switched kind setting := by
  rw [testMode, bootlistFile, bind_assoc, leaves_get_bind]
  cases setting.save kind with
  | fails left => rfl
  | works =>
    show leaves (bootlistMode setting (.only kind) >>= _) _ = _
    rw [bootlistMode, leaves_bootlist_bind, leaves_display_bind]
    simp only [State.switched, Setting.Reaches, List.mem_singleton, forall_eq]
    by_cases succeeds : setting.switch.succeeds = true <;> simp [succeeds]

/-- What the test of both modes leaves. -/
theorem leaves_testBothMode (setting : Setting) (state : State) :
    leaves (testBothMode setting) state =
      if setting.Reaches [.normal, .service] then
        leaves (setOriginalBootlist .normal setting >>= fun _ =>
          setOriginalBootlist .service setting) (state.after setting.switch .both setting.names)
      else state.after setting.switch .both setting.names := by
  rw [testBothMode, bootlistMode, leaves_bootlist_bind, leaves_display_bind, leaves_display_bind]
  simp only [Setting.Reaches, List.forall_mem_cons, List.not_mem_nil, false_implies, implies_true,
    and_true]
  by_cases succeeds : setting.switch.succeeds = true <;> simp [succeeds, ite_and]
  rfl

/-! ### The result -/

/-- The lists after a command that stores one. -/
@[simp] theorem State.after_lists (state : State) (ending : Storing) (mode : Mode)
    (given : BootList) (kind : Kind) :
    (state.after ending mode given).lists kind =
      if mode.covers kind && ending.stored kind then given else state.lists kind :=
  rfl

/-- Such a command does not touch the files. -/
@[simp] theorem State.after_files (state : State) (ending : Storing) (mode : Mode)
    (given : BootList) : (state.after ending mode given).files = state.files :=
  rfl

/-- Writing a file touches no list. -/
@[simp] theorem State.write_lists (state : State) (kind : Kind) (content : Option BootList) :
    (state.write kind content).lists = state.lists :=
  rfl

/-- What was written is in the file. -/
@[simp] theorem State.write_files_self (state : State) (kind : Kind)
    (content : Option BootList) : (state.write kind content).files kind = content :=
  if_pos rfl

/-- The lists after the test of one mode. What is restored was saved by the same test. -/
theorem testMode_lists {kind : Kind} {setting : Setting} (saves : setting.save kind = .works)
    (state : State) (other : Kind) :
    (leaves (testMode kind setting) state).lists other =
      if kind = other ∧ setting.switch.stored kind = true ∧
          ¬ (setting.Reaches [kind] ∧ (setting.reload kind).stored kind = true) then
        setting.names
      else state.lists other := by
  have saved : (state.switched kind setting).files kind = some (state.lists kind) := by
    simp [State.switched]
  have switched : (state.switched kind setting).lists other =
      if kind = other ∧ setting.switch.stored other = true then setting.names
      else state.lists other := by
    simp [State.switched, Mode.covers]
  rw [leaves_testMode, saves]
  by_cases reaches : setting.Reaches [kind]
  · simp only [if_pos reaches, leaves_setOriginalBootlist, saved, State.after_lists, switched]
    by_cases same : kind = other
    · subst same
      cases (setting.reload kind).stored kind <;> simp [Mode.covers, reaches]
    · simp [Mode.covers, same]
  · simp only [if_neg reaches, switched]
    by_cases same : kind = other
    · subst same
      simp [reaches]
    · simp [same]

/-- The test of one mode keeps the lists exactly under its condition. -/
theorem testMode_survives_iff (kind : Kind) (setting : Setting) (state : State) :
    (∀ other, (leaves (testMode kind setting) state).lists other = state.lists other) ↔
      KeepsMode kind setting state := by
  unfold KeepsMode
  cases saves : setting.save kind with
  | fails left => simp [leaves_testMode, saves]
  | works =>
    simp only [testMode_lists saves, true_implies]
    constructor
    · intro survives switched
      by_cases restored : setting.Reaches [kind] ∧ (setting.reload kind).stored kind = true
      · exact .inr restored
      · have same := survives kind
        rw [if_pos ⟨rfl, switched, restored⟩] at same
        exact .inl same
    · rintro keeps other
      split
      case isFalse => rfl
      case isTrue changed =>
        obtain ⟨rfl, switched, lost⟩ := changed
        exact (keeps switched).resolve_right lost

/-- A list that the test of both modes restores is what was in its file. -/
theorem testBothMode_lists_of_reloads {setting : Setting} {state : State} {kind : Kind}
    (reloads : ReloadsBoth setting state kind) {loaded : BootList}
    (found : state.files kind = some loaded) :
    (leaves (testBothMode setting) state).lists kind = loaded := by
  rw [leaves_testBothMode]
  cases kind with
  | normal =>
    obtain ⟨reaches, -, stored⟩ := reloads
    rw [if_pos reaches, leaves_setOriginalBootlist_bind, State.after_files, found]
    cases succeeds : (setting.reload .normal).succeeds with
    | false => simp [Mode.covers, stored]
    | true =>
      simp only [↓reduceIte, leaves_setOriginalBootlist, State.after_files]
      cases service : state.files .service <;> simp [Mode.covers, stored]
  | service =>
    obtain ⟨reaches, present, succeeds, -, stored⟩ := reloads
    obtain ⟨first, normal⟩ := Option.ne_none_iff_exists'.1 present
    rw [if_pos reaches, leaves_setOriginalBootlist_bind, State.after_files, normal]
    simp [succeeds, leaves_setOriginalBootlist, found, Mode.covers, stored]

/-- A list that the test of both modes does not restore stays as the change left it: with the new
names if the command stored them, and as before if not. -/
theorem testBothMode_lists_of_not_reloads {setting : Setting} {state : State} {kind : Kind}
    (stays : ¬ ReloadsBoth setting state kind) :
    (leaves (testBothMode setting) state).lists kind =
      if setting.switch.stored kind = true then setting.names else state.lists kind := by
  rw [leaves_testBothMode]
  by_cases reaches : setting.Reaches [.normal, .service]
  case neg => simp [reaches, Mode.covers]
  rw [if_pos reaches, leaves_setOriginalBootlist_bind, State.after_files]
  cases normal : state.files .normal with
  | none => simp [Mode.covers]
  | some first =>
    cases kind with
    | normal =>
      have notStored : (setting.reload .normal).stored .normal = false := by
        simpa [ReloadsBoth, reaches, normal] using stays
      cases succeeds : (setting.reload .normal).succeeds with
      | false => simp [Mode.covers, notStored]
      | true =>
        simp only [↓reduceIte, leaves_setOriginalBootlist, State.after_files]
        cases service : state.files .service <;> simp [Mode.covers, notStored]
    | service =>
      cases succeeds : (setting.reload .normal).succeeds with
      | false => simp [Mode.covers]
      | true =>
        simp only [↓reduceIte, leaves_setOriginalBootlist, State.after_files]
        cases service : state.files .service with
        | none => simp [Mode.covers]
        | some second =>
          have notStored : (setting.reload .service).stored .service = false := by
            simpa [ReloadsBoth, reaches, normal, succeeds, service] using stays
          simp [Mode.covers, notStored]

/-- A list that is restored has a file. -/
theorem files_of_reloads {setting : Setting} {state : State} {kind : Kind}
    (reloads : ReloadsBoth setting state kind) : ∃ loaded, state.files kind = some loaded := by
  cases kind with
  | normal => exact Option.ne_none_iff_exists'.1 reloads.2.1
  | service => exact Option.ne_none_iff_exists'.1 reloads.2.2.2.1

/-- The test of both modes keeps the lists exactly under its condition. -/
theorem testBothMode_survives_iff (setting : Setting) (state : State) :
    (∀ kind, (leaves (testBothMode setting) state).lists kind = state.lists kind) ↔
      KeepsBoth setting state := by
  refine forall_congr' fun kind => ?_
  by_cases reloads : ReloadsBoth setting state kind
  · obtain ⟨loaded, found⟩ := files_of_reloads reloads
    simp [testBothMode_lists_of_reloads reloads found, reloads, found]
  · rw [testBothMode_lists_of_not_reloads reloads]
    cases setting.switch.stored kind <;> simp [reloads]

/-- A call keeps both lists exactly under its condition. -/
theorem call_survives_iff (state : State) (call : Call) :
    Survives ⟨state, call, leaves call.script state⟩ ↔ call.Keeps state := by
  cases call with
  | testNormalMode setting => exact testMode_survives_iff .normal setting state
  | testServiceMode setting => exact testMode_survives_iff .service setting state
  | testBothMode setting => exact testBothMode_survives_iff setting state

/-- A run begins and ends with the same lists, and has them between the tests, exactly when each
of the tests meets its condition in the state it begins in. -/
theorem lists_unchanged_iff {state : State} {events : List (Event State Call)}
    (trace : Trace step Unrestricted state events) :
    (∀ event ∈ events, event.after.lists = state.lists) ↔
      ∀ event ∈ events, event.label.Keeps event.before := by
  refine (@Trace.holds_iff State Call step Unrestricted
    (fun reached => reached.lists = state.lists) (fun reached => reached.lists = state.lists)
    (fun before call => ¬ call.Keeps before) (fun _ same => same) ?_ ?_ state events trace
    rfl).trans (by simp only [Classical.not_not])
  · intro before call after same _ taken harmless
    cases Option.some.inj taken
    have survives := (call_survives_iff before call).2 (Classical.not_not.1 harmless)
    exact (funext survives).trans same
  · intro before call after same _ taken harms changed
    cases Option.some.inj taken
    have survives : (leaves call.script before).lists = before.lists := changed.trans same.symm
    exact harms ((call_survives_iff before call).1 fun kind => congrFun survives kind)

/-- In every run, every test leaves both boot lists as they were before it exactly when each of
the tests meets its condition in the state it begins in.

Every command may fail and the files may hold anything at first. Changes of the lists that are made
between the tests are not covered.

Proof: a test looks at nothing but the lists, the files and its answers, so the equivalence for one
test carries over to the run. -/
theorem bootlists_survive_iff {state : State} {events : List (Event State Call)}
    (trace : Trace step Unrestricted state events) :
    (∀ event ∈ events, Survives event) ↔ ∀ event ∈ events, event.label.Keeps event.before := by
  refine (@Trace.every_iff State Call step Unrestricted (fun _ => True) Survives
    (fun before call => ¬ call.Keeps before) ?_ ?_ state events trace trivial).trans
    (by simp only [Classical.not_not])
  · intro before call after _ _ taken harmless
    cases Option.some.inj taken
    exact ⟨trivial, (call_survives_iff before call).2 (Classical.not_not.1 harmless)⟩
  · intro before call after _ _ taken harms survives
    cases Option.some.inj taken
    exact harms ((call_survives_iff before call).1 survives)

/-- Both lists name the first disk, and there are no files. -/
def freshPartition : State := ⟨fun _ => ["/vdevice/disk1"], fun _ => none⟩

/-- Everything works, with the second disk. -/
def secondDisk : Setting :=
  ⟨["/vdevice/disk2"], fun _ => .works, .works, fun _ => [100], fun _ => [100], fun _ => .works⟩

/-- The test of the normal mode alone. -/
theorem bootlists_survive_iff_normal :
    Survives ⟨freshPartition, .testNormalMode secondDisk,
      leaves (testNormalMode secondDisk) freshPartition⟩ := by
  have run := bootlists_survive_iff (.cons freshPartition (.testNormalMode secondDisk) _ []
    trivial rfl (.nil _))
  have keeps : KeepsMode .normal secondDisk freshPartition :=
    fun _ _ => .inr ⟨by decide, rfl⟩
  exact (run.2 fun event member => by
    obtain rfl : event = _ := List.mem_singleton.1 member
    exact keeps) _ (List.mem_singleton.2 rfl)

/-- The test of both modes on a partition that has no files leaves both lists with the second
disk. -/
theorem bootlists_not_survive :
    ∃ events, Trace step Unrestricted freshPartition events ∧
      ¬ ∀ event ∈ events, Survives event := by
  refine ⟨[⟨freshPartition, .testBothMode secondDisk, _⟩], .cons _ _ _ _ trivial rfl (.nil _), ?_⟩
  intro survives
  exact absurd (survives _ (List.mem_singleton.2 rfl) .normal) (by decide)

end AvocadoMisc.Bootlist.Survival
