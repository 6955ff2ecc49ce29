import Mathlib.Data.List.Nodup
import Mathlib.Data.List.Perm.Subperm
import AvocadoMisc.Library.Rounds
import AvocadoMisc.Library.Text

/-!
# Creating and deleting virtual FC adapters

`test_create_delete_vfchost` of `virtual_fc.py` creates a server adapter and a client adapter for
each identifier of a range, and deletes them again. Whether a command had an effect is read from a
listing of the adapters of all partitions, with nothing but the slot and the type in a line. After
a creation the lines of the type are looked at, and after a deletion the lines in which the name of
the partition is found.

So a creation is seen when any partition has such an adapter in that slot, and a deletion is seen
unless the name of the partition is in `server` or `client`. The test takes the VIOSes from a text
with commas between them, and `setUp` takes them from the same text with blanks between them.
-/

namespace AvocadoMisc.Vfc.CreateDelete

open Library.Rounds Library.Text

/-! ### The managed system -/

/-- A character string. -/
abbrev Text := List Char

/-- The two types of adapters. -/
inductive Kind where
  | server
  | client
  deriving DecidableEq

/-- A type as it is written. -/
def Kind.text : Kind → Text
  | .server => ['s', 'e', 'r', 'v', 'e', 'r']
  | .client => ['c', 'l', 'i', 'e', 'n', 't']

/-- An adapter of a partition: its slot, and whether it is a server or a client. -/
structure Adapter where
  lpar : Text
  slot : Nat
  kind : Kind
  deriving DecidableEq

/-- The line of an adapter, `slot_num,adapter_type`. -/
def Adapter.line (adapter : Adapter) : Text := decimal adapter.slot ++ ',' :: adapter.kind.text

/-- The commands of the test. -/
inductive Command where
  | create (adapter : Adapter)
  | delete (lpar : Text) (slot : Nat)
  deriving DecidableEq

/-- How the HMC answers: whether it carries a command out, and which lines `grep -i` lets through.
A pattern of small letters is looked for as it is in small letters, digits and commas. -/
structure Hmc where
  answers : Command → Bool
  selects : Text → Text → Bool
  selects_small : ∀ pattern line, (∀ c ∈ pattern, c.isLower = true) →
    (∀ c ∈ line, c.isLower = true ∨ c.isDigit = true ∨ c = ',') →
      selects pattern line = contains pattern line

/-- The parameters of the test. No VIOS has a blank or a comma in its name, and none is the
partition of the test. There is no range when its two ends are not numbers. -/
structure Settings where
  vioses : List Text
  some_vios : vioses ≠ []
  plain : ∀ vios ∈ vioses, ' ' ∉ vios ∧ ',' ∉ vios
  lpar : Text
  solid : ' ' ∉ lpar
  other : lpar ∉ vioses
  range : Option (Nat × Nat)
  count : Nat

/-- The parameter `vioses`. -/
def Settings.text (settings : Settings) : Text := [' '].intercalate settings.vioses

/-- The list in `setUp`. -/
def Settings.setUpVioses (settings : Settings) : List Text := settings.text.splitOn ' '

/-- The adapters of the managed system, the adapters that the run has created, and the variables of
the test. -/
structure State where
  system : List Adapter
  made : List Adapter
  startId : Nat
  vfcId : List (Nat × List Text)
  errMesg : List Text

/-! ### The test -/

/-- `vfchost_exists` for `create`. -/
def existsCreate (hmc : Hmc) (system : List Adapter) (slot : Nat) (kind : Kind) : Bool :=
  ((system.map Adapter.line).filter (hmc.selects kind.text)).any fun line =>
    decimal slot == (line.splitOn ',').headD []

/-- `vfchost_exists` for `delete`. -/
def existsDelete (hmc : Hmc) (system : List Adapter) (slot : Nat) (lpar : Text) : Bool :=
  ((system.map Adapter.line).filter (hmc.selects lpar)).all fun line =>
    !(decimal slot == (line.splitOn ',').headD [])

/-- The slot is free in the partition. -/
def Free (system : List Adapter) (lpar : Text) (slot : Nat) : Prop :=
  ∀ adapter ∈ system, ¬(adapter.lpar = lpar ∧ adapter.slot = slot)

/-- Whether a slot is free can be decided. -/
instance (system : List Adapter) (lpar : Text) (slot : Nat) : Decidable (Free system lpar slot) :=
  inferInstanceAs (Decidable (∀ adapter ∈ system, ¬(adapter.lpar = lpar ∧ adapter.slot = slot)))

/-- The command to create an adapter has an effect. -/
def Takes (hmc : Hmc) (system : List Adapter) (adapter : Adapter) : Prop :=
  hmc.answers (.create adapter) = true ∧ Free system adapter.lpar adapter.slot

/-- Whether a command has an effect can be decided. -/
instance (hmc : Hmc) (system : List Adapter) (adapter : Adapter) :
    Decidable (Takes hmc system adapter) :=
  inferInstanceAs (Decidable (_ ∧ _))

/-- The effect of the command to create an adapter. -/
def State.create (hmc : Hmc) (adapter : Adapter) (state : State) : State :=
  if Takes hmc state.system adapter then
    { state with system := state.system ++ [adapter], made := state.made ++ [adapter] }
  else state

/-- The effect of the command to delete an adapter. -/
def State.delete (hmc : Hmc) (lpar : Text) (slot : Nat) (state : State) : State :=
  if hmc.answers (.delete lpar slot) then
    { state with
      system := state.system.filter fun adapter => !(adapter.lpar = lpar ∧ adapter.slot = slot) }
  else state

/-- One more message. -/
def State.complain (message : Text) (state : State) : State :=
  { state with errMesg := state.errMesg ++ [message] }

/-- The message of both commands. -/
def notDeleted (what : Text) (slot : Nat) : Text :=
  what ++ '=' :: decimal slot ++
    ("command success but not ".toList ++ List.replicate 34 ' ' ++ "deleted".toList)

/-- `create_vfchost`. The exit status is looked at after both branches have returned. -/
def createVfchost (hmc : Hmc) (adapter : Adapter) (state : State) : Bool × State :=
  let after := state.create hmc adapter
  if existsCreate hmc after.system adapter.slot adapter.kind then (true, after)
  else (false, after.complain (notDeleted adapter.kind.text adapter.slot))

/-- `delete_vfchost`, here too without the exit status. -/
def deleteVfchost (hmc : Hmc) (slot : Nat) (lpar : Text) (state : State) : Bool × State :=
  let after := state.delete hmc lpar slot
  if existsDelete hmc after.system slot lpar then (true, after)
  else (false, after.complain (notDeleted lpar slot))

/-- The two creations for an identifier, with the new entry of `vfc_id`. -/
def createPair (hmc : Hmc) (lpar vios : Text) (state : State) : State :=
  match createVfchost hmc ⟨vios, state.startId, .server⟩ state with
  | (false, after) => after
  | (true, after) =>
    match createVfchost hmc ⟨lpar, state.startId, .client⟩ after with
    | (false, last) => { last with vfcId := last.vfcId ++ [(state.startId, [vios])] }
    | (true, last) => { last with vfcId := last.vfcId ++ [(state.startId, [vios, lpar])] }

/-- The body of the loop over `vfchost_count`. -/
def createNext (hmc : Hmc) (lpar : Text) (endId : Nat) (vios : Text) (state : State) : State :=
  if state.startId < endId then
    { createPair hmc lpar vios state with startId := state.startId + 1 }
  else state.complain "start host id is not in range".toList

/-- The loop over the VIOSes. -/
def createAll (hmc : Hmc) (settings : Settings) (endId : Nat) (state : State) : State :=
  (settings.text.splitOn ',').foldl
    (fun state vios =>
      rounds (fun state _ => createNext hmc settings.lpar endId vios state) settings.count state)
    state

/-- The body of the loop over the partitions of an identifier. -/
def deleteNext (hmc : Hmc) (slot : Nat) (state : State) (lpar : Text) : State :=
  match deleteVfchost hmc slot lpar state with
  | (true, after) => after
  | (false, after) => after.complain ("vfc_id=".toList ++ decimal slot ++ " delete failed:".toList)

/-- The loop over `vfc_id`. -/
def deleteAll (hmc : Hmc) (state : State) : State :=
  state.vfcId.foldl (fun state entry => entry.2.foldl (deleteNext hmc entry.1) state) state

/-- The state in front of the loops. -/
def start (others : List Adapter) (startId : Nat) : State := ⟨others, [], startId, [], []⟩

/-- `test_create_delete_vfchost`. It raises when the ends of the range are not numbers. -/
def testCreateDelete (hmc : Hmc) (settings : Settings) (others : List Adapter) : Option State :=
  settings.range.map fun range =>
    deleteAll hmc (createAll hmc settings range.2 (start others range.1))

/-! ### What is asked of the test -/

/-- There are as many pairs of adapters for a VIOS as are asked for. -/
def Served (settings : Settings) (made : List Adapter) (vios : Text) : Prop :=
  ∃ slots : List Nat, slots.Nodup ∧ slots.length = settings.count ∧
    ∀ slot ∈ slots, ⟨vios, slot, .server⟩ ∈ made ∧ ⟨settings.lpar, slot, .client⟩ ∈ made

/-- When the test passes, all adapters were created and all created adapters are gone. -/
def CreatesAndRemoves (hmc : Hmc) (settings : Settings) (others : List Adapter) : Prop :=
  ∀ after, testCreateDelete hmc settings others = some after → after.errMesg = [] →
    (∀ vios ∈ settings.setUpVioses, Served settings after.made vios) ∧
      ∀ adapter ∈ after.made, adapter ∉ after.system

/-! ### Reading the listing -/

variable {hmc : Hmc}

/-- Of a line the slot is read. -/
theorem head_line (adapter : Adapter) :
    (adapter.line.splitOn ',').headD [] = decimal adapter.slot := by
  have digits : ∀ c ∈ decimal adapter.slot, decide (c ≠ ',') = true := by
    intro c member
    rw [decide_eq_true_iff]
    rintro rfl
    exact absurd (decimal_digits _ _ member) (by decide)
  rw [headD_splitOn, Adapter.line, List.takeWhile_append_of_pos digits]
  simp

/-- A type is found in the lines of the adapters of that type. The texts of the types have letters,
so they are not in the number of the slot, and neither is part of the other. -/
theorem selects_kind (adapter : Adapter) (kind : Kind) :
    hmc.selects kind.text adapter.line = true ↔ adapter.kind = kind := by
  have lower : ∀ kind : Kind, ∀ c ∈ kind.text, c.isLower = true := by
    intro kind
    cases kind <;> exact forall_of_check (by decide)
  have small := lower kind
  have lineSmall : ∀ c ∈ adapter.line, c.isLower = true ∨ c.isDigit = true ∨ c = ',' := by
    intro c member
    simp only [Adapter.line, List.mem_append, List.mem_cons] at member
    rcases member with digit | comma | inKind
    · exact .inr (.inl (decimal_digits _ c digit))
    · exact .inr (.inr comma)
    · exact .inl (lower adapter.kind c inKind)
  have noComma : ',' ∉ kind.text := by cases kind <;> decide
  have notInDigits : ¬kind.text <:+: decimal adapter.slot := by
    intro inDigits
    have letter : ∃ c ∈ kind.text, c.isDigit = false := by
      cases kind <;> exact ⟨_, List.mem_cons_self, by decide⟩
    obtain ⟨c, member, notDigit⟩ := letter
    exact absurd (decimal_digits _ c (inDigits.subset member)) (by simp [notDigit])
  have kinds : kind.text <:+: adapter.kind.text ↔ adapter.kind = kind := by
    cases kind <;> cases adapter.kind <;> decide
  rw [hmc.selects_small _ _ small lineSmall, contains, decide_eq_true_iff, Adapter.line,
    infix_append_cons_iff noComma, kinds, or_iff_right notInDigits]

/-- A creation is seen when there is an adapter of the type in the slot. -/
theorem existsCreate_iff (system : List Adapter) (slot : Nat) (kind : Kind) :
    existsCreate hmc system slot kind = true ↔
      ∃ adapter ∈ system, adapter.slot = slot ∧ adapter.kind = kind := by
  simp only [existsCreate, List.any_eq_true, List.mem_filter, List.mem_map, beq_iff_eq]
  constructor
  · rintro ⟨_, ⟨⟨adapter, inSystem, rfl⟩, selected⟩, read⟩
    rw [head_line] at read
    exact ⟨adapter, inSystem, (decimal_injective read).symm,
      (selects_kind adapter kind).mp selected⟩
  · rintro ⟨adapter, inSystem, rfl, rfl⟩
    exact ⟨_, ⟨⟨adapter, inSystem, rfl⟩, (selects_kind adapter _).mpr rfl⟩,
      (head_line adapter).symm⟩

/-- A deletion is seen when no adapter in the slot has a line with the name of the partition. -/
theorem existsDelete_iff (system : List Adapter) (slot : Nat) (lpar : Text) :
    existsDelete hmc system slot lpar = true ↔
      ∀ adapter ∈ system, adapter.slot = slot → hmc.selects lpar adapter.line = false := by
  simp only [existsDelete, List.all_eq_true, List.mem_filter, List.mem_map, Bool.not_eq_true',
    beq_eq_false_iff_ne]
  constructor
  · rintro unseen adapter inSystem rfl
    by_contra selected
    rw [Bool.not_eq_false] at selected
    exact unseen _ ⟨⟨adapter, inSystem, rfl⟩, selected⟩ (head_line adapter).symm
  · rintro unseen _ ⟨⟨adapter, inSystem, rfl⟩, selected⟩ read
    rw [head_line] at read
    rw [unseen adapter inSystem (decimal_injective read).symm] at selected
    cases selected

/-! ### Single commands -/

/-- A creation is taken for one that had an effect. -/
def Seen (hmc : Hmc) (system : List Adapter) (adapter : Adapter) : Prop :=
  Takes hmc system adapter ∨
    ∃ other ∈ system, other.slot = adapter.slot ∧ other.kind = adapter.kind

/-- A creation that has an effect adds its adapter. -/
theorem create_adds (state : State) (adapter : Adapter) :
    ∃ new : List Adapter,
      (state.create hmc adapter).system = state.system ++ new ∧
      (state.create hmc adapter).made = state.made ++ new ∧
      ∀ other, other ∈ new ↔ Takes hmc state.system adapter ∧ other = adapter := by
  rw [State.create]
  by_cases takes : Takes hmc state.system adapter
  · rw [if_pos takes]
    exact ⟨[adapter], rfl, rfl, by simp [takes]⟩
  · rw [if_neg takes]
    exact ⟨[], by simp, by simp, by simp [takes]⟩

/-- The adapters after a creation. -/
theorem mem_create {state : State} {adapter other : Adapter} :
    other ∈ (state.create hmc adapter).system ↔
      other ∈ state.system ∨ Takes hmc state.system adapter ∧ other = adapter := by
  obtain ⟨new, system, _, added⟩ := @create_adds hmc state adapter
  rw [system, List.mem_append, added]

/-- The created adapters after a creation. -/
theorem mem_create_made {state : State} {adapter other : Adapter} :
    other ∈ (state.create hmc adapter).made ↔
      other ∈ state.made ∨ Takes hmc state.system adapter ∧ other = adapter := by
  obtain ⟨new, _, made, added⟩ := @create_adds hmc state adapter
  rw [made, List.mem_append, added]

/-- The variables of the test are no business of the HMC. -/
theorem create_frame (state : State) (adapter : Adapter) :
    (state.create hmc adapter).startId = state.startId ∧
      (state.create hmc adapter).vfcId = state.vfcId ∧
      (state.create hmc adapter).errMesg = state.errMesg := by
  rw [State.create]
  split <;> exact ⟨rfl, rfl, rfl⟩

/-- Two systems have the same adapters where a creation looks. -/
def Agree (system others : List Adapter) (adapter : Adapter) : Prop :=
  ∀ other : Adapter, other.slot = adapter.slot →
    (other.lpar = adapter.lpar ∨ other.kind = adapter.kind) → (other ∈ system ↔ other ∈ others)

/-- Whether a creation has an effect depends on the partition and the slot only. -/
theorem takes_of_agree {system others : List Adapter} {adapter : Adapter}
    (agree : Agree system others adapter) :
    Takes hmc system adapter ↔ Takes hmc others adapter := by
  refine and_congr_right fun _ => ⟨fun free other there same => ?_, fun free other there same => ?_⟩
  · exact free other ((agree other same.2 (.inl same.1)).mpr there) same
  · exact free other ((agree other same.2 (.inl same.1)).mp there) same

/-- Whether a creation is seen depends on the slot only. -/
theorem existsCreate_of_agree {state : State} {others : List Adapter} {adapter : Adapter}
    (agree : Agree state.system others adapter) :
    existsCreate hmc (state.create hmc adapter).system adapter.slot adapter.kind = true ↔
      Seen hmc others adapter := by
  rw [existsCreate_iff]
  constructor
  · rintro ⟨other, there, slot, kind⟩
    rcases mem_create.mp there with before | ⟨takes, _⟩
    · exact .inr ⟨other, (agree other slot (.inr kind)).mp before, slot, kind⟩
    · exact .inl ((takes_of_agree agree).mp takes)
  · rintro (takes | ⟨other, there, slot, kind⟩)
    · exact ⟨adapter, mem_create.mpr (.inr ⟨(takes_of_agree agree).mpr takes, rfl⟩), rfl, rfl⟩
    · exact ⟨other, mem_create.mpr (.inl ((agree other slot (.inr kind)).mpr there)), slot, kind⟩

/-- A creation that is not seen leaves a message. -/
theorem createVfchost_unseen {state : State} {adapter : Adapter}
    (unseen : existsCreate hmc (state.create hmc adapter).system adapter.slot adapter.kind ≠ true) :
    ∃ after, createVfchost hmc adapter state = (false, after) ∧ after.errMesg ≠ [] := by
  rw [createVfchost]
  rw [if_neg unseen]
  exact ⟨_, rfl, by simp [State.complain]⟩

/-- A creation that is seen does nothing but to create. -/
theorem createVfchost_seen {state : State} {adapter : Adapter}
    (seen : existsCreate hmc (state.create hmc adapter).system adapter.slot adapter.kind = true) :
    createVfchost hmc adapter state = (true, state.create hmc adapter) := by
  rw [createVfchost]
  rw [if_pos seen]

/-- Messages stay. -/
theorem createVfchost_errMesg {state : State} (adapter : Adapter) (failed : state.errMesg ≠ []) :
    (createVfchost hmc adapter state).2.errMesg ≠ [] := by
  rw [createVfchost]
  split
  · rw [(create_frame state adapter).2.2]
    exact failed
  · simp [State.complain]

/-- The adapters after a deletion. -/
theorem mem_delete {state : State} {lpar : Text} {slot : Nat} {adapter : Adapter} :
    adapter ∈ (state.delete hmc lpar slot).system ↔
      adapter ∈ state.system ∧
        ¬(adapter.slot = slot ∧ adapter.lpar = lpar ∧ hmc.answers (.delete lpar slot) = true) := by
  rw [State.delete]
  by_cases answered : hmc.answers (.delete lpar slot) = true
  · rw [if_pos answered, List.mem_filter]
    simp only [answered, and_true, Bool.not_eq_true', decide_eq_false_iff_not]
    rw [and_comm (a := adapter.slot = slot)]
  · rw [if_neg answered]
    simp [answered]

/-- A deletion changes nothing else. -/
theorem delete_frame (state : State) (lpar : Text) (slot : Nat) :
    (state.delete hmc lpar slot).made = state.made ∧
      (state.delete hmc lpar slot).errMesg = state.errMesg := by
  rw [State.delete]
  split <;> exact ⟨rfl, rfl⟩

/-- A deletion that is seen does nothing but to delete. -/
theorem deleteNext_seen {state : State} {lpar : Text} {slot : Nat}
    (seen : existsDelete hmc (state.delete hmc lpar slot).system slot lpar = true) :
    deleteNext hmc slot state lpar = state.delete hmc lpar slot := by
  rw [deleteNext, deleteVfchost]
  rw [if_pos seen]

/-- A deletion that is not seen leaves a message. -/
theorem deleteNext_unseen {state : State} {lpar : Text} {slot : Nat}
    (unseen : existsDelete hmc (state.delete hmc lpar slot).system slot lpar ≠ true) :
    (deleteNext hmc slot state lpar).errMesg ≠ [] := by
  rw [deleteNext, deleteVfchost]
  rw [if_neg unseen]
  simp [State.complain]

/-- Messages stay. -/
theorem deleteNext_errMesg {state : State} (slot : Nat) (lpar : Text)
    (failed : state.errMesg ≠ []) : (deleteNext hmc slot state lpar).errMesg ≠ [] := by
  by_cases seen : existsDelete hmc (state.delete hmc lpar slot).system slot lpar = true
  · rw [deleteNext_seen seen, (delete_frame state lpar slot).2]
    exact failed
  · exact deleteNext_unseen seen

/-! ### The creations of a run -/

variable {settings : Settings} {others : List Adapter} {startId endId : Nat}

/-- The text of the VIOSes is not the partition of the test. -/
theorem lpar_ne_text (settings : Settings) : settings.lpar ≠ settings.text := by
  intro same
  have solid := settings.solid
  have other := settings.other
  rw [same] at solid other
  rw [Settings.text] at solid other
  cases names : settings.vioses with
  | nil => exact settings.some_vios names
  | cons vios rest =>
    rw [names] at solid other
    cases rest with
    | nil => exact other (by simp)
    | cons second further => exact solid (by simp [List.intercalate_cons_cons])

/-- The server adapter of an identifier. -/
def server (settings : Settings) (slot : Nat) : Adapter := ⟨settings.text, slot, .server⟩

/-- The client adapter of an identifier. -/
def client (settings : Settings) (slot : Nat) : Adapter := ⟨settings.lpar, slot, .client⟩

/-- The adapters that are created for an identifier. -/
def Made (hmc : Hmc) (settings : Settings) (others : List Adapter) (slot : Nat)
    (adapter : Adapter) : Prop :=
  Takes hmc others (server settings slot) ∧ adapter = server settings slot ∨
    Takes hmc others (client settings slot) ∧ adapter = client settings slot

/-- Both adapters of an identifier are taken for created. -/
def BothSeen (hmc : Hmc) (settings : Settings) (others : List Adapter) (slot : Nat) : Prop :=
  Seen hmc others (server settings slot) ∧ Seen hmc others (client settings slot)

/-- The adapters of an identifier are in its slot. -/
theorem Made.slot {slot : Nat} {adapter : Adapter} (made : Made hmc settings others slot adapter) :
    adapter.slot = slot := by
  rcases made with ⟨_, rfl⟩ | ⟨_, rfl⟩ <;> rfl

/-- The state after the creations for some identifiers without a message. -/
structure Created (hmc : Hmc) (settings : Settings) (others : List Adapter) (startId k : Nat)
    (state : State) : Prop where
  next : state.startId = startId + k
  quiet : state.errMesg = []
  entries : state.vfcId =
    (List.range k).map fun j => (startId + j, [settings.text, settings.lpar])
  made : ∀ adapter, adapter ∈ state.made ↔
    ∃ j < k, Made hmc settings others (startId + j) adapter
  system : ∀ adapter, adapter ∈ state.system ↔ adapter ∈ others ∨ adapter ∈ state.made

/-- In the slot of the next identifier there are the other adapters only. -/
theorem Created.agree {k : Nat} {state : State}
    (created : Created hmc settings others startId k state) {adapter : Adapter}
    (slot : adapter.slot = startId + k) : Agree state.system others adapter := by
  intro other same _
  rw [created.system]
  refine or_iff_left fun inMade => ?_
  obtain ⟨j, below, made⟩ := (created.made other).mp inMade
  have := made.slot
  omega

/-- The server adapter is not where the client adapter is looked for. -/
theorem Created.agree_client {k : Nat} {state : State}
    (created : Created hmc settings others startId k state) :
    Agree (state.create hmc (server settings (startId + k))).system others
      (client settings (startId + k)) := by
  intro other slot looked
  have agree : Agree state.system others (client settings (startId + k)) := created.agree rfl
  rw [mem_create, agree other slot looked]
  refine or_iff_left ?_
  rintro ⟨_, rfl⟩
  rcases looked with lpar | kind
  · exact lpar_ne_text settings lpar.symm
  · cases kind

/-- Two creations that are seen. -/
theorem Created.createPair_eq {k : Nat} {state : State}
    (created : Created hmc settings others startId k state)
    (seen : BothSeen hmc settings others (startId + k)) :
    createPair hmc settings.lpar settings.text state =
      { (state.create hmc (server settings (startId + k))).create hmc
          (client settings (startId + k)) with
        vfcId := state.vfcId ++ [(startId + k, [settings.text, settings.lpar])] } := by
  have agree : Agree state.system others (server settings (startId + k)) := created.agree rfl
  have serverSeen := createVfchost_seen ((existsCreate_of_agree agree).mpr seen.1)
  have clientSeen := createVfchost_seen ((existsCreate_of_agree created.agree_client).mpr seen.2)
  have entries : (state.create hmc (server settings (startId + k))).vfcId = state.vfcId :=
    (create_frame state _).2.1
  have entriesLast : ((state.create hmc (server settings (startId + k))).create hmc
      (client settings (startId + k))).vfcId = (state.create hmc _).vfcId :=
    (create_frame _ _).2.1
  rw [createPair, created.next]
  rw [server] at serverSeen
  rw [serverSeen]
  dsimp only
  rw [client, server] at clientSeen
  rw [clientSeen]
  dsimp only
  rw [← client, ← server, entriesLast, entries]

/-- After two creations that are seen, there is one more pair. -/
theorem Created.createNext_seen {k : Nat} {state : State}
    (created : Created hmc settings others startId k state) (below : startId + k < endId)
    (seen : BothSeen hmc settings others (startId + k)) :
    Created hmc settings others startId (k + 1)
      (createNext hmc settings.lpar endId settings.text state) := by
  have agree : Agree state.system others (server settings (startId + k)) := created.agree rfl
  have takesServer := @takes_of_agree hmc _ _ _ agree
  have takesClient := @takes_of_agree hmc _ _ _ created.agree_client
  rw [createNext, created.next, if_pos below, created.createPair_eq seen]
  refine ⟨rfl, ?_, ?_, fun adapter => ?_, fun adapter => ?_⟩
  · dsimp only
    rw [(create_frame _ _).2.2, (create_frame _ _).2.2, created.quiet]
  · dsimp only
    rw [created.entries, List.range_succ, List.map_append, List.map_singleton]
  · dsimp only
    rw [mem_create_made, mem_create_made, takesServer, takesClient, created.made,
      Nat.exists_lt_succ_right, or_assoc, Made]
  · dsimp only
    rw [mem_create, mem_create, mem_create_made, mem_create_made, created.system]
    tauto

/-- Otherwise there is a message: the last slot is passed, or one of the two adapters that the turn
creates is not found in the listing. -/
theorem Created.createNext_unseen {k : Nat} {state : State}
    (created : Created hmc settings others startId k state)
    (unseen : ¬(startId + k < endId ∧ BothSeen hmc settings others (startId + k))) :
    (createNext hmc settings.lpar endId settings.text state).errMesg ≠ [] := by
  rw [createNext, created.next]
  by_cases below : startId + k < endId
  · rw [if_pos below]
    dsimp only
    rw [createPair, created.next]
    by_cases serverSeen : Seen hmc others (server settings (startId + k))
    · have agree : Agree state.system others (server settings (startId + k)) := created.agree rfl
      have first := createVfchost_seen ((existsCreate_of_agree agree).mpr serverSeen)
      have clientUnseen : ¬Seen hmc others (client settings (startId + k)) := fun clientSeen =>
        unseen ⟨below, serverSeen, clientSeen⟩
      obtain ⟨after, second, failed⟩ := createVfchost_unseen
        fun shown => clientUnseen ((existsCreate_of_agree created.agree_client).mp shown)
      rw [server] at first
      rw [first]
      dsimp only
      rw [client, server] at second
      rw [second]
      exact failed
    · have agree : Agree state.system others (server settings (startId + k)) := created.agree rfl
      obtain ⟨after, first, failed⟩ := createVfchost_unseen
        fun shown => serverSeen ((existsCreate_of_agree agree).mp shown)
      rw [server] at first
      rw [first]
      exact failed
  · rw [if_neg below]
    simp [State.complain]

/-- Messages stay. -/
theorem createNext_errMesg {lpar vios : Text} {state : State} (failed : state.errMesg ≠ []) :
    (createNext hmc lpar endId vios state).errMesg ≠ [] := by
  rw [createNext]
  split
  · have first := @createVfchost_errMesg hmc state ⟨vios, state.startId, .server⟩ failed
    dsimp only
    rw [createPair]
    cases serverRan : createVfchost hmc ⟨vios, state.startId, .server⟩ state with
    | mk serverSeen after =>
      rw [serverRan] at first
      have second := @createVfchost_errMesg hmc after ⟨lpar, state.startId, .client⟩ first
      cases serverSeen with
      | false => exact first
      | true =>
        dsimp only at second ⊢
        cases clientRan : createVfchost hmc ⟨lpar, state.startId, .client⟩ after with
        | mk clientSeen last =>
          rw [clientRan] at second
          cases clientSeen <;> exact second
  · simp [State.complain]

/-- The loop over the identifiers, when all creations are seen. -/
theorem creations_seen (count : Nat)
    (seen : ∀ k < count, startId + k < endId ∧ BothSeen hmc settings others (startId + k)) :
    Created hmc settings others startId count
      (rounds (fun state _ => createNext hmc settings.lpar endId settings.text state) count
        (start others startId)) := by
  refine @rounds_invariant _ _ (Created hmc settings others startId) _ _ _ ?_
    (fun _ _ _ created fine => created.createNext_seen fine.1 fine.2) seen
  exact ⟨rfl, rfl, rfl, by simp [start], by simp [start]⟩

/-- The loop over the identifiers, when not all creations are seen. -/
theorem creations_unseen (count : Nat)
    (unseen : ∃ k < count, ¬(startId + k < endId ∧ BothSeen hmc settings others (startId + k))) :
    (rounds (fun state _ => createNext hmc settings.lpar endId settings.text state) count
      (start others startId)).errMesg ≠ [] := by
  refine @rounds_failed _ _ (Created hmc settings others startId) (fun state => state.errMesg ≠ [])
    _ _ _ ?_ (fun _ _ _ created fine => created.createNext_seen fine.1 fine.2)
    (fun _ _ _ created notFine => created.createNext_unseen notFine)
    (fun _ _ failed => createNext_errMesg failed) unseen
  exact ⟨rfl, rfl, rfl, by simp [start], by simp [start]⟩

/-! ### The deletions of a run -/

/-- The command to delete an adapter has an effect. -/
def Deletes (hmc : Hmc) (lpar : Text) (slot : Nat) (adapter : Adapter) : Prop :=
  adapter.lpar = lpar ∧ hmc.answers (.delete lpar slot) = true

/-- An adapter that is deleted with the adapters of an identifier. -/
def Removed (hmc : Hmc) (settings : Settings) (slot : Nat) (adapter : Adapter) : Prop :=
  adapter.slot = slot ∧
    (Deletes hmc settings.text slot adapter ∨ Deletes hmc settings.lpar slot adapter)

/-- An adapter that is in the slot of an identifier after the creations. -/
def InSlot (hmc : Hmc) (settings : Settings) (others : List Adapter) (slot : Nat)
    (adapter : Adapter) : Prop :=
  adapter ∈ others ∧ adapter.slot = slot ∨ Made hmc settings others slot adapter

/-- Both deletions for an identifier are taken for deletions that had an effect. -/
structure BothGone (hmc : Hmc) (settings : Settings) (others : List Adapter) (slot : Nat) :
    Prop where
  server : ∀ adapter, InSlot hmc settings others slot adapter →
    ¬Deletes hmc settings.text slot adapter → hmc.selects settings.text adapter.line = false
  client : ∀ adapter, InSlot hmc settings others slot adapter →
    ¬Deletes hmc settings.text slot adapter → ¬Deletes hmc settings.lpar slot adapter →
      hmc.selects settings.lpar adapter.line = false

/-- The state after the deletions for some identifiers without a message. -/
structure Deleted (hmc : Hmc) (settings : Settings) (before : State) (startId k : Nat)
    (state : State) : Prop where
  quiet : state.errMesg = []
  made : state.made = before.made
  system : ∀ adapter, adapter ∈ state.system ↔
    adapter ∈ before.system ∧ ∀ j < k, ¬Removed hmc settings (startId + j) adapter

/-- In the slot of the next identifier nothing was deleted so far. -/
theorem Deleted.inSlot {count k : Nat} {before state : State}
    (created : Created hmc settings others startId count before) (below : k < count)
    (deleted : Deleted hmc settings before startId k state) (adapter : Adapter) :
    (adapter ∈ state.system ∧ adapter.slot = startId + k) ↔
      InSlot hmc settings others (startId + k) adapter := by
  rw [deleted.system, created.system, created.made]
  constructor
  · rintro ⟨⟨inOthers | ⟨j, _, made⟩, _⟩, slot⟩
    · exact .inl ⟨inOthers, slot⟩
    · have same := made.slot
      obtain rfl : j = k := by omega
      exact .inr made
  · intro inSlot
    have slot : adapter.slot = startId + k := by
      rcases inSlot with ⟨_, slot⟩ | made
      · exact slot
      · exact made.slot
    refine ⟨⟨inSlot.imp And.left fun made => ⟨k, below, made⟩, fun j earlier removed => ?_⟩, slot⟩
    have := removed.1
    omega

/-- The first deletion is seen. -/
theorem Deleted.first_seen_iff {count k : Nat} {before state : State}
    (created : Created hmc settings others startId count before) (below : k < count)
    (deleted : Deleted hmc settings before startId k state) :
    existsDelete hmc (state.delete hmc settings.text (startId + k)).system (startId + k)
        settings.text = true ↔
      ∀ adapter, InSlot hmc settings others (startId + k) adapter →
        ¬Deletes hmc settings.text (startId + k) adapter →
          hmc.selects settings.text adapter.line = false := by
  rw [existsDelete_iff]
  constructor
  · intro unseen adapter inSlot stays
    obtain ⟨inSystem, slot⟩ := (deleted.inSlot created below adapter).mpr inSlot
    exact unseen adapter (mem_delete.mpr ⟨inSystem, fun gone => stays gone.2⟩) slot
  · intro unseen adapter inSystem slot
    obtain ⟨there, stays⟩ := mem_delete.mp inSystem
    exact unseen adapter ((deleted.inSlot created below adapter).mp ⟨there, slot⟩)
      fun gone => stays ⟨slot, gone⟩

/-- The second deletion is seen. -/
theorem Deleted.second_seen_iff {count k : Nat} {before state : State}
    (created : Created hmc settings others startId count before) (below : k < count)
    (deleted : Deleted hmc settings before startId k state) :
    existsDelete hmc
        ((state.delete hmc settings.text (startId + k)).delete hmc settings.lpar
          (startId + k)).system (startId + k) settings.lpar = true ↔
      ∀ adapter, InSlot hmc settings others (startId + k) adapter →
        ¬Deletes hmc settings.text (startId + k) adapter →
          ¬Deletes hmc settings.lpar (startId + k) adapter →
            hmc.selects settings.lpar adapter.line = false := by
  rw [existsDelete_iff]
  constructor
  · intro unseen adapter inSlot first second
    obtain ⟨inSystem, slot⟩ := (deleted.inSlot created below adapter).mpr inSlot
    exact unseen adapter
      (mem_delete.mpr ⟨mem_delete.mpr ⟨inSystem, fun gone => first gone.2⟩,
        fun gone => second gone.2⟩) slot
  · intro unseen adapter inSystem slot
    obtain ⟨left, second⟩ := mem_delete.mp inSystem
    obtain ⟨there, first⟩ := mem_delete.mp left
    exact unseen adapter ((deleted.inSlot created below adapter).mp ⟨there, slot⟩)
      (fun gone => first ⟨slot, gone⟩) fun gone => second ⟨slot, gone⟩

/-- After two deletions that are seen, the adapters of one more identifier are deleted. -/
theorem Deleted.both_seen {count k : Nat} {before state : State}
    (created : Created hmc settings others startId count before) (below : k < count)
    (deleted : Deleted hmc settings before startId k state)
    (gone : BothGone hmc settings others (startId + k)) :
    Deleted hmc settings before startId (k + 1)
      ([settings.text, settings.lpar].foldl (deleteNext hmc (startId + k)) state) := by
  have first := deleteNext_seen ((deleted.first_seen_iff created below).mpr gone.server)
  have second := deleteNext_seen ((deleted.second_seen_iff created below).mpr gone.client)
  rw [List.foldl_cons, List.foldl_cons, List.foldl_nil, first, second]
  refine ⟨?_, ?_, fun adapter => ?_⟩
  · rw [(delete_frame _ _ _).2, (delete_frame _ _ _).2, deleted.quiet]
  · rw [(delete_frame _ _ _).1, (delete_frame _ _ _).1, deleted.made]
  · rw [mem_delete, mem_delete, deleted.system, Nat.forall_lt_succ_right, Removed, Deletes, Deletes]
    tauto

/-- Otherwise there is a message. -/
theorem Deleted.both_unseen {count k : Nat} {before state : State}
    (created : Created hmc settings others startId count before) (below : k < count)
    (deleted : Deleted hmc settings before startId k state)
    (notGone : ¬BothGone hmc settings others (startId + k)) :
    ([settings.text, settings.lpar].foldl (deleteNext hmc (startId + k)) state).errMesg ≠ [] := by
  rw [List.foldl_cons, List.foldl_cons, List.foldl_nil]
  by_cases firstSeen : existsDelete hmc (state.delete hmc settings.text (startId + k)).system
      (startId + k) settings.text = true
  · rw [deleteNext_seen firstSeen]
    refine deleteNext_unseen fun secondSeen => notGone ⟨?_, ?_⟩
    · exact (deleted.first_seen_iff created below).mp firstSeen
    · exact (deleted.second_seen_iff created below).mp secondSeen
  · exact deleteNext_errMesg _ _ (deleteNext_unseen firstSeen)

/-- The loop over `vfc_id`, as a loop over the identifiers. -/
theorem deleteAll_eq {count : Nat} {before : State}
    (created : Created hmc settings others startId count before) :
    deleteAll hmc before =
      rounds
        (fun state k =>
          [settings.text, settings.lpar].foldl (deleteNext hmc (startId + k)) state)
        count before := by
  rw [deleteAll, created.entries, foldl_map_range]

/-- The loop over `vfc_id`, when all deletions are seen. -/
theorem deletions_seen {count : Nat} {before : State}
    (created : Created hmc settings others startId count before)
    (gone : ∀ k < count, BothGone hmc settings others (startId + k)) :
    Deleted hmc settings before startId count (deleteAll hmc before) := by
  rw [deleteAll_eq created]
  refine @rounds_invariant _ _ (Deleted hmc settings before startId)
    (fun k => BothGone hmc settings others (startId + k)) _ _ ?_
    (fun _ below _ deleted fine => deleted.both_seen created below fine) gone
  exact ⟨created.quiet, rfl, by simp⟩

/-- Messages stay in the loop over the partitions. -/
theorem deleteNext_foldl_errMesg {state : State} (slot : Nat) (lpars : List Text)
    (failed : state.errMesg ≠ []) : (lpars.foldl (deleteNext hmc slot) state).errMesg ≠ [] :=
  @List.foldlRecOn _ _ (fun state => state.errMesg ≠ []) lpars (deleteNext hmc slot) state failed
    fun _ failed lpar _ => deleteNext_errMesg slot lpar failed

/-- Messages stay in the loop over `vfc_id`. -/
theorem deleteAll_errMesg {state : State} (failed : state.errMesg ≠ []) :
    (deleteAll hmc state).errMesg ≠ [] :=
  @List.foldlRecOn _ _ (fun state => state.errMesg ≠ []) state.vfcId _ state failed
    fun _ failed entry _ => deleteNext_foldl_errMesg entry.1 entry.2 failed

/-- The loop over `vfc_id`, when not all deletions are seen. -/
theorem deletions_unseen {count : Nat} {before : State}
    (created : Created hmc settings others startId count before)
    (notGone : ∃ k < count, ¬BothGone hmc settings others (startId + k)) :
    (deleteAll hmc before).errMesg ≠ [] := by
  rw [deleteAll_eq created]
  refine @rounds_failed _ _ (Deleted hmc settings before startId) (fun state => state.errMesg ≠ [])
    (fun k => BothGone hmc settings others (startId + k)) _ _ ?_
    (fun _ below _ deleted fine => deleted.both_seen created below fine)
    (fun _ below _ deleted notFine => deleted.both_unseen created below notFine)
    (fun k _ failed => deleteNext_foldl_errMesg (startId + k) _ failed) notGone
  exact ⟨created.quiet, rfl, by simp⟩

/-! ### The whole run -/

/-- The creations and the deletions of an identifier leave no message: it is below the end of the
range, both adapters are seen, and both are found gone. -/
structure Unnoticed (hmc : Hmc) (settings : Settings) (others : List Adapter) (endId slot : Nat) :
    Prop where
  below : slot < endId
  seen : BothSeen hmc settings others slot
  gone : BothGone hmc settings others slot

/-- All four commands of an identifier have an effect: both adapters are made, and both are deleted.
-/
structure Proper (hmc : Hmc) (settings : Settings) (others : List Adapter) (slot : Nat) : Prop where
  server : Takes hmc others (server settings slot)
  client : Takes hmc others (client settings slot)
  serverDeleted : hmc.answers (.delete settings.text slot) = true
  clientDeleted : hmc.answers (.delete settings.lpar slot) = true

/-- The text of the VIOSes has no comma. -/
theorem splitOn_text (settings : Settings) : settings.text.splitOn ',' = [settings.text] := by
  refine List.splitOn_eq_singleton fun comma => ?_
  have noComma : ∀ c ∈ settings.text, c ≠ ',' := by
    refine forall_mem_intercalate (fun vios isVios c member => ?_) (by decide)
    rintro rfl
    exact (settings.plain vios isVios).2 member
  exact noComma ',' comma rfl

/-- `setUp` reads the list of the VIOSes. -/
theorem setUpVioses_eq (settings : Settings) : settings.setUpVioses = settings.vioses :=
  List.splitOn_intercalate _ (fun vios isVios => (settings.plain vios isVios).1) settings.some_vios

/-- The test after the range is read. -/
theorem testCreateDelete_eq {endId : Nat} (range : settings.range = some (startId, endId)) :
    testCreateDelete hmc settings others =
      some (deleteAll hmc
        (rounds (fun state _ => createNext hmc settings.lpar endId settings.text state)
          settings.count (start others startId))) := by
  rw [testCreateDelete, range, Option.map_some, createAll, splitOn_text]
  rfl

/-- A run with a complaint. -/
theorem fails_of_noticed {endId : Nat}
    (noticed : ∃ k < settings.count, ¬Unnoticed hmc settings others endId (startId + k)) :
    (deleteAll hmc
      (rounds (fun state _ => createNext hmc settings.lpar endId settings.text state)
        settings.count (start others startId))).errMesg ≠ [] := by
  by_cases seen : ∀ k < settings.count,
      startId + k < endId ∧ BothSeen hmc settings others (startId + k)
  · obtain ⟨k, below, noticed⟩ := noticed
    refine deletions_unseen (creations_seen settings.count seen) ⟨k, below, fun gone => ?_⟩
    exact noticed ⟨(seen k below).1, (seen k below).2, gone⟩
  · push Not at seen
    obtain ⟨k, below, unseen⟩ := seen
    exact deleteAll_errMesg (creations_unseen settings.count
      ⟨k, below, fun both => unseen both.1 both.2⟩)

/-- What a run without a complaint leaves. -/
structure Quiet (hmc : Hmc) (settings : Settings) (others : List Adapter) (startId : Nat)
    (after : State) : Prop where
  errMesg : after.errMesg = []
  made : ∀ adapter, adapter ∈ after.made ↔
    ∃ k < settings.count, Made hmc settings others (startId + k) adapter
  gone : ∀ adapter ∈ after.made,
    (adapter ∉ after.system ↔ ∃ k < settings.count, Removed hmc settings (startId + k) adapter)

/-- A run without a complaint. -/
theorem quiet_of_unnoticed {endId : Nat}
    (unnoticed : ∀ k < settings.count, Unnoticed hmc settings others endId (startId + k)) :
    Quiet hmc settings others startId
      (deleteAll hmc
        (rounds (fun state _ => createNext hmc settings.lpar endId settings.text state)
          settings.count (start others startId))) := by
  have created : Created hmc settings others startId settings.count _ :=
    creations_seen settings.count fun k below =>
      ⟨(unnoticed k below).below, (unnoticed k below).seen⟩
  have deleted := deletions_seen created fun k below => (unnoticed k below).gone
  refine ⟨deleted.quiet, fun adapter => ?_, fun adapter inMade => ?_⟩
  · rw [deleted.made, created.made]
  · rw [deleted.made] at inMade
    have there := (created.system adapter).mpr (.inr inMade)
    rw [deleted.system, and_iff_right there]
    push Not
    rfl

/-- An adapter that is created is deleted when the command for its partition has an effect. -/
theorem Quiet.gone_iff {after : State} (quiet : Quiet hmc settings others startId after)
    {k : Nat} (below : k < settings.count) {adapter : Adapter}
    (made : Made hmc settings others (startId + k) adapter) :
    adapter ∉ after.system ↔ hmc.answers (.delete adapter.lpar (startId + k)) = true := by
  rw [quiet.gone _ ((quiet.made _).mpr ⟨k, below, made⟩)]
  constructor
  · rintro ⟨j, _, slot, deletes⟩
    obtain rfl : k = j := Nat.add_left_cancel (made.slot.symm.trans slot)
    rcases deletes with ⟨lpar, answered⟩ | ⟨lpar, answered⟩ <;> rwa [lpar]
  · intro answered
    refine ⟨k, below, made.slot, ?_⟩
    rcases made with ⟨_, rfl⟩ | ⟨_, rfl⟩
    · exact .inl ⟨rfl, answered⟩
    · exact .inr ⟨rfl, answered⟩

/-- Server adapters are created for the text of the VIOSes. -/
theorem Quiet.server_mem_iff {after : State} (quiet : Quiet hmc settings others startId after)
    (vios : Text) (slot : Nat) :
    ⟨vios, slot, .server⟩ ∈ after.made ↔
      vios = settings.text ∧ ∃ k < settings.count, slot = startId + k ∧
        Takes hmc others (server settings slot) := by
  rw [quiet.made]
  constructor
  · rintro ⟨k, below, ⟨takes, same⟩ | ⟨_, same⟩⟩
    · simp only [server, Adapter.mk.injEq, and_true] at same
      obtain ⟨rfl, rfl⟩ := same
      exact ⟨rfl, k, below, rfl, takes⟩
    · simp [client] at same
  · rintro ⟨rfl, k, below, rfl, takes⟩
    exact ⟨k, below, .inl ⟨takes, rfl⟩⟩

/-- Client adapters are created for the partition of the test. -/
theorem Quiet.client_mem_iff {after : State} (quiet : Quiet hmc settings others startId after)
    (slot : Nat) :
    ⟨settings.lpar, slot, .client⟩ ∈ after.made ↔
      ∃ k < settings.count, slot = startId + k ∧ Takes hmc others (client settings slot) := by
  rw [quiet.made]
  constructor
  · rintro ⟨k, below, ⟨_, same⟩ | ⟨takes, same⟩⟩
    · simp [server] at same
    · simp only [client, Adapter.mk.injEq, and_true, true_and] at same
      obtain rfl := same
      exact ⟨k, below, rfl, takes⟩
  · rintro ⟨k, below, rfl, takes⟩
    exact ⟨k, below, .inr ⟨takes, rfl⟩⟩

/-- When all creations have an effect, there are as many pairs as are asked for. -/
theorem Quiet.served {after : State} (quiet : Quiet hmc settings others startId after)
    (takes : ∀ k < settings.count, Takes hmc others (server settings (startId + k)) ∧
      Takes hmc others (client settings (startId + k))) :
    Served settings after.made settings.text := by
  refine ⟨(List.range settings.count).map (startId + ·), ?_, by simp, fun slot member => ?_⟩
  · exact List.Nodup.map (fun _ _ same => Nat.add_left_cancel same) List.nodup_range
  · obtain ⟨k, below, rfl⟩ := List.mem_map.mp member
    rw [List.mem_range] at below
    exact ⟨(quiet.server_mem_iff _ _).mpr ⟨rfl, k, below, rfl, (takes k below).1⟩,
      (quiet.client_mem_iff _).mpr ⟨k, below, rfl, (takes k below).2⟩⟩

/-- A VIOS is served exactly when it is the only one and all creations have an effect. -/
theorem Quiet.served_iff {after : State} (quiet : Quiet hmc settings others startId after)
    (some_pair : settings.count ≠ 0) (vios : Text) :
    Served settings after.made vios ↔
      vios = settings.text ∧ ∀ k < settings.count,
        Takes hmc others (server settings (startId + k)) ∧
          Takes hmc others (client settings (startId + k)) := by
  constructor
  · rintro ⟨slots, distinct, length, pairs⟩
    have identifiers : ∀ slot ∈ slots, slot ∈ (List.range settings.count).map (startId + ·) := by
      intro slot member
      obtain ⟨_, k, below, rfl, _⟩ := (quiet.server_mem_iff vios slot).mp (pairs slot member).1
      exact List.mem_map_of_mem (List.mem_range.mpr below)
    have all : slots.Perm ((List.range settings.count).map (startId + ·)) :=
      (List.subperm_of_subset distinct identifiers).perm_of_length_le (by simp [length])
    obtain ⟨slot, member⟩ : ∃ slot, slot ∈ slots := by
      apply List.exists_mem_of_ne_nil
      rintro rfl
      exact some_pair length.symm
    refine ⟨((quiet.server_mem_iff vios slot).mp (pairs slot member).1).1, fun k below => ?_⟩
    have inSlots : startId + k ∈ slots :=
      all.mem_iff.mpr (List.mem_map_of_mem (List.mem_range.mpr below))
    obtain ⟨_, _, _, _, serverTakes⟩ := (quiet.server_mem_iff vios _).mp (pairs _ inSlots).1
    obtain ⟨_, _, _, clientTakes⟩ := (quiet.client_mem_iff _).mp (pairs _ inSlots).2
    exact ⟨serverTakes, clientTakes⟩
  · rintro ⟨rfl, takes⟩
    exact quiet.served takes

/-- Without a blank there is one VIOS. -/
theorem eq_text_iff {vios : Text} (isVios : vios ∈ settings.vioses) :
    vios = settings.text ↔ settings.vioses.length = 1 := by
  constructor
  · intro same
    have solid := (settings.plain vios isVios).1
    rw [same, Settings.text] at solid
    cases names : settings.vioses with
    | nil => exact absurd names settings.some_vios
    | cons first rest =>
      rw [names] at solid
      cases rest with
      | nil => rfl
      | cons second further => exact absurd (by simp [List.intercalate_cons_cons]) solid
  · intro single
    obtain ⟨only, names⟩ := List.length_eq_one_iff.mp single
    rw [names, List.mem_singleton] at isVios
    rw [Settings.text, names, isVios]
    simp

/-- When the test passes, all adapters were created and are gone again, exactly when no adapter was
asked for, or something is noticed, or there is one VIOS and every command has an effect.

Every command may be carried out or refused, and any other adapters may be there before. Of `grep
-i` it is only assumed that it finds small letters where they are. -/
theorem createsAndRemoves_iff (hmc : Hmc) (settings : Settings) (others : List Adapter) :
    CreatesAndRemoves hmc settings others ↔
      ∀ startId endId, settings.range = some (startId, endId) →
        settings.count = 0 ∨
          (∃ k < settings.count, ¬Unnoticed hmc settings others endId (startId + k)) ∨
          settings.vioses.length = 1 ∧
            ∀ k < settings.count, Proper hmc settings others (startId + k) := by
  constructor
  · intro meant startId endId range
    by_contra! ⟨some_pair, unnoticed, improper⟩
    have quiet := quiet_of_unnoticed unnoticed
    obtain ⟨served, gone⟩ := meant _ (testCreateDelete_eq range) quiet.errMesg
    rw [setUpVioses_eq] at served
    obtain ⟨vios, isVios⟩ := List.exists_mem_of_ne_nil _ settings.some_vios
    obtain ⟨single, takes⟩ := (quiet.served_iff some_pair vios).mp (served vios isVios)
    obtain ⟨k, below, notProper⟩ := improper ((eq_text_iff isVios).mp single)
    have serverMade : server settings (startId + k) ∈ _ :=
      (quiet.server_mem_iff _ _).mpr ⟨rfl, k, below, rfl, (takes k below).1⟩
    have clientMade : client settings (startId + k) ∈ _ :=
      (quiet.client_mem_iff _).mpr ⟨k, below, rfl, (takes k below).2⟩
    exact notProper ⟨(takes k below).1, (takes k below).2,
      (quiet.gone_iff below (.inl ⟨(takes k below).1, rfl⟩)).mp (gone _ serverMade),
      (quiet.gone_iff below (.inr ⟨(takes k below).2, rfl⟩)).mp (gone _ clientMade)⟩
  · intro condition after ran passed
    cases range : settings.range with
    | none =>
      rw [testCreateDelete, range] at ran
      cases ran
    | some ends =>
      obtain ⟨startId, endId⟩ := ends
      rw [testCreateDelete_eq range] at ran
      cases ran
      by_cases noticed : ∃ k < settings.count, ¬Unnoticed hmc settings others endId (startId + k)
      · exact absurd passed (fails_of_noticed noticed)
      · push Not at noticed
        have quiet := quiet_of_unnoticed noticed
        rw [setUpVioses_eq]
        rcases condition startId endId range with zero | ⟨k, below, seen⟩ | ⟨single, proper⟩
        · refine ⟨fun vios _ => ⟨[], List.nodup_nil, zero.symm, by simp⟩, fun adapter inMade => ?_⟩
          obtain ⟨k, below, _⟩ := (quiet.made adapter).mp inMade
          omega
        · exact absurd (noticed k below) seen
        · refine ⟨fun vios isVios => ?_, fun adapter inMade => ?_⟩
          · rw [(eq_text_iff isVios).mpr single]
            exact quiet.served fun k below => ⟨(proper k below).server, (proper k below).client⟩
          · obtain ⟨k, below, made⟩ := (quiet.made adapter).mp inMade
            refine (quiet.gone_iff below made).mpr ?_
            rcases made with ⟨_, rfl⟩ | ⟨_, rfl⟩
            · exact (proper k below).serverDeleted
            · exact (proper k below).clientDeleted

/-- An HMC where `grep` looks for the pattern as it is, and no deletion has an effect. -/
def keepsAdapters : Hmc where
  answers
    | .create _ => true
    | .delete _ _ => false
  selects := contains
  selects_small := fun _ _ _ _ => rfl

/-- A pair of adapters that cannot be deleted is left, and the test passes. -/
theorem adapters_left :
    ∃ (hmc : Hmc) (settings : Settings) (others : List Adapter),
      ¬CreatesAndRemoves hmc settings others := by
  let settings : Settings :=
    ⟨[['v', '1']], by decide, by decide, ['l', '1'], by decide, by decide, some (100, 150), 1⟩
  refine ⟨keepsAdapters, settings, [], fun meant => ?_⟩
  have left : ∃ after, testCreateDelete keepsAdapters settings [] = some after ∧
      after.errMesg = [] ∧ ∃ adapter ∈ after.made, adapter ∈ after.system := by
    refine ⟨_, rfl, ?_, ⟨['v', '1'], 100, .server⟩, ?_, ?_⟩ <;> decide +kernel
  obtain ⟨after, ran, passed, adapter, inMade, stays⟩ := left
  exact (meant after ran passed).2 adapter inMade stays

end AvocadoMisc.Vfc.CreateDelete
