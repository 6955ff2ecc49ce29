import AvocadoMisc.Library.Scripts
import AvocadoMisc.Library.Text

/-!
# Which virtual disks the mvcli tests delete

`test_delete` of `mvcli_test.py` reads the identifiers of the virtual disks from a listing, with a
pattern that takes as much as it can before one digit. So what is read from a line is its last
digit. `test_create` creates a virtual disk for each RAID level and deletes the virtual disk with
the identifier 0 after that, whatever disks there were before.

The controller gives a new disk the lowest identifier that is free, and deletes a disk that is
there.
-/

namespace AvocadoMisc.Mvcli.VirtualDisks

open Library.Scripts Library.Text

/-- A character string. -/
abbrev Text := List Char

/-! ### The controller -/

/-- The virtual disks of an adapter by their identifiers, in the order in which they are listed. -/
structure Adapter where
  disks : List Nat
  distinct : disks.Nodup

/-- What is printed when there is none. -/
def noDisk : Text := "No virtual disk is found.".toList

/-- The line of a disk. -/
def line (id : Nat) : Text := 'i' :: 'd' :: ':' :: ' ' :: decimal id

/-- `mvcli info -o vd`. -/
def infoVd (disks : List Nat) : Text :=
  if disks = [] then noDisk else ['\n'].intercalate (disks.map line)

/-- The lowest identifier that is free. -/
def lowestFree (disks : List Nat) : Nat :=
  ((List.range (disks.length + 1)).find? fun id => decide (id ∉ disks)).getD 0

/-- A command to delete a disk, with the identifier of the last disk that was created before. -/
structure Deletion where
  vd : Text
  lastMade : Option Nat
  deriving DecidableEq

/-- A command to create a disk. -/
structure Creation where
  level : String
  pdList : Text
  name : String
  deriving DecidableEq

/-- The disks of the adapter, and the commands so far. -/
structure State where
  disks : List Nat
  lastMade : Option Nat
  created : List Creation
  deleted : List Deletion

/-- How a test fails: a command fails, or the adapter still has disks. -/
inductive Ending where
  | command
  | failed (message : String)

/-- Disks are left. -/
def deleteFailed : Ending := .failed "Mvcli delete operation failed"

/-- A script works on the adapter. -/
abbrev Script := EStateM Ending State

/-- `mvcli delete -o vd`. The command fails for a disk that is not there. -/
def deleteVd (vd : Text) : Script PUnit := do
  modify fun state => { state with deleted := state.deleted ++ [⟨vd, state.lastMade⟩] }
  let state ← get
  demand (∃ id ∈ state.disks, decimal id = vd) .command
  modify fun state => { state with disks := state.disks.filter fun id => decimal id ≠ vd }

/-! ### Deleting all disks -/

/-- The last digit of a text. -/
def lastDigit (text : Text) : Option Char := (text.filter Char.isDigit).getLast?

/-- `re.search(r"id:.*(\d)", line)`, with what the group has matched. -/
def searchId : Text → Option Char
  | [] => none
  | c :: rest =>
    if "id:".toList.isPrefixOf (c :: rest) && ((c :: rest).drop 3).any Char.isDigit then
      lastDigit ((c :: rest).drop 3)
    else searchId rest

/-- The identifiers that are read from a listing. -/
def vdList (output : Text) : List Text :=
  ((output.splitOn '\n').filterMap searchId).map fun c => [c]

/-- Whether the adapter is seen to have no disk. -/
def seenEmpty : Script Bool := do
  let state ← get
  pure (contains noDisk (infoVd state.disks))

/-- `test_delete`. -/
def testDelete : Script PUnit := do
  let state ← get
  let output := infoVd state.disks
  if contains noDisk output then pure ⟨⟩
  else do
    forEach deleteVd (vdList output)
    let empty ← seenEmpty
    demand empty deleteFailed

/-! ### Creating disks -/

/-- How the commands for a level end. A disk that could not be deleted is still there. -/
structure Answers where
  create : Bool
  info : Bool
  get : Bool
  delete : Bool

/-- The drives for a level. There is no creation when there are not enough of them. -/
def pdList (pdIds : List Text) : String → Option (List Text)
  | "0" => some pdIds
  | "1" => if pdIds.length < 2 then none else some (pdIds.take 2)
  | "10" => if pdIds.length < 4 then none else some (pdIds.take 4)
  | _ => none

/-- `mvcli create -o vd`. -/
def createVd (answers : Answers) (creation : Creation) : Script PUnit := do
  modify fun state => { state with created := state.created ++ [creation] }
  demand answers.create .command
  modify fun state =>
    { state with
      disks := state.disks ++ [lowestFree state.disks]
      lastMade := some (lowestFree state.disks) }

/-- The deletion of the disk that was created. -/
def deleteCreated (answers : Answers) : Script PUnit :=
  if answers.delete then deleteVd ['0']
  else do
    modify fun state => { state with deleted := state.deleted ++ [⟨['0'], state.lastMade⟩] }
    throw .command

/-- The body of the loop over the levels: create a disk, look at it, and delete it. A level without
enough drives is passed over. -/
def testLevel (answers : String → Answers) (pdIds : List Text) (level : String) : Script PUnit :=
  match pdList pdIds level with
  | none => pure ⟨⟩
  | some drives => do
    createVd (answers level) ⟨level, [','].intercalate drives, "MyRaid_" ++ level⟩
    demand (answers level).info .command
    demand (answers level).get .command
    deleteCreated (answers level)
    let empty ← seenEmpty
    demand empty deleteFailed

/-- `test_create`. -/
def testCreate (answers : String → Answers) (pdIds : List Text) : Script PUnit :=
  forEach (testLevel answers pdIds) ["0", "1", "10"]

/-! ### What is asked of the tests -/

/-- Before a test. -/
def start (adapter : Adapter) : State := ⟨adapter.disks, none, [], []⟩

/-- `test_delete` issues a command for every disk, once, and for nothing else. The order is free. -/
def DeletesExactly (adapter : Adapter) : Prop :=
  ((leaves testDelete (start adapter)).deleted.map Deletion.vd).Perm (adapter.disks.map decimal)

/-- Every command of `test_create` to delete a disk names the disk that was created last, and no
disk that was there before. -/
def DeletesMade (answers : String → Answers) (pdIds : List Text) (adapter : Adapter) : Prop :=
  ∀ deletion ∈ (leaves (testCreate answers pdIds) (start adapter)).deleted,
    (∃ id, deletion.lastMade = some id ∧ deletion.vd = decimal id) ∧
      ∀ id ∈ adapter.disks, deletion.vd ≠ decimal id

/-! ### Reading the listing -/

/-- Digits are digits only. -/
theorem filter_isDigit_decimal (n : Nat) : (decimal n).filter Char.isDigit = decimal n :=
  List.filter_eq_self.mpr (decimal_digits n)

/-- Of the line of a disk the last digit is read. -/
theorem searchId_line (id : Nat) : searchId (line id) = (decimal id).getLast? := by
  have some_digit : (decimal id).any Char.isDigit = true := by
    obtain ⟨first, rest, digits⟩ :=
      List.exists_cons_of_ne_nil (Nat.toDigits_ne_nil (n := id) (b := 10))
    rw [List.any_eq_true]
    exact ⟨first, by simp [decimal, digits], decimal_digits id first (by simp [decimal, digits])⟩
  have blank : Char.isDigit ' ' = false := by decide
  rw [line, searchId]
  simp [lastDigit, blank, some_digit, filter_isDigit_decimal]

/-- A character of a line. -/
theorem mem_line {id : Nat} {c : Char} (member : c ∈ line id) :
    c ∈ ['i', 'd', ':', ' '] ∨ c.isDigit = true := by
  simp only [line, List.mem_cons] at member ⊢
  rcases member with rfl | rfl | rfl | rfl | inNumber
  · simp
  · simp
  · simp
  · simp
  · exact .inr (decimal_digits id c inNumber)

/-- A listing has no capital letter. -/
theorem contains_noDisk_iff (disks : List Nat) :
    contains noDisk (infoVd disks) = true ↔ disks = [] := by
  constructor
  · intro shown
    by_contra some_disk
    rw [infoVd, if_neg some_disk, contains, decide_eq_true_iff] at shown
    have capital : 'N' ∈ noDisk := by decide +kernel
    have small : ∀ c ∈ ['\n'].intercalate (disks.map line), c ≠ 'N' := by
      refine forall_mem_intercalate (fun field isField c member => ?_) (by decide)
      obtain ⟨id, _, rfl⟩ := List.mem_map.mp isField
      rintro rfl
      rcases mem_line member with fixed | digit
      · exact absurd fixed (by decide)
      · exact absurd digit (by decide)
    exact small 'N' (shown.subset capital) rfl
  · rintro rfl
    rw [infoVd, if_pos rfl, contains, decide_eq_true_iff]

/-- What is read from the listing of some disks. -/
theorem vdList_infoVd {disks : List Nat} (some_disk : disks ≠ []) :
    vdList (infoVd disks) =
      (disks.filterMap fun id => (decimal id).getLast?).map fun c => [c] := by
  have unbroken : ∀ text ∈ disks.map line, '\n' ∉ text := by
    intro text isLine member
    obtain ⟨id, _, rfl⟩ := List.mem_map.mp isLine
    rcases mem_line member with fixed | digit
    · exact absurd fixed (by decide)
    · exact absurd digit (by decide)
  rw [vdList, infoVd, if_neg some_disk,
    List.splitOn_intercalate _ unbroken (by simpa using some_disk), List.filterMap_map]
  congr 2
  exact funext searchId_line

/-! ### Deleting all disks -/

/-- A number below ten is one digit, and the only such. -/
theorem length_decimal_eq_one_iff (n : Nat) : (decimal n).length = 1 ↔ n < 10 := by
  have positive : 0 < (decimal n).length := Nat.length_toDigits_pos
  have bound : (decimal n).length ≤ 1 ↔ n < 10 ^ 1 :=
    Nat.length_toDigits_le_iff (by decide) (by decide)
  omega

/-- Deleting a disk that is there. -/
theorem deleteVd_apply {id : Nat} {state : State} (there : id ∈ state.disks) :
    deleteVd (decimal id) state = .ok ⟨⟩
      { state with
        disks := state.disks.filter fun other => decimal other ≠ decimal id
        deleted := state.deleted ++ [⟨decimal id, state.lastMade⟩] } := by
  rw [deleteVd, modify_bind_apply, get_bind_apply, demand_bind_apply, if_pos ⟨id, there, rfl⟩]
  rfl

/-- Deleting disks that are all there, and different.

Proof: by induction on the disks. Deleting one leaves the others there. -/
theorem deleteLoop_apply {ids : List Nat} (distinct : ids.Nodup) {state : State}
    (there : ∀ id ∈ ids, id ∈ state.disks) :
    ∃ left, forEach deleteVd (ids.map decimal) state = .ok ⟨⟩ left ∧
      left.deleted.map Deletion.vd = state.deleted.map Deletion.vd ++ ids.map decimal := by
  induction ids generalizing state with
  | nil => exact ⟨state, rfl, by simp⟩
  | cons id rest inductionHypothesis =>
    obtain ⟨fresh, distinctRest⟩ := List.nodup_cons.mp distinct
    rw [List.map_cons, forEach_cons_apply, deleteVd_apply (there id List.mem_cons_self)]
    have still : ∀ other ∈ rest,
        other ∈ state.disks.filter fun other => decimal other ≠ decimal id := by
      intro other inRest
      have differs : other ≠ id := fun same => fresh (same ▸ inRest)
      simp only [List.mem_filter, decide_eq_true_eq]
      exact ⟨there other (List.mem_cons_of_mem id inRest),
        fun same => differs (decimal_injective same)⟩
    obtain ⟨left, ran, deleted⟩ := @inductionHypothesis distinctRest
      { state with
        disks := state.disks.filter fun other => decimal other ≠ decimal id
        deleted := state.deleted ++ [⟨decimal id, state.lastMade⟩] } still
    exact ⟨left, ran, by simp [deleted]⟩

/-- Whether there is a disk is seen from the listing. -/
theorem seenEmpty_demand_apply (state : State) :
    (seenEmpty >>= fun empty => demand empty deleteFailed : Script PUnit) state =
      if state.disks = [] then .ok ⟨⟩ state else .error deleteFailed state := by
  rw [seenEmpty, bind_assoc, get_bind_apply, pure_bind, demand]
  by_cases empty : state.disks = []
  · rw [if_pos ((contains_noDisk_iff _).mpr empty), if_pos empty]
    rfl
  · rw [if_neg fun shown => empty ((contains_noDisk_iff _).mp shown), if_neg empty]
    rfl

/-- A look at the adapter changes nothing. -/
theorem seenEmpty_keeps {Holds : State → Prop} :
    Keeps Holds (seenEmpty >>= fun empty => demand empty deleteFailed) := by
  intro state holds
  rw [leaves, seenEmpty_demand_apply]
  by_cases empty : state.disks = []
  · rw [if_pos empty]
    exact holds
  · rw [if_neg empty]
    exact holds

/-- A command to delete a disk is issued, whether there is such a disk or not. -/
theorem leaves_deleteVd_deleted (vd : Text) (state : State) :
    (leaves (deleteVd vd) state).deleted = state.deleted ++ [⟨vd, state.lastMade⟩] := by
  rw [deleteVd, leaves_modify_bind, leaves_get_bind, leaves_demand_bind]
  split <;> rfl

/-- A property of the commands so far is kept by one more with the property. -/
theorem deleteVd_keeps {Holds : Text → Prop} {vd : Text} (holds : Holds vd) :
    Keeps (fun state : State => ∀ deletion ∈ state.deleted, Holds deletion.vd) (deleteVd vd) := by
  intro state all deletion member
  rw [leaves_deleteVd_deleted] at member
  rcases List.mem_append.mp member with earlier | last
  · exact all deletion earlier
  · rw [List.mem_singleton.mp last]
    exact holds

/-- The disks that are deleted are the disks of the adapter exactly when each has an identifier of
one digit. -/
theorem deletesExactly_iff (adapter : Adapter) :
    DeletesExactly adapter ↔ ∀ id ∈ adapter.disks, id < 10 := by
  by_cases none : adapter.disks = []
  · have left : leaves testDelete (start adapter) = start adapter := by
      rw [testDelete, leaves_get_bind]
      dsimp only [start]
      rw [if_pos ((contains_noDisk_iff _).mpr none)]
      rfl
    rw [DeletesExactly, left]
    simp [start, none]
  have ran : leaves testDelete (start adapter) =
      leaves (forEach deleteVd (vdList (infoVd adapter.disks)) >>= fun _ =>
        seenEmpty >>= fun empty => demand empty deleteFailed) (start adapter) := by
    rw [testDelete, leaves_get_bind]
    dsimp only [start]
    rw [if_neg fun shown => none ((contains_noDisk_iff _).mp shown)]
  rw [DeletesExactly, ran, vdList_infoVd none]
  constructor
  · intro exact_disks id there
    have digits : Keeps (fun state : State => ∀ deletion ∈ state.deleted, deletion.vd.length = 1)
        (forEach deleteVd ((adapter.disks.filterMap fun id => (decimal id).getLast?).map
          fun c => [c]) >>= fun _ => seenEmpty >>= fun empty => demand empty deleteFailed) := by
      refine Keeps.bind (Keeps.forEach fun vd isVd => ?_) fun _ => seenEmpty_keeps
      obtain ⟨c, _, rfl⟩ := List.mem_map.mp isVd
      exact @deleteVd_keeps (fun vd => vd.length = 1) [c] rfl
    have deleted := exact_disks.symm.subset (List.mem_map_of_mem there)
    obtain ⟨deletion, issued, names⟩ := List.mem_map.mp deleted
    rw [← length_decimal_eq_one_iff, ← names]
    exact digits (start adapter) (by simp [start]) deletion issued
  · intro small
    have read : (adapter.disks.filterMap fun id => (decimal id).getLast?).map (fun c => [c]) =
        adapter.disks.map decimal := by
      rw [List.map_filterMap, ← List.filterMap_eq_map]
      refine List.filterMap_congr fun id there => ?_
      obtain ⟨c, digit⟩ := List.length_eq_one_iff.mp
        ((length_decimal_eq_one_iff id).mpr (small id there))
      simp [digit]
    obtain ⟨left, loop, deleted⟩ :=
      @deleteLoop_apply _ adapter.distinct (start adapter) fun _ there => there
    rw [read, leaves_bind, loop]
    have kept : (leaves (seenEmpty >>= fun empty => demand empty deleteFailed) left).deleted =
        left.deleted := @seenEmpty_keeps (fun state => state.deleted = left.deleted) left rfl
    dsimp only
    rw [kept, deleted]
    simp [start]

/-! ### Creating disks -/

/-- After a disk was created. -/
def State.made (state : State) (creation : Creation) : State :=
  { state with
    disks := state.disks ++ [lowestFree state.disks]
    lastMade := some (lowestFree state.disks)
    created := state.created ++ [creation] }

/-- Without the disk 0 the next disk is the disk 0. -/
theorem lowestFree_of_free {disks : List Nat} (free : 0 ∉ disks) : lowestFree disks = 0 := by
  rw [lowestFree, List.range_succ_eq_map, List.find?_cons_of_pos (by simpa using free)]
  rfl

/-- The part of the body of the loop that follows the look at the new disk. -/
def finish (answers : Answers) : Script PUnit := do
  deleteCreated answers
  let empty ← seenEmpty
  demand empty deleteFailed

/-- When a disk is created and shown, it is deleted. -/
theorem testLevel_apply {answers : String → Answers} {pdIds drives : List Text} {level : String}
    (enough : pdList pdIds level = some drives)
    (answered : (answers level).create ∧ (answers level).info ∧ (answers level).get)
    (state : State) :
    testLevel answers pdIds level state =
      finish (answers level)
        (state.made ⟨level, [','].intercalate drives, "MyRaid_" ++ level⟩) := by
  obtain ⟨created, shown, got⟩ := answered
  rw [testLevel, enough]
  dsimp only
  rw [createVd, bind_assoc, modify_bind_apply]
  rw [bind_assoc, demand_bind_apply, if_pos created, modify_bind_apply]
  rw [demand_bind_apply, if_pos shown, demand_bind_apply, if_pos got]
  rfl

/-- When a disk is not created, or not shown, nothing is deleted. -/
theorem testLevel_stops {answers : String → Answers} {pdIds drives : List Text} {level : String}
    (enough : pdList pdIds level = some drives)
    (failed : ¬((answers level).create ∧ (answers level).info ∧ (answers level).get))
    (state : State) :
    ∃ left, testLevel answers pdIds level state = .error .command left ∧
      left.deleted = state.deleted := by
  rw [testLevel, enough]
  dsimp only
  rw [createVd, bind_assoc, modify_bind_apply]
  rw [bind_assoc, demand_bind_apply]
  by_cases created : (answers level).create
  · rw [if_pos created, modify_bind_apply]
    rw [demand_bind_apply]
    by_cases shown : (answers level).info
    · rw [if_pos shown, demand_bind_apply, if_neg fun got => failed ⟨created, shown, got⟩]
      exact ⟨_, rfl, rfl⟩
    · rw [if_neg shown]
      exact ⟨_, rfl, rfl⟩
  · rw [if_neg created]
    exact ⟨_, rfl, rfl⟩

/-- The command after a creation names the disk 0. -/
theorem leaves_finish_deleted (answers : Answers) (state : State) :
    (leaves (finish answers) state).deleted = state.deleted ++ [⟨['0'], state.lastMade⟩] := by
  have issued : (leaves (deleteCreated answers) state).deleted =
      state.deleted ++ [⟨['0'], state.lastMade⟩] := by
    rw [deleteCreated]
    split
    · exact leaves_deleteVd_deleted ['0'] state
    · rfl
  exact @Keeps.after _ _ _ _ (fun left => left.deleted = state.deleted ++ [⟨['0'], state.lastMade⟩])
    _ _ state (fun _ => seenEmpty_keeps) issued

/-- The loop goes on without disks only. -/
theorem finish_ok {answers : Answers} {state after : State}
    (ran : finish answers state = .ok ⟨⟩ after) : after.disks = [] := by
  rw [finish, bind_apply] at ran
  cases deletion : deleteCreated answers state with
  | error ending left =>
    rw [deletion] at ran
    cases ran
  | ok value left =>
    rw [deletion] at ran
    dsimp only at ran
    rw [seenEmpty_demand_apply] at ran
    by_cases empty : left.disks = []
    · rw [if_pos empty] at ran
      cases ran
      exact empty
    · rw [if_neg empty] at ran
      cases ran

/-- Commands are not taken back. -/
theorem testLevel_keeps (answers : String → Answers) (pdIds : List Text) (level : String)
    (deletion : Deletion) :
    Keeps (fun state : State => deletion ∈ state.deleted) (testLevel answers pdIds level) := by
  intro state issued
  cases enough : pdList pdIds level with
  | none =>
    rw [testLevel, enough]
    exact issued
  | some drives =>
    by_cases answered : (answers level).create ∧ (answers level).info ∧ (answers level).get
    · rw [leaves, testLevel_apply enough answered, ← leaves, leaves_finish_deleted]
      exact List.mem_append_left _ issued
    · obtain ⟨left, ran, same⟩ := testLevel_stops enough answered state
      rw [leaves, ran]
      dsimp only
      rwa [same]

/-- Without a disk 0 at first, all commands are for a disk 0 that was just created. -/
def Clean (state : State) : Prop :=
  ∀ deletion ∈ state.deleted, deletion = ⟨['0'], some 0⟩

/-- In front of each level there is no disk 0 either. -/
structure Ready (state : State) : Prop where
  clean : Clean state
  free : 0 ∉ state.disks

/-- The body of the loop issues a command for the disk 0 when that was just created. -/
theorem testLevel_clean (answers : String → Answers) (pdIds : List Text) (level : String)
    {state : State} (ready : Ready state) :
    Clean (leaves (testLevel answers pdIds level) state) := by
  cases enough : pdList pdIds level with
  | none =>
    rw [testLevel, enough]
    exact ready.clean
  | some drives =>
    by_cases answered : (answers level).create ∧ (answers level).info ∧ (answers level).get
    · intro deletion issued
      rw [leaves, testLevel_apply enough answered, ← leaves, leaves_finish_deleted] at issued
      rcases List.mem_append.mp issued with earlier | last
      · exact ready.clean deletion earlier
      · rw [List.mem_singleton.mp last, State.made, lowestFree_of_free ready.free]
    · obtain ⟨left, ran, same⟩ := testLevel_stops enough answered state
      rw [leaves, ran]
      dsimp only
      rw [Clean, same]
      exact ready.clean

/-- When the loop goes on, it is ready for the next level. -/
theorem testLevel_ready {answers : String → Answers} {pdIds : List Text} {level : String}
    {state after : State} (ready : Ready state)
    (ran : testLevel answers pdIds level state = .ok ⟨⟩ after) : Ready after := by
  have clean := testLevel_clean answers pdIds level ready
  rw [leaves, ran] at clean
  refine ⟨clean, ?_⟩
  cases enough : pdList pdIds level with
  | none =>
    rw [testLevel, enough] at ran
    cases ran
    exact ready.free
  | some drives =>
    by_cases answered : (answers level).create ∧ (answers level).info ∧ (answers level).get
    · rw [testLevel_apply enough answered] at ran
      rw [finish_ok ran]
      exact List.not_mem_nil
    · obtain ⟨left, stopped, _⟩ := testLevel_stops enough answered state
      rw [stopped] at ran
      cases ran

/-- The disks that `test_create` deletes are the ones it created exactly when there was no disk 0,
or nothing is deleted at all. -/
theorem deletesMade_iff (answers : String → Answers) (pdIds : List Text) (adapter : Adapter) :
    DeletesMade answers pdIds adapter ↔
      0 ∉ adapter.disks ∨
        ¬((answers "0").create ∧ (answers "0").info ∧ (answers "0").get) := by
  have all : pdList pdIds "0" = some pdIds := rfl
  have zero : decimal 0 = ['0'] := by decide
  constructor
  · intro made
    by_contra! ⟨there, answered⟩
    have first : ⟨['0'], some (lowestFree adapter.disks)⟩ ∈
        (leaves (testLevel answers pdIds "0") (start adapter)).deleted := by
      rw [leaves, testLevel_apply all answered, ← leaves, leaves_finish_deleted]
      exact List.mem_append_right _ List.mem_cons_self
    have issued : ⟨['0'], some (lowestFree adapter.disks)⟩ ∈
        (leaves (testCreate answers pdIds) (start adapter)).deleted :=
      Keeps.after (fun _ => Keeps.forEach fun level _ => testLevel_keeps answers pdIds level _)
        first
    exact (made _ issued).2 0 there zero.symm
  · rintro (free | failed) deletion issued
    · have clean : Clean (leaves (testCreate answers pdIds) (start adapter)) :=
        leaves_forEach (fun _ ready => ready.clean)
          (fun level _ ready => testLevel_clean answers pdIds level ready)
          (fun _ _ _ ready ran => testLevel_ready ready ran) _ ⟨by simp [Clean, start], free⟩
      rw [clean deletion issued]
      exact ⟨⟨0, rfl, zero.symm⟩, fun id there same =>
        free (decimal_injective (zero.trans same) ▸ there)⟩
    · obtain ⟨left, ran, same⟩ := testLevel_stops all failed (start adapter)
      rw [testCreate, leaves, forEach_cons_apply, ran] at issued
      dsimp only at issued
      rw [same] at issued
      cases issued

/-- The tests delete the disks they mean to delete exactly when every disk has an identifier of one
digit, and none has the identifier 0 or nothing is deleted after a creation.

Every listing and creation may fail, and the drives are any. The controller gives a new disk the
lowest identifier that is free, and deletes the disk that it is asked to delete. -/
theorem deletes_meant_iff (answers : String → Answers) (pdIds : List Text) (adapter : Adapter) :
    (DeletesExactly adapter ↔ ∀ id ∈ adapter.disks, id < 10) ∧
      (DeletesMade answers pdIds adapter ↔
        0 ∉ adapter.disks ∨
          ¬((answers "0").create ∧ (answers "0").info ∧ (answers "0").get)) :=
  ⟨deletesExactly_iff adapter, deletesMade_iff answers pdIds adapter⟩

/-- For a disk with the identifier 12 the disk 2 is deleted, and a disk with the identifier 0 is
deleted in the place of the one that was created. -/
theorem other_disks_deleted :
    (∃ adapter : Adapter, ¬DeletesExactly adapter) ∧
      ∃ (answers : String → Answers) (pdIds : List Text) (adapter : Adapter),
        ¬DeletesMade answers pdIds adapter := by
  constructor
  · refine ⟨⟨[12], by decide⟩, fun exact_disks => ?_⟩
    have small := (deletesExactly_iff _).mp exact_disks 12 (by decide)
    omega
  · refine ⟨fun _ => ⟨true, true, true, true⟩, [['1']], ⟨[0], by decide⟩, fun made => ?_⟩
    rcases (deletesMade_iff _ _ _).mp made with free | failed
    · exact free (by decide)
    · exact failed ⟨rfl, rfl, rfl⟩

end AvocadoMisc.Mvcli.VirtualDisks
