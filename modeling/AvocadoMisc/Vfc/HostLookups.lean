import Mathlib.Data.List.Nodup
import AvocadoMisc.Library.Parts
import AvocadoMisc.Library.Scripts

/-!
# Looking up the hosts of virtual FC adapters

`virtual_fc.py` asks a VIOS for its adapters with `lsmap`, for one field at a time. Each adapter
`vfchost<k>` has a line with its name and the value of the field. `get_fcs_name`, `get_vfc_client`
and `get_vfchost_status` take the value from the first line in which the name is found.

The name of an adapter is found in the line of another one whose number begins with the same
digits. When the other one comes first its value is returned. The records of `setUp` then have the
port and the client of another adapter, and `vfchost_map_unmap` maps the adapter to a port that it
was not on.
-/

namespace AvocadoMisc.Vfc.HostLookups

open Library.Parts Library.Scripts Library.Text

/-- A character string. -/
abbrev Text := List Char

/-! ### What a VIOS prints -/

/-- The fields that are asked for. -/
inductive Field where
  | clntName
  | fc
  | vfcClient
  | status
  deriving DecidableEq

/-- An adapter: its number and its value of each field, none of which ends a field or a line. -/
structure Adapter where
  number : Nat
  value : Field → Text
  plain : ∀ field, ∀ c ∈ value field, c ≠ ':' ∧ charBreak c = false

/-- What the name of an adapter begins with. -/
def vfchostWord : Text := "vfchost".toList

/-- The name of an adapter. -/
def vfchost (number : Nat) : Text := vfchostWord ++ decimal number

/-- The line of an adapter. -/
def Adapter.line (adapter : Adapter) (field : Field) : Text :=
  vfchost adapter.number ++ ':' :: adapter.value field

/-- A VIOS with its adapters, which are listed in any order. -/
structure Vios where
  adapters : List Adapter
  oneEach : (adapters.map Adapter.number).Nodup
  listed : Field → List Adapter
  listed_perm : ∀ field, (listed field).Perm adapters

/-- The output of `lsmap`. -/
def Vios.stdout (vios : Vios) (field : Field) : Text :=
  (vios.listed field).flatMap fun adapter => adapter.line field ++ ['\n']

/-! ### The look-ups -/

/-- The value in the first line that has the name in it. -/
def lookUp (vios : Vios) (field : Field) (vfchost : Text) : Text :=
  match (charLines (vios.stdout field)).find? (contains vfchost) with
  | some line => (line.splitOn ':').getLastD []
  | none => []

/-- `get_fcs_name`. -/
def getFcsName (vios : Vios) (vfchost : Text) : Text := lookUp vios .fc vfchost

/-- `get_vfc_client`. -/
def getVfcClient (vios : Vios) (vfchost : Text) : Text := lookUp vios .vfcClient vfchost

/-- `get_vfchost_status`. -/
def getVfchostStatus (vios : Vios) (vfchost : Text) : Text := lookUp vios .status vfchost

/-- `get_vfchost`. -/
def getVfchost (vios : Vios) (lpar : Text) : List Text :=
  ((charLines (vios.stdout .clntName)).filter (contains lpar)).map fun line =>
    (line.splitOn ':').headD []

/-- The VIOSes by name, each with its adapters, and the lines of `ls -l /sys/block/`. -/
structure Machine where
  vios : Text → Vios
  blockLines : List Text

/-- The parameters that the records depend on. -/
structure Params where
  vioses : Text
  lpar : Text
  skipHost : Option Text

/-- A record of an adapter. -/
structure VfcDic where
  vios : Text
  vfchost : Text
  fcs : Text
  vfcClient : Text
  paths : List Text
  deriving DecidableEq

/-- `get_paths`. -/
def getPaths (machine : Machine) (vfcClient : Text) : List Text :=
  (machine.blockLines.filter (contains ('/' :: vfcClient ++ ['/']))).map fun line =>
    (line.splitOn '/').getLastD []

/-- The record of an adapter. -/
def vfcDic (machine : Machine) (vios vfchost : Text) : VfcDic where
  vios := vios
  vfchost := vfchost
  fcs := getFcsName (machine.vios vios) vfchost
  vfcClient := getVfcClient (machine.vios vios) vfchost
  paths := getPaths machine (getVfcClient (machine.vios vios) vfchost)

/-- `dic_list`, as `setUp` makes it. -/
def dicList (machine : Machine) (params : Params) : List VfcDic :=
  (params.vioses.splitOn ' ').flatMap fun vios =>
    ((getVfchost (machine.vios vios) params.lpar).map (vfcDic machine vios)).filter fun dic =>
      some dic.vfcClient ≠ params.skipHost

/-! ### Mapping -/

/-- The port that each adapter of each VIOS is on. An adapter that is on none has the empty one. -/
abbrev Ports := Text → Text → Text

/-- The ports before the test. -/
def Machine.ports (machine : Machine) : Ports := fun vios name =>
  (((machine.vios vios).adapters.find? fun adapter => vfchost adapter.number = name).map
    fun adapter => adapter.value .fc).getD []

/-- A `vfcmap` command. Without a port, the adapter is unmapped. -/
structure Command where
  vios : Text
  vadapter : Text
  fcp : Text

/-- What the VIOS does. -/
def Command.carriedOut (command : Command) (ports : Ports) : Ports :=
  Function.update ports command.vios
    (Function.update (ports command.vios) command.vadapter command.fcp)

/-- The two operations. -/
inductive Operation where
  | unmap
  | map

/-- An operation as it is written. -/
def Operation.text : Operation → Text
  | .unmap => "unmap".toList
  | .map => "map".toList

/-- The command of an operation. -/
def VfcDic.command (dic : VfcDic) : Operation → Command
  | .map => ⟨dic.vios, dic.vfchost, dic.fcs⟩
  | .unmap => ⟨dic.vios, dic.vfchost, []⟩

/-- `vfchost_map_unmap`, up to the checks of states and paths that follow, which only write down
what they find. -/
def vfchostMapUnmap (exitStatus : Command → Nat) (operation : Operation) (dic : VfcDic) :
    EStateM Text Ports PUnit := do
  demand (exitStatus (dic.command operation) = 0)
    ("vfchost ".toList ++ operation.text ++ " operation failed".toList)
  modify (dic.command operation).carriedOut

/-- One record in a round of `test_unmap_map`. -/
def unmapMap (exitStatus : Command → Nat) (dic : VfcDic) : EStateM Text Ports PUnit := do
  vfchostMapUnmap exitStatus .unmap dic
  vfchostMapUnmap exitStatus .map dic

/-- The rounds of `test_unmap_map`. -/
def testUnmapMap (exitStatus : Command → Nat) (count : Nat) (dics : List VfcDic) :
    EStateM Text Ports PUnit :=
  forEach (unmapMap exitStatus) (List.replicate count dics).flatten

/-! ### What is asked of the look-ups -/

/-- The value of the adapter is returned, and the empty text only when it is not listed. -/
def LooksUp (vios : Vios) (field : Field) (number : Nat) : Prop :=
  (∀ adapter ∈ vios.adapters, adapter.number = number →
    lookUp vios field (vfchost number) = adapter.value field ∧
      lookUp vios field (vfchost number) ≠ []) ∧
  ((∀ adapter ∈ vios.adapters, adapter.number ≠ number) →
    lookUp vios field (vfchost number) = [])

/-- A record has the port and the client of its own adapter. -/
def Paired (machine : Machine) (dic : VfcDic) : Prop :=
  ∃ adapter ∈ (machine.vios dic.vios).adapters, vfchost adapter.number = dic.vfchost ∧
    dic.fcs = adapter.value .fc ∧ dic.vfcClient = adapter.value .vfcClient

/-- When both operations succeed the adapter is on the port that it was on. -/
def Remaps (machine : Machine) (dic : VfcDic) : Prop :=
  ∀ exitStatus after, unmapMap exitStatus dic machine.ports = .ok ⟨⟩ after →
    after dic.vios dic.vfchost = machine.ports dic.vios dic.vfchost

/-- The number of an adapter begins with the digits of another one, or its value has the name of
the other one in it. -/
def Adapter.Answers (adapter : Adapter) (field : Field) (number : Nat) : Prop :=
  decimal number <+: decimal adapter.number ∨ vfchost number <:+: adapter.value field

instance (adapter : Adapter) (field : Field) (number : Nat) :
    Decidable (adapter.Answers field number) :=
  inferInstanceAs (Decidable (_ ∨ _))

/-- The first adapter on the list that answers. -/
def Vios.first (vios : Vios) (field : Field) (number : Nat) : Option Adapter :=
  (vios.listed field).find? fun adapter => adapter.Answers field number

/-- The first one that answers has the value of the adapter. -/
def Vios.Clear (vios : Vios) (field : Field) (adapter : Adapter) : Prop :=
  ∀ first ∈ vios.first field adapter.number, first.value field = adapter.value field

/-- The adapters that get a record: the partition is named in their line, and the first client that
answers is not the one to be skipped. -/
def Machine.Recorded (machine : Machine) (params : Params) (vios : Text) (adapter : Adapter) :
    Prop :=
  adapter ∈ (machine.vios vios).adapters ∧ params.lpar <:+: adapter.line .clntName ∧
    ∀ first ∈ (machine.vios vios).first .vfcClient adapter.number,
      some (first.value .vfcClient) ≠ params.skipHost

/-! ### The lines -/

/-- There is no colon in a name. -/
theorem colon_not_mem_vfchost (number : Nat) : ':' ∉ vfchost number := by
  rw [vfchost, List.mem_append]
  rintro (inWord | inNumber)
  · exact absurd inWord (by decide)
  · exact absurd (decimal_digits number ':' inNumber) (by decide)

/-- One name is in another one exactly when the number begins with the digits. -/
theorem vfchost_infix_iff (number other : Nat) :
    vfchost number <:+: vfchost other ↔ decimal number <+: decimal other := by
  -- The letter that a name begins with comes only once.
  have once : 'v' ∉ vfchostWord.tail ++ decimal other := by
    rw [List.mem_append]
    rintro (inWord | inNumber)
    · exact absurd inWord (by decide)
    · exact absurd (decimal_digits other 'v' inNumber) (by decide)
  have first : vfchost number <:+: vfchost other ↔ vfchost number <+: vfchost other :=
    infix_cons_once_iff once
  rw [first, vfchost, vfchost, List.prefix_append_right_inj]

/-- The name of an adapter is in the lines of those that answer. -/
theorem infix_line_iff (adapter : Adapter) (field : Field) (number : Nat) :
    vfchost number <:+: adapter.line field ↔ adapter.Answers field number := by
  rw [Adapter.line, infix_append_cons_iff (colon_not_mem_vfchost number), vfchost_infix_iff,
    Adapter.Answers]

/-- The lines that are printed. -/
theorem charLines_stdout (vios : Vios) (field : Field) :
    charLines (vios.stdout field) =
      (vios.listed field).map fun adapter => adapter.line field := by
  have breaks : charBreak '\r' = true := by decide
  have ends : charBreak '\n' = true := by decide
  have different : '\r' ≠ '\n' := by decide
  have unbroken : ∀ line ∈ (vios.listed field).map fun adapter => adapter.line field,
      ∀ c ∈ line, charBreak c = false := by
    intro line isLine c member
    obtain ⟨adapter, _, rfl⟩ := List.mem_map.mp isLine
    rw [Adapter.line, vfchost, List.mem_append, List.mem_append, List.mem_cons] at member
    rcases member with (inWord | inNumber) | rfl | inValue
    · exact none_of_check (by decide) c inWord
    · exact charBreak_of_solid (charSpace_digit (decimal_digits adapter.number c inNumber))
    · decide
    · exact (adapter.plain field c inValue).2
  have split := lines_unlines breaks ends different unbroken
  rwa [List.flatMap_map] at split

/-- What stands before the first colon and after the last one. -/
theorem splitOn_line (adapter : Adapter) (field : Field) :
    (adapter.line field).splitOn ':' = [vfchost adapter.number, adapter.value field] := by
  have noColon : ':' ∉ adapter.value field := fun member => (adapter.plain field ':' member).1 rfl
  rw [Adapter.line, List.splitOn_append_cons_self_of_not_mem (colon_not_mem_vfchost _),
    List.splitOn_eq_singleton noColon]

/-- A look-up returns the value of the first adapter that answers. -/
theorem lookUp_eq (vios : Vios) (field : Field) (number : Nat) :
    lookUp vios field (vfchost number) =
      ((vios.first field number).map fun adapter => adapter.value field).getD [] := by
  have answering : (fun adapter : Adapter => contains (vfchost number) (adapter.line field)) =
      fun adapter => decide (adapter.Answers field number) := by
    funext adapter
    exact decide_eq_decide.mpr (infix_line_iff adapter field number)
  rw [lookUp, charLines_stdout, List.find?_map, Function.comp_def, answering, Vios.first]
  cases (vios.listed field).find? fun adapter => decide (adapter.Answers field number) with
  | none => rfl
  | some adapter =>
    simp only [Option.map_some, splitOn_line, Option.getD_some]
    rfl

/-- An adapter answers for itself. -/
theorem exists_first (vios : Vios) (field : Field) {adapter : Adapter}
    (isAdapter : adapter ∈ vios.adapters) :
    ∃ first, vios.first field adapter.number = some first := by
  have inList : adapter ∈ vios.listed field := (vios.listed_perm field).mem_iff.mpr isAdapter
  have found : (vios.first field adapter.number).isSome = true := by
    rw [Vios.first, List.find?_isSome]
    exact ⟨adapter, inList, decide_eq_true (.inl (List.prefix_refl _))⟩
  exact Option.isSome_iff_exists.mp found

/-- The look-up of an adapter returns its value exactly when the first one that answers has it. -/
theorem lookUp_eq_value_iff (vios : Vios) (field : Field) {adapter : Adapter}
    (isAdapter : adapter ∈ vios.adapters) :
    lookUp vios field (vfchost adapter.number) = adapter.value field ↔
      vios.Clear field adapter := by
  obtain ⟨first, isFirst⟩ := exists_first vios field isAdapter
  rw [lookUp_eq, Vios.Clear, isFirst]
  simp

/-- A look-up is right exactly when the adapter has a value, which the first one that answers has,
too, or there is no adapter, and no value of one that answers. -/
theorem looksUp_iff (vios : Vios) (field : Field) (number : Nat) :
    LooksUp vios field number ↔
      (∀ adapter ∈ vios.adapters, adapter.number = number →
        adapter.value field ≠ [] ∧ vios.Clear field adapter) ∧
      ((∀ adapter ∈ vios.adapters, adapter.number ≠ number) →
        ∀ first ∈ vios.first field number, first.value field = []) := by
  have own : ∀ adapter ∈ vios.adapters, adapter.number = number →
      ((lookUp vios field (vfchost number) = adapter.value field ∧
        lookUp vios field (vfchost number) ≠ []) ↔
      (adapter.value field ≠ [] ∧ vios.Clear field adapter)) := by
    rintro adapter isAdapter rfl
    rw [← lookUp_eq_value_iff vios field isAdapter, and_comm]
    apply and_congr_left
    intro same
    rw [same]
  have other : lookUp vios field (vfchost number) = [] ↔
      ∀ first ∈ vios.first field number, first.value field = [] := by
    rw [lookUp_eq]
    cases vios.first field number <;> simp
  rw [LooksUp, other]
  apply and_congr_left
  intro _
  exact forall₂_congr fun adapter isAdapter => forall_congr' fun named =>
    own adapter isAdapter named

/-! ### The records -/

/-- Different adapters have different names. -/
theorem vfchost_injective {number other : Nat} (same : vfchost number = vfchost other) :
    number = other :=
  decimal_injective (List.append_cancel_left same)

/-- An adapter is the only one with its name. -/
theorem Vios.eq_of_vfchost (vios : Vios) {adapter other : Adapter}
    (isAdapter : adapter ∈ vios.adapters) (isOther : other ∈ vios.adapters)
    (same : vfchost adapter.number = vfchost other.number) : adapter = other :=
  List.inj_on_of_nodup_map vios.oneEach isAdapter isOther (vfchost_injective same)

/-- The adapters of a partition are named in their lines. -/
theorem getVfchost_eq (vios : Vios) (lpar : Text) :
    getVfchost vios lpar = ((vios.listed .clntName).filter fun adapter =>
      contains lpar (adapter.line .clntName)).map fun adapter => vfchost adapter.number := by
  rw [getVfchost, charLines_stdout, List.filter_map, List.map_map]
  apply List.map_congr_left
  intro adapter _
  rw [Function.comp_apply, splitOn_line]
  rfl

/-- A record is kept unless the first client that answers is the one to be skipped. -/
theorem client_ne_iff (machine : Machine) (vios : Text) {adapter : Adapter}
    (isAdapter : adapter ∈ (machine.vios vios).adapters) (skipHost : Option Text) :
    some (vfcDic machine vios (vfchost adapter.number)).vfcClient ≠ skipHost ↔
      ∀ first ∈ (machine.vios vios).first .vfcClient adapter.number,
        some (first.value .vfcClient) ≠ skipHost := by
  obtain ⟨first, isFirst⟩ := exists_first (machine.vios vios) .vfcClient isAdapter
  have client : (vfcDic machine vios (vfchost adapter.number)).vfcClient =
      first.value .vfcClient := by
    change lookUp _ _ _ = _
    rw [lookUp_eq, isFirst]
    rfl
  rw [client, isFirst]
  simp

/-- The adapters that get a record. -/
theorem mem_dicList_iff (machine : Machine) (params : Params) (dic : VfcDic) :
    dic ∈ dicList machine params ↔ ∃ vios ∈ params.vioses.splitOn ' ', ∃ adapter,
      machine.Recorded params vios adapter ∧
        dic = vfcDic machine vios (vfchost adapter.number) := by
  simp only [dicList, List.mem_flatMap, List.mem_filter, List.mem_map, getVfchost_eq,
    decide_eq_true_iff, contains]
  apply exists_congr
  intro vios
  apply and_congr_right
  intro _
  constructor
  · rintro ⟨⟨_, ⟨adapter, ⟨isListed, ofPartition⟩, rfl⟩, rfl⟩, shown⟩
    have isAdapter := ((machine.vios vios).listed_perm _).mem_iff.mp isListed
    exact ⟨adapter, ⟨isAdapter, ofPartition,
      (client_ne_iff machine vios isAdapter _).mp shown⟩, rfl⟩
  · rintro ⟨adapter, ⟨isAdapter, ofPartition, shown⟩, rfl⟩
    have isListed := ((machine.vios vios).listed_perm .clntName).mem_iff.mpr isAdapter
    exact ⟨⟨_, ⟨adapter, ⟨isListed, ofPartition⟩, rfl⟩, rfl⟩,
      (client_ne_iff machine vios isAdapter _).mpr shown⟩

/-- A record is about its own adapter exactly when the first ones that answer have its port and its
client. -/
theorem paired_iff (machine : Machine) (vios : Text) {adapter : Adapter}
    (isAdapter : adapter ∈ (machine.vios vios).adapters) :
    Paired machine (vfcDic machine vios (vfchost adapter.number)) ↔
      (machine.vios vios).Clear .fc adapter ∧ (machine.vios vios).Clear .vfcClient adapter := by
  rw [← lookUp_eq_value_iff _ _ isAdapter, ← lookUp_eq_value_iff _ _ isAdapter]
  constructor
  · rintro ⟨other, isOther, named, port, client⟩
    obtain rfl := (machine.vios vios).eq_of_vfchost isOther isAdapter named
    exact ⟨port, client⟩
  · rintro ⟨port, client⟩
    exact ⟨adapter, isAdapter, rfl, port, client⟩

/-- The port of an adapter before the test is its own. -/
theorem ports_vfchost (machine : Machine) (vios : Text) {adapter : Adapter}
    (isAdapter : adapter ∈ (machine.vios vios).adapters) :
    machine.ports vios (vfchost adapter.number) = adapter.value .fc := by
  have found : ((machine.vios vios).adapters.find? fun other =>
      decide (vfchost other.number = vfchost adapter.number)) = some adapter := by
    cases search : (machine.vios vios).adapters.find? fun other =>
        decide (vfchost other.number = vfchost adapter.number) with
    | none =>
      have missed := List.find?_eq_none.mp search adapter isAdapter
      simp at missed
    | some other =>
      have named : vfchost other.number = vfchost adapter.number := by
        simpa using List.find?_some search
      rw [(machine.vios vios).eq_of_vfchost (List.mem_of_find?_eq_some search) isAdapter named]
  rw [Machine.ports, found]
  rfl

/-- What the two operations on an adapter do: it is on the port of the record, and nothing else is
changed. -/
theorem unmapMap_ok {exitStatus : Command → Nat} {dic : VfcDic} {ports after : Ports}
    (ran : unmapMap exitStatus dic ports = .ok ⟨⟩ after) :
    after = (dic.command .map).carriedOut ports := by
  rw [unmapMap, bind_apply, vfchostMapUnmap, demand_bind_apply] at ran
  by_cases unmapped : exitStatus (dic.command .unmap) = 0
  · rw [if_pos unmapped, modify_apply] at ran
    dsimp only at ran
    rw [vfchostMapUnmap, demand_bind_apply] at ran
    by_cases mapped : exitStatus (dic.command .map) = 0
    · rw [if_pos mapped, modify_apply] at ran
      obtain rfl : _ = after := by simpa using ran
      simp [Command.carriedOut, VfcDic.command]
    · rw [if_neg mapped] at ran
      cases ran
  · rw [if_neg unmapped] at ran
    cases ran

/-- When every command succeeds, both operations run. -/
theorem unmapMap_accepted (dic : VfcDic) (ports : Ports) :
    unmapMap (fun _ => 0) dic ports =
      .ok ⟨⟩ ((dic.command .map).carriedOut ((dic.command .unmap).carriedOut ports)) :=
  rfl

/-- An adapter is mapped to its own port exactly when the first one that answers has it. -/
theorem remaps_iff (machine : Machine) (vios : Text) {adapter : Adapter}
    (isAdapter : adapter ∈ (machine.vios vios).adapters) :
    Remaps machine (vfcDic machine vios (vfchost adapter.number)) ↔
      (machine.vios vios).Clear .fc adapter := by
  have port (ports : Ports) : ((vfcDic machine vios (vfchost adapter.number)).command
      .map).carriedOut ports vios (vfchost adapter.number) =
        lookUp (machine.vios vios) .fc (vfchost adapter.number) := by
    simp [Command.carriedOut, VfcDic.command, vfcDic, getFcsName]
  rw [← lookUp_eq_value_iff _ _ isAdapter, ← ports_vfchost machine vios isAdapter]
  constructor
  · intro remaps
    have back := remaps (fun _ => 0) _ (unmapMap_accepted _ machine.ports)
    exact (port _).symm.trans back
  · intro same exitStatus after ran
    rw [unmapMap_ok ran]
    exact (port machine.ports).trans same

/-- When the records are right, the test leaves every adapter on its port.

Proof: by induction on the records of all rounds. -/
theorem testUnmapMap_ports {machine : Machine} {exitStatus : Command → Nat} {count : Nat}
    {dics : List VfcDic} {after : Ports}
    (own : ∀ dic ∈ dics, dic.fcs = machine.ports dic.vios dic.vfchost)
    (ran : testUnmapMap exitStatus count dics machine.ports = .ok ⟨⟩ after) :
    after = machine.ports := by
  rw [testUnmapMap] at ran
  have ownAll : ∀ dic ∈ (List.replicate count dics).flatten,
      dic.fcs = machine.ports dic.vios dic.vfchost := by
    intro dic member
    obtain ⟨round, isRound, inRound⟩ := List.mem_flatten.mp member
    exact own dic (List.eq_of_mem_replicate isRound ▸ inRound)
  generalize (List.replicate count dics).flatten = rounds at ran ownAll
  induction rounds with
  | nil =>
    obtain rfl : machine.ports = after := by simpa [forEach, pure_apply] using ran
    rfl
  | cons dic rest inductionHypothesis =>
    rw [forEach_cons_apply] at ran
    cases first : unmapMap exitStatus dic machine.ports with
    | error message between =>
      rw [first] at ran
      cases ran
    | ok value between =>
      have unchanged : between = machine.ports := by
        rw [unmapMap_ok first, Command.carriedOut, VfcDic.command,
          ownAll dic List.mem_cons_self]
        simp
      rw [first, unchanged] at ran
      exact inductionHypothesis ran fun other member =>
        ownAll other (List.mem_cons_of_mem dic member)

/-! ### The verdict -/

/-- Each look-up is right exactly when the first adapter that answers has the value of the adapter
and that is not empty, or there is no such adapter and no value. The records are right, and their
adapters are mapped again to their ports, exactly when the first ones that answer have the values of
the adapters of the partition. -/
theorem lookUps_iff (machine : Machine) (params : Params) :
    (∀ vios field number, LooksUp (machine.vios vios) field number ↔
      (∀ adapter ∈ (machine.vios vios).adapters, adapter.number = number →
        adapter.value field ≠ [] ∧ (machine.vios vios).Clear field adapter) ∧
      ((∀ adapter ∈ (machine.vios vios).adapters, adapter.number ≠ number) →
        ∀ first ∈ (machine.vios vios).first field number, first.value field = [])) ∧
    ((∀ dic ∈ dicList machine params, Paired machine dic) ↔
      ∀ vios ∈ params.vioses.splitOn ' ', ∀ adapter, machine.Recorded params vios adapter →
        (machine.vios vios).Clear .fc adapter ∧ (machine.vios vios).Clear .vfcClient adapter) ∧
    ((∀ dic ∈ dicList machine params, Remaps machine dic) ↔
      ∀ vios ∈ params.vioses.splitOn ' ', ∀ adapter, machine.Recorded params vios adapter →
        (machine.vios vios).Clear .fc adapter) := by
  have records {Holds : VfcDic → Prop} {Clear : Text → Adapter → Prop}
      (each : ∀ vios adapter, adapter ∈ (machine.vios vios).adapters →
        (Holds (vfcDic machine vios (vfchost adapter.number)) ↔ Clear vios adapter)) :
      (∀ dic ∈ dicList machine params, Holds dic) ↔
        ∀ vios ∈ params.vioses.splitOn ' ', ∀ adapter, machine.Recorded params vios adapter →
          Clear vios adapter := by
    constructor
    · intro all vios isVios adapter recorded
      exact (each vios adapter recorded.1).mp
        (all _ ((mem_dicList_iff _ _ _).mpr ⟨vios, isVios, adapter, recorded, rfl⟩))
    · intro all dic member
      obtain ⟨vios, isVios, adapter, recorded, rfl⟩ := (mem_dicList_iff _ _ _).mp member
      exact (each vios adapter recorded.1).mpr (all vios isVios adapter recorded)
  refine ⟨fun vios field number => looksUp_iff _ field number, records ?_, records ?_⟩
  · exact fun vios adapter isAdapter => paired_iff machine vios isAdapter
  · exact fun vios adapter isAdapter => remaps_iff machine vios isAdapter

/-- Values for the fields. -/
def values (port client : String) : Field → Text
  | .clntName => "lp1".toList
  | .fc => port.toList
  | .vfcClient => client.toList
  | .status => "LOGGED_IN".toList

/-- The first adapter. -/
def firstAdapter : Adapter where
  number := 1
  value := values "fcs0" "host0"
  plain field := by cases field <;> exact forall_of_check (by decide)

/-- The tenth, whose number begins with the same digit. -/
def tenthAdapter : Adapter where
  number := 10
  value := values "fcs1" "host1"
  plain field := by cases field <;> exact forall_of_check (by decide)

/-- A VIOS that lists the tenth before the first. -/
def twoAdapters : Vios where
  adapters := [firstAdapter, tenthAdapter]
  oneEach := by decide
  listed := fun _ => [tenthAdapter, firstAdapter]
  listed_perm := fun _ => List.Perm.swap _ _ _

/-- The only VIOS of a machine. -/
def oneVios : Machine := ⟨fun _ => twoAdapters, []⟩

/-- Both adapters are of the partition. -/
def bothParams : Params := ⟨"vios1".toList, "lp1".toList, none⟩

/-- The first adapter gets the port of the tenth, and is mapped to it. -/
theorem tenth_answers :
    lookUp twoAdapters .fc (vfchost 1) = "fcs1".toList ∧
    ¬LooksUp twoAdapters .fc 1 ∧
    ¬(∀ dic ∈ dicList oneVios bothParams, Paired oneVios dic) ∧
    ¬(∀ dic ∈ dicList oneVios bothParams, Remaps oneVios dic) := by
  have found : lookUp twoAdapters .fc (vfchost 1) = "fcs1".toList := by decide +kernel
  have recorded : vfcDic oneVios "vios1".toList (vfchost 1) ∈ dicList oneVios bothParams := by
    decide +kernel
  refine ⟨found, fun looksUp => ?_, fun paired => ?_, fun remaps => ?_⟩
  · have own := (looksUp.1 firstAdapter List.mem_cons_self rfl).1
    rw [found] at own
    revert own
    decide
  · obtain ⟨adapter, isAdapter, named, port, _⟩ := paired _ recorded
    revert adapter
    decide +kernel
  · have back := remaps _ recorded (fun _ => 0) _ (unmapMap_accepted _ _)
    revert back
    decide +kernel

end AvocadoMisc.Vfc.HostLookups
