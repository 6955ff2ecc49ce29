import Mathlib.Data.List.Forall2
import Mathlib.Data.List.Nodup
import Mathlib.Logic.Function.Basic
import AvocadoMisc.Library.Scripts
import AvocadoMisc.Library.Text

/-!
# The domain walk of the IOMMU tests

`iommu_tests.py` switches the group of a device from each type of domain to each type after it in
the list, and back. The list ends in `auto`, which stands for the default domain of the device, and
the default domain is put in front before the walk. For each pivot there is a switch to every later
type and back to the pivot. After the last of them there is one more switch, to the next pivot.

Two loops and their indices decide where a walk begins and ends. A walk that begins in the first
domain goes on from pivot to pivot and ends in the last one, which is the default domain again.

The operations of `pci` succeed. The history has an entry for each of them, with what the device
and the list were like before it.
-/

namespace AvocadoMisc.Iommu.DomainWalk

open Library.Scripts Library.Text

/-! ### Devices -/

/-- A character string. -/
abbrev Text := List Char

/-- The name of a device, and that of a domain. -/
abbrev Device := Text

/-- The type that stands for the default domain. -/
def auto : Text := ['a', 'u', 't', 'o']

/-- The host: the default domain of each device, the parameter file of SEV-SNP, and what is new in
the kernel log after the test. -/
structure World where
  defaults : Device → Text
  sevSnp : Option Text
  dmesgDiff : Text

/-- The domain that a type stands for. -/
def World.resolve (world : World) (device : Device) (domain : Text) : Text :=
  if domain = auto then world.defaults device else domain

/-- An operation of `pci`. -/
inductive Operation where
  | unbind (driver : Text)
  | changeDomain (domain defDom : Text)
  | bind (driver : Text)
  | rescan
  deriving DecidableEq

/-- An operation on a device, with `self.domains`, the driver of the device and the domain of its
group before it. -/
structure Event where
  operation : Operation
  device : Device
  domains : List Text
  driver : Option Text
  domain : Text
  deriving DecidableEq

/-- The driver that each device is bound to, the domain of its group, `self.domains`, and what was
done. -/
structure State where
  driver : Device → Option Text
  domain : Device → Text
  domains : List Text
  history : List Event

/-- What stops a test. -/
inductive Ending where
  | cancelled (message : Text)
  | failed (message : Text)
  | raised
  deriving DecidableEq

/-- A part of a test. -/
abbrev Script := EStateM Ending State

/-! ### Operations -/

section Operations

variable (world : World) (device : Device)

/-- Note an operation. -/
def State.record (state : State) (operation : Operation) : State :=
  { state with
    history := state.history ++
      [⟨operation, device, state.domains, state.driver device, state.domain device⟩] }

/-- `pci.unbind`. -/
def unbind (driver : Text) (state : State) : State :=
  { state.record device (.unbind driver) with
    driver := Function.update state.driver device none }

/-- `pci.bind`. -/
def bind (driver : Text) (state : State) : State :=
  { state.record device (.bind driver) with
    driver := Function.update state.driver device (some driver) }

/-- `pci.change_domain`. -/
def changeDomain (domain defDom : Text) (state : State) : State :=
  { state.record device (.changeDomain domain defDom) with
    domain := Function.update state.domain device (world.resolve device domain) }

/-- `pci.rescan`. -/
def rescan (state : State) : State := state.record device .rescan

/-! ### The walk -/

/-- An entry of `self.domains`. The indices of the loops are in its range. -/
def State.at (state : State) (i : Nat) : Text := state.domains[i]?.getD []

/-- The body of the inner loop: to the other domain and back to the pivot, each time with the driver
unbound, and from the last one on to the next pivot. -/
def innerBody (rescans : Bool) (driver defDom pivotDom : Text) (j : Nat) (state : State)
    (i : Nat) : State :=
  let state := unbind device driver state
  let state := changeDomain world device (state.at i) defDom state
  let state := bind device driver state
  let state := if rescans then rescan device state else state
  let state := unbind device driver state
  let state := changeDomain world device pivotDom defDom state
  let state := if i = state.domains.length - 1 then
    changeDomain world device (state.at (j + 1)) defDom state else state
  bind device driver state

/-- The inner loop, over the indices that its counter takes. -/
def innerLoop (rescans : Bool) (driver defDom : Text) (state : State) (j : Nat) : State :=
  let pivotDom := state.at j
  (List.range' (j + 1) (state.domains.length - (j + 1))).foldl
    (innerBody world device rescans driver defDom pivotDom j) state

/-- The outer loop. -/
def walk (rescans : Bool) (driver defDom : Text) (state : State) : State :=
  (List.range (state.domains.length - 1)).foldl (innerLoop world device rescans driver defDom) state

end Operations

/-! ### The tests -/

section Tests

variable (world : World)

/-- The last word of a line that is read, if it has a word. -/
def lastWord (output : Text) : Option Text := (words charSpace output).getLast?

/-- `get_params`. The file is in the directory of the driver, so a device without a driver raises.
An empty domain fails the test, and one without a word raises. -/
def getParams (device : Device) : Script (Text × Text) := do
  let state ← get
  match state.driver device with
  | none => throw .raised
  | some driver =>
    demand (state.domain device ≠ [])
      (.failed ("Not able to get default domain of ".toList ++ device))
    match lastWord (state.domain device) with
    | none => throw .raised
    | some defDom => pure (driver, defDom)

/-- `self.domains.remove` and `self.domains.insert`. -/
def moveToFront (defDom : Text) : Script PUnit := do
  let state ← get
  demand (state.domains.contains defDom = true) .raised
  modify fun state => { state with domains := defDom :: state.domains.erase defDom }

/-- `check`. A device that is not in its default domain is moved there before the test fails. -/
def check (defDom : Text) (device : Device) (driver : Text) : Script PUnit := do
  let state ← get
  match lastWord (state.domain device) with
  | none => throw .raised
  | some out =>
    if out = defDom then pure ⟨⟩
    else do
      modify (unbind device driver)
      modify (changeDomain world device defDom defDom)
      modify (bind device driver)
      throw (.failed (device ++ " is not in default domain".toList))

/-- `verify_snp_host`. -/
def verifySnpHost : Bool :=
  match world.sevSnp with
  | none => false
  | some output => [['Y'], ['y'], ['1']].contains (strip charSpace output)

/-- The message on a host where domains are not changed. -/
def notOnSnp : Text := "IOMMU domain change is not supported on SNP hosts".toList

/-- The message about the kernel log. -/
def dmesgMessage : Text :=
  ("Running test logged warn,err,alert,crit logs in dmesg. " ++
    "Please refer whiteboard of the test result").toList

/-- `check_dmesg`. -/
def checkDmesg : Script PUnit := demand (world.dmesgDiff = []) (.failed dmesgMessage)

/-- A round with a device. -/
def round (rescans : Bool) (device : Device) (driver defDom : Text) : Script PUnit := do
  moveToFront defDom
  modify (walk world device rescans driver defDom)

/-- What is done to a device. -/
def forDevice (rescans : Bool) (count : Nat) (device : Device) : Script PUnit := do
  let (driver, defDom) ← getParams device
  forEach (fun _ => round world rescans device driver defDom) (List.range count)
  check world defDom device driver

/-- The three tests. They differ in the rescan and in how often they walk. -/
def testChangedomain (rescans : Bool) (count : Nat) (pciDevices : Text) : Script PUnit := do
  demand (verifySnpHost world = false) (.cancelled notOnSnp)
  forEach (forDevice world rescans count) (pciDevices.splitOn ' ')
  checkDmesg world

/-- `test_unbind_changedomain_bind`. -/
def testUnbindChangedomainBind (pciDevices : Text) : Script PUnit :=
  testChangedomain world false 1 pciDevices

/-- `test_unbind_changedomain_ntimes_bind`. -/
def testUnbindChangedomainNtimesBind (count : Nat) (pciDevices : Text) : Script PUnit :=
  testChangedomain world false count pciDevices

/-- `test_unbind_changedomain_bind_rescan`. -/
def testUnbindChangedomainBindRescan (pciDevices : Text) : Script PUnit :=
  testChangedomain world true 1 pciDevices

end Tests

/-! ### What is asked of a walk -/

/-- A device is unbound in one domain, switched to another type, and bound in that. -/
def switch (world : World) (device : Device) (driver : Text) (domains : List Text)
    (source target : Text) : List Event :=
  [⟨.unbind driver, device, domains, some driver, source⟩,
    ⟨.changeDomain target (world.defaults device), device, domains, none, source⟩,
    ⟨.bind driver, device, domains, none, world.resolve device target⟩]

/-- A walk of a device. The list is a permutation with the default domain in front and `auto` at its
end, domains are switched while the device is unbound, and the device is bound in each domain after
it was switched there from any domain that is listed before. -/
structure Walked (world : World) (initial : List Text) (device : Device) (driver : Text)
    (domains : List Text) (events : List Event) : Prop where
  perm : domains.Perm initial
  first : domains.head? = some (world.defaults device)
  last : domains.getLast? = some auto
  own : ∀ event ∈ events, event.device = device ∧ event.domains = domains
  unbound : ∀ event ∈ events, ∀ domain defDom,
    event.operation = .changeDomain domain defDom → event.driver = none
  switched : ∀ (i j : Nat) (source target : Text), i < j → domains[i]? = some source →
    domains[j]? = some target → switch world device driver domains source target <:+: events

/-- Distinct names, of which the last one is `auto`. -/
structure Names (domains : List Text) : Prop where
  distinct : domains.Nodup
  last : domains.getLast? = some auto
  words : ∀ domain ∈ domains, IsWord charSpace domain

/-- Devices walked, one after the other. The list stays a permutation that ends in `auto`, and all
devices are left as they were. -/
structure Walks (world : World) (walkers : List Device) (before after : State) : Prop where
  history : ∃ walks : List (List Event), after.history = before.history ++ walks.flatten ∧
    List.Forall₂ (fun device events => ∃ driver domains, before.driver device = some driver ∧
      Walked world before.domains device driver domains events) walkers walks
  names : Names after.domains
  perm : after.domains.Perm before.domains
  driver : after.driver = before.driver
  domain : after.domain = before.domain

/-- The devices are bound and in their default domains, which are among the names. -/
structure Ready (world : World) (devices : List Device) (state : State) : Prop where
  names : Names state.domains
  bound : ∀ device ∈ devices, state.driver device ≠ none
  home : ∀ device ∈ devices, state.domain device = world.defaults device
  listed : ∀ device ∈ devices, world.defaults device ∈ state.domains
  other : ∀ device ∈ devices, world.defaults device ≠ auto

/-- On a host without SEV-SNP a test walks with each device as often as it should, and leaves the
devices bound and in their default domains. Only the kernel log can make it fail. -/
def Proper (world : World) (devices : List Device) (count : Nat) (before : State)
    (test : Script PUnit) : Prop :=
  if verifySnpHost world then test before = .error (.cancelled notOnSnp) before
  else ∃ after, Walks world (devices.flatMap (List.replicate count)) before after ∧
    (∀ device ∈ devices,
      after.driver device ≠ none ∧ after.domain device = world.defaults device) ∧
    test before = if world.dmesgDiff = [] then .ok ⟨⟩ after
      else .error (.failed dmesgMessage) after

/-! ### A step of the walk -/

/-- The group of a device has gone to a domain, and something was done. -/
def State.moved (device : Device) (place : Text) (events : List Event) (state : State) : State :=
  { state with
    domain := Function.update state.domain device place
    history := state.history ++ events }

section Steps

variable (world : World) (device : Device) (rescans : Bool) (driver : Text) (domains : List Text)

/-- An entry of the list. -/
def entry (i : Nat) : Text := domains[i]?.getD []

/-- Where a step of the inner loop leaves the group. -/
def stepPlace (j i : Nat) : Text :=
  if i = domains.length - 1 then world.resolve device (entry domains (j + 1))
  else world.resolve device (entry domains j)

/-- What a step of the inner loop does, event by event, with the driver and the domain at each of
them. -/
def stepEvents (j i : Nat) : List Event :=
  let other := world.resolve device (entry domains i)
  let defDom := world.defaults device
  switch world device driver domains (entry domains j) (entry domains i) ++
    (if rescans then [⟨.rescan, device, domains, some driver, other⟩] else []) ++
    [⟨.unbind driver, device, domains, some driver, other⟩,
      ⟨.changeDomain (entry domains j) defDom, device, domains, none, other⟩] ++
    (if i = domains.length - 1 then
      [⟨.changeDomain (entry domains (j + 1)) defDom, device, domains, none,
        world.resolve device (entry domains j)⟩] else []) ++
    [⟨.bind driver, device, domains, none, stepPlace world device domains j i⟩]

/-- What the inner loop does for a pivot. -/
def pivotEvents (j : Nat) : List Event :=
  (List.range' (j + 1) (domains.length - (j + 1))).flatMap
    (stepEvents world device rescans driver domains j)

/-- What a walk does. -/
def walkEvents : List Event :=
  (List.range (domains.length - 1)).flatMap (pivotEvents world device rescans driver domains)

variable {world device rescans driver domains}

/-- Moving twice. -/
theorem moved_moved (state : State) (first second : Text) (events more : List Event) :
    (state.moved device first events).moved device second more =
      state.moved device second (events ++ more) := by
  simp only [State.moved, Function.update_idem, List.append_assoc]

/-- A step of the inner loop that starts in the pivot. -/
theorem innerBody_eq {state : State} (bound : state.driver device = some driver) (j i : Nat)
    (stands : state.domain device = entry state.domains j) :
    innerBody world device rescans driver (world.defaults device) (entry state.domains j) j state
        i =
      state.moved device (stepPlace world device state.domains j i)
        (stepEvents world device rescans driver state.domains j i) := by
  have rebound : Function.update state.driver device (some driver) = state.driver := by
    rw [← bound, Function.update_eq_self]
  by_cases isLast : i = state.domains.length - 1 <;> cases rescans <;>
    simp [innerBody, unbind, changeDomain, DomainWalk.bind, rescan, State.record, State.at,
      State.moved, stepEvents, stepPlace, switch, entry, isLast, rebound, bound, stands]

/-- A device that stands where it is moved to is not moved. -/
theorem moved_nil {state : State} {place : Text} (stands : state.domain device = place) :
    state.moved device place [] = state := by
  rw [State.moved, ← stands, Function.update_eq_self, List.append_nil]

/-- The steps before the last one lead back to the pivot.

Proof: by induction on the indices. -/
theorem foldl_innerBody {state : State} {j : Nat} (bound : state.driver device = some driver)
    (listed : state.domains = domains) (stands : state.domain device = entry domains j)
    (home : world.resolve device (entry domains j) = entry domains j) (indices : List Nat)
    (notLast : ∀ i ∈ indices, i ≠ domains.length - 1) :
    indices.foldl (innerBody world device rescans driver (world.defaults device)
        (entry domains j) j) state =
      state.moved device (entry domains j)
        (indices.flatMap (stepEvents world device rescans driver domains j)) := by
  induction indices generalizing state with
  | nil => exact (moved_nil stands).symm
  | cons i rest inductionHypothesis =>
    subst listed
    have place : stepPlace world device state.domains j i = entry state.domains j := by
      rw [stepPlace, if_neg (notLast i List.mem_cons_self), home]
    let next := state.moved device (entry state.domains j)
      (stepEvents world device rescans driver state.domains j i)
    have nextBound : next.driver device = some driver := bound
    have nextStands : next.domain device = entry state.domains j := Function.update_self ..
    rw [List.foldl_cons, innerBody_eq bound j i stands, place,
      inductionHypothesis nextBound rfl nextStands
        fun other member => notLast other (List.mem_cons_of_mem i member),
      moved_moved, List.flatMap_cons]

/-- The inner loop leads from the pivot to the next one. Every step but the last ends in the pivot,
where the next one begins; the last one moves the group on. -/
theorem innerLoop_eq {state : State} {j : Nat} (bound : state.driver device = some driver)
    (inside : j + 1 < state.domains.length)
    (stands : state.domain device = entry state.domains j)
    (home : world.resolve device (entry state.domains j) = entry state.domains j) :
    innerLoop world device rescans driver (world.defaults device) state j =
      state.moved device (world.resolve device (entry state.domains (j + 1)))
        (pivotEvents world device rescans driver state.domains j) := by
  obtain ⟨count, counted⟩ : ∃ count, state.domains.length - (j + 1) = count + 1 :=
    ⟨state.domains.length - (j + 2), by omega⟩
  have isLast : j + 1 + count = state.domains.length - 1 := by omega
  have before : ∀ i ∈ List.range' (j + 1) count, i ≠ state.domains.length - 1 := by
    intro i member
    have bounds := List.mem_range'_1.mp member
    omega
  have place : stepPlace world device state.domains j (j + 1 + count) =
      world.resolve device (entry state.domains (j + 1)) := by
    rw [stepPlace, if_pos isLast]
  have pivot : state.at j = entry state.domains j := rfl
  let last := state.moved device (entry state.domains j)
    ((List.range' (j + 1) count).flatMap (stepEvents world device rescans driver state.domains j))
  have lastBound : last.driver device = some driver := bound
  have lastStands : last.domain device = entry last.domains j := Function.update_self ..
  rw [innerLoop, pivotEvents, counted, pivot, List.range'_1_concat, List.foldl_append,
    foldl_innerBody bound rfl stands home _ before, List.foldl_cons, List.foldl_nil,
    List.flatMap_append, List.flatMap_singleton]
  refine (innerBody_eq lastBound j (j + 1 + count) lastStands).trans ?_
  rw [moved_moved, ← place]
  rfl

/-! ### A whole walk -/

/-- The last entry is `auto`. -/
theorem Names.entry_last (names : Names domains) : entry domains (domains.length - 1) = auto := by
  have last := names.last
  rw [List.getLast?_eq_getElem?] at last
  rw [entry, last, Option.getD_some]

/-- No entry before it is. -/
theorem Names.entry_ne_auto (names : Names domains) {i : Nat} (inside : i + 1 < domains.length) :
    entry domains i ≠ auto := by
  intro isAuto
  have first : i < domains.length := by omega
  have last : domains.length - 1 < domains.length := by omega
  have same : domains[i] = domains[domains.length - 1] := by
    have lastEntry := names.entry_last
    rw [entry, List.getElem?_eq_getElem first] at isAuto
    rw [entry, List.getElem?_eq_getElem last] at lastEntry
    exact isAuto.trans lastEntry.symm
  have indices := (List.Nodup.getElem_inj_iff names.distinct).mp same
  omega

/-- So it stands for itself. -/
theorem Names.resolve_entry (names : Names domains) {i : Nat} (inside : i + 1 < domains.length) :
    world.resolve device (entry domains i) = entry domains i :=
  if_neg (names.entry_ne_auto inside)

/-- The outer loop is in its pivot each time.

Proof: by induction on the number of pivots. -/
theorem foldl_innerLoop {state : State} (names : Names state.domains)
    (bound : state.driver device = some driver)
    (stands : state.domain device = world.resolve device (entry state.domains 0)) (pivots : Nat)
    (inside : pivots < state.domains.length) :
    (List.range pivots).foldl (innerLoop world device rescans driver (world.defaults device))
        state =
      state.moved device (world.resolve device (entry state.domains pivots))
        ((List.range pivots).flatMap
          (pivotEvents world device rescans driver state.domains)) := by
  induction pivots with
  | zero => exact (moved_nil stands).symm
  | succ pivots inductionHypothesis =>
    have home : world.resolve device (entry state.domains pivots) = entry state.domains pivots :=
      names.resolve_entry inside
    let next := state.moved device (world.resolve device (entry state.domains pivots))
      ((List.range pivots).flatMap (pivotEvents world device rescans driver state.domains))
    have nextBound : next.driver device = some driver := bound
    have nextStands : next.domain device = entry next.domains pivots :=
      (Function.update_self ..).trans home
    rw [List.range_succ, List.foldl_append, inductionHypothesis (by omega), List.foldl_cons,
      List.foldl_nil, List.flatMap_append, List.flatMap_singleton]
    refine (innerLoop_eq nextBound inside nextStands home).trans ?_
    rw [moved_moved]
    rfl

/-- A walk that begins in the first domain ends in the default domain. -/
theorem walk_eq {state : State} (names : Names state.domains)
    (bound : state.driver device = some driver)
    (stands : state.domain device = world.resolve device (entry state.domains 0)) :
    walk world device rescans driver (world.defaults device) state =
      state.moved device (world.defaults device)
        (walkEvents world device rescans driver state.domains) := by
  have some_name : state.domains ≠ [] := fun none_left => by
    have last := names.last
    rw [none_left] at last
    cases last
  have positive := List.length_pos_of_ne_nil some_name
  have home : world.resolve device (entry state.domains (state.domains.length - 1)) =
      world.defaults device := by rw [names.entry_last, World.resolve, if_pos rfl]
  rw [walk, foldl_innerLoop names bound stands _ (by omega), home, walkEvents]

/-! ### The history of a walk -/

/-- What a round of a loop notes is a part of what the loop notes. -/
theorem infix_flatMap {α β : Type} {value : α} {values : List α} (member : value ∈ values)
    (events : α → List β) : events value <:+: values.flatMap events := by
  rw [List.flatMap_def]
  exact List.infix_of_mem_flatten (List.mem_map_of_mem member)

/-- A switch from a pivot is the beginning of a step. -/
theorem switch_begins (j i : Nat) :
    switch world device driver domains (entry domains j) (entry domains i) <+:
      stepEvents world device rescans driver domains j i := by
  simp only [stepEvents, List.append_assoc]
  exact List.prefix_append _ _

/-- Every pair of entries has its step. -/
theorem stepEvents_isPart {j i : Nat} (later : j < i) (inside : i < domains.length) :
    stepEvents world device rescans driver domains j i <:+:
      walkEvents world device rescans driver domains := by
  have isStep : i ∈ List.range' (j + 1) (domains.length - (j + 1)) :=
    List.mem_range'_1.mpr (by omega)
  have ofPivot : stepEvents world device rescans driver domains j i <:+:
      pivotEvents world device rescans driver domains j :=
    infix_flatMap isStep (stepEvents world device rescans driver domains j)
  have isPivot : j ∈ List.range (domains.length - 1) := List.mem_range.mpr (by omega)
  exact ofPivot.trans (infix_flatMap isPivot (pivotEvents world device rescans driver domains))

/-- What every event of a walk is like: it is about the device that is walked with, it happens with
the same list of domains, and a domain is changed only while no driver is bound. -/
theorem walkEvents_own {event : Event}
    (member : event ∈ walkEvents world device rescans driver domains) :
    event.device = device ∧ event.domains = domains ∧ ∀ domain defDom,
      event.operation = .changeDomain domain defDom → event.driver = none := by
  obtain ⟨j, -, ofPivot⟩ := List.mem_flatMap.mp member
  obtain ⟨i, -, ofStep⟩ := List.mem_flatMap.mp ofPivot
  have listed : event ∈ switch world device driver domains (entry domains j) (entry domains i) ∨
      event = ⟨.rescan, device, domains, some driver, world.resolve device (entry domains i)⟩ ∨
      event = ⟨.unbind driver, device, domains, some driver,
        world.resolve device (entry domains i)⟩ ∨
      event = ⟨.changeDomain (entry domains j) (world.defaults device), device, domains, none,
        world.resolve device (entry domains i)⟩ ∨
      event = ⟨.changeDomain (entry domains (j + 1)) (world.defaults device), device, domains, none,
        world.resolve device (entry domains j)⟩ ∨
      event = ⟨.bind driver, device, domains, none, stepPlace world device domains j i⟩ := by
    simp only [stepEvents, List.mem_append, List.mem_cons, List.not_mem_nil, or_false] at ofStep
    rcases ofStep with (((inSwitch | isRescan) | two) | more) | isBind
    · exact .inl inSwitch
    · split at isRescan
      · exact .inr (.inl (List.mem_singleton.mp isRescan))
      · cases isRescan
    · rcases two with isUnbind | isChange
      · exact .inr (.inr (.inl isUnbind))
      · exact .inr (.inr (.inr (.inl isChange)))
    · split at more
      · exact .inr (.inr (.inr (.inr (.inl (List.mem_singleton.mp more)))))
      · cases more
    · exact .inr (.inr (.inr (.inr (.inr isBind))))
  rcases listed with inSwitch | rfl | rfl | rfl | rfl | rfl
  · simp only [switch, List.mem_cons, List.not_mem_nil, or_false] at inSwitch
    rcases inSwitch with rfl | rfl | rfl <;> simp
  all_goals simp

/-- A walk from the default domain in front. -/
theorem walkEvents_walked {initial : List Text} (names : Names domains)
    (perm : domains.Perm initial) (first : domains.head? = some (world.defaults device)) :
    Walked world initial device driver domains
      (walkEvents world device rescans driver domains) where
  perm := perm
  first := first
  last := names.last
  own _ member := ⟨(walkEvents_own member).1, (walkEvents_own member).2.1⟩
  unbound _ member := (walkEvents_own member).2.2
  switched i j source target later isSource isTarget := by
    have inside : j < domains.length := (List.getElem?_eq_some_iff.mp isTarget).1
    have entries : entry domains i = source ∧ entry domains j = target := by
      simp [entry, isSource, isTarget]
    rw [← entries.1, ← entries.2]
    exact (switch_begins i j).isInfix.trans (stepEvents_isPart later inside)

end Steps

/-! ### From device to device -/

section Devices

variable {world : World} {devices walkers others : List Device} {before middle after : State}

/-- A walk is one of any permutation of the list. -/
theorem Walked.of_perm {initial other : List Text} {device : Device} {driver : Text}
    {domains : List Text} {events : List Event}
    (walked : Walked world initial device driver domains events) (perm : initial.Perm other) :
    Walked world other device driver domains events :=
  { walked with perm := walked.perm.trans perm }

/-- Nobody has walked. -/
theorem Walks.refl (names : Names before.domains) : Walks world [] before before where
  history := ⟨[], by simp, .nil⟩
  names := names
  perm := .refl _
  driver := rfl
  domain := rfl

/-- Some devices walk, and then others. -/
theorem Walks.trans (first : Walks world walkers before middle)
    (second : Walks world others middle after) :
    Walks world (walkers ++ others) before after where
  history := by
    obtain ⟨walks, history, each⟩ := first.history
    obtain ⟨more, further, eachOther⟩ := second.history
    refine ⟨walks ++ more, by rw [further, history, List.flatten_append, List.append_assoc], ?_⟩
    apply List.rel_append each
    apply eachOther.imp
    rintro device events ⟨driver, domains, bound, walked⟩
    exact ⟨driver, domains, first.driver ▸ bound, walked.of_perm first.perm⟩
  names := second.names
  perm := second.perm.trans first.perm
  driver := second.driver.trans first.driver
  domain := second.domain.trans first.domain

/-- Devices that are ready stay so while they walk. -/
theorem Ready.walked (ready : Ready world devices before)
    (walks : Walks world walkers before after) : Ready world devices after where
  names := walks.names
  bound := walks.driver ▸ ready.bound
  home := walks.domain ▸ ready.home
  listed device member := walks.perm.mem_iff.mpr (ready.listed device member)
  other := ready.other

/-- The default domain is put in front. -/
theorem Names.moved {domains : List Text} {defDom : Text} (names : Names domains)
    (listed : defDom ∈ domains) (other : defDom ≠ auto) :
    (defDom :: domains.erase defDom).Perm domains ∧ Names (defDom :: domains.erase defDom) := by
  have perm : (defDom :: domains.erase defDom).Perm domains := (List.perm_cons_erase listed).symm
  obtain ⟨front, split⟩ := List.getLast?_eq_some_iff.mp names.last
  have inFront : defDom ∈ front := by
    rw [split, List.mem_append] at listed
    exact listed.resolve_right fun isLast => other (List.mem_singleton.mp isLast)
  refine ⟨perm, perm.nodup_iff.mpr names.distinct, ?_, fun domain member =>
    names.words domain (perm.mem_iff.mp member)⟩
  rw [split, List.erase_append_left _ inFront, ← List.cons_append, List.getLast?_concat]

variable {device : Device} {driver : Text} (rescans : Bool)

/-- A round with a device is a walk. The default domain is moved to the front first, so the walk
starts where the group is and comes back to it. -/
theorem round_walks (ready : Ready world devices before) (member : device ∈ devices)
    (bound : before.driver device = some driver) :
    ∃ after, round world rescans device driver (world.defaults device) before = .ok ⟨⟩ after ∧
      Walks world [device] before after := by
  have listed := ready.listed device member
  obtain ⟨perm, names⟩ := ready.names.moved listed (ready.other device member)
  let started : State :=
    { before with domains := world.defaults device :: before.domains.erase (world.defaults device) }
  have home : started.domain device = world.defaults device := ready.home device member
  have stands : started.domain device = world.resolve device (entry started.domains 0) :=
    home.trans (if_neg (ready.other device member)).symm
  have walked : walk world device rescans driver (world.defaults device) started =
      started.moved device (world.defaults device)
        (walkEvents world device rescans driver started.domains) := walk_eq names bound stands
  refine ⟨started.moved device (world.defaults device)
    (walkEvents world device rescans driver started.domains), ?_, ?_⟩
  · rw [round, moveToFront, bind_apply, get_bind_apply, demand_bind_apply,
      if_pos (List.contains_iff_mem.mpr listed), ← walked]
    rfl
  · refine ⟨⟨[walkEvents world device rescans driver started.domains],
      by simp [State.moved, started],
      .cons ⟨driver, started.domains, bound, walkEvents_walked names perm rfl⟩ .nil⟩, names, perm,
      rfl, ?_⟩
    rw [State.moved, ← home, Function.update_eq_self]

/-- All rounds of a device are walks.

Proof: by induction on the rounds. -/
theorem rounds_walk (ready : Ready world devices before) (member : device ∈ devices)
    (bound : before.driver device = some driver) (indices : List Nat) :
    ∃ after, forEach (fun _ => round world rescans device driver (world.defaults device)) indices
          before = .ok ⟨⟩ after ∧
      Walks world (List.replicate indices.length device) before after := by
  induction indices generalizing before with
  | nil => exact ⟨before, rfl, .refl ready.names⟩
  | cons i rest inductionHypothesis =>
    obtain ⟨middle, ran, walks⟩ := round_walks rescans ready member bound
    have stillBound : middle.driver device = some driver := walks.driver ▸ bound
    obtain ⟨after, further, others⟩ := inductionHypothesis (ready.walked walks) stillBound
    refine ⟨after, ?_, walks.trans others⟩
    rw [forEach_cons_apply, ran]
    exact further

/-- The default domain is a word, and read as it is. -/
theorem lastWord_default (ready : Ready world devices before) (member : device ∈ devices) :
    lastWord (before.domain device) = some (world.defaults device) := by
  have isWord := ready.names.words _ (ready.listed device member)
  rw [ready.home device member, lastWord, words_solid isWord, List.getLast?_singleton]

/-- The parameters of a device that is ready. -/
theorem getParams_eq (ready : Ready world devices before) (member : device ∈ devices)
    (bound : before.driver device = some driver) :
    getParams device before = .ok (driver, world.defaults device) before := by
  have isWord := ready.names.words _ (ready.listed device member)
  have some_domain : before.domain device ≠ [] := by
    rw [ready.home device member]
    exact isWord.nonempty
  rw [getParams, get_bind_apply, bound]
  dsimp only
  rw [demand_bind_apply, if_pos some_domain, lastWord_default ready member]
  rfl

/-- The check of a device in its default domain. -/
theorem check_eq (ready : Ready world devices before) (member : device ∈ devices) :
    check world (world.defaults device) device driver before = .ok ⟨⟩ before := by
  rw [check, get_bind_apply, lastWord_default ready member]
  dsimp only
  rw [if_pos rfl]
  rfl

/-- What is done to a device is walks, and its check passes. -/
theorem forDevice_walks (ready : Ready world devices before) (member : device ∈ devices)
    (count : Nat) :
    ∃ after, forDevice world rescans count device before = .ok ⟨⟩ after ∧
      Walks world (List.replicate count device) before after := by
  obtain ⟨driver, bound⟩ := Option.ne_none_iff_exists'.mp (ready.bound device member)
  obtain ⟨after, ran, walks⟩ := rounds_walk rescans ready member bound (List.range count)
  rw [List.length_range] at walks
  refine ⟨after, ?_, walks⟩
  rw [forDevice, bind_apply, getParams_eq ready member bound]
  dsimp only
  rw [bind_apply, ran]
  exact check_eq (ready.walked walks) member

/-- The devices walk one after the other.

Proof: by induction on the devices. All of them stay ready. -/
theorem forEach_walks (ready : Ready world devices before) (count : Nat) (some_of : List Device)
    (members : ∀ device ∈ some_of, device ∈ devices) :
    ∃ after, forEach (forDevice world rescans count) some_of before = .ok ⟨⟩ after ∧
      Walks world (some_of.flatMap (List.replicate count)) before after := by
  induction some_of generalizing before with
  | nil => exact ⟨before, rfl, .refl ready.names⟩
  | cons device rest inductionHypothesis =>
    obtain ⟨middle, ran, walks⟩ :=
      forDevice_walks rescans ready (members device List.mem_cons_self) count
    obtain ⟨after, further, others⟩ := inductionHypothesis (ready.walked walks)
      fun other member => members other (List.mem_cons_of_mem device member)
    refine ⟨after, ?_, walks.trans others⟩
    rw [forEach_cons_apply, ran]
    exact further

/-- Every one of the tests is proper. -/
theorem testChangedomain_proper {pciDevices : Text}
    (ready : Ready world (pciDevices.splitOn ' ') before) (count : Nat) :
    Proper world (pciDevices.splitOn ' ') count before
      (testChangedomain world rescans count pciDevices) := by
  rw [Proper, testChangedomain, demand_bind_apply]
  split
  case isTrue snp => rw [if_neg (by simp [snp])]
  case isFalse notSnp =>
    obtain ⟨after, ran, walks⟩ :=
      forEach_walks rescans ready count _ fun device member => member
    have left := ready.walked walks
    refine ⟨after, walks, fun device member => ⟨left.bound device member, left.home device member⟩,
      ?_⟩
    rw [if_pos (eq_false_of_ne_true notSnp), bind_apply, ran]
    dsimp only
    rw [checkDmesg, demand]
    split <;> rfl

end Devices

/-- The three tests are proper: for every list of names, all devices that are bound and in their
default domains, and every number of rounds.

Every operation on the devices succeeds. A device that begins without a driver or in another domain
is not covered.

Proof: a walk over the list leads from the first domain through all pairs to the last one, which is
the default domain again. So a test can begin where the one before it ended. -/
theorem domain_walk (world : World) (pciDevices : Text) (count : Nat) (before : State)
    (ready : Ready world (pciDevices.splitOn ' ') before) :
    Proper world (pciDevices.splitOn ' ') 1 before
        (testUnbindChangedomainBind world pciDevices) ∧
      Proper world (pciDevices.splitOn ' ') count before
        (testUnbindChangedomainNtimesBind world count pciDevices) ∧
      Proper world (pciDevices.splitOn ' ') 1 before
        (testUnbindChangedomainBindRescan world pciDevices) :=
  ⟨testChangedomain_proper false ready 1, testChangedomain_proper false ready count,
    testChangedomain_proper true ready 1⟩

/-- The list of `setUp`. -/
def initialDomains : List Text :=
  [['D', 'M', 'A'], ['D', 'M', 'A', '-', 'F', 'Q'], ['i', 'd', 'e', 'n', 't', 'i', 't', 'y'], auto]

/-- It is a list of names. -/
theorem initialDomains_names : Names initialDomains where
  distinct := by decide
  last := rfl
  words := by
    intro domain member
    refine ⟨?_, none_of_check ?_⟩
    · rintro rfl
      exact absurd member (by decide)
    · revert domain
      decide

/-- A host with the default domain `DMA-FQ`. -/
def lazyWorld : World := ⟨fun _ => ['D', 'M', 'A', '-', 'F', 'Q'], none, []⟩

/-- All devices are bound to one driver. -/
def nvmeState : State :=
  ⟨fun _ => some ['n', 'v', 'm', 'e'], fun _ => ['D', 'M', 'A', '-', 'F', 'Q'], initialDomains, []⟩

/-- They are ready. -/
theorem nvmeState_ready (devices : List Device) : Ready lazyWorld devices nvmeState where
  names := initialDomains_names
  bound _ _ := Option.some_ne_none _
  home _ _ := rfl
  listed _ _ := List.mem_cons_of_mem _ List.mem_cons_self
  other _ _ := by simp [lazyWorld, auto]

/-- Two devices, and three rounds for the test that has rounds. -/
theorem domain_walk_nvme :
    Ready lazyWorld (['a', ' ', 'b'].splitOn ' ') nvmeState ∧
      Proper lazyWorld (['a', ' ', 'b'].splitOn ' ') 1 nvmeState
        (testUnbindChangedomainBind lazyWorld ['a', ' ', 'b']) ∧
      Proper lazyWorld (['a', ' ', 'b'].splitOn ' ') 3 nvmeState
        (testUnbindChangedomainNtimesBind lazyWorld 3 ['a', ' ', 'b']) ∧
      Proper lazyWorld (['a', ' ', 'b'].splitOn ' ') 1 nvmeState
        (testUnbindChangedomainBindRescan lazyWorld ['a', ' ', 'b']) :=
  ⟨nvmeState_ready _, domain_walk lazyWorld ['a', ' ', 'b'] 3 nvmeState (nvmeState_ready _)⟩

end AvocadoMisc.Iommu.DomainWalk
