import Mathlib.Data.List.DropRight
import Mathlib.Logic.Function.Basic

/-!
# Which memory blocks come back after a hotplug test

`setUp` of `memhotplug.py` selects a share of the memory blocks of the machine, and `tearDown`
brings exactly these online. Most test methods take only these offline.
`test_hotplug_per_numa_node` makes a selection of its own for each node, and each of them starts
with the first block of the node. Those that are not in the share of the whole machine stay
offline.
-/

namespace AvocadoMisc.MemHotplug.Restore

/-! ### Blocks -/

/-- The state of a block. A block that was removed from the partition is absent. -/
inductive BlockState where
  | absent
  | offline
  | online
deriving DecidableEq

/-- The states of the blocks. -/
abbrev Machine := Nat → BlockState

/-- A match of a glob pattern: the block, and what `memory.is_hot_pluggable` says about it. -/
structure Entry where
  block : Nat
  hotPluggable : Bool

/-- `chunks`: the number of blocks in chunks of 100. -/
def chunks (num : Int) : Int :=
  if num % 2 ≠ 0 then num / 100 + 1 else num / 100

/-- `blocks[:count]`. A negative count leaves blocks away at the end. -/
def slice (blocks : List Nat) (count : Int) : List Nat :=
  if count < 0 then blocks.take (blocks.length + count).toNat else blocks.take count.toNat

/-- `get_hotpluggable_blocks`. -/
def getHotpluggableBlocks (listing : List Entry) (ratio : Int) : List Nat :=
  let memBlocks := (listing.filter Entry.hotPluggable).map Entry.block
  slice memBlocks (chunks (memBlocks.length * ratio))

/-! ### Calls -/

/-- The machine and the number of calls that have been made. -/
structure World where
  machine : Machine
  calls : Nat

/-- A loop runs to its end, or an exception leaves it. -/
inductive Run where
  | completed (world : World)
  | raised (world : World)

/-- The state at the end. -/
def Run.world : Run → World
  | .completed world => world
  | .raised world => world

/-- What comes next is left out after an exception. -/
def Run.andThen : Run → (World → Run) → Run
  | .completed world, next => next world
  | .raised world, _ => .raised world

/-- `for block in blocks`. -/
def forEach (body : Nat → World → Run) : List Nat → World → Run
  | [], world => .completed world
  | block :: rest, world => (body block world).andThen (forEach body rest)

/-- `for _ in range(iteration)`. -/
def iterate (body : World → Run) : Nat → World → Run
  | 0, world => .completed world
  | iteration + 1, world => (body world).andThen (iterate body iteration)

variable (succeeds : Nat → Bool)

/-- Write a state. A call that fails changes nothing, and neither does one for a block that is
absent. The error is caught. -/
def writeState (state : BlockState) (block : Nat) (world : World) : World where
  machine :=
    if succeeds world.calls ∧ world.machine block ≠ .absent then
      Function.update world.machine block state
    else world.machine
  calls := world.calls + 1

/-- `offline`. -/
def offline (block : Nat) (world : World) : World := writeState succeeds .offline block world

/-- `online`. -/
def online (block : Nat) (world : World) : World := writeState succeeds .online block world

/-- `hotunplug_all`. Reading the state of an absent block raises. -/
def hotunplugAll : List Nat → World → Run :=
  forEach fun block world =>
    match world.machine block with
    | .absent => .raised world
    | .online => .completed (offline succeeds block world)
    | .offline => .completed world

/-- `hotplug_all`. -/
def hotplugAll : List Nat → World → Run :=
  forEach fun block world =>
    match world.machine block with
    | .absent => .raised world
    | .online => .completed world
    | .offline => .completed (online succeeds block world)

/-! ### The test methods -/

/-- `test_hotplug_loop`. -/
def testHotplugLoop (iteration : Nat) (blocksHotpluggable : List Nat) : World → Run :=
  iterate (fun world =>
    (hotunplugAll succeeds blocksHotpluggable world).andThen
      (hotplugAll succeeds blocksHotpluggable)) iteration

/-- `test_hotplug_toggle`. -/
def testHotplugToggle (iteration : Nat) (blocksHotpluggable : List Nat) : World → Run :=
  iterate (forEach (fun block world =>
    .completed (online succeeds block (offline succeeds block world))) blocksHotpluggable) iteration

/-- What the `drmgr` commands do, one after the other. -/
def drmgrCommands (drmgr : Nat → Machine → Machine) : Nat → Machine → Machine
  | 0, machine => machine
  | count + 1, machine => drmgr count (drmgrCommands drmgr count machine)

/-- `test_dlpar_mem_hotplug`: half as many removals as there are blocks, and as many additions,
where that is supported. -/
def testDlparMemHotplug (supported : Bool) (drmgr : Nat → Machine → Machine)
    (blocksHotpluggable : List Nat) (world : World) : Run :=
  let half := blocksHotpluggable.length / 2
  .completed (if supported then
    { world with machine := drmgrCommands drmgr (half + half) world.machine } else world)

/-- `node.strip('\n')`. -/
def stripNewline (text : List Char) : List Char :=
  (text.dropWhile fun c => c = '\n').rdropWhile fun c => c = '\n'

/-- The nodes: `re.split("[,-]", nodes)`, each without a newline. -/
def splitNodes (nodes : List Char) : List (List Char) :=
  (nodes.splitOnP fun c => c = ',' || c = '-').map stripNewline

/-- `test_hotplug_per_numa_node`. -/
def testHotplugPerNumaNode (memratio : Int) (nodeListing : List Char → List Entry)
    (nodes : List (List Char)) (world : World) : Run :=
  match nodes with
  | [] => .completed world
  | node :: rest =>
    (forEach (fun block world => .completed (offline succeeds block world))
      (getHotpluggableBlocks (nodeListing node) memratio) world).andThen
      (testHotplugPerNumaNode memratio nodeListing rest)

/-- The test methods, under the names they have in the source. -/
inductive Method where
  | test_hotplug_loop
  | test_hotplug_toggle
  | test_dlpar_mem_hotplug
  | test_hotplug_per_numa_node

/-- The machine under test. The blocks that the glob pattern of `setUp` matches are there. -/
structure Host where
  machine : Machine
  listing : List Entry
  hasNormalMemory : List Char
  nodeListing : List Char → List Entry
  present : ∀ entry ∈ listing, machine entry.block ≠ .absent

/-- What the environment decides: the parameters, the outcome of each call, and the effect of
each `drmgr` command. -/
structure Environment where
  memratio : Int
  iteration : Nat
  autoOnline : Option Bool
  setUpSucceeds : Nat → Bool
  succeeds : Nat → Bool
  dlparSupported : Bool
  drmgr : Nat → Machine → Machine

/-- `self.blocks_hotpluggable`. -/
def blocksHotpluggable (environment : Environment) (host : Host) : List Nat :=
  getHotpluggableBlocks host.listing environment.memratio

/-- `setUp`. The selected blocks are brought online if the kernel does not do that itself. -/
def setUp (environment : Environment) (host : Host) : Run :=
  if environment.autoOnline = some false then
    hotplugAll environment.setUpSucceeds (blocksHotpluggable environment host) ⟨host.machine, 0⟩
  else .completed ⟨host.machine, 0⟩

/-- A test method on the machine that `setUp` leaves. The methods get the blocks that were selected
from the whole machine, but for the one that selects for each node itself. -/
def Method.run (environment : Environment) (host : Host) (method : Method) (world : World) : Run :=
  match method with
  | .test_hotplug_loop =>
    testHotplugLoop environment.succeeds environment.iteration
      (blocksHotpluggable environment host) world
  | .test_hotplug_toggle =>
    testHotplugToggle environment.succeeds environment.iteration
      (blocksHotpluggable environment host) world
  | .test_dlpar_mem_hotplug =>
    testDlparMemHotplug environment.dlparSupported environment.drmgr
      (blocksHotpluggable environment host) world
  | .test_hotplug_per_numa_node =>
    testHotplugPerNumaNode environment.succeeds environment.memratio host.nodeListing
      (splitNodes host.hasNormalMemory) world

/-- `tearDown` with online calls that succeed. It runs after an exception, too. -/
def tearDown (environment : Environment) (host : Host) (world : World) : Run :=
  hotplugAll (fun _ => true) (blocksHotpluggable environment host) world

/-- The machine after `setUp`, a test method and `tearDown`. -/
def machineAfter (environment : Environment) (host : Host) (method : Method) : Machine :=
  let ready := (setUp environment host).world.machine
  let tested := (method.run environment host ⟨ready, 0⟩).world
  (tearDown environment host tested).world.machine

/-! ### Loops -/

/-- A loop over blocks keeps what its body keeps, however it ends. -/
theorem forEach_keeps {Holds : World → Prop} {body : Nat → World → Run} {blocks : List Nat}
    (kept : ∀ block ∈ blocks, ∀ world, Holds world → Holds (body block world).world)
    {world : World} (holds : Holds world) : Holds (forEach body blocks world).world := by
  induction blocks generalizing world with
  | nil => exact holds
  | cons block rest inductionHypothesis =>
    have first := kept block (by simp) world holds
    rw [forEach]
    cases ended : body block world with
    | raised after => simpa [Run.andThen, ended, Run.world] using first
    | completed after =>
      rw [ended] at first
      exact inductionHypothesis
        (fun other member => kept other (List.mem_cons_of_mem block member)) first

/-- So does a loop that repeats. -/
theorem iterate_keeps {Holds : World → Prop} {body : World → Run}
    (kept : ∀ world, Holds world → Holds (body world).world) (iteration : Nat) {world : World}
    (holds : Holds world) : Holds (iterate body iteration world).world := by
  induction iteration generalizing world with
  | zero => exact holds
  | succ iteration inductionHypothesis =>
    have first := kept world holds
    rw [iterate]
    cases ended : body world with
    | raised after => simpa [Run.andThen, ended, Run.world] using first
    | completed after =>
      rw [ended] at first
      exact inductionHypothesis first

/-- One run after the other. -/
theorem andThen_keeps {Holds : World → Prop} {run : Run} {next : World → Run}
    (first : Holds run.world) (kept : ∀ world, Holds world → Holds (next world).world) :
    Holds (run.andThen next).world := by
  cases run with
  | completed world => exact kept world first
  | raised world => exact first

/-! ### What a call changes -/

/-- A call gives its block the state, if it succeeds, and changes no other block. -/
theorem writeState_machine (state : BlockState) (block other : Nat) (world : World) :
    (writeState succeeds state block world).machine other =
      if other = block ∧ succeeds world.calls = true ∧ world.machine other ≠ .absent then state
      else world.machine other := by
  unfold writeState
  by_cases same : other = block
  · subst same
    by_cases written : succeeds world.calls = true ∧ world.machine other ≠ .absent
    · simp [written]
    · simp [written]
  · by_cases written : succeeds world.calls = true ∧ world.machine block ≠ .absent
    · simp [written, same]
    · simp [written, same]

/-- What the methods keep that take only selected blocks offline: a block that was online is
online, or it is a selected one that is offline; and the selected blocks are there. -/
structure Covered (selected : List Nat) (before : Machine) (world : World) : Prop where
  covered : ∀ block, before block = .online →
    world.machine block = .online ∨ (world.machine block = .offline ∧ block ∈ selected)
  present : ∀ block ∈ selected, world.machine block ≠ .absent

/-- Writing to a selected block keeps that. -/
theorem Covered.writeState {selected : List Nat} {before : Machine} {world : World}
    (holds : Covered selected before world) {state : BlockState} (there : state ≠ .absent)
    {block : Nat} (member : block ∈ selected) :
    Covered selected before (writeState succeeds state block world) := by
  constructor
  · intro other online
    rw [writeState_machine]
    split
    · next written =>
      rw [written.1]
      cases state with
      | absent => exact absurd rfl there
      | offline => exact .inr ⟨rfl, member⟩
      | online => exact .inl rfl
    · exact holds.covered other online
  · intro other chosen
    rw [writeState_machine]
    split
    · exact there
    · exact holds.present other chosen

/-- `hotunplug_all` keeps it. -/
theorem Covered.hotunplugAll {selected : List Nat} {before : Machine} {world : World}
    (holds : Covered selected before world) :
    Covered selected before (hotunplugAll succeeds selected world).world := by
  refine forEach_keeps (fun block member world holds => ?_) holds
  cases state : world.machine block with
  | absent => exact holds
  | offline => exact holds
  | online => exact holds.writeState succeeds (by decide) member

/-- So does `hotplug_all`. -/
theorem Covered.hotplugAll {selected : List Nat} {before : Machine} {world : World}
    (holds : Covered selected before world) :
    Covered selected before (hotplugAll succeeds selected world).world := by
  refine forEach_keeps (fun block member world holds => ?_) holds
  cases state : world.machine block with
  | absent => exact holds
  | offline => exact holds.writeState succeeds (by decide) member
  | online => exact holds

/-- `test_hotplug_loop` keeps it. -/
theorem Covered.testHotplugLoop {selected : List Nat} {before : Machine} {world : World}
    (holds : Covered selected before world) (iteration : Nat) :
    Covered selected before (testHotplugLoop succeeds iteration selected world).world :=
  iterate_keeps (fun _ holds => andThen_keeps (holds.hotunplugAll succeeds)
    fun _ unplugged => unplugged.hotplugAll succeeds) iteration holds

/-- `test_hotplug_toggle` keeps it. -/
theorem Covered.testHotplugToggle {selected : List Nat} {before : Machine} {world : World}
    (holds : Covered selected before world) (iteration : Nat) :
    Covered selected before (testHotplugToggle succeeds iteration selected world).world :=
  iterate_keeps (fun _ holds => forEach_keeps (fun _ member _ holds =>
    (holds.writeState succeeds (by decide) member).writeState succeeds (by decide) member)
    holds) iteration holds

/-! ### What `tearDown` brings back -/

/-- With calls that succeed, `hotplug_all` brings the blocks online that come before the first
absent one.

Proof: by induction on the blocks. Bringing one online makes none absent or present. -/
theorem hotplugAll_machine (blocks : List Nat) (world : World) (other : Nat) :
    (hotplugAll (fun _ => true) blocks world).world.machine other =
      if other ∈ blocks.takeWhile fun block => world.machine block ≠ .absent then .online
      else world.machine other := by
  induction blocks generalizing world with
  | nil => rfl
  | cons block rest inductionHypothesis =>
    unfold hotplugAll at inductionHypothesis ⊢
    rw [forEach]
    cases state : world.machine block with
    | absent => simp [Run.andThen, Run.world, state]
    | online =>
      simp only [Run.andThen, inductionHypothesis, List.takeWhile_cons, state]
      by_cases same : other = block
      · subst same
        simp [state]
      · simp [same]
    | offline =>
      have written (block' : Nat) := writeState_machine (fun _ => true) .online block block' world
      have kept : ∀ block', (online (fun _ => true) block world).machine block' ≠ .absent ↔
          world.machine block' ≠ .absent := by
        intro block'
        rw [online, written]
        split
        · next conditions => simp [conditions.2.2]
        · exact Iff.rfl
      simp only [Run.andThen, inductionHypothesis, List.takeWhile_cons, state, kept]
      by_cases same : other = block
      · subst same
        simp [online, written, state]
      · simp [online, written, same]

/-- Nothing went offline, and no block came or went. -/
structure Undisturbed (before : Machine) (world : World) : Prop where
  kept : ∀ block, before block = .online → world.machine block = .online
  presence : ∀ block, world.machine block = .absent ↔ before block = .absent

/-- `setUp` only brings blocks online: one that was online stays online, and one that is absent
stays absent, whatever the writes come to. -/
theorem setUp_undisturbed (environment : Environment) (host : Host) :
    Undisturbed host.machine (setUp environment host).world := by
  have start : Undisturbed host.machine ⟨host.machine, 0⟩ :=
    ⟨fun _ started => started, fun _ => .rfl⟩
  unfold setUp
  split
  · refine forEach_keeps (fun block _ world holds => ?_) start
    cases state : world.machine block with
    | absent => exact holds
    | online => exact holds
    | offline =>
      have written := writeState_machine environment.setUpSucceeds .online block
      refine ⟨fun other started => ?_, fun other => ?_⟩
      · refine (written other world).trans ?_
        split
        · rfl
        · exact holds.kept other started
      · refine (iff_of_eq (congrArg (· = .absent) (written other world))).trans ?_
        split
        · next conditions => simpa [← holds.presence other] using conditions.2.2
        · exact holds.presence other
  · exact start

/-- A slice is a part. -/
theorem mem_of_mem_slice {blocks : List Nat} {count : Int} {block : Nat}
    (member : block ∈ slice blocks count) : block ∈ blocks := by
  unfold slice at member
  split at member <;> exact List.mem_of_mem_take member

/-- The selected blocks are among the listed ones. -/
theorem mem_listing_of_mem {listing : List Entry} {ratio : Int} {block : Nat}
    (member : block ∈ getHotpluggableBlocks listing ratio) :
    ∃ entry ∈ listing, entry.block = block := by
  obtain ⟨entry, filtered, rfl⟩ := List.mem_map.mp (mem_of_mem_slice member)
  exact ⟨entry, (List.mem_filter.mp filtered).1, rfl⟩

/-- After `setUp` everything is covered. -/
theorem setUp_covered (environment : Environment) (host : Host) :
    Covered (blocksHotpluggable environment host) host.machine
      ⟨(setUp environment host).world.machine, 0⟩ := by
  obtain ⟨kept, presence⟩ := setUp_undisturbed environment host
  refine ⟨fun block started => .inl (kept block started), fun block member gone => ?_⟩
  obtain ⟨entry, listed, rfl⟩ := mem_listing_of_mem member
  exact host.present entry listed ((presence entry.block).mp gone)

/-- Covered blocks come back. -/
theorem Covered.restored {environment : Environment} {host : Host} {world : World}
    (holds : Covered (blocksHotpluggable environment host) host.machine world) {block : Nat}
    (started : host.machine block = .online) :
    (tearDown environment host world).world.machine block = .online := by
  have all : (blocksHotpluggable environment host).takeWhile
      (fun other => world.machine other ≠ .absent) = blocksHotpluggable environment host :=
    List.takeWhile_eq_self_iff.mpr fun other member => by simpa using holds.present other member
  rw [tearDown, hotplugAll_machine, all]
  split
  · rfl
  · next unselected =>
    rcases holds.covered block started with stayed | ⟨-, selected⟩
    · exact stayed
    · exact absurd selected unselected

/-! ### The method for the nodes -/

/-- The offline calls of `test_hotplug_per_numa_node`. -/
def numaCalls (environment : Environment) (host : Host) : List Nat :=
  (splitNodes host.hasNormalMemory).flatMap fun node =>
    getHotpluggableBlocks (host.nodeListing node) environment.memratio

/-- Some of the calls for a block succeeds. The calls are counted from a number on. -/
def Takes (blocks : List Nat) (calls block : Nat) : Prop :=
  ∃ k, blocks[k]? = some block ∧ succeeds (calls + k) = true

/-- It is the first call, or one of the others. -/
theorem takes_cons (block : Nat) (rest : List Nat) (calls other : Nat) :
    Takes succeeds (block :: rest) calls other ↔
      (other = block ∧ succeeds calls = true) ∨ Takes succeeds rest (calls + 1) other := by
  constructor
  · rintro ⟨k, found, called⟩
    cases k with
    | zero => exact .inl ⟨by simpa using found.symm, called⟩
    | succ k => exact .inr ⟨k, found, by rwa [Nat.add_right_comm]⟩
  · rintro (⟨rfl, called⟩ | ⟨k, found, called⟩)
    · exact ⟨0, rfl, called⟩
    · exact ⟨k + 1, found, by rwa [Nat.add_right_comm] at called⟩

/-- Offlining a list of blocks takes those offline for which a call succeeds.

Proof: by induction on the list. The first call gives its block the state that the others leave
or give it again. -/
theorem offlineEach_machine (blocks : List Nat) (world : World) {other : Nat}
    (there : world.machine other ≠ .absent) :
    let after := forEach (fun block world => .completed (offline succeeds block world)) blocks world
    (Takes succeeds blocks world.calls other → after.world.machine other = .offline) ∧
      (¬ Takes succeeds blocks world.calls other →
        after.world.machine other = world.machine other) := by
  induction blocks generalizing world with
  | nil => simp [Takes, forEach, Run.world]
  | cons block rest inductionHypothesis =>
    have written := writeState_machine succeeds .offline block other world
    have remains : (offline succeeds block world).machine other ≠ .absent := by
      rw [offline, written]
      split
      · decide
      · exact there
    obtain ⟨taken, kept⟩ := inductionHypothesis (offline succeeds block world) remains
    have calls : (offline succeeds block world).calls = world.calls + 1 := rfl
    rw [calls] at taken kept
    simp only [forEach, Run.andThen, takes_cons]
    by_cases later : Takes succeeds rest (world.calls + 1) other
    · exact ⟨fun _ => taken later, fun never => absurd (.inr later) never⟩
    · rw [kept later, offline, written]
      constructor
      · rintro (⟨same, called⟩ | again)
        · rw [if_pos ⟨same, called, there⟩]
        · exact absurd again later
      · intro never
        rw [if_neg fun conditions => never (.inl ⟨conditions.1, conditions.2.1⟩)]

/-- Loops over two lists are one over both. -/
theorem forEach_append (body : Nat → World → Run) (first second : List Nat) (world : World) :
    forEach body (first ++ second) world =
      (forEach body first world).andThen (forEach body second) := by
  induction first generalizing world with
  | nil => rfl
  | cons block rest inductionHypothesis =>
    simp only [List.cons_append, forEach]
    cases body block world with
    | completed after => exact inductionHypothesis after
    | raised after => rfl

/-- The loop over the nodes is one loop over all calls. -/
theorem perNode_eq (memratio : Int) (nodeListing : List Char → List Entry)
    (nodes : List (List Char)) (world : World) :
    testHotplugPerNumaNode succeeds memratio nodeListing nodes world =
      forEach (fun block world => .completed (offline succeeds block world))
        (nodes.flatMap fun node => getHotpluggableBlocks (nodeListing node) memratio) world := by
  induction nodes generalizing world with
  | nil => rfl
  | cons node rest inductionHypothesis =>
    rw [testHotplugPerNumaNode, List.flatMap_cons, forEach_append]
    congr 1
    exact funext inductionHypothesis

/-! ### What comes back -/

/-- The machine that the `drmgr` commands leave. -/
def drmgrLeaves (environment : Environment) (host : Host) : Machine :=
  (testDlparMemHotplug environment.dlparSupported environment.drmgr
    (blocksHotpluggable environment host)
    ⟨(setUp environment host).world.machine, 0⟩).world.machine

/-- When a method is undone by `tearDown`. For the nodes: a block of theirs that was online, and
for which an offline call succeeds, is selected from the whole machine, too. For `drmgr`, which
picks the blocks: one that was online is online again, or is selected, and no absent block is
selected before it. -/
def Restorable (environment : Environment) (host : Host) : Method → Prop
  | .test_hotplug_loop => True
  | .test_hotplug_toggle => True
  | .test_dlpar_mem_hotplug => ∀ block, host.machine block = .online →
      drmgrLeaves environment host block = .online ∨
        block ∈ (blocksHotpluggable environment host).takeWhile fun other =>
          drmgrLeaves environment host other ≠ .absent
  | .test_hotplug_per_numa_node => ∀ block, host.machine block = .online →
      Takes environment.succeeds (numaCalls environment host) 0 block →
        block ∈ blocksHotpluggable environment host

/-- After `test_hotplug_per_numa_node` and `tearDown`. A block for which an offline call succeeds
stays offline if the selection from the whole machine, which `tearDown` goes through, does not have
it. -/
theorem perNode_restores_iff (environment : Environment) (host : Host) :
    (∀ block, host.machine block = .online →
      machineAfter environment host .test_hotplug_per_numa_node block = .online) ↔
    Restorable environment host .test_hotplug_per_numa_node := by
  obtain ⟨kept, presence⟩ := setUp_undisturbed environment host
  have tested (block : Nat) (there : host.machine block ≠ .absent) :=
    offlineEach_machine environment.succeeds (numaCalls environment host)
      ⟨(setUp environment host).world.machine, 0⟩ (mt (presence block).mp there)
  have after (block : Nat) : machineAfter environment host .test_hotplug_per_numa_node block =
      (tearDown environment host (forEach
        (fun block world => .completed (offline environment.succeeds block world))
        (numaCalls environment host)
        ⟨(setUp environment host).world.machine, 0⟩).world).world.machine block := by
    rw [machineAfter, Method.run, perNode_eq]
    rfl
  have all : (blocksHotpluggable environment host).takeWhile (fun other => (forEach
      (fun block world => .completed (offline environment.succeeds block world))
      (numaCalls environment host)
      ⟨(setUp environment host).world.machine, 0⟩).world.machine other ≠ .absent) =
      blocksHotpluggable environment host := by
    refine List.takeWhile_eq_self_iff.mpr fun other member => ?_
    obtain ⟨entry, listed, rfl⟩ := mem_listing_of_mem member
    have there := host.present entry listed
    by_cases takes : Takes environment.succeeds (numaCalls environment host) 0 entry.block
    · simp [(tested entry.block there).1 takes]
    · simpa [(tested entry.block there).2 takes] using mt (presence entry.block).mp there
  have either (block : Nat) (started : host.machine block = .online) :
      machineAfter environment host .test_hotplug_per_numa_node block = .online ↔
        (Takes environment.succeeds (numaCalls environment host) 0 block →
          block ∈ blocksHotpluggable environment host) := by
    obtain ⟨taken, left⟩ := tested block (by simp [started])
    rw [after, tearDown, hotplugAll_machine, all]
    by_cases takes : Takes environment.succeeds (numaCalls environment host) 0 block
    · simp [taken takes, takes]
    · simp [left takes, takes, kept block started]
  exact forall_congr' fun block => forall_congr' (either block)

/-- For every machine, and whatever the environment answers: every block that was online before
the test is online after a test method and `tearDown`, exactly if the method is undone by it.

The outcome of each call, the parameters and the effect of every `drmgr` command are free. Memory
that is added to or taken out of the machine by others in the meantime is not covered. -/
theorem restores_iff (environment : Environment) (host : Host) (method : Method) :
    (∀ block, host.machine block = .online →
      machineAfter environment host method block = .online) ↔
    Restorable environment host method := by
  have ready := setUp_covered environment host
  cases method with
  | test_hotplug_loop =>
    exact iff_of_true (fun block started => (ready.testHotplugLoop environment.succeeds
      environment.iteration).restored started) trivial
  | test_hotplug_toggle =>
    exact iff_of_true (fun block started => (ready.testHotplugToggle environment.succeeds
      environment.iteration).restored started) trivial
  | test_dlpar_mem_hotplug =>
    refine forall_congr' fun block => forall_congr' fun _ => ?_
    have machine := hotplugAll_machine (blocksHotpluggable environment host)
      (testDlparMemHotplug environment.dlparSupported environment.drmgr
        (blocksHotpluggable environment host)
        ⟨(setUp environment host).world.machine, 0⟩).world block
    rw [machineAfter, Method.run, tearDown, machine, ← drmgrLeaves, or_comm]
    split
    · next selected => exact iff_of_true rfl (.inl selected)
    · next unselected => exact (or_iff_right unselected).symm
  | test_hotplug_per_numa_node => exact perNode_restores_iff environment host

/-! ### Two nodes -/

/-- Four blocks, two in each of two nodes. -/
def twoNodes : Host where
  machine _ := .online
  listing := [⟨0, true⟩, ⟨1, true⟩, ⟨2, true⟩, ⟨3, true⟩]
  hasNormalMemory := ['0', ',', '1', '\n']
  nodeListing node := if node = ['0'] then [⟨0, true⟩, ⟨1, true⟩] else [⟨2, true⟩, ⟨3, true⟩]
  present := by
    intro entry _ gone
    exact BlockState.noConfusion gone

/-- Half of the blocks are used, and every call succeeds. -/
def half : Environment where
  memratio := 50
  iteration := 1
  autoOnline := some true
  setUpSucceeds _ := true
  succeeds _ := true
  dlparSupported := false
  drmgr _ machine := machine

/-- The first block of the second node stays offline. -/
theorem second_node_stays_offline :
    ¬ (∀ (environment : Environment) (host : Host) (method : Method) block,
      host.machine block = .online → machineAfter environment host method block = .online) := by
  intro always
  exact absurd (always half twoNodes .test_hotplug_per_numa_node 2 rfl) (by decide)

end AvocadoMisc.MemHotplug.Restore
