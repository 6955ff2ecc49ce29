import Mathlib.Data.Fintype.Defs
import AvocadoMisc.Library.Handoff
import AvocadoMisc.Dwh.IoEffects

/-!
# The hand-off inside dwh

The program is mapped to a ledger of the hand-off between workers and servers: the lists
that the queues represent, the nodes in the hands of the I/O threads, and of a worker
its phase, its slot and the value of its semaphore. Every step of the program is a few
steps of the ledger, provided that a new worker gets a slot that no live worker owns,
that no request is refused and that the two functions which link a node get their lock.

So the invariant of the hand-off holds in every run of such steps, whatever the other
calls answer and whenever a thread sets `EndAllThreads`.
-/

namespace AvocadoMisc.Dwh.HandoffSimulation

open Library.Transitions Library.Handoff Relation
open VerifySettings Queues QueueContents QueueLaws Transfers IoSystem IoEffects

/-- What a worker's place means for the hand-off. Places that differ in counters and statistics only
are one phase. -/
def phase : WorkerPc → Phase Addr
  | .absent => .absent
  | .created | .counted => .fresh
  | .looping => .looping
  | .active => .active
  | .submitting node _ | .admitted node _ => .filling node
  | .waiting node _ | .testing node _ => .waiting node
  | .collecting node _ => .collecting node
  | .closing | .destroying | .finishing => .leaving
  | .released | .returned => .out

variable {W I : Type}

/-- The program as a ledger, with the lists that its queues represent. -/
def ledger (state : System W I) (contents : QueueId → List Addr) :
    Ledger Addr W I Slot QueueId where
  contents := contents
  hand := fun who => (state.ioThreads who).pc.hand
  phase := fun who => phase (state.workers who).pc
  slot := fun who => (state.workers who).slot
  semaphore := fun slot => (state.shared.sems slot).value
  key := state.shared.heap.mySem
  owner := state.nodeOwner
  stopping := state.shared.endAllThreads

/-- No live worker owns the slot. -/
def Unowned (state : System W I) (slot : Slot) : Prop :=
  ∀ who, (phase (state.workers who).pc).live = true → (state.workers who).slot ≠ slot

/-- The slot that a step gives to a new worker. -/
def newSlot : Label W I → Option Slot
  | .main (.createWorker _ slot) => some slot
  | _ => none

/-- A request finds `EndAllIO` clear, and the functions that link a node get their lock. -/
def unrefused (endAllIo : Bool) : Label W I → Bool
  | .worker _ .endIOTest => !endAllIo
  | .worker _ (.enqueue calls) | .io _ (.giveBack calls _) => calls.lock
  | _ => true

/-- The steps that the hand-off allows for. -/
def Careful (state : System W I) (label : Label W I) : Prop :=
  (∀ slot ∈ newSlot label, Unowned state slot) ∧ unrefused state.shared.endAllIo label = true

instance [Fintype W] (state : System W I) (slot : Slot) : Decidable (Unowned state slot) :=
  inferInstanceAs (Decidable (∀ who, (phase (state.workers who).pc).live = true →
    (state.workers who).slot ≠ slot))

instance [Fintype W] (state : System W I) (label : Label W I) : Decidable (Careful state label) :=
  inferInstanceAs (Decidable (_ ∧ _))

section Views

variable [DecidableEq W] [DecidableEq I]

/-- Moving one worker changes one phase. -/
theorem phases_update (workers : W → Worker) (who : W) (worker : Worker) :
    (fun other => phase (Function.update workers who worker other).pc) =
      Function.update (fun other => phase (workers other).pc) who (phase worker.pc) :=
  Function.comp_update (fun worker : Worker => phase worker.pc) workers who worker

/-- A worker that keeps its slot changes none. -/
theorem slots_update (workers : W → Worker) (who : W) (worker : Worker)
    (same : worker.slot = (workers who).slot) :
    (fun other => (Function.update workers who worker other).slot) =
      fun other => (workers other).slot := by
  have moved := Function.comp_update Worker.slot workers who worker
  rw [same] at moved
  exact moved.trans (Function.update_eq_self who fun other => (workers other).slot)

/-- Moving one I/O thread changes one hand. -/
theorem hands_update (threads : I → IOThread) (who : I) (thread : IOThread) :
    (fun other => (Function.update threads who thread other).pc.hand) =
      Function.update (fun other => (threads other).pc.hand) who thread.pc.hand :=
  Function.comp_update (fun thread : IOThread => thread.pc.hand) threads who thread

/-- Writing one semaphore changes one value. -/
theorem values_update (sems : Slot → Sem) (slot : Slot) (sem : Sem) :
    (fun other => (Function.update sems slot sem other).value) =
      Function.update (fun other => (sems other).value) slot sem.value :=
  Function.comp_update Sem.value sems slot sem

omit [DecidableEq I] in
/-- The ledger after a worker's step, from the one before and the shared state after. -/
theorem ledger_worker (state : System W I) {after : System W I} {who : W} {worker : Worker}
    (contents rest : QueueId → List Addr)
    (workers : after.workers = Function.update state.workers who worker)
    (slot : worker.slot = (state.workers who).slot)
    (ioThreads : after.ioThreads = state.ioThreads) :
    ledger after rest =
      { ledger state contents with
        contents := rest
        phase := Function.update (ledger state contents).phase who (phase worker.pc)
        semaphore := fun slot => (after.shared.sems slot).value
        key := after.shared.heap.mySem
        owner := after.nodeOwner
        stopping := after.shared.endAllThreads } := by
  simp only [ledger, workers, ioThreads, phases_update, slots_update _ _ _ slot]

omit [DecidableEq W] in
/-- The same for an I/O thread's step. -/
theorem ledger_io (state : System W I) {after : System W I} {who : I} {thread : IOThread}
    (contents rest : QueueId → List Addr)
    (threads : after.ioThreads = Function.update state.ioThreads who thread)
    (workers : after.workers = state.workers) :
    ledger after rest =
      { ledger state contents with
        contents := rest
        hand := Function.update (ledger state contents).hand who thread.pc.hand
        semaphore := fun slot => (after.shared.sems slot).value
        key := after.shared.heap.mySem
        owner := after.nodeOwner
        stopping := after.shared.endAllThreads } := by
  simp only [ledger, threads, workers, hands_update]

end Views

/-! ### Steps that move nothing but phases -/

section Moves

variable [DecidableEq W] [DecidableEq I]

/-- A ledger may start stopping. -/
theorem may_stop (l : Ledger Addr W I Slot QueueId) (stopping : Bool)
    (grows : l.stopping = true → stopping = true) :
    ReflTransGen (Ledger.Step .done) l { l with stopping := stopping } := by
  by_cases same : l.stopping = stopping
  · subst stopping
    exact .refl
  · have started : stopping = true := by
      cases before : l.stopping <;> simp_all
    rw [started]
    exact .single .stop

/-- Apart from the threads, only `EndAllThreads` may have changed. -/
structure Quiet (state after : System W I) : Prop where
  values : ∀ slot, (after.shared.sems slot).value = (state.shared.sems slot).value
  key : after.shared.heap.mySem = state.shared.heap.mySem
  owner : after.nodeOwner = state.nodeOwner
  grows : state.shared.endAllThreads = true → after.shared.endAllThreads = true

/-- A quiet step of main leaves the ledger. -/
theorem Quiet.main {state after : System W I} (quiet : Quiet state after)
    (workers : after.workers = state.workers) (ioThreads : after.ioThreads = state.ioThreads)
    (contents : QueueId → List Addr) :
    ReflTransGen (Ledger.Step .done) (ledger state contents) (ledger after contents) := by
  have stopped := may_stop (ledger state contents) after.shared.endAllThreads quiet.grows
  have same : ledger after contents =
      { ledger state contents with stopping := after.shared.endAllThreads } := by
    simp only [ledger, workers, ioThreads, quiet.values, quiet.key, quiet.owner]
  exact same ▸ stopped

/-- A quiet step of a worker is at most a move between phases. -/
theorem Quiet.worker {state after : System W I} (quiet : Quiet state after) {who : W}
    {worker : Worker} (workers : after.workers = Function.update state.workers who worker)
    (slot : worker.slot = (state.workers who).slot)
    (ioThreads : after.ioThreads = state.ioThreads)
    (moves : phase worker.pc = phase (state.workers who).pc ∨
      Phase.Shift after.shared.endAllThreads (phase (state.workers who).pc) (phase worker.pc))
    (contents : QueueId → List Addr) :
    ReflTransGen (Ledger.Step .done) (ledger state contents) (ledger after contents) := by
  have stopped := may_stop (ledger state contents) after.shared.endAllThreads quiet.grows
  have same : ledger after contents = Ledger.shift who (phase worker.pc)
      { ledger state contents with stopping := after.shared.endAllThreads } := by
    rw [ledger_worker state contents contents workers slot ioThreads]
    simp only [Ledger.shift, quiet.values, quiet.key, quiet.owner]
    rfl
  rcases moves with unmoved | shifts
  · have stays : Ledger.shift who (phase worker.pc)
        { ledger state contents with stopping := after.shared.endAllThreads } =
        { ledger state contents with stopping := after.shared.endAllThreads } := by
      rw [unmoved]
      simp only [Ledger.shift, ledger, Function.update_eq_self]
    rw [same, stays]
    exact stopped
  · rw [same]
    exact stopped.tail (.shift who (phase worker.pc) shifts)

/-- A quiet step of an I/O thread that keeps its hand leaves the ledger. -/
theorem Quiet.io {state after : System W I} (quiet : Quiet state after) {who : I}
    {thread : IOThread} (threads : after.ioThreads = Function.update state.ioThreads who thread)
    (workers : after.workers = state.workers)
    (hand : thread.pc.hand = (state.ioThreads who).pc.hand) (contents : QueueId → List Addr) :
    ReflTransGen (Ledger.Step .done) (ledger state contents) (ledger after contents) := by
  have stopped := may_stop (ledger state contents) after.shared.endAllThreads quiet.grows
  have same : ledger after contents =
      { ledger state contents with stopping := after.shared.endAllThreads } := by
    rw [ledger_io state contents contents threads workers, hand]
    simp only [quiet.values, quiet.key, quiet.owner]
    exact congrArg (fun hands => { ledger state contents with
      hand := hands, stopping := after.shared.endAllThreads })
      (Function.update_eq_self who (ledger state contents).hand)
  exact same ▸ stopped

/-! ### Steps that move a node -/

/-- A mutex that a step leaves held was held before, unless `EndAllThreads` is set. -/
def Unlocks (g after : Shared) : Prop :=
  ∀ id, (after.queues id).locked = true → (g.queues id).locked = true ∨ after.endAllThreads = true

/-- A step that leaves the queues leaves the mutexes. -/
theorem unlocks_of_queues {g after : Shared} (queues : after.queues = g.queues) :
    Unlocks g after := fun id held => Or.inl (by rwa [queues] at held)

/-- A critical section only leaves its own mutex held. -/
theorem unlocks_of_passed {id : QueueId} {calls : LockCalls} {g after : Shared}
    (passed : Passed id calls g after) : Unlocks g after := by
  intro other held
  by_cases same : other = id
  · subst other
    exact passed.held held
  · rw [passed.others other same] at held
    exact Or.inl held

/-- A step of the program is some steps of its ledger, its queues still represent lists,
and its critical section is over. -/
def Simulates (state after : System W I) (contents : QueueId → List Addr) : Prop :=
  ∃ rest, Represents after.shared rest ∧ Unlocks state.shared after.shared ∧
    ReflTransGen (Ledger.Step .done) (ledger state contents) (ledger after rest)

/-- A step of the ledger, after which the program may have set `EndAllThreads`. -/
theorem simulates_of_step {state after : System W I} {contents rest : QueueId → List Addr}
    {l : Ledger Addr W I Slot QueueId} (represented : Represents after.shared rest)
    (unlocks : Unlocks state.shared after.shared)
    (taken : Ledger.Step .done (ledger state contents) l)
    (reached : ledger after rest = { l with stopping := after.shared.endAllThreads })
    (grows : l.stopping = true → after.shared.endAllThreads = true) :
    Simulates state after contents := by
  refine ⟨rest, represented, unlocks, ?_⟩
  rw [reached]
  exact .trans (.single taken) (may_stop l _ grows)

/-- A critical section leaves the semaphores' keys. -/
theorem passed_key {id : QueueId} {calls : LockCalls} {g after : Shared}
    (passed : Passed id calls g after) : after.heap.mySem = g.heap.mySem := by
  rw [passed.heap]

section NodeSteps

variable {state : System W I} {contents : QueueId → List Addr} {who : W} {node : Addr}
  {iotype : Direction}

/-- `sem_init` of a new worker. -/
theorem initialises_simulates (represented : Represents state.shared contents)
    (place : (state.workers who).pc = .counted) :
    Simulates state ({ state with
      shared.sems := Function.update state.shared.sems (state.workers who).slot
        ⟨true, 0⟩ }.setWorker who
          { state.workers who with pc := .looping, memQueued := false }) contents := by
  have fresh : (ledger state contents).phase who = .fresh := by simp only [ledger, place, phase]
  refine simulates_of_step (represented.frame rfl rfl) (unlocks_of_queues rfl)
    (.init who fresh) ?_ id
  refine Eq.trans (ledger_worker state contents contents rfl rfl rfl) ?_
  simp only [System.setWorker, values_update]
  rfl

/-- Activity 7 allocates a node. The new node is on no queue, because nobody owns it. -/
theorem requests_simulates (represented : Represents state.shared contents)
    (sound : (ledger state contents).Sound .done) (place : (state.workers who).pc = .active)
    (free : state.nodeOwner node = none) (ioLen : BitVec 64) :
    Simulates state ({ state with
      shared := fillNode node (state.workers who).slot (state.workers who).myMem ioLen
        state.shared
      nodeOwner := Function.update state.nodeOwner node (some who) }.setWorker who
        { state.workers who with pc := .submitting node iotype }) contents := by
  have active : (ledger state contents).phase who = .active := by simp only [ledger, place, phase]
  have absent (id : QueueId) : node ∉ contents id := fun listed =>
    sound.outside free (Or.inl ⟨id, listed⟩)
  refine simulates_of_step (represented.outside node absent ?_ ?_ rfl) (unlocks_of_queues rfl)
    (.fill who node active free) ?_ id
  · intro other differs
    simp [System.setWorker, fillNode, setNext, setPrev, differs]
  · intro other differs
    simp [System.setWorker, fillNode, setNext, setPrev, differs]
  · exact Eq.trans (ledger_worker state contents contents rfl rfl rfl) rfl

/-- An admitted request is linked into its queue. -/
theorem enqueues_simulates {calls : LockCalls} {queued : Bool} {shared : Shared}
    (represented : Represents state.shared contents) (sound : (ledger state contents).Sound .done)
    (place : (state.workers who).pc = .admitted node iotype) (lock : calls.lock = true)
    (ran : queueIOAdmitted iotype.queue calls (some node) state.shared = some (queued, shared))
    (stats : Stats) :
    Simulates state ({ state with shared := shared, stats := stats }.setWorker who
      { state.workers who with pc := .waiting node iotype, memQueued := true }) contents := by
  have filling : (ledger state contents).phase who = .filling node := by
    simp only [ledger, place, phase]
  have stands := sound.stands who
  rw [filling] at stands
  have fresh (id : QueueId) : node ∉ contents id := fun listed =>
    stands.2.2.2.2 (Or.inl ⟨id, listed⟩)
  rcases queueIOAdmitted_law represented fresh ran with
    ⟨unlocked, _⟩ | ⟨_, _, appended, passed⟩
  · simp [lock] at unlocked
  · refine simulates_of_step appended (unlocks_of_passed passed)
      (.submit who node iotype.queue filling) ?_ passed.stopping
    refine Eq.trans (ledger_worker state contents _ rfl rfl rfl) ?_
    simp only [System.setWorker, passed_key passed, passed.sems]
    rfl

/-- A successful `sem_trywait`. The node is keyed with the worker's own semaphore. -/
theorem notices_simulates {slot : Slot} (represented : Represents state.shared contents)
    (sound : (ledger state contents).Sound .done)
    (place : (state.workers who).pc = .waiting node iotype)
    (key : state.shared.heap.mySem node = some slot)
    (posted : (state.shared.sems slot).value ≠ 0) :
    Simulates state ({ state with
      shared.sems := Function.update state.shared.sems slot
        { state.shared.sems slot with
          value := (state.shared.sems slot).value - 1 } }.setWorker who
            { state.workers who with pc := .collecting node iotype }) contents := by
  have waiting : (ledger state contents).phase who = .waiting node := by
    simp only [ledger, place, phase]
  obtain rfl : slot = (state.workers who).slot :=
    Option.some.inj (key.symm.trans (sound.pending (Or.inl waiting)).2.2)
  refine simulates_of_step (represented.frame rfl rfl) (unlocks_of_queues rfl)
    (.notice who node waiting posted) ?_ id
  refine Eq.trans (ledger_worker state contents contents rfl rfl rfl) ?_
  simp only [System.setWorker, values_update]
  rfl

omit [DecidableEq W] [DecidableEq I] in
/-- A worker that collects has its node on the done queue. -/
theorem collecting_listed (sound : (ledger state contents).Sound .done)
    (place : (state.workers who).pc = .collecting node iotype) :
    (ledger state contents).phase who = .collecting node ∧ node ∈ contents .done := by
  have collecting : (ledger state contents).phase who = .collecting node := by
    simp only [ledger, place, phase]
  have stands := sound.stands who
  rw [collecting] at stands
  exact ⟨collecting, stands.2.2.2⟩

/-- `getIODoneNode` finds the worker's node. -/
theorem collects_simulates {calls : LockCalls} {shared : Shared}
    (represented : Represents state.shared contents) (sound : (ledger state contents).Sound .done)
    (place : (state.workers who).pc = .collecting node iotype)
    (ran : getIODoneNode calls (some node) state.shared = some (true, shared)) (stats : Stats) :
    Simulates state ({ state with
      shared := shared
      stats := stats
      nodeOwner := Function.update state.nodeOwner node none }.setWorker who
        { state.workers who with pc := .looping, memQueued := false }) contents := by
  obtain ⟨collecting, listed⟩ := collecting_listed sound place
  rcases getIODoneNode_law represented listed ran with ⟨_, impossible, _⟩ | ⟨_, _, rest, passed⟩
  · cases impossible
  · refine simulates_of_step rest (unlocks_of_passed passed) (.retire who node collecting) ?_
      passed.stopping
    refine Eq.trans (ledger_worker state contents _ rfl rfl rfl) ?_
    simp only [System.setWorker, passed_key passed, passed.sems]
    rfl

/-- It fails only without the lock. -/
theorem loses_simulates {calls : LockCalls} {shared : Shared}
    (represented : Represents state.shared contents) (sound : (ledger state contents).Sound .done)
    (place : (state.workers who).pc = .collecting node iotype)
    (ran : getIODoneNode calls (some node) state.shared = some (false, shared)) :
    Simulates state ({ state with shared := endAllIf true shared }.setWorker who
      { state.workers who with pc := .looping }) contents := by
  obtain ⟨_, listed⟩ := collecting_listed sound place
  rcases getIODoneNode_law represented listed ran with ⟨_, _, rfl⟩ | ⟨_, impossible, _⟩
  · refine ⟨contents, represented.frame rfl rfl, unlocks_of_queues rfl, ?_⟩
    have quiet : Quiet state ({ state with shared := endAllIf true state.shared }.setWorker who
        { state.workers who with pc := .looping }) :=
      ⟨fun _ => rfl, rfl, rfl, fun stopping => by simp [System.setWorker, endAllIf, stopping]⟩
    refine quiet.worker rfl rfl rfl (Or.inr ?_) contents
    simp [place, phase, Phase.Shift, System.setWorker, endAllIf]
  · cases impossible

/-- From an empty queue an I/O thread takes nothing, nor without the lock. -/
theorem misses_simulates {thread : I} {activity : Direction} {calls : LockCalls} {shared : Shared}
    (represented : Represents state.shared contents)
    (place : (state.ioThreads thread).pc = .active)
    (ran : getIONode activity calls state.shared = some (none, shared)) :
    Simulates state ({ state with shared := shared }.setIo thread
      { state.ioThreads thread with pc := .looping }) contents := by
  have free : (ledger state contents).hand thread = none := by
    simp only [ledger, place, IOPc.hand]
  have request : activity.queue ≠ QueueId.done := by cases activity <;> simp [Direction.queue]
  rcases getIONode_law represented ran with ⟨_, _, rfl⟩ | ⟨_, first, rest, passed⟩
  · have quiet : Quiet state
        (state.setIo thread { state.ioThreads thread with pc := .looping }) :=
      ⟨fun _ => rfl, rfl, rfl, id⟩
    exact ⟨contents, represented, unlocks_of_queues rfl,
      quiet.io rfl rfl (by rw [place]; rfl) contents⟩
  · refine simulates_of_step rest (unlocks_of_passed passed)
      (.take thread activity.queue free request) ?_ passed.stopping
    refine Eq.trans (ledger_io state contents _ rfl rfl) ?_
    simp only [System.setIo, passed.sems, passed_key passed, IOPc.hand, first]
    rfl

/-- Otherwise it takes the first node of a request queue. -/
theorem takes_simulates {thread : I} {activity : Direction} {calls : LockCalls} {shared : Shared}
    (represented : Represents state.shared contents)
    (place : (state.ioThreads thread).pc = .active)
    (ran : getIONode activity calls state.shared = some (some node, shared)) (stats : Stats) :
    Simulates state ({ state with
      shared := setFd node (state.ioThreads thread).myFd shared
      stats := stats }.setIo thread
        { state.ioThreads thread with pc := .holding node activity }) contents := by
  have free : (ledger state contents).hand thread = none := by
    simp only [ledger, place, IOPc.hand]
  have request : activity.queue ≠ QueueId.done := by cases activity <;> simp [Direction.queue]
  rcases getIONode_law represented ran with ⟨_, impossible, _⟩ | ⟨_, first, rest, passed⟩
  · cases impossible
  · have unlocks : Unlocks state.shared (setFd node (state.ioThreads thread).myFd shared) :=
      fun id held => unlocks_of_passed passed id held
    refine simulates_of_step (rest.frame rfl rfl) unlocks
      (.take thread activity.queue free request) ?_ passed.stopping
    refine Eq.trans (ledger_io state contents _ rfl rfl) ?_
    simp only [System.setIo, setFd, passed.sems, passed_key passed, IOPc.hand, first]
    rfl

omit [DecidableEq W] [DecidableEq I] in
/-- Waking the owner posts the node's key, or sets `EndAllThreads`. -/
theorem wakeOwner_values (post : Bool) (node : Addr) (g : Shared) :
    (fun slot => ((wakeOwner post node g).sems slot).value) =
      if post then Ledger.post (g.heap.mySem node) (fun slot => (g.sems slot).value)
      else fun slot => (g.sems slot).value := by
  unfold wakeOwner semPost
  cases g.heap.mySem node <;> cases post <;>
    simp [Ledger.post, values_update]

omit [DecidableEq W] [DecidableEq I] in
/-- Otherwise it may only set `EndAllThreads`. -/
theorem wakeOwner_frame (post : Bool) (node : Addr) (g : Shared) :
    (wakeOwner post node g).heap = g.heap ∧ (wakeOwner post node g).queues = g.queues ∧
      (wakeOwner post node g).endAllIo = g.endAllIo ∧
      (g.endAllThreads = true → (wakeOwner post node g).endAllThreads = true) := by
  unfold wakeOwner semPost
  cases g.heap.mySem node <;> cases post <;> simp

/-- An I/O thread gives its node back and wakes the owner. -/
theorem givesBack_simulates {thread : I} {activity : Direction} {calls : LockCalls} {post : Bool}
    {queued : Bool} {shared : Shared} (represented : Represents state.shared contents)
    (sound : (ledger state contents).Sound .done)
    (place : (state.ioThreads thread).pc = .performed node activity) (lock : calls.lock = true)
    (ran : queueIODone calls post (some node) state.shared = some (queued, shared)) :
    Simulates state ({ state with shared := endAllIf (!queued) shared }.setIo thread
      { state.ioThreads thread with pc := .looping }) contents := by
  have held : (ledger state contents).hand thread = some node := by
    simp only [ledger, place, IOPc.hand]
  have fresh (id : QueueId) : node ∉ contents id := sound.placed.handApart thread id node held
  rcases queueIODone_law represented fresh ran with
    ⟨unlocked, _⟩ | ⟨_, _, linked, rfl, appended, passed⟩
  · simp [lock] at unlocked
  · obtain ⟨heap, queues, _, stopping⟩ := wakeOwner_frame post node linked
    have unlocks : Unlocks state.shared (endAllIf (!queued) (wakeOwner post node linked)) := by
      intro id locked
      simp only [endAllIf, queues] at locked
      refine (unlocks_of_passed passed id locked).imp_right fun stops => ?_
      simp only [endAllIf, stopping stops, Bool.true_or]
    refine simulates_of_step ((represents_wakeOwner appended post node).frame rfl rfl) unlocks
      (.giveBack thread node post held) ?_ ?_
    · refine Eq.trans (ledger_io state contents _ rfl rfl) ?_
      simp only [System.setIo, endAllIf, wakeOwner_values, heap, passed_key passed, passed.sems]
      rfl
    · intro stops
      simp only [System.setIo, endAllIf, stopping (passed.stopping stops), Bool.true_or]

end NodeSteps

/-! ### Every step -/

section AllSteps

variable {settings : Settings} {state after : System W I} {contents : QueueId → List Addr}

/-- A critical section around an emptiness test is quiet. -/
theorem sampled {id : QueueId} {calls : LockCalls} {empty : Bool} {shared : Shared}
    (represented : Represents state.shared contents)
    (ran : isQEmpty id calls state.shared = some (empty, shared)) (main : MainPc) :
    Simulates state { state with shared := shared, main := main } contents := by
  obtain ⟨_, rest, passed⟩ := isQEmpty_law represented ran
  have quiet : Quiet state { state with shared := shared, main := main } :=
    ⟨fun slot => by rw [passed.sems], passed_key passed, rfl, passed.stopping⟩
  exact ⟨contents, rest, unlocks_of_passed passed, quiet.main rfl rfl contents⟩

/-- The steps of main. Only the creation of a worker is seen by the ledger. -/
theorem main_simulates {act : MainAct W I} (represented : Represents state.shared contents)
    (careful : Careful state (.main act)) (taken : mainStep state act = some after) :
    Simulates state after contents := by
  cases act with
  | createIOThread who =>
    simp only [mainStep] at taken
    split_ifs at taken with place
    obtain rfl := Option.some.inj taken
    have quiet : Quiet state (state.setIo who ⟨.created, -1⟩) := ⟨fun _ => rfl, rfl, rfl, id⟩
    exact ⟨contents, represented, unlocks_of_queues rfl,
      quiet.io rfl rfl (by rw [place.2]; rfl) contents⟩
  | createWorker who slot =>
    simp only [mainStep] at taken
    split_ifs at taken with place
    obtain rfl := Option.some.inj taken
    have absent : (ledger state contents).phase who = .absent := by
      simp only [ledger, place.2, phase]
    refine simulates_of_step (represented.frame rfl rfl) (unlocks_of_queues rfl)
      (.create who slot absent (careful.1 slot rfl)) ?_ id
    simp only [ledger, System.setWorker, phases_update, Ledger.create]
    exact congrArg (fun slots => { ledger state contents with
      phase := Function.update (ledger state contents).phase who .fresh, slot := slots })
      (Function.comp_update Worker.slot state.workers who _)
  | endIo =>
    simp only [mainStep] at taken
    split_ifs at taken with place
    obtain rfl := Option.some.inj taken
    have quiet : Quiet state { state with shared.endAllIo := true, main := .testWorkers } :=
      ⟨fun _ => rfl, rfl, rfl, id⟩
    exact ⟨contents, represented.frame rfl rfl, unlocks_of_queues rfl,
      quiet.main rfl rfl contents⟩
  | testWorkers | breakThreads =>
    simp only [mainStep] at taken
    split_ifs at taken with place <;> obtain rfl := Option.some.inj taken
    all_goals exact ⟨contents, represented, unlocks_of_queues rfl,
      Quiet.main ⟨fun _ => rfl, rfl, rfl, id⟩ rfl rfl contents⟩
  | sample calls | breakSample calls =>
    simp only [mainStep] at taken
    split at taken
    · obtain ⟨⟨empty, shared⟩, ran, rfl⟩ := Option.map_eq_some_iff.mp taken
      exact sampled represented ran _
    · simp at taken
  | endThreads =>
    simp only [mainStep] at taken
    split_ifs at taken with place
    obtain rfl := Option.some.inj taken
    have quiet : Quiet state { state with
        shared.endAllThreads := true
        main := .ended (state.main = .drained) } := ⟨fun _ => rfl, rfl, rfl, fun _ => rfl⟩
    exact ⟨contents, represented.frame rfl rfl, unlocks_of_queues rfl,
      quiet.main rfl rfl contents⟩

omit [DecidableEq W] [DecidableEq I] in
/-- A worker that moves on stays in its phase or makes a shift. A refusal is excluded. -/
theorem shifts_of_moves {who : W} {act : WorkerAct} {pc : WorkerPc} {memQueued : Bool}
    (move : Moves state.shared (state.workers who) act pc memQueued)
    (careful : Careful state (.worker who act)) :
    phase pc = phase (state.workers who).pc ∨
      Phase.Shift state.shared.endAllThreads (phase (state.workers who).pc) (phase pc) := by
  cases move with
  | refuse node iotype place stopped =>
    have running : state.shared.endAllIo = false := by simpa [unrefused] using careful.2
    simp [running] at stopped
  | start place running => exact Or.inr (by simp [place, phase, Phase.Shift, running])
  | stop place | idle _ place => exact Or.inr (by simp [place, phase, Phase.Shift])
  | giveUp node iotype place stopping =>
    exact Or.inr (by simp [place, phase, Phase.Shift, stopping])
  | release place => exact Or.inr (by simp [place, phase, Phase.Shift])
  | count place | enter node iotype place _ | miss _ node iotype place | retry node iotype place
  | keep place _ | uncount place => exact Or.inl (by simp [place, phase])

/-- A worker's step that leaves the queues, the values of the semaphores and the nodes. -/
theorem inner_simulates {who : W} {worker : Worker} (represented : Represents state.shared contents)
    (quiet : Quiet state after)
    (workers : after.workers = Function.update state.workers who worker)
    (slot : worker.slot = (state.workers who).slot)
    (ioThreads : after.ioThreads = state.ioThreads)
    (links : after.shared.heap.links = state.shared.heap.links)
    (queues : after.shared.queues = state.shared.queues)
    (moves : phase worker.pc = phase (state.workers who).pc ∨
      Phase.Shift after.shared.endAllThreads (phase (state.workers who).pc) (phase worker.pc)) :
    Simulates state after contents :=
  ⟨contents, represented.frame links queues, unlocks_of_queues queues,
    quiet.worker workers slot ioThreads moves contents⟩

/-- `sem_destroy` leaves the value of the semaphore. -/
theorem destroyed_value (g : Shared) (slot : Slot) (initialised : Bool) (other : Slot) :
    (Function.update g.sems slot { g.sems slot with initialised := initialised } other).value =
      (g.sems other).value := by
  by_cases same : other = slot
  · subst same
    rw [Function.update_self]
  · rw [Function.update_of_ne same]

/-- The steps of a worker are steps of the hand-off, or leave it alone. A refused request is none of
these, so `Careful` leaves it out. -/
theorem worker_simulates {who : W} {act : WorkerAct}
    (represented : Represents state.shared contents)
    (sound : (ledger state contents).Sound .done) (careful : Careful state (.worker who act))
    (taken : workerStep settings state who act = some after) : Simulates state after contents := by
  have quiet (next : System W I) (shared : next.shared = state.shared)
      (owner : next.nodeOwner = state.nodeOwner) : Quiet state next :=
    ⟨fun _ => by rw [shared], by rw [shared], owner, fun stopping => by rw [shared, stopping]⟩
  cases workerStep_effect taken with
  | moves _ nThreads pc sz memQueued endMe move =>
    exact inner_simulates represented (quiet _ rfl rfl) rfl rfl rfl rfl rfl
      (shifts_of_moves move careful)
  | initialises place => exact initialises_simulates represented place
  | fails place =>
    refine inner_simulates represented ⟨fun _ => rfl, rfl, rfl, fun stopping => ?_⟩ rfl rfl rfl
      rfl rfl (Or.inr ?_)
    · simp [System.setWorker, endAllIf]
    · simp [place, phase, Phase.Shift]
  | allocates _ mem sz place without free =>
    exact inner_simulates represented (quiet _ rfl rfl) rfl rfl rfl rfl rfl
      (Or.inr (by simp [place, phase, Phase.Shift]))
  | frees _ mem pc sz has place =>
    refine inner_simulates represented (quiet _ rfl rfl) rfl rfl rfl rfl rfl ?_
    rcases place with ⟨place, rfl⟩ | ⟨place, _, rfl⟩
    · exact Or.inr (by simp [place, phase, Phase.Shift])
    · exact Or.inl (by simp [place, phase])
  | requests _ node iotype ioLen place has free =>
    exact requests_simulates represented sound place free ioLen
  | enqueues calls node iotype queued shared stats place ran =>
    exact enqueues_simulates represented sound place careful.2 ran stats
  | notices succeeds node iotype slot place key posted =>
    exact notices_simulates represented sound place key posted
  | collects calls node iotype shared stats place ran =>
    exact collects_simulates represented sound place ran stats
  | loses calls node iotype shared place ran =>
    exact loses_simulates represented sound place ran
  | destroys succeeds slot own place =>
    refine inner_simulates represented ⟨destroyed_value state.shared slot _, rfl, rfl, ?_⟩ rfl rfl
      rfl rfl rfl (Or.inl (by simp [place, phase]))
    intro stopping
    simp [System.setWorker, endAllIf, stopping]

/-- An I/O thread's step that keeps its hand, the queues and the nodes' links. -/
theorem handless_simulates {who : I} {thread : IOThread}
    (represented : Represents state.shared contents) (quiet : Quiet state after)
    (threads : after.ioThreads = Function.update state.ioThreads who thread)
    (workers : after.workers = state.workers)
    (hand : thread.pc.hand = (state.ioThreads who).pc.hand)
    (links : after.shared.heap.links = state.shared.heap.links)
    (queues : after.shared.queues = state.shared.queues) : Simulates state after contents :=
  ⟨contents, represented.frame links queues, unlocks_of_queues queues,
    quiet.io threads workers hand contents⟩

/-- The steps of an I/O thread. -/
theorem io_simulates {who : I} {act : IOAct} (represented : Represents state.shared contents)
    (sound : (ledger state contents).Sound .done) (careful : Careful state (.io who act))
    (taken : ioStep state who act = some after) : Simulates state after contents := by
  cases ioStep_effect taken with
  | moves _ nThreads nIOThreads endAllThreads thread before now grows =>
    exact handless_simulates represented ⟨fun _ => rfl, rfl, rfl, grows⟩ rfl rfl
      (now.trans before.symm) rfl rfl
  | misses activity calls shared place ran => exact misses_simulates represented place ran
  | takes activity calls node shared stats place ran =>
    exact takes_simulates represented place ran stats
  | performs _ node activity ioDone failed stats place =>
    refine handless_simulates represented ⟨fun _ => rfl, rfl, rfl, fun stopping => ?_⟩ rfl rfl
      (by simp [place, IOPc.hand]) rfl rfl
    simp [System.setIo, endAllIf, setFd, stopping]
  | givesBack calls post node activity queued shared place ran =>
    exact givesBack_simulates represented sound place careful.2 ran

/-- The queues represent lists under which the ledger is sound, and a held mutex means
that the threads are ending. -/
structure Handed (state : System W I) (contents : QueueId → List Addr) : Prop where
  represented : Represents state.shared contents
  sound : (ledger state contents).Sound .done
  held : ∀ id, (state.shared.queues id).locked = true → state.shared.endAllThreads = true

/-- Every careful step keeps this, through the steps of the ledger. -/
theorem Handed.step {label : Label W I} (handed : Handed state contents)
    (careful : Careful state label) (taken : step settings state label = some after) :
    ∃ rest, Handed after rest := by
  have simulated : Simulates state after contents := by
    cases label with
    | main act => exact main_simulates handed.represented careful taken
    | worker who act => exact worker_simulates handed.represented handed.sound careful taken
    | io who act => exact io_simulates handed.represented handed.sound careful taken
  obtain ⟨rest, represents, unlocks, taken⟩ := simulated
  refine ⟨rest, represents, handed.sound.steps taken, fun id locked => ?_⟩
  rcases unlocks id locked with before | stops
  · exact Ledger.stopping_of_steps taken (handed.held id before)
  · exact stops

/-- So it holds in every run of careful steps. -/
theorem reachable_handed (reached : Reachable (IoSystem.step settings) Careful Initial state) :
    ∃ contents, Handed state contents := by
  apply reached.invariant (fun state => ∃ contents, Handed state contents)
  · rintro _ rfl
    refine ⟨fun _ => [], initialShared_represents, ?_, fun _ held => absurd held Bool.false_ne_true⟩
    exact Ledger.sound_of_empty (fun _ => rfl) (fun _ => rfl) (fun _ => rfl) (fun _ => rfl)
  · rintro before label after _ ⟨contents, handed⟩ careful taken
    exact handed.step careful taken

end AllSteps

end Moves

end AvocadoMisc.Dwh.HandoffSimulation
