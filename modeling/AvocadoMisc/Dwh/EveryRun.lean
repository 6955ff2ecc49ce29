import Mathlib.Data.Sum.Basic
import AvocadoMisc.Library.Losses
import AvocadoMisc.Dwh.CompletionHandoff

/-!
# The hand-off in every run

A run may shut down at any time, and every call may fail. Three steps then lose a node: a
request that finds `EndAllIO` set, a request function that does not get its lock, and
`queueIODone` without its lock. The program does not note any of them.

To the invariant of the hand-off a lost node is in the hand of a thread that never moves.
So the program with such a thread for every address keeps the invariant, and what follows
from it holds in every run in which a new worker gets a semaphore that no live one owns.
-/

namespace AvocadoMisc.Dwh.EveryRun

open Library.Transitions Library.Handoff
open VerifySettings Sizing Queues QueueContents QueueLaws Transfers IoSystem IoEffects
open HandoffSimulation CompletionHandoff

variable {W I : Type}

/-- A new worker gets a semaphore that no live worker owns. -/
def FreshSlots (state : System W I) (label : Label W I) : Prop :=
  ∀ slot ∈ newSlot label, Unowned state slot

instance [Fintype W] (state : System W I) (label : Label W I) :
    Decidable (FreshSlots state label) :=
  inferInstanceAs (Decidable (∀ slot ∈ newSlot label, Unowned state slot))

/-- The thread that keeps an address: it has the node when the node is lost. -/
def keeper (lost : Addr → Bool) (node : Addr) : IOThread :=
  if lost node then ⟨.holding node .read, -1⟩ else ⟨.absent, -1⟩

/-- The program with the threads that keep the lost nodes. -/
def keeping (lost : Addr → Bool) (state : System W I) : System W (I ⊕ Addr) :=
  { state with ioThreads := Sum.elim state.ioThreads (keeper lost) }

/-- A step, with the I/O threads among more. -/
def among : Label W I → Label W (I ⊕ Addr)
  | .main (.createIOThread who) => .main (.createIOThread (.inl who))
  | .main (.createWorker who slot) => .main (.createWorker who slot)
  | .main .endIo => .main .endIo
  | .main .testWorkers => .main .testWorkers
  | .main (.sample calls) => .main (.sample calls)
  | .main .breakThreads => .main .breakThreads
  | .main (.breakSample calls) => .main (.breakSample calls)
  | .main .endThreads => .main .endThreads
  | .worker who act => .worker who act
  | .io who act => .io (.inl who) act

section Commutes

variable [DecidableEq W] [DecidableEq I] {settings : Settings} {state after : System W I}
  {lost : Addr → Bool}

omit [DecidableEq W] in
/-- The I/O threads do not see the keepers. -/
theorem keeping_setIo (who : I) (thread : IOThread) (state : System W I) :
    keeping lost (state.setIo who thread) = (keeping lost state).setIo (.inl who) thread := by
  unfold keeping System.setIo
  simp only [Sum.elim_update_left]

/-- Main takes the same steps among the keepers. -/
theorem main_keeping {act : MainAct W I} :
    step settings (keeping lost state) (among (.main act)) =
      (mainStep state act).map (keeping lost) := by
  have place : (keeping lost state).main = state.main := rfl
  have shared : (keeping lost state).shared = state.shared := rfl
  cases act with
  | createIOThread who =>
    simp only [among, step, mainStep, apply_ite (Option.map (keeping lost)), Option.map_some,
      Option.map_none, keeping_setIo]
    rfl
  | createWorker who slot | endIo | testWorkers | breakThreads | endThreads =>
    simp only [among, step, mainStep, apply_ite (Option.map (keeping lost)), Option.map_some,
      Option.map_none]
    rfl
  | sample calls | breakSample calls =>
    cases here : state.main <;>
      simp only [among, step, mainStep, place, shared, here, Option.map_map, Function.comp_def,
        Option.map_none]
    rfl

omit [DecidableEq I] in
/-- So do the workers: with or without the threads that hold the lost nodes they take the same
steps, to states that differ in these threads only. -/
theorem worker_keeping {who : W} {act : WorkerAct} :
    workerStep settings (keeping lost state) who act =
      (workerStep settings state who act).map (keeping lost) := by
  have workers : (keeping lost state).workers = state.workers := rfl
  have shared : (keeping lost state).shared = state.shared := rfl
  cases act with
  | count | semInit | loopTest | endMe | idle | semDestroy | release | uncount =>
    simp only [workerStep, apply_ite (Option.map (keeping lost)), Option.map_some, Option.map_none]
    rfl
  | allocate memUsed draw result | request result draw iotype =>
    cases result <;>
      simp only [workerStep, apply_ite (Option.map (keeping lost)), Option.map_some,
        Option.map_none] <;>
      rfl
  | free =>
    cases held : (state.workers who).myMem <;>
      simp only [workerStep, workers, held, apply_ite (Option.map (keeping lost)),
        Option.map_some, Option.map_none] <;>
      rfl
  | freeBuffer =>
    cases held : (state.workers who).myMem <;> cases queued : (state.workers who).memQueued <;>
      simp only [workerStep, workers, held, queued, apply_ite (Option.map (keeping lost)),
        Option.map_some, Option.map_none] <;>
      rfl
  | endIOTest | waitTest =>
    cases place : (state.workers who).pc <;>
      simp only [workerStep, workers, shared, place, apply_ite (Option.map (keeping lost)),
        Option.map_some, Option.map_none]
    rfl
  | tryWait succeeds | getDone calls =>
    cases place : (state.workers who).pc <;>
      simp only [workerStep, workers, shared, place, Option.map_map, Function.comp_def,
        apply_ite (keeping lost), Option.map_none]
    rfl
  | enqueue calls =>
    cases place : (state.workers who).pc <;>
      simp only [workerStep, workers, shared, place, Option.map_map, Function.comp_def,
        Option.map_none]
    rfl

omit [DecidableEq W] in
/-- And the I/O threads, for which the threads that hold the lost nodes are other threads. -/
theorem io_keeping {who : I} {act : IOAct} :
    ioStep (keeping lost state) (.inl who) act =
      (ioStep state who act).map (keeping lost) := by
  have threads : (keeping lost state).ioThreads (.inl who) = state.ioThreads who := rfl
  have shared : (keeping lost state).shared = state.shared := rfl
  cases act with
  | count | countIo | loopTest | idle | closeFile | semDestroy | uncountIo | uncount =>
    simp only [ioStep, apply_ite (Option.map (keeping lost)), Option.map_some, Option.map_none,
      keeping_setIo]
    rfl
  | setup myFd =>
    cases myFd <;>
      simp only [ioStep, apply_ite (Option.map (keeping lost)), Option.map_some, Option.map_none,
        keeping_setIo] <;>
      rfl
  | take activity calls =>
    rcases ran : getIONode activity calls state.shared with _ | ⟨_ | node, after⟩ <;>
      simp only [ioStep, threads, shared, ran, apply_ite (Option.map (keeping lost)),
        Option.map_some, Option.map_none, keeping_setIo] <;>
      rfl
  | perform readStream verbose answers | giveBack calls post =>
    cases place : (state.ioThreads who).pc <;>
      simp only [ioStep, threads, shared, place, Option.map_map, Function.comp_def,
        Option.map_some, Option.map_none, keeping_setIo]
    rfl

/-- Every step can be taken among the keepers. -/
theorem step_keeping {label : Label W I} (taken : step settings state label = some after) :
    step settings (keeping lost state) (among label) = some (keeping lost after) := by
  cases label with
  | main act =>
    rw [main_keeping, Option.map_eq_some_iff]
    exact ⟨after, taken, rfl⟩
  | worker who act =>
    refine worker_keeping.trans ?_
    rw [Option.map_eq_some_iff]
    exact ⟨after, taken, rfl⟩
  | io who act =>
    refine io_keeping.trans ?_
    rw [Option.map_eq_some_iff]
    exact ⟨after, taken, rfl⟩

end Commutes

/-! ### Losing a node -/

section Losses

variable [DecidableEq W] [DecidableEq I] {settings : Settings} {state after : System W I}
  {lost : Addr → Bool} {contents : QueueId → List Addr} {node : Addr}

/-- The invariant, with keepers for the nodes lost so far. -/
def Guarded (state : System W I) : Prop :=
  ∃ lost contents, Handed (keeping lost state) contents

omit [DecidableEq W] [DecidableEq I] in
/-- A keeper has its node or nothing. -/
theorem hand_keeper (state : System W I) (contents : QueueId → List Addr) (node : Addr) :
    (ledger (keeping lost state) contents).hand (.inr node) =
      if lost node then some node else none := by
  simp only [ledger, keeping, Sum.elim_inr, keeper]
  split <;> rfl

omit [DecidableEq W] in
/-- One more node is lost. -/
theorem hands_lose (threads : I → IOThread) (lost : Addr → Bool) (node : Addr) :
    (fun who => (Sum.elim threads (keeper (Function.update lost node true)) who).pc.hand) =
      Function.update (fun who => (Sum.elim threads (keeper lost) who).pc.hand) (.inr node)
        (some node) := by
  have keeps : keeper (Function.update lost node true) =
      Function.update (keeper lost) node ⟨.holding node .read, -1⟩ := by
    funext other
    by_cases same : other = node
    · subst same
      simp [keeper]
    · simp [keeper, same]
  rw [keeps, Sum.elim_update_right, hands_update]
  rfl

/-- A worker's node is lost on its way to a queue: the request is refused, or its function does not
get the lock, and the worker waits all the same. -/
theorem mislays_guarded (handed : Handed (keeping lost state) contents) {who : W} {worker : Worker}
    (filling : phase (state.workers who).pc = .filling node)
    (workers : after.workers = Function.update state.workers who worker)
    (slot : worker.slot = (state.workers who).slot) (waits : phase worker.pc = .waiting node)
    (ioThreads : after.ioThreads = state.ioThreads) (shared : after.shared = state.shared)
    (owner : after.nodeOwner = state.nodeOwner) : Guarded after := by
  have stands := handed.sound.stands who
  have fills : (ledger (keeping lost state) contents).phase who = .filling node := filling
  rw [fills] at stands
  have free : (ledger (keeping lost state) contents).hand (.inr node) = none := by
    by_contra held
    obtain ⟨other, has⟩ := Option.ne_none_iff_exists'.mp held
    rw [hand_keeper] at has
    split_ifs at has with gone
    obtain rfl := Option.some.inj has
    exact stands.2.2.2.2 (Or.inr ⟨.inr node, by rw [hand_keeper, if_pos gone]⟩)
  have request : QueueId.read ≠ .done := by decide
  refine ⟨Function.update lost node true, contents, ?_, ?_, ?_⟩
  · exact handed.represented.frame (by rw [keeping, shared]; rfl) (by rw [keeping, shared]; rfl)
  · have same : ledger (keeping (Function.update lost node true) after) contents =
        (ledger (keeping lost state) contents).mislay who node (.inr node) := by
      simp only [ledger, keeping, Ledger.mislay, workers, ioThreads, shared, owner, phases_update,
        slots_update _ _ _ slot, hands_lose, waits]
    rw [same]
    exact handed.sound.mislay who node (.inr node) fills free .read request
  · intro id held
    rw [keeping, shared] at held ⊢
    exact handed.held id held

omit [DecidableEq W] in
/-- An I/O thread loses its node, which ends all threads: it does not get the lock of the done
queue, and the owner of the node is not woken. -/
theorem forfeits_guarded (handed : Handed (keeping lost state) contents) {who : I}
    {thread : IOThread} (held : (state.ioThreads who).pc.hand = some node)
    (threads : after.ioThreads = Function.update state.ioThreads who thread)
    (empty : thread.pc.hand = none) (workers : after.workers = state.workers)
    (shared : after.shared = endAllIf true state.shared)
    (owner : after.nodeOwner = state.nodeOwner) : Guarded after := by
  have holds : (ledger (keeping lost state) contents).hand (.inl who) = some node := held
  have free : (ledger (keeping lost state) contents).hand (.inr node) = none := by
    by_contra kept
    obtain ⟨other, has⟩ := Option.ne_none_iff_exists'.mp kept
    rw [hand_keeper] at has
    split_ifs at has with gone
    have keeps : (ledger (keeping lost state) contents).hand (.inr node) = some node := by
      rw [hand_keeper, if_pos gone]
    cases handed.sound.placed.handInj (.inl who) (.inr node) node holds keeps
  refine ⟨Function.update lost node true, contents, ?_, ?_, ?_⟩
  · exact handed.represented.frame (by rw [keeping, shared]; rfl) (by rw [keeping, shared]; rfl)
  · have same : ledger (keeping (Function.update lost node true) after) contents =
        ((ledger (keeping lost state) contents).forfeit (.inl who) node (.inr node)).stop := by
      simp only [ledger, keeping, Ledger.forfeit, Ledger.stop, workers, threads, shared, owner,
        hands_lose, Sum.elim_update_left, hands_update, empty, endAllIf, Bool.or_true]
      rw [Function.update_comm Sum.inl_ne_inr]
    rw [same]
    exact (handed.sound.forfeit (.inl who) node (.inr node) holds free).stop
  · intro id locked
    rw [keeping, shared]
    exact Bool.or_true _

/-- A refused request: its node is lost. -/
theorem refuses_guarded (handed : Handed (keeping lost state) contents) {who : W}
    (stopped : state.shared.endAllIo = true)
    (taken : workerStep settings state who .endIOTest = some after) : Guarded after := by
  cases place : (state.workers who).pc with
  | submitting node iotype =>
    simp only [workerStep, place, stopped, ↓reduceIte, Option.some.injEq] at taken
    subst taken
    exact mislays_guarded handed (by rw [place]; rfl) rfl rfl rfl rfl rfl rfl
  | _ => simp [workerStep, place] at taken

/-- A request function without its lock loses the node. -/
theorem drops_guarded (handed : Handed (keeping lost state) contents) {who : W}
    {calls : LockCalls} (unlocked : calls.lock = false)
    (taken : workerStep settings state who (.enqueue calls) = some after) : Guarded after := by
  cases place : (state.workers who).pc with
  | admitted node iotype =>
    have filling : phase (state.workers who).pc = .filling node := by rw [place]; rfl
    have stands := handed.sound.stands who
    have fills : (ledger (keeping lost state) contents).phase who = .filling node := filling
    rw [fills] at stands
    have fresh (id : QueueId) : node ∉ contents id := fun listed =>
      stands.2.2.2.2 (Or.inl ⟨id, listed⟩)
    simp only [workerStep, place] at taken
    obtain ⟨⟨queued, shared⟩, ran, rfl⟩ := Option.map_eq_some_iff.mp taken
    rcases queueIOAdmitted_law handed.represented fresh ran with ⟨_, _, same⟩ | ⟨locked, _⟩
    · exact mislays_guarded handed filling rfl rfl rfl rfl same rfl
    · exact absurd (unlocked.symm.trans locked) Bool.false_ne_true
  | _ => simp [workerStep, place] at taken

omit [DecidableEq W] in
/-- `queueIODone` without its lock loses the node. -/
theorem givesUp_guarded (handed : Handed (keeping lost state) contents) {who : I}
    {calls : LockCalls} {post : Bool} (unlocked : calls.lock = false)
    (taken : ioStep state who (.giveBack calls post) = some after) : Guarded after := by
  cases place : (state.ioThreads who).pc with
  | performed node activity =>
    have held : (ledger (keeping lost state) contents).hand (.inl who) = some node := by
      show (state.ioThreads who).pc.hand = some node
      rw [place]
      rfl
    have fresh (id : QueueId) : node ∉ contents id :=
      handed.sound.placed.handApart (.inl who) id node held
    simp only [ioStep, place] at taken
    obtain ⟨⟨queued, shared⟩, ran, rfl⟩ := Option.map_eq_some_iff.mp taken
    rcases queueIODone_law handed.represented fresh ran with ⟨_, rfl, same⟩ | ⟨locked, _⟩
    · exact forfeits_guarded handed held rfl rfl rfl (congrArg (endAllIf true) same) rfl
    · exact absurd (unlocked.symm.trans locked) Bool.false_ne_true
  | _ => simp [ioStep, place] at taken

/-- Every step keeps the invariant, also one that fails or loses a node. Only a new worker with the
semaphore of a live one is left out. -/
theorem Guarded.step {label : Label W I} (guarded : Guarded state)
    (fresh : FreshSlots state label) (taken : step settings state label = some after) :
    Guarded after := by
  obtain ⟨lost, contents, handed⟩ := guarded
  have usual (unrefuses : unrefused state.shared.endAllIo label = true) : Guarded after := by
    have careful : Careful (keeping lost state) (among label) := by
      rcases label with act | ⟨who, act⟩ | ⟨who, act⟩ <;> cases act <;> exact ⟨fresh, unrefuses⟩
    obtain ⟨rest, handed⟩ := handed.step careful (step_keeping taken)
    exact ⟨lost, rest, handed⟩
  cases unrefuses : unrefused state.shared.endAllIo label with
  | true => exact usual unrefuses
  | false =>
    rcases label with act | ⟨who, act⟩ | ⟨who, act⟩
    · cases unrefuses
    · cases act with
      | endIOTest =>
        have refused : workerStep settings state who .endIOTest = some after := taken
        exact refuses_guarded handed (by simpa [unrefused] using unrefuses) refused
      | enqueue calls =>
        have dropped : workerStep settings state who (.enqueue calls) = some after := taken
        exact drops_guarded handed unrefuses dropped
      | _ => cases unrefuses
    · cases act with
      | giveBack calls post => exact givesUp_guarded handed unrefuses taken
      | _ => cases unrefuses

/-- So it holds in every run. -/
theorem reachable_guarded (reached : Reachable (IoSystem.step settings) FreshSlots Initial state) :
    Guarded state := by
  apply reached.invariant Guarded
  · rintro _ rfl
    have nobody (who : I ⊕ Addr) :
        (Sum.elim (initialSystem W I).ioThreads (keeper fun _ => false) who).pc.hand = none := by
      cases who <;> rfl
    refine ⟨fun _ => false, fun _ => [], initialShared_represents, ?_,
      fun _ held => absurd held Bool.false_ne_true⟩
    exact Ledger.sound_of_empty (fun _ => rfl) nobody (fun _ => rfl) (fun _ => rfl)
  · exact fun before label after _ guarded fresh taken => guarded.step fresh taken

end Losses

/-! ### What every run promises -/

/-- A lock call that succeeds finds the mutex free. -/
def Grantable (g : Shared) (id : QueueId) (calls : LockCalls) : Prop :=
  calls.lock = true → (g.queues id).locked = false

/-- Main is at the call, and the call can answer so. -/
def MainDue (state : System W I) : MainAct W I → Prop
  | .createIOThread who => state.main = .running ∧ (state.ioThreads who).pc = .absent
  | .createWorker who _ => state.main = .running ∧ (state.workers who).pc = .absent
  | .endIo => state.main = .running
  | .testWorkers => state.main = .testWorkers
  | .sample calls => ∃ id, state.main = .sample id ∧ Grantable state.shared id calls
  | .breakThreads => state.main = .breakThreads
  | .breakSample calls =>
    ∃ direction, state.main = .breakSample direction ∧
      Grantable state.shared direction.queue calls
  | .endThreads => state.main = .drained ∨ state.main = .quit

/-- The worker is at the call, and the call can answer so. -/
def WorkerDue (state : System W I) (who : W) : WorkerAct → Prop
  | .count => (state.workers who).pc = .created
  | .semInit _ => (state.workers who).pc = .counted
  | .loopTest => (state.workers who).pc = .looping
  | .allocate _ _ result =>
    (state.workers who).pc = .active ∧ ∀ mem ∈ result, state.bufOwner mem = none
  | .free | .endMe _ | .idle => (state.workers who).pc = .active
  | .request result _ _ =>
    (state.workers who).pc = .active ∧ ∀ node ∈ result, state.nodeOwner node = none
  | .endIOTest => ∃ node iotype, (state.workers who).pc = .submitting node iotype
  | .enqueue calls =>
    ∃ node iotype, (state.workers who).pc = .admitted node iotype ∧
      Grantable state.shared iotype.queue calls
  | .tryWait _ => ∃ node iotype, (state.workers who).pc = .waiting node iotype
  | .getDone calls =>
    ∃ node iotype, (state.workers who).pc = .collecting node iotype ∧
      Grantable state.shared .done calls
  | .waitTest => ∃ node iotype, (state.workers who).pc = .testing node iotype
  | .freeBuffer => (state.workers who).pc = .closing
  | .semDestroy _ => (state.workers who).pc = .destroying
  | .release => (state.workers who).pc = .finishing
  | .uncount => (state.workers who).pc = .released

/-- The I/O thread is at the call, and the call can answer so. -/
def IODue (state : System W I) (who : I) : IOAct → Prop
  | .count => (state.ioThreads who).pc = .created
  | .countIo => (state.ioThreads who).pc = .countedThread
  | .setup _ => (state.ioThreads who).pc = .counted
  | .loopTest => (state.ioThreads who).pc = .looping
  | .idle => (state.ioThreads who).pc = .active
  | .take activity calls =>
    (state.ioThreads who).pc = .active ∧ Grantable state.shared activity.queue calls
  | .perform _ _ _ => ∃ node activity, (state.ioThreads who).pc = .holding node activity
  | .giveBack calls _ =>
    ∃ node activity, (state.ioThreads who).pc = .performed node activity ∧
      Grantable state.shared .done calls
  | .closeFile _ => (state.ioThreads who).pc = .closing
  | .semDestroy _ => (state.ioThreads who).pc = .destroying
  | .uncountIo => (state.ioThreads who).pc = .leaving
  | .uncount => (state.ioThreads who).pc = .uncounted

/-- The step is one that its thread can be about to take. -/
def Due (state : System W I) : Label W I → Prop
  | .main act => MainDue state act
  | .worker who act => WorkerDue state who act
  | .io who act => IODue state who act

/-- What holds in every state of every run. The queues are lists, and no node is in two
places. When a waiting worker's semaphore is posted, its node is on the done queue, and
`getIODoneNode` removes that node once the worker has noticed. No step goes through a null
pointer, runs for ever or is undefined in another way. -/
structure Intact [DecidableEq W] [DecidableEq I] (settings : Settings) (state : System W I) :
    Prop where
  queues : ∃ contents, Represents state.shared contents
  once : ∀ id, (nodesOf id state.shared).Nodup
  apart : ∀ node left right, At state node left → At state node right → left = right
  woken : ∀ who node iotype, (state.workers who).pc = .waiting node iotype →
    (state.shared.sems (state.workers who).slot).value ≠ 0 → node ∈ nodesOf .done state.shared
  collected : ∀ who node iotype, (state.workers who).pc = .collecting node iotype →
    (state.shared.queues .done).locked = false → Collects state.shared node
  proceeds : ∀ label, Due state label → (step settings state label).isSome = true

section Promises

variable [DecidableEq W] [DecidableEq I] {settings : Settings} {state : System W I}
  {lost : Addr → Bool} {contents : QueueId → List Addr}

/-- The places of a node among the keepers. -/
def amongPlaces : Place I → Place (I ⊕ Addr)
  | .queue id => .queue id
  | .hand who => .hand (.inl who)

omit [DecidableEq W] [DecidableEq I] in
/-- With the mutex of the done queue free, a worker that collects finds its node there. -/
theorem collects_of_free (handed : Handed state contents)
    (free : (state.shared.queues .done).locked = false) {who : W} {node : Addr}
    {iotype : Direction} (place : (state.workers who).pc = .collecting node iotype) :
    Collects state.shared node := by
  have listed := (collecting_listed handed.sound place).2
  obtain ⟨result, after, ran⟩ := getIODoneNode_completes .succeed (some node) free
  rcases getIODoneNode_law handed.represented listed ran with
    ⟨impossible, _⟩ | ⟨_, rfl, rest, _⟩
  · simp [LockCalls.succeed] at impossible
  · refine ⟨by rw [handed.represented.nodes_eq]; exact listed, after, ran, ?_, ?_⟩
    · rw [rest.nodes_eq, handed.represented.nodes_eq, Function.update_self]
    · intro id differs
      rw [rest.nodes_eq, handed.represented.nodes_eq, Function.update_of_ne differs]

omit [DecidableEq W] [DecidableEq I] in
/-- A worker that waits has a node with a semaphore. -/
theorem waiting_key (handed : Handed state contents) {who : W} {node : Addr} {iotype : Direction}
    (place : (state.workers who).pc = .waiting node iotype) :
    state.shared.heap.mySem node = some (state.workers who).slot := by
  have waiting : (ledger state contents).phase who = .waiting node := by
    simp only [ledger, place, phase]
  exact (handed.sound.pending (Or.inl waiting)).2.2

/-! ### No call is undefined -/

omit [DecidableEq W] [DecidableEq I]

/-- An emptiness test completes when its lock call can answer so. -/
theorem isQEmpty_due {id : QueueId} {calls : LockCalls} {g : Shared}
    (grant : Grantable g id calls) : (isQEmpty id calls g).isSome = true := by
  cases lock : calls.lock with
  | false => simp [isQEmpty, critical, lockQ, lock]
  | true =>
    obtain ⟨result, after, ran⟩ := isQEmpty_completes id calls (grant lock)
    rw [ran]
    rfl

/-- So does a request function, because its queue is a list. -/
theorem queueIOAdmitted_due {id : QueueId} {calls : LockCalls} {g : Shared} {node : Addr}
    (represented : Represents g contents) (fresh : ∀ other, node ∉ contents other)
    (grant : Grantable g id calls) : (queueIOAdmitted id calls (some node) g).isSome = true := by
  cases lock : calls.lock with
  | false => simp [queueIOAdmitted, critical, lockQ, lock]
  | true =>
    obtain ⟨result, after, ran⟩ := queueIOAdmitted_completes calls represented fresh (grant lock)
    rw [ran]
    rfl

/-- So does taking a request. -/
theorem getIONode_due {activity : Direction} {calls : LockCalls} {g : Shared}
    (grant : Grantable g activity.queue calls) : (getIONode activity calls g).isSome = true := by
  cases lock : calls.lock with
  | false =>
    cases activity <;> simp [getIONode, getIOReadNode, getIOWriteNode, critical, lockQ, lock]
  | true =>
    obtain ⟨result, after, ran⟩ := getIONode_completes activity calls (grant lock)
    rw [ran]
    rfl

/-- So does giving a node back. -/
theorem queueIODone_due {calls : LockCalls} {post : Bool} {g : Shared} {node : Addr}
    (grant : Grantable g .done calls) : (queueIODone calls post (some node) g).isSome = true := by
  cases lock : calls.lock with
  | false => simp [queueIODone, critical, lockQ, lock]
  | true =>
    obtain ⟨result, after, ran⟩ := queueIODone_completes calls post node (grant lock)
    rw [ran]
    rfl

/-- And collecting it. -/
theorem getIODoneNode_due {calls : LockCalls} {g : Shared} {node : Addr}
    (grant : Grantable g .done calls) : (getIODoneNode calls (some node) g).isSome = true := by
  cases lock : calls.lock with
  | false => simp [getIODoneNode, critical, lockQ, lock]
  | true =>
    obtain ⟨result, after, ran⟩ := getIODoneNode_completes calls (some node) (grant lock)
    rw [ran]
    rfl

variable [DecidableEq W] [DecidableEq I]

/-- Main's due steps are defined. -/
theorem main_proceeds {act : MainAct W I} (due : MainDue state act) :
    (mainStep state act).isSome = true := by
  cases act with
  | sample calls =>
    obtain ⟨id, place, grant⟩ := due
    simpa only [mainStep, place, Option.isSome_map] using isQEmpty_due grant
  | breakSample calls =>
    obtain ⟨direction, place, grant⟩ := due
    simpa only [mainStep, place, Option.isSome_map] using isQEmpty_due grant
  | createIOThread who | createWorker who slot =>
    simp only [mainStep, if_pos (show _ ∧ _ from due), Option.isSome_some]
  | endIo => simp only [mainStep, if_pos (show state.main = _ from due), Option.isSome_some]
  | testWorkers | breakThreads =>
    simp only [mainStep, if_pos (show state.main = _ from due)]
    split <;> rfl
  | endThreads => simp only [mainStep, if_pos (show _ ∨ _ from due), Option.isSome_some]

omit [DecidableEq I] in
/-- A worker's due steps are defined: its node has a semaphore, and its request function
finds a list. -/
theorem worker_proceeds (handed : Handed (keeping lost state) contents) {who : W}
    {act : WorkerAct} (due : WorkerDue state who act) :
    (workerStep settings state who act).isSome = true := by
  cases act with
  | count | idle | endMe draw | semDestroy succeeds | release | uncount =>
    simp only [workerStep, if_pos (show (state.workers who).pc = _ from due), Option.isSome_some]
  | semInit succeeds | loopTest =>
    simp only [workerStep, if_pos (show (state.workers who).pc = _ from due)]
    split <;> rfl
  | free | freeBuffer =>
    simp only [workerStep, if_pos (show (state.workers who).pc = _ from due)]
    split <;> rfl
  | allocate memUsed draw result =>
    obtain ⟨place, free⟩ := due
    simp only [workerStep, if_pos place]
    cases result with
    | none => split <;> rfl
    | some mem =>
      simp only [if_pos (free mem rfl)]
      split <;> rfl
  | request result draw iotype =>
    obtain ⟨place, free⟩ := due
    simp only [workerStep, if_pos place]
    cases result with
    | none => split <;> rfl
    | some node =>
      simp only [if_pos (free node rfl)]
      split <;> rfl
  | endIOTest | waitTest =>
    obtain ⟨node, iotype, place⟩ := due
    simp only [workerStep, place]
    split <;> rfl
  | enqueue calls =>
    obtain ⟨node, iotype, place, grant⟩ := due
    have stands := handed.sound.stands who
    have filling : (ledger (keeping lost state) contents).phase who = .filling node := by
      show phase (state.workers who).pc = _
      rw [place]
      rfl
    rw [filling] at stands
    have fresh (id : QueueId) : node ∉ contents id := fun listed =>
      stands.2.2.2.2 (Or.inl ⟨id, listed⟩)
    have represented : Represents state.shared contents := handed.represented
    simpa only [workerStep, place, Option.isSome_map] using
      queueIOAdmitted_due represented fresh grant
  | tryWait succeeds =>
    obtain ⟨node, iotype, place⟩ := due
    have key : state.shared.heap.mySem node = some (state.workers who).slot :=
      waiting_key handed place
    simp only [workerStep, place, key, Option.map_some, Option.isSome_some]
  | getDone calls =>
    obtain ⟨node, iotype, place, grant⟩ := due
    simpa only [workerStep, place, Option.isSome_map] using getIODoneNode_due grant

omit [DecidableEq W] in
/-- And an I/O thread's. -/
theorem io_proceeds {who : I} {act : IOAct} (due : IODue state who act) :
    (ioStep state who act).isSome = true := by
  cases act with
  | count | countIo | idle | closeFile succeeds | semDestroy succeeds | uncountIo | uncount =>
    simp only [ioStep, if_pos (show (state.ioThreads who).pc = _ from due), Option.isSome_some]
  | loopTest =>
    simp only [ioStep, if_pos (show (state.ioThreads who).pc = _ from due)]
    split <;> rfl
  | setup myFd =>
    simp only [ioStep, if_pos (show (state.ioThreads who).pc = _ from due)]
    cases myFd <;> rfl
  | take activity calls =>
    obtain ⟨place, grant⟩ := due
    simpa only [ioStep, if_pos place, Option.isSome_map] using getIONode_due grant
  | perform readStream verbose answers =>
    obtain ⟨node, activity, place⟩ := due
    simp only [ioStep, place, Option.isSome_some]
  | giveBack calls post =>
    obtain ⟨node, activity, place, grant⟩ := due
    simpa only [ioStep, place, Option.isSome_map] using queueIODone_due grant

end Promises

/-- The queues in every run. Whatever the calls answer and whenever the run shuts down,
as long as a new worker gets a semaphore that no live one owns, no node is in two places,
a worker is woken by its own node only and gets that node back, and no step is undefined.

That every node comes to an end is not claimed, since the lost ones do not.

Proof: an address that was lost is held by a thread that never moves. With these threads the program
keeps the invariant of the hand-off, and the rest follows from that. -/
theorem every_run_intact [DecidableEq W] [DecidableEq I] (settings : Settings)
    (state : System W I) (reached : Reachable (step settings) FreshSlots Initial state) :
    Intact settings state := by
  obtain ⟨lost, contents, handed⟩ := reachable_guarded reached
  have nodes (id : QueueId) : nodesOf id state.shared = contents id :=
    handed.represented.nodes_eq id
  constructor
  case queues => exact ⟨contents, handed.represented⟩
  case once =>
    intro id
    rw [nodes]
    exact handed.sound.placed.nodup id
  case apart =>
    intro node left right atLeft atRight
    have here (place : Place I) (at_ : At state node place) :
        At (keeping lost state) node (amongPlaces place) := by
      cases place <;> exact at_
    have same := at_unique handed (here left atLeft) (here right atRight)
    cases left <;> cases right <;> simp_all [amongPlaces]
  case woken =>
    intro who node iotype place posted
    have stands := handed.sound.stands who
    have waiting : (ledger (keeping lost state) contents).phase who = .waiting node := by
      show phase (state.workers who).pc = _
      rw [place]
      rfl
    rw [waiting] at stands
    rw [nodes]
    exact (stands.1.resolve_left posted).2
  case collected => exact fun who node iotype place free => collects_of_free handed free place
  case proceeds =>
    intro label due
    cases label with
    | main act => exact main_proceeds due
    | worker who act => exact worker_proceeds handed due
    | io who act => exact io_proceeds due

/-- The I/O thread could not give the node of the first worker back, and the second was
refused: both nodes are lost, and the first worker has given up. -/
theorem every_run_intact_lost : ∃ state : System (Fin 2) (Fin 1),
    ((state.workers 0).pc = .looping ∧ (state.workers 1).pc = .waiting 6 .write ∧
      state.nodeOwner 5 = some 0 ∧ state.nodeOwner 6 = some 1 ∧
      ∀ id, (state.shared.queues id).head = none) ∧ Intact threeThreads state := by
  obtain ⟨state, reached, test⟩ := replay_exhibits (step threeThreads) FreshSlots Initial
    ([.main (.createIOThread 0), .main (.createWorker 0 0), .main (.createWorker 1 1),
      .io 0 .count, .io 0 .countIo, .io 0 (.setup (some 3))] ++ submits 0 70 5 .read ++
      [.io 0 .loopTest, .io 0 (.take .read .succeed), .main .endIo,
        .worker 1 .count, .worker 1 (.semInit true), .worker 1 .loopTest,
        .worker 1 (.allocate 0 2147483647 (some 80)), .worker 1 .loopTest,
        .worker 1 (.request (some 6) 2147483647 .write), .worker 1 .endIOTest,
        .io 0 (.perform true false ⟨true, true, ⟨true, true, false, false, 1048576⟩⟩),
        .io 0 (.giveBack ⟨false, true⟩ true), .worker 0 (.tryWait true), .worker 0 .waitTest])
    (initialSystem (Fin 2) (Fin 1)) (fun state =>
      (state.workers 0).pc = .looping ∧ (state.workers 1).pc = .waiting 6 .write ∧
        state.nodeOwner 5 = some 0 ∧ state.nodeOwner 6 = some 1 ∧
        (state.shared.queues .read).head = none ∧ (state.shared.queues .write).head = none ∧
        (state.shared.queues .done).head = none) rfl (by decide)
  obtain ⟨gaveUp, waits, first, second, read, write, done⟩ := of_decide_eq_true test
  refine ⟨state, ⟨gaveUp, waits, first, second, fun id => ?_⟩,
    every_run_intact threeThreads state reached⟩
  cases id with
  | read => exact read
  | write => exact write
  | done => exact done

end AvocadoMisc.Dwh.EveryRun
