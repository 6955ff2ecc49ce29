import Mathlib.Data.Fintype.Defs
import AvocadoMisc.Dwh.CompletionHandoff

/-!
# The drain of the queues at the shutdown

`EndIOTasks` stops new requests and then waits until `isIOPending` finds the read queue,
the write queue and the done queue empty. These are three samples, and a node that an I/O
thread has in its hands is on none of the queues, so the samples can all say empty while a
request is under way.

A sample is final when nobody is on the way to append to its queue: a worker behind the
test of `EndAllIO` for a request queue, an I/O thread with a node for the done queue. An
empty queue that nobody approaches stays so, whatever else happens, because requests are
refused and an I/O thread takes nothing from an empty queue.
-/

namespace AvocadoMisc.Dwh.ShutdownDrain

open Library.Transitions
open VerifySettings Queues QueueLaws Transfers IoSystem IoEffects
open HandoffSimulation CompletionHandoff

variable {W I : Type}

/-- The queue to which a worker will append. It has found `EndAllIO` clear already. -/
def bound : WorkerPc → Option QueueId
  | .admitted _ iotype => some iotype.queue
  | _ => none

/-- Somebody is on the way to append to the queue. -/
def Approached (state : System W I) (id : QueueId) : Prop :=
  (∃ who, bound (state.workers who).pc = some id) ∨
    (id = .done ∧ ∃ who, (state.ioThreads who).pc.hand ≠ none)

/-- The queue that a step of main samples for `isIOPending`, with the answers of its calls. -/
def sampling (state : System W I) : Label W I → Option (QueueId × LockCalls)
  | .main (.sample calls) =>
    match state.main with
    | .sample id => some (id, calls)
    | _ => none
  | _ => none

/-- A sample is final: without the lock the counter is right, and an empty queue is not
approached. -/
def Final (state : System W I) (id : QueueId) (calls : LockCalls) : Prop :=
  (calls.lock = true ∨
    ((state.shared.queues id).pending = 0 → (state.shared.queues id).head = none)) ∧
    ((state.shared.queues id).head = none → ¬ Approached state id)

/-- Every sample of a queue that the step takes is final. A step that takes none is free. -/
def Settles (state : System W I) (label : Label W I) : Prop :=
  ∀ sample ∈ sampling state label, Final state sample.1 sample.2

section Decidability

variable [Fintype W] [Fintype I]

instance (state : System W I) (id : QueueId) : Decidable (Approached state id) :=
  inferInstanceAs (Decidable ((∃ who, bound (state.workers who).pc = some id) ∨
    (id = .done ∧ ∃ who, (state.ioThreads who).pc.hand ≠ none)))

instance (state : System W I) (id : QueueId) (calls : LockCalls) :
    Decidable (Final state id calls) :=
  inferInstanceAs (Decidable (_ ∧ _))

instance (state : System W I) (label : Label W I) : Decidable (Settles state label) :=
  inferInstanceAs (Decidable (∀ sample ∈ sampling state label, Final state sample.1 sample.2))

end Decidability

/-- No request is outstanding: none is on a queue and no I/O thread has one, so that no
I/O thread touches a semaphore. -/
structure Drained [DecidableEq I] (state : System W I) : Prop where
  queues : ∀ id, (state.shared.queues id).head = none ∧ nodesOf id state.shared = []
  hands : ∀ who, (state.ioThreads who).pc.hand = none
  posts : ∀ who act after, ioStep state who act = some after →
    after.shared.sems = state.shared.sems

/-- The queue is empty and nobody approaches it. -/
def Still (state : System W I) (id : QueueId) : Prop :=
  (state.shared.queues id).head = none ∧ ¬ Approached state id

/-- The queues that main has found empty since it last found one that was not. -/
def found : MainPc → QueueId → Bool
  | .sample .write, .read => true
  | .sample .done, .read | .sample .done, .write => true
  | .drained, _ | .ended true, _ => true
  | _, _ => false

/-- After `EndAllIO` is set the queues that main found empty are still. -/
structure Quiescing (state : System W I) : Prop where
  stopped : state.main ≠ .running → state.shared.endAllIo = true
  still : ∀ id, found state.main id = true → Still state id

/-- What a step of another thread keeps. A still done queue takes still request queues
along. -/
structure Calm (state after : System W I) : Prop where
  main : after.main = state.main
  endAllIo : after.shared.endAllIo = state.shared.endAllIo
  still : state.shared.endAllIo = true → ∀ id, Still state id →
    (id = .done → Still state .read ∧ Still state .write) → Still after id

section Proofs

variable {settings : Settings} {state after : System W I}

/-- A critical section of one queue keeps the others empty. -/
theorem heads_of_passed {id : QueueId} {calls : LockCalls} {shared : Shared}
    (passed : Passed id calls state.shared shared)
    (own : Still state id → (shared.queues id).head = none) (other : QueueId)
    (still : Still state other) : (shared.queues other).head = none := by
  by_cases same : other = id
  · subst same
    exact own still
  · rw [passed.others other same]
    exact still.1

/-! ### Workers -/

section Workers

variable [DecidableEq W]

/-- A worker's step is calm when it ends off the way to any queue and fills no still one. -/
theorem calm_of_worker {who : W} {worker : Worker} (main : after.main = state.main)
    (workers : after.workers = Function.update state.workers who worker)
    (ioThreads : after.ioThreads = state.ioThreads)
    (endAllIo : after.shared.endAllIo = state.shared.endAllIo)
    (unbound : state.shared.endAllIo = true → bound worker.pc = none)
    (heads : ∀ id, Still state id → (after.shared.queues id).head = none) : Calm state after := by
  refine ⟨main, endAllIo, fun stopped id still _ => ⟨heads id still, ?_⟩⟩
  rintro (⟨other, approaches⟩ | ⟨done, other, held⟩)
  · rw [workers] at approaches
    by_cases same : other = who
    · subst same
      rw [Function.update_self, unbound stopped] at approaches
      cases approaches
    · rw [Function.update_of_ne same] at approaches
      exact still.2 (Or.inl ⟨other, approaches⟩)
  · rw [ioThreads] at held
    exact still.2 (Or.inr ⟨done, other, held⟩)

/-- Every step of a worker is calm. A worker that queues its request has approached the
queue. -/
theorem worker_calm {who : W} {act : WorkerAct}
    (taken : workerStep settings state who act = some after) : Calm state after := by
  cases workerStep_effect taken with
  | moves _ nThreads pc sz memQueued endMe move =>
    refine calm_of_worker rfl rfl rfl rfl (fun stopped => ?_) fun _ still => still.1
    cases move with
    | enter node iotype place running => simp [running] at stopped
    | _ => rfl
  | frees _ mem pc sz has place =>
    refine calm_of_worker rfl rfl rfl rfl (fun _ => ?_) fun _ still => still.1
    rcases place with ⟨_, rfl⟩ | ⟨_, _, rfl⟩ <;> rfl
  | enqueues calls node iotype queued shared stats place ran =>
    have passed := queueIOAdmitted_passed ran
    have approached : Approached state iotype.queue := Or.inl ⟨who, by rw [place]; rfl⟩
    exact calm_of_worker rfl rfl rfl passed.endAllIo (fun _ => rfl)
      (heads_of_passed passed fun still => absurd approached still.2)
  | collects calls node iotype shared stats place ran
  | loses calls node iotype shared place ran =>
    have passed := getIODoneNode_passed ran
    have heads := heads_of_passed passed fun still => getIODoneNode_empty ran still.1
    exact calm_of_worker rfl rfl rfl passed.endAllIo (fun _ => rfl) heads
  | _ => exact calm_of_worker rfl rfl rfl rfl (fun _ => rfl) fun _ still => still.1

end Workers

/-! ### I/O threads -/

section IOThreads

variable [DecidableEq I]

/-- An I/O thread's step is calm when it fills no still queue and its hand stays empty
with the request queues. -/
theorem calm_of_io {who : I} {thread : IOThread} (main : after.main = state.main)
    (ioThreads : after.ioThreads = Function.update state.ioThreads who thread)
    (workers : after.workers = state.workers)
    (endAllIo : after.shared.endAllIo = state.shared.endAllIo)
    (hand : (state.ioThreads who).pc.hand = none → Still state .read → Still state .write →
      thread.pc.hand = none)
    (heads : ∀ id, Still state id → (after.shared.queues id).head = none) : Calm state after := by
  refine ⟨main, endAllIo, fun _ id still requests => ⟨heads id still, ?_⟩⟩
  rintro (⟨other, approaches⟩ | ⟨done, other, held⟩)
  · rw [workers] at approaches
    exact still.2 (Or.inl ⟨other, approaches⟩)
  · have empty (thread : I) : (state.ioThreads thread).pc.hand = none := by
      by_contra some
      exact still.2 (Or.inr ⟨done, thread, some⟩)
    rw [ioThreads] at held
    by_cases same : other = who
    · subst same
      rw [Function.update_self] at held
      exact held (hand (empty other) (requests done).1 (requests done).2)
    · rw [Function.update_of_ne same] at held
      exact held (empty other)

/-- `queueIODone` touches the done queue only. -/
theorem givesBack_calm {who : I} {calls : LockCalls} {post : Bool} {node : Addr}
    {activity : Direction} {queued : Bool} {shared : Shared}
    (place : (state.ioThreads who).pc = .performed node activity)
    (ran : queueIODone calls post (some node) state.shared = some (queued, shared)) :
    Calm state ({ state with shared := endAllIf (!queued) shared }.setIo who
      { state.ioThreads who with pc := .looping }) := by
  obtain ⟨linked, passed, woken⟩ := queueIODone_passed ran
  have kept : shared.queues = linked.queues ∧ shared.endAllIo = linked.endAllIo := by
    rcases woken with rfl | rfl
    · exact ⟨rfl, rfl⟩
    · obtain ⟨_, queues, endAllIo, _⟩ := wakeOwner_frame post node linked
      exact ⟨queues, endAllIo⟩
  have approached : Approached state .done :=
    Or.inr ⟨rfl, who, by rw [place]; exact Option.some_ne_none node⟩
  have heads := heads_of_passed passed fun still => absurd approached still.2
  refine calm_of_io rfl rfl rfl (kept.2.trans passed.endAllIo) (fun _ _ _ => rfl) ?_
  intro id still
  exact (congrArg (fun queues => (queues id).head) kept.1).trans (heads id still)

/-- Every step of an I/O thread is calm. It takes nothing from a still queue. -/
theorem io_calm {who : I} {act : IOAct} (taken : ioStep state who act = some after) :
    Calm state after := by
  cases ioStep_effect taken with
  | moves _ nThreads nIOThreads endAllThreads thread before now grows =>
    exact calm_of_io rfl rfl rfl rfl (fun _ _ _ => now) fun _ still => still.1
  | misses activity calls shared place ran =>
    have passed := getIONode_passed ran
    exact calm_of_io rfl rfl rfl passed.endAllIo (fun _ _ _ => rfl)
      (heads_of_passed passed fun still => (getIONode_empty ran still.1).2)
  | takes activity calls node shared stats place ran =>
    have passed := getIONode_passed ran
    have heads := heads_of_passed passed fun still => (getIONode_empty ran still.1).2
    refine calm_of_io rfl rfl rfl passed.endAllIo (fun _ read write => ?_) heads
    have empty : (state.shared.queues activity.queue).head = none := by
      cases activity
      · exact read.1
      · exact write.1
    exact absurd (getIONode_empty ran empty).1 (Option.some_ne_none node)
  | performs _ node activity ioDone failed stats place =>
    refine calm_of_io rfl rfl rfl rfl (fun empty => ?_) fun _ still => still.1
    rw [place] at empty
    exact absurd empty (Option.some_ne_none node)
  | givesBack calls post node activity queued shared place ran => exact givesBack_calm place ran

/-- An I/O thread without a node touches no semaphore. -/
theorem sems_of_empty_hand {who : I} {act : IOAct} (empty : (state.ioThreads who).pc.hand = none)
    (taken : ioStep state who act = some after) : after.shared.sems = state.shared.sems := by
  cases ioStep_effect taken with
  | moves | performs => rfl
  | misses activity calls shared place ran => exact (getIONode_passed ran).sems
  | takes activity calls node shared stats place ran => exact (getIONode_passed ran).sems
  | givesBack calls post node activity queued shared place ran =>
    simp [place, IOPc.hand] at empty

/-- When all three queues are still, nothing is outstanding. -/
theorem drained_of_still (still : ∀ id, Still state id) : Drained state := by
  have hands (who : I) : (state.ioThreads who).pc.hand = none := by
    by_contra held
    exact (still .done).2 (Or.inr ⟨rfl, who, held⟩)
  refine ⟨fun id => ⟨(still id).1, ?_⟩, hands, fun who act after => sems_of_empty_hand (hands who)⟩
  rw [nodesOf, (still id).1]
  rfl

end IOThreads

/-- The done queue is found empty last. -/
theorem found_of_done {main : MainPc} (seen : found main .done = true) (other : QueueId) :
    found main other = true := by
  cases main with
  | drained => rfl
  | ended pendingEnded =>
    cases pendingEnded with
    | true => rfl
    | false => cases seen
  | sample id => cases id <;> cases seen
  | _ => cases seen

/-- A calm step keeps the invariant. -/
theorem Calm.quiescing (calm : Calm state after) (quiescing : Quiescing state) :
    Quiescing after := by
  refine ⟨fun left => ?_, fun id seen => ?_⟩
  · rw [calm.main] at left
    exact calm.endAllIo.trans (quiescing.stopped left)
  · rw [calm.main] at seen
    have begun : state.main ≠ .running := fun running => by rw [running] at seen; cases seen
    refine calm.still (quiescing.stopped begun) id (quiescing.still id seen) fun done => ?_
    subst done
    exact ⟨quiescing.still .read (found_of_done seen .read),
      quiescing.still .write (found_of_done seen .write)⟩

/-! ### Main -/

/-- A step of main that keeps the threads and the heads keeps a still queue. -/
theorem Still.main {id : QueueId} (still : Still state id)
    (workers : after.workers = state.workers) (ioThreads : after.ioThreads = state.ioThreads)
    (head : (after.shared.queues id).head = (state.shared.queues id).head) : Still after id := by
  refine ⟨head.trans still.1, ?_⟩
  simpa only [Approached, workers, ioThreads] using still.2

/-- The queues found empty after one more was. -/
theorem found_afterEmpty {id other : QueueId} (seen : found (afterEmpty id) other = true) :
    other = id ∨ found (.sample id) other = true := by
  cases id <;> cases other <;> simp_all [afterEmpty, found]

/-- A final sample adds a still queue to those found empty. -/
theorem sample_quiescing {id : QueueId} {calls : LockCalls} {empty : Bool} {shared : Shared}
    (quiescing : Quiescing state) (place : state.main = .sample id)
    (final : Final state id calls) (ran : isQEmpty id calls state.shared = some (empty, shared)) :
    Quiescing { state with
      shared := shared, main := if empty then afterEmpty id else .breakThreads } := by
  obtain ⟨passed, heads, answer⟩ := isQEmpty_passed ran
  have stopped : state.shared.endAllIo = true := quiescing.stopped (by simp [place])
  refine ⟨fun _ => passed.endAllIo.trans stopped, fun other seen => ?_⟩
  cases empty with
  | false => cases seen
  | true =>
    have still : Still state other := by
      rcases found_afterEmpty seen with rfl | earlier
      · have head : (state.shared.queues other).head = none := by
          cases lock : calls.lock with
          | true => simpa [lock] using answer.symm
          | false =>
            have counted : (state.shared.queues other).pending = 0 := by
              simpa [lock] using answer.symm
            exact (final.1.resolve_left (by simp [lock])) counted
        exact ⟨head, final.2 head⟩
      · exact quiescing.still other (by rwa [place])
    exact still.main rfl rfl (heads other)

section Runs

variable [DecidableEq W] [DecidableEq I]

/-- Every step of main whose samples are final keeps the invariant. Main goes on to the next queue
only when the one before it is empty for good. -/
theorem main_quiescing {act : MainAct W I} (quiescing : Quiescing state)
    (settles : Settles state (.main act)) (taken : mainStep state act = some after) :
    Quiescing after := by
  cases act with
  | createIOThread who | createWorker who slot =>
    simp only [mainStep] at taken
    split_ifs at taken with place
    obtain rfl := Option.some.inj taken
    refine ⟨fun left => absurd place.1 left, fun id seen => ?_⟩
    have running : found .running id = true := place.1 ▸ seen
    cases running
  | endIo =>
    simp only [mainStep] at taken
    split_ifs at taken
    obtain rfl := Option.some.inj taken
    exact ⟨fun _ => rfl, fun id seen => by cases seen⟩
  | testWorkers | breakThreads =>
    simp only [mainStep] at taken
    split_ifs at taken with place <;> obtain rfl := Option.some.inj taken <;>
      exact ⟨fun _ => quiescing.stopped (by simp [place]), fun id seen => by cases seen⟩
  | sample calls =>
    cases place : state.main with
    | sample id =>
      simp only [mainStep, place] at taken
      obtain ⟨⟨empty, shared⟩, ran, rfl⟩ := Option.map_eq_some_iff.mp taken
      exact sample_quiescing quiescing place (settles (id, calls) (by simp [sampling, place])) ran
    | _ => simp [mainStep, place] at taken
  | breakSample calls =>
    cases place : state.main with
    | breakSample direction =>
      simp only [mainStep, place] at taken
      obtain ⟨⟨empty, shared⟩, ran, rfl⟩ := Option.map_eq_some_iff.mp taken
      have stopped : state.shared.endAllIo = true := quiescing.stopped (by simp [place])
      refine ⟨fun _ => (isQEmpty_passed ran).1.endAllIo.trans stopped, fun id seen => ?_⟩
      cases empty <;> cases direction <;> cases seen
    | _ => simp [mainStep, place] at taken
  | endThreads =>
    simp only [mainStep] at taken
    split_ifs at taken with place
    obtain rfl := Option.some.inj taken
    have begun : state.main ≠ .running := by rcases place with place | place <;> simp [place]
    refine ⟨fun _ => quiescing.stopped begun, fun id seen => ?_⟩
    rcases place with drained | quit
    · exact (quiescing.still id (by rw [drained]; rfl)).main rfl rfl rfl
    · simp [quit, found] at seen

/-- So the invariant holds in every run whose samples are final. -/
theorem reachable_quiescing
    (reached : Reachable (IoSystem.step settings) Settles Initial state) : Quiescing state := by
  apply reached.invariant Quiescing
  · rintro _ rfl
    exact ⟨fun left => absurd rfl left, fun id seen => by cases seen⟩
  · intro before label after _ quiescing settles taken
    cases label with
    | main act => exact main_quiescing quiescing settles taken
    | worker who act => exact (worker_calm taken).quiescing quiescing
    | io who act => exact (io_calm taken).quiescing quiescing

end Runs

end Proofs

/-- The drain at the shutdown. In every run of any number of threads in which each sample
of `isIOPending` is final, no request is outstanding once the wait loop of `EndIOTasks`
ended because nothing was pending, also after `EndPThreads`.

A wait loop that ended for any other reason, such as the timeout, is not covered. Lock calls may
fail, and requests may be refused.

Proof: an empty queue that nobody is about to append to stays empty, so what the three samples found
one after the other holds at once. -/
theorem drained_when_settled [DecidableEq W] [DecidableEq I] (settings : Settings)
    (state : System W I) (reached : Reachable (step settings) Settles Initial state)
    (finished : state.main = .drained ∨ state.main = .ended true) : Drained state := by
  have quiescing : Quiescing state := reachable_quiescing reached
  apply drained_of_still
  intro id
  apply quiescing.still id
  rcases finished with drained | ended
  · rw [drained]
    rfl
  · rw [ended]
    rfl

/-- Main starts the I/O thread and a worker. -/
def starts (who : Fin 2) (thread : Fin 1) : List (Label (Fin 2) (Fin 1)) :=
  [.main (.createIOThread thread), .main (.createWorker who 0), .io thread .count,
    .io thread .countIo, .io thread (.setup (some 3))]

/-- The worker queues a read, which the I/O thread takes. -/
def readTaken (who : Fin 2) (thread : Fin 1) (node : Addr) : List (Label (Fin 2) (Fin 1)) :=
  submits who 70 node .read ++ [.io thread .loopTest, .io thread (.take .read .succeed)]

/-- The I/O thread has read. -/
def readPerformed (thread : Fin 1) : Label (Fin 2) (Fin 1) :=
  .io thread (.perform true false ⟨true, true, ⟨true, true, false, false, 1048576⟩⟩)

/-- The shutdown up to the end of the wait loop. -/
def waitEnds : List (Label (Fin 2) (Fin 1)) :=
  [.main .endIo, .main .testWorkers, .main (.sample .succeed), .main (.sample .succeed),
    .main (.sample .succeed)]

/-- The worker has collected its node when main samples. -/
theorem drained_when_settled_collected : ∃ state : System (Fin 2) (Fin 1),
    (state.main = .ended true ∧ state.stats.totalIo .read = 1048576) ∧ Drained state := by
  obtain ⟨state, reached, test⟩ := replay_exhibits (step threeThreads) Settles Initial
    (starts 0 0 ++ readTaken 0 0 5 ++ [readPerformed 0, .io 0 (.giveBack .succeed true),
      .worker 0 (.tryWait true), .worker 0 (.getDone .succeed)] ++ waitEnds ++
      [.main .endThreads])
    (initialSystem (Fin 2) (Fin 1)) (fun state =>
      state.main = .ended true ∧ state.stats.totalIo .read = 1048576) rfl (by decide)
  have facts := of_decide_eq_true test
  exact ⟨state, facts, drained_when_settled threeThreads state reached (Or.inr facts.1)⟩

/-- After `EndPThreads` the worker leaves without its node. -/
def workerLeaves (who : Fin 2) : List (Label (Fin 2) (Fin 1)) :=
  [.main .endThreads, .worker who (.tryWait true), .worker who .waitTest, .worker who .loopTest,
    .worker who .freeBuffer, .worker who (.semDestroy true)]

/-- While the I/O thread reads, its node is on no queue, and all samples say empty. The
thread posts the semaphore when the worker has already destroyed it. No call fails. -/
theorem not_always_drained :
    (¬ ∀ state : System (Fin 2) (Fin 1),
      Reachable (step threeThreads) (fun _ label => callsSucceed label = true) Initial state →
        state.main = .drained → 0 < state.nIOThreads → state.nIOThreads < state.nThreads →
        Drained state) ∧
    ∃ state after : System (Fin 2) (Fin 1),
      Reachable (step threeThreads) (fun _ label => callsSucceed label = true) Initial state ∧
        state.main = .ended true ∧ ioStep state 0 (.giveBack .succeed true) = some after ∧
        state.shared.sems 0 = ⟨false, 0⟩ ∧ after.shared.sems 0 = ⟨false, 1⟩ := by
  constructor
  · intro claim
    obtain ⟨state, reached, test⟩ := replay_exhibits (step threeThreads)
      (fun _ label => callsSucceed label = true) Initial
      (starts 0 0 ++ readTaken 0 0 5 ++ waitEnds)
      (initialSystem (Fin 2) (Fin 1)) (fun state =>
        state.main = .drained ∧ 0 < state.nIOThreads ∧ state.nIOThreads < state.nThreads ∧
          (state.ioThreads 0).pc.hand = some 5) rfl (by decide)
    obtain ⟨drained, threads, workers, held⟩ := of_decide_eq_true test
    have empty := (claim state reached drained threads workers).hands 0
    exact Option.some_ne_none 5 (held.symm.trans empty)
  · obtain ⟨state, reached, test⟩ := replay_exhibits (step threeThreads)
      (fun _ label => callsSucceed label = true) Initial
      (starts 0 0 ++ readTaken 0 0 5 ++ waitEnds ++ workerLeaves 0 ++ [readPerformed 0])
      (initialSystem (Fin 2) (Fin 1)) (fun state =>
        state.main = .ended true ∧ state.shared.sems 0 = ⟨false, 0⟩ ∧
          (ioStep state 0 (.giveBack .succeed true)).any fun after =>
            after.shared.sems 0 = ⟨false, 1⟩) rfl (by decide)
    obtain ⟨ended, destroyed, posts⟩ := of_decide_eq_true test
    obtain ⟨after, taken, posted⟩ := (Option.any_eq_true ..).mp posts
    exact ⟨state, after, reached, ended, taken, destroyed, of_decide_eq_true posted⟩

end AvocadoMisc.Dwh.ShutdownDrain
