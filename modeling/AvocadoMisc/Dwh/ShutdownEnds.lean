import Mathlib.Data.BitVec
import Mathlib.Tactic.LinearCombination
import AvocadoMisc.Library.Accounting
import AvocadoMisc.Library.Liveness
import AvocadoMisc.Dwh.EveryRun

/-!
# The end of the program

Once `EndAllThreads` is set no thread serves any more, and each has few steps left. Main
may poll in `EndIOTasks` as long as it counts more threads than I/O threads. The counters
differ by the threads that are on the way in or out, so that main leaves its loop too when
no thread is left, also if I/O threads returned early and stay counted.

So under fair scheduling every run ends after `EndAllThreads` was set. A run ends nowhere
else: as long as a thread is left it can move, because its mutex is free when no unlock
call fails.
-/

namespace AvocadoMisc.Dwh.ShutdownEnds

open Library.Transitions Library.Accounting
open VerifySettings Sizing Queues QueueContents QueueLaws Transfers IoSystem IoEffects
open HandoffSimulation CompletionHandoff EveryRun

variable {W I : Type}

/-- Who takes a step. -/
inductive Party (W I : Type) where
  | main
  | worker (who : W)
  | io (who : I)

/-- The party of a step. -/
def party : Label W I → Party W I
  | .main _ => .main
  | .worker who _ => .worker who
  | .io who _ => .io who

/-- The unlock calls of a step succeed. -/
def unlocks : Label W I → Bool
  | .main (.sample calls) | .main (.breakSample calls) => calls.unlock
  | .worker _ (.enqueue calls) | .worker _ (.getDone calls) => calls.unlock
  | .io _ (.take _ calls) | .io _ (.giveBack calls _) => calls.unlock
  | _ => true

/-- No unlock call fails, and a new worker gets a semaphore that no live worker owns. -/
def Lawful (state : System W I) (label : Label W I) : Prop :=
  unlocks label = true ∧ FreshSlots state label

instance [Fintype W] (state : System W I) (label : Label W I) : Decidable (Lawful state label) :=
  inferInstanceAs (Decidable (_ ∧ _))

/-- The steps that a worker has left, at most, once `EndAllThreads` is set. -/
def workerRank : WorkerPc → Nat
  | .returned => 0
  | .released => 1
  | .finishing => 2
  | .destroying => 3
  | .closing => 4
  | .looping => 5
  | .collecting _ _ | .testing _ _ => 6
  | .waiting _ _ => 7
  | .admitted _ _ => 8
  | .submitting _ _ => 9
  | .active => 10
  | .counted => 11
  | .created => 12
  | .absent => 13

/-- The steps that an I/O thread has left. After the flag to end is set every step of it lowers the
rank, as the loop is not begun again. -/
def ioRank : IOPc → Nat
  | .returned | .abandoned => 0
  | .uncounted => 1
  | .leaving => 2
  | .destroying => 3
  | .closing => 4
  | .looping => 5
  | .performed _ _ => 6
  | .holding _ _ => 7
  | .active => 8
  | .counted => 9
  | .countedThread => 10
  | .created => 11
  | .absent => 12

/-- The steps that main has left once it counts no more threads than I/O threads. -/
def mainRank : MainPc → Nat
  | .ended _ => 0
  | .drained | .quit => 1
  | .testWorkers => 2
  | .breakSample .write => 3
  | .breakSample .read => 4
  | .breakThreads => 5
  | .sample .done => 6
  | .sample .write => 7
  | .sample .read => 8
  | .running => 9

/-- What a worker adds to `nThreads`. -/
def workerShare : WorkerPc → BitVec 32
  | .absent | .created | .returned => 0
  | _ => 1

/-- What an I/O thread adds to `nThreads` and not to `nIOThreads`. -/
def ioShare : IOPc → BitVec 32
  | .countedThread | .uncounted => 1
  | _ => 0

section Turns

/-- What a worker's step does to the threads, the counters and `EndAllThreads`. -/
structure WorkerTurn [DecidableEq W] (state after : System W I) (who : W) (worker : Worker) :
    Prop where
  workers : after.workers = Function.update state.workers who worker
  ioThreads : after.ioThreads = state.ioThreads
  main : after.main = state.main
  nIOThreads : after.nIOThreads = state.nIOThreads
  counts : after.nThreads + workerShare (state.workers who).pc =
    state.nThreads + workerShare worker.pc
  falls : state.shared.endAllThreads = true →
    workerRank worker.pc < workerRank (state.workers who).pc
  grows : state.shared.endAllThreads = true → after.shared.endAllThreads = true

/-- What an I/O thread's step does to them: only this thread changes, its share of the counters
changes with them, and its rank falls once the flag to end is set. -/
structure IOTurn [DecidableEq I] (state after : System W I) (who : I) (thread : IOThread) :
    Prop where
  ioThreads : after.ioThreads = Function.update state.ioThreads who thread
  workers : after.workers = state.workers
  main : after.main = state.main
  counts : after.nThreads + state.nIOThreads + ioShare (state.ioThreads who).pc =
    state.nThreads + after.nIOThreads + ioShare thread.pc
  falls : state.shared.endAllThreads = true →
    ioRank thread.pc < ioRank (state.ioThreads who).pc
  grows : state.shared.endAllThreads = true → after.shared.endAllThreads = true

variable {settings : Settings} {state after : System W I}

/-- The test of the work loop goes on only before `EndAllThreads`. -/
theorem loopTest_turn [DecidableEq W] {who : W}
    (taken : workerStep settings state who .loopTest = some after) :
    ∃ worker, WorkerTurn state after who worker := by
  simp only [workerStep] at taken
  split_ifs at taken with place runs <;> obtain rfl := Option.some.inj taken
  · exact ⟨_, rfl, rfl, rfl, rfl, by rw [place]; rfl, fun stops => absurd stops runs.1, id⟩
  · exact ⟨_, rfl, rfl, rfl, rfl, by rw [place]; rfl, fun _ => by simp [place, workerRank], id⟩

/-- The test of a request function comes to the queue or to the wait. -/
theorem endIOTest_turn [DecidableEq W] {who : W}
    (taken : workerStep settings state who .endIOTest = some after) :
    ∃ worker, WorkerTurn state after who worker := by
  cases place : (state.workers who).pc with
  | submitting node iotype =>
    simp only [workerStep, place] at taken
    split_ifs at taken <;> obtain rfl := Option.some.inj taken <;>
      exact ⟨_, rfl, rfl, rfl, rfl, by rw [place]; rfl, fun _ => by simp [place, workerRank], id⟩
  | _ => simp [workerStep, place] at taken

/-- The test of the wait goes on only before `EndAllThreads`. -/
theorem waitTest_turn [DecidableEq W] {who : W}
    (taken : workerStep settings state who .waitTest = some after) :
    ∃ worker, WorkerTurn state after who worker := by
  cases place : (state.workers who).pc with
  | testing node iotype =>
    simp only [workerStep, place] at taken
    split_ifs at taken with stopped <;> obtain rfl := Option.some.inj taken
    · exact ⟨_, rfl, rfl, rfl, rfl, by rw [place]; rfl, fun _ => by simp [place, workerRank], id⟩
    · exact ⟨_, rfl, rfl, rfl, rfl, by rw [place]; rfl, fun stops => absurd stops stopped, id⟩
  | _ => simp [workerStep, place] at taken

/-- A queue function keeps `EndAllThreads`. -/
theorem enqueue_turn [DecidableEq W] {who : W} {calls : LockCalls}
    (taken : workerStep settings state who (.enqueue calls) = some after) :
    ∃ worker, WorkerTurn state after who worker := by
  cases place : (state.workers who).pc with
  | admitted node iotype =>
    simp only [workerStep, place] at taken
    obtain ⟨⟨queued, shared⟩, ran, rfl⟩ := Option.map_eq_some_iff.mp taken
    exact ⟨_, rfl, rfl, rfl, rfl, by rw [place]; rfl, fun _ => by simp [place, workerRank],
      (queueIOAdmitted_passed ran).stopping⟩
  | _ => simp [workerStep, place] at taken

/-- The wait for a node is one step, whatever it finds. -/
theorem tryWait_turn [DecidableEq W] {who : W} {succeeds : Bool}
    (taken : workerStep settings state who (.tryWait succeeds) = some after) :
    ∃ worker, WorkerTurn state after who worker := by
  cases place : (state.workers who).pc with
  | waiting node iotype =>
    simp only [workerStep, place] at taken
    obtain ⟨slot, key, rfl⟩ := Option.map_eq_some_iff.mp taken
    split_ifs <;>
      exact ⟨_, rfl, rfl, rfl, rfl, by rw [place]; rfl, fun _ => by simp [place, workerRank], id⟩
  | _ => simp [workerStep, place] at taken

/-- A node that is not found sets `EndAllThreads`. -/
theorem getDone_turn [DecidableEq W] {who : W} {calls : LockCalls}
    (taken : workerStep settings state who (.getDone calls) = some after) :
    ∃ worker, WorkerTurn state after who worker := by
  cases place : (state.workers who).pc with
  | collecting node iotype =>
    simp only [workerStep, place] at taken
    obtain ⟨⟨removed, shared⟩, ran, rfl⟩ := Option.map_eq_some_iff.mp taken
    cases removed with
    | true =>
      exact ⟨_, rfl, rfl, rfl, rfl, by rw [place]; rfl, fun _ => by simp [place, workerRank],
        (getIODoneNode_passed ran).stopping⟩
    | false =>
      exact ⟨_, rfl, rfl, rfl, rfl, by rw [place]; rfl, fun _ => by simp [place, workerRank],
        fun _ => Bool.or_true _⟩
  | _ => simp [workerStep, place] at taken

/-- A worker's step is such a turn: it changes the worker and its share of the counters, and with
`EndAllThreads` set fewer steps are left. -/
theorem workerStep_turn [DecidableEq W] {who : W} {act : WorkerAct}
    (taken : workerStep settings state who act = some after) :
    ∃ worker, WorkerTurn state after who worker := by
  cases act with
  | count | uncount =>
    simp only [workerStep] at taken
    split_ifs at taken with place
    obtain rfl := Option.some.inj taken
    exact ⟨_, rfl, rfl, rfl, rfl, by simp [System.setWorker, place, workerShare],
      fun _ => by simp [place, workerRank], id⟩
  | idle | endMe draw | release =>
    simp only [workerStep] at taken
    split_ifs at taken with place
    obtain rfl := Option.some.inj taken
    exact ⟨_, rfl, rfl, rfl, rfl, by rw [place]; rfl, fun _ => by simp [place, workerRank], id⟩
  | semInit succeeds =>
    simp only [workerStep] at taken
    split_ifs at taken with place success <;> obtain rfl := Option.some.inj taken
    · exact ⟨_, rfl, rfl, rfl, rfl, by rw [place]; rfl, fun _ => by simp [place, workerRank], id⟩
    · exact ⟨_, rfl, rfl, rfl, rfl, by rw [place]; rfl, fun _ => by simp [place, workerRank],
        fun _ => Bool.or_true _⟩
  | semDestroy succeeds =>
    simp only [workerStep] at taken
    split_ifs at taken with place
    obtain rfl := Option.some.inj taken
    exact ⟨_, rfl, rfl, rfl, rfl, by rw [place]; rfl, fun _ => by simp [place, workerRank],
      fun stops => by simp [System.setWorker, endAllIf, stops]⟩
  | loopTest => exact loopTest_turn taken
  | allocate memUsed draw result =>
    cases result <;> simp only [workerStep] at taken <;> split_ifs at taken with place <;>
      obtain rfl := Option.some.inj taken <;>
      exact ⟨_, rfl, rfl, rfl, rfl, by rw [place]; rfl, fun _ => by simp [place, workerRank], id⟩
  | request result draw iotype =>
    cases result <;> simp only [workerStep] at taken <;> split_ifs at taken with place <;>
      obtain rfl := Option.some.inj taken <;>
      exact ⟨_, rfl, rfl, rfl, rfl, by rw [place]; rfl, fun _ => by simp [place, workerRank], id⟩
  | free | freeBuffer =>
    simp only [workerStep] at taken
    split_ifs at taken with place
    split at taken <;> obtain rfl := Option.some.inj taken <;>
      exact ⟨_, rfl, rfl, rfl, rfl, by rw [place]; rfl, fun _ => by simp [place, workerRank], id⟩
  | endIOTest => exact endIOTest_turn taken
  | waitTest => exact waitTest_turn taken
  | enqueue calls => exact enqueue_turn taken
  | tryWait succeeds => exact tryWait_turn taken
  | getDone calls => exact getDone_turn taken

/-- A file that cannot be opened sets `EndAllThreads`. -/
theorem setup_turn [DecidableEq I] {who : I} {myFd : Option Int}
    (taken : ioStep state who (.setup myFd) = some after) :
    ∃ thread, IOTurn state after who thread := by
  cases myFd <;> simp only [ioStep] at taken <;> split_ifs at taken with place <;>
    obtain rfl := Option.some.inj taken
  · exact ⟨_, rfl, rfl, rfl, by rw [place]; rfl, fun _ => by simp [place, ioRank],
      fun _ => Bool.or_true _⟩
  · exact ⟨_, rfl, rfl, rfl, by rw [place]; rfl, fun _ => by simp [place, ioRank], id⟩

/-- Taking a node keeps `EndAllThreads`. -/
theorem take_turn [DecidableEq I] {who : I} {activity : Direction} {calls : LockCalls}
    (taken : ioStep state who (.take activity calls) = some after) :
    ∃ thread, IOTurn state after who thread := by
  simp only [ioStep] at taken
  split_ifs at taken with place
  obtain ⟨⟨result, shared⟩, ran, rfl⟩ := Option.map_eq_some_iff.mp taken
  have stopping := (getIONode_passed ran).stopping
  cases result with
  | some node =>
    exact ⟨_, rfl, rfl, rfl, by rw [place]; rfl, fun _ => by simp [place, ioRank], stopping⟩
  | none =>
    exact ⟨_, rfl, rfl, rfl, by rw [place]; rfl, fun _ => by simp [place, ioRank], stopping⟩

/-- A transfer is one step, whatever the calls answer. -/
theorem perform_turn [DecidableEq I] {who : I} {readStream verbose : Bool} {answers : FileAnswers}
    (taken : ioStep state who (.perform readStream verbose answers) = some after) :
    ∃ thread, IOTurn state after who thread := by
  cases place : (state.ioThreads who).pc with
  | holding node activity =>
    simp only [ioStep, place, Option.some.injEq] at taken
    subst taken
    exact ⟨_, rfl, rfl, rfl, by rw [place]; rfl, fun _ => by simp [place, ioRank],
      fun stops => by simp [System.setIo, endAllIf, setFd, stops]⟩
  | _ => simp [ioStep, place] at taken

/-- The post for the owner of a node keeps `EndAllThreads`, or sets it when it fails. -/
theorem giveBack_turn [DecidableEq I] {who : I} {calls : LockCalls} {post : Bool}
    (taken : ioStep state who (.giveBack calls post) = some after) :
    ∃ thread, IOTurn state after who thread := by
  cases place : (state.ioThreads who).pc with
  | performed node activity =>
    simp only [ioStep, place] at taken
    obtain ⟨⟨queued, shared⟩, ran, rfl⟩ := Option.map_eq_some_iff.mp taken
    obtain ⟨linked, passed, woken⟩ := queueIODone_passed ran
    refine ⟨_, rfl, rfl, rfl, by rw [place]; rfl, fun _ => by simp [place, ioRank], ?_⟩
    intro stops
    have before := passed.stopping stops
    have after : shared.endAllThreads = true := by
      rcases woken with rfl | rfl
      · exact before
      · exact (wakeOwner_frame post node linked).2.2.2 before
    simp [System.setIo, endAllIf, after]
  | _ => simp [ioStep, place] at taken

/-- So is an I/O thread's, which in addition has a share of the second counter. -/
theorem ioStep_turn [DecidableEq I] {who : I} {act : IOAct}
    (taken : ioStep state who act = some after) : ∃ thread, IOTurn state after who thread := by
  cases act with
  | count | countIo | uncountIo | uncount =>
    simp only [ioStep] at taken
    split_ifs at taken with place
    obtain rfl := Option.some.inj taken
    refine ⟨_, rfl, rfl, rfl, ?_, fun _ => by simp [place, ioRank], id⟩
    simp only [System.setIo, place, ioShare]
    bv_omega
  | idle =>
    simp only [ioStep] at taken
    split_ifs at taken with place
    obtain rfl := Option.some.inj taken
    exact ⟨_, rfl, rfl, rfl, by rw [place]; rfl, fun _ => by simp [place, ioRank], id⟩
  | closeFile succeeds | semDestroy succeeds =>
    simp only [ioStep] at taken
    split_ifs at taken with place
    obtain rfl := Option.some.inj taken
    exact ⟨_, rfl, rfl, rfl, by rw [place]; rfl, fun _ => by simp [place, ioRank],
      fun stops => by simp [System.setIo, endAllIf, stops]⟩
  | setup myFd => exact setup_turn taken
  | loopTest =>
    simp only [ioStep] at taken
    split_ifs at taken with place stopped <;> obtain rfl := Option.some.inj taken
    · exact ⟨_, rfl, rfl, rfl, by rw [place]; rfl, fun _ => by simp [place, ioRank], id⟩
    · exact ⟨_, rfl, rfl, rfl, by rw [place]; rfl, fun stops => absurd stops stopped, id⟩
  | take activity calls => exact take_turn taken
  | perform readStream verbose answers => exact perform_turn taken
  | giveBack calls post => exact giveBack_turn taken

/-- A step of main keeps the threads and the counters, or creates one thread. Without a
thread that runs, it has fewer steps left. -/
theorem mainStep_turn [DecidableEq W] [DecidableEq I] {act : MainAct W I}
    (taken : mainStep state act = some after) :
    after.nThreads = state.nThreads ∧ after.nIOThreads = state.nIOThreads ∧
      (state.shared.endAllThreads = true → after.shared.endAllThreads = true) ∧
      ((∃ who slot, act = .createWorker who slot ∧ (state.workers who).pc = .absent ∧
          after.workers =
            Function.update state.workers who ⟨.created, slot, none, 0, false, false⟩ ∧
          after.ioThreads = state.ioThreads) ∨
        (∃ who, act = .createIOThread who ∧ (state.ioThreads who).pc = .absent ∧
          after.ioThreads = Function.update state.ioThreads who ⟨.created, -1⟩ ∧
          after.workers = state.workers) ∨
        after.workers = state.workers ∧ after.ioThreads = state.ioThreads ∧
          (state.nThreads = state.nIOThreads → mainRank after.main < mainRank state.main)) := by
  cases act with
  | createIOThread who =>
    simp only [mainStep] at taken
    split_ifs at taken with place
    obtain rfl := Option.some.inj taken
    exact ⟨rfl, rfl, id, Or.inr (Or.inl ⟨who, rfl, place.2, rfl, rfl⟩)⟩
  | createWorker who slot =>
    simp only [mainStep] at taken
    split_ifs at taken with place
    obtain rfl := Option.some.inj taken
    exact ⟨rfl, rfl, id, Or.inl ⟨who, slot, rfl, place.2, rfl, rfl⟩⟩
  | endIo =>
    simp only [mainStep] at taken
    split_ifs at taken with place
    obtain rfl := Option.some.inj taken
    exact ⟨rfl, rfl, id, Or.inr (Or.inr ⟨rfl, rfl, fun _ => by simp [place, mainRank]⟩)⟩
  | testWorkers =>
    simp only [mainStep] at taken
    split_ifs at taken with place more <;> obtain rfl := Option.some.inj taken
    · refine ⟨rfl, rfl, id, Or.inr (Or.inr ⟨rfl, rfl, fun same => ?_⟩)⟩
      rw [same] at more
      exact absurd more (BitVec.lt_irrefl _)
    · exact ⟨rfl, rfl, id, Or.inr (Or.inr ⟨rfl, rfl, fun _ => by simp [place, mainRank]⟩)⟩
  | breakThreads =>
    simp only [mainStep] at taken
    split_ifs at taken with place <;> obtain rfl := Option.some.inj taken <;>
      exact ⟨rfl, rfl, id, Or.inr (Or.inr ⟨rfl, rfl, fun _ => by simp [place, mainRank]⟩)⟩
  | sample calls =>
    cases place : state.main with
    | sample id =>
      simp only [mainStep, place] at taken
      obtain ⟨⟨empty, shared⟩, ran, rfl⟩ := Option.map_eq_some_iff.mp taken
      refine ⟨rfl, rfl, (isQEmpty_passed ran).1.stopping, Or.inr (Or.inr ⟨rfl, rfl, fun _ => ?_⟩)⟩
      cases empty <;> cases id <;> simp [afterEmpty, mainRank]
    | _ => simp [mainStep, place] at taken
  | breakSample calls =>
    cases place : state.main with
    | breakSample direction =>
      simp only [mainStep, place] at taken
      obtain ⟨⟨empty, shared⟩, ran, rfl⟩ := Option.map_eq_some_iff.mp taken
      refine ⟨rfl, rfl, (isQEmpty_passed ran).1.stopping, Or.inr (Or.inr ⟨rfl, rfl, fun _ => ?_⟩)⟩
      cases empty <;> cases direction <;> simp [mainRank]
    | _ => simp [mainStep, place] at taken
  | endThreads =>
    simp only [mainStep] at taken
    split_ifs at taken with place
    obtain rfl := Option.some.inj taken
    refine ⟨rfl, rfl, fun _ => rfl, Or.inr (Or.inr ⟨rfl, rfl, fun _ => ?_⟩)⟩
    rcases place with place | place <;> simp [place, mainRank]

end Turns

section Runs

variable [DecidableEq W] [DecidableEq I] {settings : Settings} {state after : System W I}

/-! ### Free mutexes -/

/-- No mutex is held between the steps. -/
def Unlocked (g : Shared) : Prop := ∀ id, (g.queues id).locked = false

omit [DecidableEq W] [DecidableEq I] in
/-- A critical section whose unlock call succeeds leaves no mutex held. -/
theorem Unlocked.passed {id : QueueId} {calls : LockCalls} {g shared : Shared}
    (unlocked : Unlocked g) (passed : Passed id calls g shared) (unlock : calls.unlock = true) :
    Unlocked shared := by
  intro other
  by_cases same : other = id
  · subst same
    exact (passed.settled unlock).2.trans (unlocked other)
  · rw [passed.others other same]
    exact unlocked other

/-- Nor does any step whose unlock calls succeed. A step is a whole critical section, so its mutex
is free again behind it. -/
theorem unlocked_step {label : Label W I} (unlocked : Unlocked state.shared)
    (unlock : unlocks label = true) (taken : step settings state label = some after) :
    Unlocked after.shared := by
  cases label with
  | main act =>
    have moved : mainStep state act = some after := taken
    cases act with
    | sample calls | breakSample calls =>
      simp only [mainStep] at moved
      split at moved
      · obtain ⟨⟨empty, shared⟩, ran, rfl⟩ := Option.map_eq_some_iff.mp moved
        exact unlocked.passed (isQEmpty_passed ran).1 unlock
      · cases moved
    | _ =>
      simp only [mainStep] at moved
      split_ifs at moved <;> obtain rfl := Option.some.inj moved <;> exact unlocked
  | worker who act =>
    have moved : workerStep settings state who act = some after := taken
    cases workerStep_effect moved with
    | enqueues calls node iotype queued shared stats place ran =>
      exact unlocked.passed (queueIOAdmitted_passed ran) unlock
    | collects calls node iotype shared stats place ran =>
      exact unlocked.passed (getIODoneNode_passed ran) unlock
    | loses calls node iotype shared place ran =>
      have free : Unlocked shared := unlocked.passed (getIODoneNode_passed ran) unlock
      exact free
    | _ => exact unlocked
  | io who act =>
    cases ioStep_effect taken with
    | misses activity calls shared place ran => exact unlocked.passed (getIONode_passed ran) unlock
    | takes activity calls node shared stats place ran =>
      have free : Unlocked shared := unlocked.passed (getIONode_passed ran) unlock
      exact free
    | givesBack calls post node activity queued shared place ran =>
      obtain ⟨linked, passed, woken⟩ := queueIODone_passed ran
      have free := unlocked.passed passed unlock
      rcases woken with rfl | rfl
      · exact free
      · intro id
        exact (congrArg (fun queues => (queues id).locked)
          (wakeOwner_frame post node linked).2.1).trans (free id)
    | _ => exact unlocked

/-! ### The counters -/

variable [Fintype W] [Fintype I]

/-- Main's two counters differ by the threads on the way in or out and by the workers. -/
def Balanced (state : System W I) : Prop :=
  state.nThreads = state.nIOThreads + total (fun worker => workerShare worker.pc) state.workers +
    total (fun thread => ioShare thread.pc) state.ioThreads

omit [DecidableEq I] in
/-- A worker's turn keeps this. -/
theorem WorkerTurn.balanced {who : W} {worker : Worker} (turn : WorkerTurn state after who worker)
    (balanced : Balanced state) : Balanced after := by
  have moved := total_update (fun worker : Worker => workerShare worker.pc) state.workers who worker
  have counts := turn.counts
  unfold Balanced at balanced ⊢
  rw [turn.workers, turn.ioThreads, turn.nIOThreads]
  linear_combination counts + balanced - moved

omit [DecidableEq W] in
/-- So does an I/O thread's. -/
theorem IOTurn.balanced {who : I} {thread : IOThread} (turn : IOTurn state after who thread)
    (balanced : Balanced state) : Balanced after := by
  have moved := total_update (fun thread : IOThread => ioShare thread.pc) state.ioThreads who thread
  have counts := turn.counts
  unfold Balanced at balanced ⊢
  rw [turn.ioThreads, turn.workers]
  linear_combination counts + balanced - moved

/-- And main's: a new thread is not counted yet. -/
theorem mainStep_balanced {act : MainAct W I} (taken : mainStep state act = some after)
    (balanced : Balanced state) : Balanced after := by
  obtain ⟨nThreads, nIOThreads, _, created⟩ := mainStep_turn taken
  unfold Balanced at balanced ⊢
  rw [nThreads, nIOThreads]
  rcases created with ⟨who, slot, _, absent, workers, ioThreads⟩ |
    ⟨who, _, absent, ioThreads, workers⟩ | ⟨workers, ioThreads, _⟩
  · rw [workers, ioThreads, total_update_same _ _ _ _ (by rw [absent]; rfl)]
    exact balanced
  · rw [workers, ioThreads, total_update_same _ _ _ _ (by rw [absent]; rfl)]
    exact balanced
  · rw [workers, ioThreads]
    exact balanced

/-! ### What is left to do -/

/-- A thread that was created and has not returned, early or late. -/
def Runs (state : System W I) : Party W I → Prop
  | .main => False
  | .worker who => (state.workers who).pc ≠ .absent ∧ (state.workers who).pc ≠ .returned
  | .io who => (state.ioThreads who).pc ≠ .absent ∧ (state.ioThreads who).pc ≠ .returned ∧
      (state.ioThreads who).pc ≠ .abandoned

/-- The steps that all threads have left. -/
def stepsLeft (state : System W I) : Nat :=
  total (fun worker => workerRank worker.pc) state.workers +
    total (fun thread => ioRank thread.pc) state.ioThreads

omit [DecidableEq W] [DecidableEq I] in
/-- When no thread runs, main counts no more threads than I/O threads. -/
theorem counters_meet (balanced : Balanced state) (ended : ∀ who, ¬ Runs state who) :
    state.nThreads = state.nIOThreads := by
  have workers : total (fun worker => workerShare worker.pc) state.workers = 0 := by
    refine total_eq_zero _ _ fun who => ?_
    by_cases absent : (state.workers who).pc = .absent
    · rw [absent]
      rfl
    · by_cases returned : (state.workers who).pc = .returned
      · rw [returned]
        rfl
      · exact absurd ⟨absent, returned⟩ (ended (.worker who))
  have ioThreads : total (fun thread => ioShare thread.pc) state.ioThreads = 0 := by
    refine total_eq_zero _ _ fun who => ?_
    cases place : (state.ioThreads who).pc with
    | countedThread | uncounted => exact absurd (by simp [Runs, place]) (ended (.io who))
    | _ => rfl
  rw [balanced, workers, ioThreads, add_zero, add_zero]

omit [Fintype W] [Fintype I] in
/-- A thread that runs can move: its next call does not block, since its mutex is free, and what it
goes through is not null. -/
theorem able_of_runs (intact : Intact settings state) (unlocked : Unlocked state.shared)
    {who : Party W I} (runs : Runs state who) : Able (step settings) Lawful party state who := by
  have grants (id : QueueId) (calls : LockCalls) : Grantable state.shared id calls :=
    fun _ => unlocked id
  cases who with
  | main => exact runs.elim
  | worker who =>
    have moves (act : WorkerAct) (unlock : unlocks (.worker who act : Label W I) = true)
        (due : WorkerDue state who act) : Able (step settings) Lawful party state (.worker who) :=
      ⟨.worker who act, rfl, ⟨unlock, fun _ given => by cases given⟩, intact.proceeds _ due⟩
    cases place : (state.workers who).pc with
    | absent => exact absurd place runs.1
    | returned => exact absurd place runs.2
    | created => exact moves .count rfl place
    | counted => exact moves (.semInit true) rfl place
    | looping => exact moves .loopTest rfl place
    | active => exact moves .idle rfl place
    | submitting node iotype => exact moves .endIOTest rfl ⟨node, iotype, place⟩
    | admitted node iotype =>
      exact moves (.enqueue .succeed) rfl ⟨node, iotype, place, grants _ _⟩
    | waiting node iotype => exact moves (.tryWait true) rfl ⟨node, iotype, place⟩
    | collecting node iotype =>
      exact moves (.getDone .succeed) rfl ⟨node, iotype, place, grants _ _⟩
    | testing node iotype => exact moves .waitTest rfl ⟨node, iotype, place⟩
    | closing => exact moves .freeBuffer rfl place
    | destroying => exact moves (.semDestroy true) rfl place
    | finishing => exact moves .release rfl place
    | released => exact moves .uncount rfl place
  | io who =>
    have moves (act : IOAct) (unlock : unlocks (.io who act : Label W I) = true)
        (due : IODue state who act) : Able (step settings) Lawful party state (.io who) :=
      ⟨.io who act, rfl, ⟨unlock, fun _ given => by cases given⟩, intact.proceeds _ due⟩
    cases place : (state.ioThreads who).pc with
    | absent => exact absurd place runs.1
    | returned => exact absurd place runs.2.1
    | abandoned => exact absurd place runs.2.2
    | created => exact moves .count rfl place
    | countedThread => exact moves .countIo rfl place
    | counted => exact moves (.setup (some 0)) rfl place
    | looping => exact moves .loopTest rfl place
    | active => exact moves .idle rfl place
    | holding node activity =>
      exact moves (.perform true false ⟨true, true, ⟨true, true, false, false, 0⟩⟩) rfl
        ⟨node, activity, place⟩
    | performed node activity =>
      exact moves (.giveBack .succeed true) rfl ⟨node, activity, place, grants _ _⟩
    | closing => exact moves (.closeFile true) rfl place
    | destroying => exact moves (.semDestroy true) rfl place
    | leaving => exact moves .uncountIo rfl place
    | uncounted => exact moves .uncount rfl place

omit [Fintype W] [Fintype I] in
/-- So can main until it has ended all threads. -/
theorem able_main (intact : Intact settings state) (unlocked : Unlocked state.shared)
    (goesOn : ∀ pendingEnded, state.main ≠ .ended pendingEnded) :
    Able (step settings) Lawful party state .main := by
  have grants (id : QueueId) (calls : LockCalls) : Grantable state.shared id calls :=
    fun _ => unlocked id
  have moves (act : MainAct W I) (unlock : unlocks (.main act) = true)
      (creates : newSlot (.main act) = none) (due : MainDue state act) :
      Able (step settings) Lawful party state .main :=
    ⟨.main act, rfl, ⟨unlock, fun _ given => by rw [creates] at given; cases given⟩,
      intact.proceeds _ due⟩
  cases place : state.main with
  | running => exact moves .endIo rfl rfl place
  | testWorkers => exact moves .testWorkers rfl rfl place
  | sample id => exact moves (.sample .succeed) rfl rfl ⟨id, place, grants _ _⟩
  | breakThreads => exact moves .breakThreads rfl rfl place
  | breakSample direction =>
    exact moves (.breakSample .succeed) rfl rfl ⟨direction, place, grants _ _⟩
  | drained => exact moves .endThreads rfl rfl (Or.inl place)
  | quit => exact moves .endThreads rfl rfl (Or.inr place)
  | ended pendingEnded => exact absurd place (goesOn pendingEnded)

/-- A step after `EndAllThreads` was set leaves fewer steps to the threads, or it is main's,
leaves the threads alone, and brings main's end nearer when no thread runs. -/
theorem step_progress {label : Label W I} (stopping : state.shared.endAllThreads = true)
    (balanced : Balanced state) (taken : step settings state label = some after) :
    stepsLeft after < stepsLeft state ∨
      stepsLeft after = stepsLeft state ∧ party label = .main ∧
        (∀ who, Runs after who ↔ Runs state who) ∧
        ((∀ who, ¬ Runs state who) → mainRank after.main < mainRank state.main) := by
  unfold stepsLeft
  cases label with
  | worker who act =>
    have moved : workerStep settings state who act = some after := taken
    obtain ⟨worker, turn⟩ := workerStep_turn moved
    have fewer := total_update_lt (fun worker : Worker => workerRank worker.pc) state.workers who
      worker (turn.falls stopping)
    rw [turn.workers, turn.ioThreads]
    exact Or.inl (Nat.add_lt_add_right fewer _)
  | io who act =>
    obtain ⟨thread, turn⟩ := ioStep_turn taken
    have fewer := total_update_lt (fun thread : IOThread => ioRank thread.pc) state.ioThreads who
      thread (turn.falls stopping)
    rw [turn.workers, turn.ioThreads]
    exact Or.inl (Nat.add_lt_add_left fewer _)
  | main act =>
    have moved : mainStep state act = some after := taken
    obtain ⟨_, _, _, created⟩ := mainStep_turn moved
    rcases created with ⟨who, slot, _, absent, workers, ioThreads⟩ |
      ⟨who, _, absent, ioThreads, workers⟩ | ⟨workers, ioThreads, nearer⟩
    · have fewer := total_update_lt (fun worker : Worker => workerRank worker.pc) state.workers who
        ⟨.created, slot, none, 0, false, false⟩ (by simp [absent, workerRank])
      rw [workers, ioThreads]
      exact Or.inl (Nat.add_lt_add_right fewer _)
    · have fewer := total_update_lt (fun thread : IOThread => ioRank thread.pc) state.ioThreads who
        ⟨.created, -1⟩ (by simp [absent, ioRank])
      rw [workers, ioThreads]
      exact Or.inl (Nat.add_lt_add_left fewer _)
    · refine Or.inr ⟨by rw [workers, ioThreads], rfl, fun other => ?_, fun ended => ?_⟩
      · cases other <;> simp only [Runs, workers, ioThreads]
      · exact nearer (counters_meet balanced ended)

/-! ### Whole runs -/

/-- What holds in every state of a lawful run. -/
structure Steady (settings : Settings) (state : System W I) : Prop where
  intact : Intact settings state
  unlocked : Unlocked state.shared
  balanced : Balanced state

/-- Every lawful run is steady: the counters are what the threads contribute, and the mutexes are
free between the steps. -/
theorem reachable_steady (reached : Reachable (step settings) Lawful Initial state) :
    Steady settings state := by
  have kept : Unlocked state.shared ∧ Balanced state := by
    apply reached.invariant fun state => Unlocked state.shared ∧ Balanced state
    · rintro _ rfl
      refine ⟨fun _ => rfl, ?_⟩
      have workers : total (fun worker => workerShare worker.pc) (initialSystem W I).workers = 0 :=
        total_eq_zero _ _ fun _ => rfl
      have ioThreads : total (fun thread => ioShare thread.pc) (initialSystem W I).ioThreads = 0 :=
        total_eq_zero _ _ fun _ => rfl
      rw [Balanced, workers, ioThreads]
      rfl
    · rintro before label after _ ⟨unlocked, balanced⟩ lawful taken
      refine ⟨unlocked_step unlocked lawful.1 taken, ?_⟩
      cases label with
      | main act => exact mainStep_balanced taken balanced
      | worker who act =>
        have moved : workerStep settings before who act = some after := taken
        obtain ⟨worker, turn⟩ := workerStep_turn moved
        exact turn.balanced balanced
      | io who act =>
        obtain ⟨thread, turn⟩ := ioStep_turn taken
        exact turn.balanced balanced
  have intact := every_run_intact settings state (reached.weaken fun _ _ lawful => lawful.2)
  exact ⟨intact, kept.1, kept.2⟩

omit [Fintype W] [Fintype I] in
/-- `EndAllThreads` is never cleared. -/
theorem stopping_step {label : Label W I} (stopping : state.shared.endAllThreads = true)
    (taken : step settings state label = some after) : after.shared.endAllThreads = true := by
  cases label with
  | main act =>
    have moved : mainStep state act = some after := taken
    exact (mainStep_turn moved).2.2.1 stopping
  | worker who act =>
    have moved : workerStep settings state who act = some after := taken
    obtain ⟨_, turn⟩ := workerStep_turn moved
    exact turn.grows stopping
  | io who act =>
    obtain ⟨_, turn⟩ := ioStep_turn taken
    exact turn.grows stopping

end Runs

/-- Main has ended all threads, and every thread has returned, some perhaps early. -/
structure Finished (state : System W I) : Prop where
  main : ∃ pendingEnded, state.main = .ended pendingEnded
  workers : ∀ who, (state.workers who).pc = .absent ∨ (state.workers who).pc = .returned
  ioThreads : ∀ who, (state.ioThreads who).pc = .absent ∨ (state.ioThreads who).pc = .returned ∨
    (state.ioThreads who).pc = .abandoned
  counters : state.nThreads = state.nIOThreads

/-- The program ends: fair scheduling does not go on for ever, and nothing stops before
the program is finished. -/
structure Ends [DecidableEq W] [DecidableEq I] (settings : Settings) (state : System W I) :
    Prop where
  fair : ∀ run : Endless (step settings) Lawful, run.state 0 = state → ¬ run.Fair party
  last : ∀ after, Reachable (step settings) Lawful (fun first => first = state) after →
    (∀ label, Lawful after label → step settings after label = none) → Finished after

/-- The program ends once `EndAllThreads` is set. In every run of any number of threads in
which no unlock call fails and a new worker gets a semaphore that no live one owns, whatever
the other calls answer and wherever main and the threads are when `EndAllThreads` is set,
weakly fair scheduling brings the run to an end, and that end is the program's.

A failing unlock is left out because its mutex then stays locked for good. How the flag came to be
set is not asked.

Proof: each thread has fewer steps left than before, and main polls only while a thread is left. So
the measure of what is left falls, and while it is not zero some step is due. -/
theorem shutdown_ends [DecidableEq W] [DecidableEq I] [Fintype W] [Fintype I]
    (settings : Settings) (state : System W I)
    (reached : Reachable (step settings) Lawful Initial state)
    (stopping : state.shared.endAllThreads = true) : Ends settings state := by
  constructor
  case fair =>
    rintro run rfl
    have steady (n : Nat) := reachable_steady (run.reachable reached n)
    have stops := run.always (fun _ _ _ => stopping_step) stopping
    refine run.not_fair .main Runs stepsLeft (fun state => mainRank state.main) ?_ ?_
    · intro n who runs
      refine ⟨?_, able_of_runs (steady n).intact (steady n).unlocked runs⟩
      rintro rfl
      exact runs
    · exact fun n => step_progress (stops n) (steady n).balanced (run.taken n)
  case last =>
    intro after later stuck
    obtain ⟨intact, unlocked, balanced⟩ := reachable_steady (reached.append later)
    have nobody (who : Party W I) : ¬ Able (step settings) Lawful party after who := by
      rintro ⟨label, _, lawful, moves⟩
      rw [stuck label lawful] at moves
      cases moves
    have ended (who : Party W I) : ¬ Runs after who := fun runs =>
      nobody who (able_of_runs intact unlocked runs)
    refine ⟨?_, fun who => ?_, fun who => ?_, counters_meet balanced ended⟩
    · by_contra goesOn
      exact nobody .main (able_main intact unlocked fun pendingEnded place =>
        goesOn ⟨pendingEnded, place⟩)
    · by_contra other
      exact ended (.worker who) (not_or.mp other)
    · by_contra other
      exact ended (.io who) ⟨fun place => other (Or.inl place),
        fun place => other (Or.inr (Or.inl place)), fun place => other (Or.inr (Or.inr place))⟩

/-- Main's places while it polls without getting a lock. -/
def pollPlace (n : Nat) : MainPc :=
  match n % 3 with
  | 0 => .testWorkers
  | 1 => .sample .read
  | _ => .breakThreads

/-- Main's steps while it polls. -/
def pollStep (n : Nat) : Label (Fin 2) (Fin 1) :=
  match n % 3 with
  | 0 => .main .testWorkers
  | 1 => .main (.sample ⟨false, true⟩)
  | _ => .main .breakThreads

/-- Main can poll without end while a request is pending and the threads do not move. -/
theorem exists_poll {state : System (Fin 2) (Fin 1)} (place : state.main = .testWorkers)
    (more : state.nThreads > state.nIOThreads) (threads : ¬ state.nIOThreads < 1)
    (pending : (state.shared.queues .read).pending ≠ 0) :
    ∃ run : Endless (step threeThreads) Lawful, run.state 0 = state := by
  have sampled : isQEmpty .read ⟨false, true⟩ state.shared = some (false, state.shared) := by
    simpa [isQEmpty, critical, lockQ] using pending
  refine ⟨⟨fun n => { state with main := pollPlace n }, pollStep, fun n => ?_, fun n => ?_⟩, ?_⟩
  · have turn : n % 3 = 0 ∨ n % 3 = 1 ∨ n % 3 = 2 := by omega
    rcases turn with turn | turn | turn <;>
      exact ⟨by simp [pollStep, turn, unlocks], fun slot given => by
        simp [pollStep, turn, newSlot] at given⟩
  · have turn : n % 3 = 0 ∨ n % 3 = 1 ∨ n % 3 = 2 := by omega
    rcases turn with turn | turn | turn
    · have next : (n + 1) % 3 = 1 := by omega
      simp [pollStep, pollPlace, turn, next, step, mainStep, more]
    · have next : (n + 1) % 3 = 2 := by omega
      simp [pollStep, pollPlace, turn, next, step, mainStep, sampled]
    · have next : (n + 1) % 3 = 0 := by omega
      simpa [pollStep, pollPlace, turn, next, step, mainStep] using threads
  · show { state with main := pollPlace 0 } = state
    have first : pollPlace 0 = state.main := place.symm
    rw [first]

/-- A worker's `sem_init` failed. Main might poll for ever, but no fair run does. -/
theorem shutdown_ends_polling : ∃ state : System (Fin 2) (Fin 1),
    (∃ run : Endless (step threeThreads) Lawful, run.state 0 = state) ∧
      Ends threeThreads state := by
  obtain ⟨state, reached, test⟩ := replay_exhibits (step threeThreads) Lawful Initial
    ([.main (.createIOThread 0), .main (.createWorker 0 0), .main (.createWorker 1 1),
      .io 0 .count, .io 0 .countIo, .io 0 (.setup (some 3))] ++ submits 0 70 5 .read ++
      [.worker 1 .count, .worker 1 (.semInit false), .main .endIo])
    (initialSystem (Fin 2) (Fin 1)) (fun state =>
      state.main = .testWorkers ∧ state.nThreads > state.nIOThreads ∧ ¬ state.nIOThreads < 1 ∧
        (state.shared.queues .read).pending ≠ 0 ∧ state.shared.endAllThreads = true)
    rfl (by decide)
  obtain ⟨place, more, threads, pending, stopping⟩ := of_decide_eq_true test
  exact ⟨state, exists_poll place more threads pending,
    shutdown_ends threeThreads state reached stopping⟩

end AvocadoMisc.Dwh.ShutdownEnds
