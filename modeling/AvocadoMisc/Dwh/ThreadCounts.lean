import Mathlib.Data.BitVec
import AvocadoMisc.Library.Transitions
import AvocadoMisc.Library.Accounting
import AvocadoMisc.Dwh.ThreadLife

/-!
# The thread counters

A thread that passed its increment and not yet its decrement contributes one to
`nThreads`; an I/O thread contributes to `nIOThreads` likewise. In every run both
counters are the sums of these contributions.

An I/O thread that returns early, because it has no argument, its semaphore cannot
be initialised or the file cannot be opened, keeps its contribution for ever. A
worker has no such path. So the threads that returned have taken back what they
added, and the counters are zero once no thread runs, exactly when no I/O thread
returned early.
-/

namespace AvocadoMisc.Dwh.ThreadCounts

open Library.Transitions Library.Accounting VerifySettings ThreadLife

variable {W I : Type}

/-- A worker's contribution to `nThreads`. -/
def threadShare : WorkerPc → BitVec 32
  | .counted | .working _ | .closing | .finishing | .released => 1
  | .absent | .created | .returned => 0

/-- An I/O thread's contribution to `nThreads`. -/
def ioThreadShare : IOPc → BitVec 32
  | .absent | .created | .returned => 0
  | _ => 1

/-- An I/O thread's contribution to `nIOThreads`. -/
def ioShare : IOPc → BitVec 32
  | .absent | .created | .countedThread | .uncounted | .returned => 0
  | _ => 1

/-- The counter updates that lead a worker to a place. -/
def workerUpdates : WorkerPc → List CounterUpdate
  | .absent | .created => []
  | .returned => [.incThreads, .decThreads]
  | _ => [.incThreads]

/-- The counter updates that lead an I/O thread to a place. -/
def ioUpdates : IOPc → List CounterUpdate
  | .absent | .created => []
  | .countedThread => [.incThreads]
  | .uncounted => [.incThreads, .incIOThreads, .decIOThreads]
  | .returned => [.incThreads, .incIOThreads, .decIOThreads, .decThreads]
  | _ => [.incThreads, .incIOThreads]

/-- Both counters are the sums of the contributions, and every thread's history is
the one of its place. -/
structure Accurate [Fintype W] [Fintype I] (state : Life W I) : Prop where
  threads : state.nThreads = total (fun worker => threadShare worker.pc) state.workers +
    total (fun thread => ioThreadShare thread.pc) state.ioThreads
  ioThreads : state.nIOThreads = total (fun thread => ioShare thread.pc) state.ioThreads
  workerHistory : ∀ who, (state.workers who).updates = workerUpdates (state.workers who).pc
  ioHistory : ∀ who, (state.ioThreads who).updates = ioUpdates (state.ioThreads who).pc

/-- A worker that was created and has not returned. -/
def WorkerRuns (pc : WorkerPc) : Prop := pc ≠ .absent ∧ pc ≠ .returned

/-- An I/O thread that was created and has not returned, early or late. -/
def IORuns (pc : IOPc) : Prop := pc ≠ .absent ∧ pc ≠ .returned ∧ pc ≠ .abandoned

/-- Each counter that a thread incremented it decremented once. -/
def DecrementsOnce (updates : List CounterUpdate) : Prop :=
  (.incThreads ∈ updates → updates.count .decThreads = 1) ∧
    (.incIOThreads ∈ updates → updates.count .decIOThreads = 1)

instance (updates : List CounterUpdate) : Decidable (DecrementsOnce updates) :=
  inferInstanceAs (Decidable (_ ∧ _))

section Steps

variable [DecidableEq W]

/-- What a worker's step does to the counters: the worker moves, and `nThreads` by its
contribution. -/
def WorkerCounts (state after : Life W I) (who : W) : Prop :=
  ∃ worker, after.workers = Function.update state.workers who worker ∧
    after.ioThreads = state.ioThreads ∧ after.nIOThreads = state.nIOThreads ∧
    after.nThreads + threadShare (state.workers who).pc = state.nThreads + threadShare worker.pc ∧
    ((state.workers who).updates = workerUpdates (state.workers who).pc →
      worker.updates = workerUpdates worker.pc)

/-- A move between places with the same contribution and history. -/
theorem WorkerCounts.moved {state after : Life W I} {who : W} (pc : WorkerPc)
    (workers : after.workers =
      Function.update state.workers who { state.workers who with pc := pc })
    (ioThreads : after.ioThreads = state.ioThreads)
    (nThreads : after.nThreads = state.nThreads) (nIOThreads : after.nIOThreads = state.nIOThreads)
    (share : threadShare pc = threadShare (state.workers who).pc)
    (history : workerUpdates pc = workerUpdates (state.workers who).pc) :
    WorkerCounts state after who :=
  ⟨_, workers, ioThreads, nIOThreads, by rw [nThreads, share], fun same => same.trans history.symm⟩

/-- A step that leaves all threads and counters as they are. -/
theorem WorkerCounts.stays {state after : Life W I} {who : W}
    (workers : after.workers = state.workers) (ioThreads : after.ioThreads = state.ioThreads)
    (nThreads : after.nThreads = state.nThreads)
    (nIOThreads : after.nIOThreads = state.nIOThreads) : WorkerCounts state after who :=
  ⟨state.workers who, by rw [Function.update_eq_self, workers], ioThreads, nIOThreads,
    by rw [nThreads], id⟩

/-- Every step of a worker is of this kind. `count` and `uncount` change the counter together with
what the thread contributes; no other step changes either. -/
theorem workerStep_counts [DecidableEq I] {state after : Life W I} {who : W} {act : WorkerAct}
    (taken : workerStep state who act = some after) : WorkerCounts state after who := by
  cases act with
  | count | uncount =>
    simp only [workerStep] at taken
    split_ifs at taken with place
    obtain rfl := Option.some.inj taken
    refine ⟨_, rfl, rfl, rfl, ?_, ?_⟩
    · simp [place, threadShare]
    · intro history
      simp [history, place, workerUpdates]
  | initSemaphore succeeds =>
    simp only [workerStep] at taken
    split_ifs at taken with place success <;> obtain rfl := Option.some.inj taken <;>
      exact .moved _ rfl rfl rfl rfl (by rw [place]; rfl) (by rw [place]; rfl)
  | endMe draw =>
    simp only [workerStep] at taken
    split_ifs at taken with place ends <;> obtain rfl := Option.some.inj taken
    · exact .moved _ rfl rfl rfl rfl (by rw [place.1]; rfl) (by rw [place.1]; rfl)
    · exact .stays rfl rfl rfl rfl
  | work fails =>
    simp only [workerStep] at taken
    split_ifs at taken with place failed <;> obtain rfl := Option.some.inj taken <;>
      exact .stays rfl rfl rfl rfl
  | leave =>
    simp only [workerStep] at taken
    split_ifs at taken with place
    obtain rfl := Option.some.inj taken
    rcases place with place | ⟨place, _⟩ <;>
      exact .moved _ rfl rfl rfl rfl (by rw [place]; rfl) (by rw [place]; rfl)
  | destroySemaphore succeeds =>
    simp only [workerStep] at taken
    split_ifs at taken with place success <;> obtain rfl := Option.some.inj taken <;>
      exact .moved _ rfl rfl rfl rfl (by rw [place]; rfl) (by rw [place]; rfl)
  | release =>
    simp only [workerStep, setThreadNum, Option.map_map] at taken
    split_ifs at taken with place
    obtain ⟨nums, _, rfl⟩ := Option.map_eq_some_iff.mp taken
    exact .moved _ rfl rfl rfl rfl (by rw [place]; rfl) (by rw [place]; rfl)

end Steps

section IOSteps

variable [DecidableEq I]

/-- What an I/O thread's step does to the counters. -/
def IOCounts (state after : Life W I) (who : I) : Prop :=
  ∃ thread, after.ioThreads = Function.update state.ioThreads who thread ∧
    after.workers = state.workers ∧
    after.nThreads + ioThreadShare (state.ioThreads who).pc =
      state.nThreads + ioThreadShare thread.pc ∧
    after.nIOThreads + ioShare (state.ioThreads who).pc = state.nIOThreads + ioShare thread.pc ∧
    ((state.ioThreads who).updates = ioUpdates (state.ioThreads who).pc →
      thread.updates = ioUpdates thread.pc)

/-- A move between places with the same contributions and history. -/
theorem IOCounts.moved {state after : Life W I} {who : I} (pc : IOPc)
    (ioThreads : after.ioThreads =
      Function.update state.ioThreads who { state.ioThreads who with pc := pc })
    (workers : after.workers = state.workers) (nThreads : after.nThreads = state.nThreads)
    (nIOThreads : after.nIOThreads = state.nIOThreads)
    (threadShare : ioThreadShare pc = ioThreadShare (state.ioThreads who).pc)
    (share : ioShare pc = ioShare (state.ioThreads who).pc)
    (history : ioUpdates pc = ioUpdates (state.ioThreads who).pc) : IOCounts state after who :=
  ⟨_, ioThreads, workers, by rw [nThreads, threadShare], by rw [nIOThreads, share],
    fun same => same.trans history.symm⟩

/-- Every step of an I/O thread is of this kind. Each of the four steps that count changes one
counter together with what the thread contributes to it; no other step changes a counter. -/
theorem ioStep_counts [DecidableEq W] {state after : Life W I} {who : I} {act : IOAct}
    (taken : ioStep state who act = some after) : IOCounts state after who := by
  have stays (middle : Life W I) (ioThreads : middle.ioThreads = state.ioThreads)
      (workers : middle.workers = state.workers) (nThreads : middle.nThreads = state.nThreads)
      (nIOThreads : middle.nIOThreads = state.nIOThreads) : IOCounts state middle who :=
    ⟨state.ioThreads who, by rw [Function.update_eq_self, ioThreads], workers, by rw [nThreads],
      by rw [nIOThreads], id⟩
  cases act with
  | count | countIo | uncountIo | uncount =>
    simp only [ioStep] at taken
    split_ifs at taken with place
    obtain rfl := Option.some.inj taken
    refine ⟨_, rfl, rfl, ?_, ?_, ?_⟩
    · simp [place, ioThreadShare]
    · simp [place, ioShare]
    · intro history
      simp [history, place, ioUpdates]
  | testArgument =>
    simp only [ioStep] at taken
    split_ifs at taken with place argument <;> obtain rfl := Option.some.inj taken <;>
      exact .moved _ rfl rfl rfl rfl (by rw [place]; rfl) (by rw [place]; rfl) (by rw [place]; rfl)
  | initSemaphore succeeds | openFile succeeds =>
    simp only [ioStep] at taken
    split_ifs at taken with place success <;> obtain rfl := Option.some.inj taken <;>
      exact .moved _ rfl rfl rfl rfl (by rw [place]; rfl) (by rw [place]; rfl) (by rw [place]; rfl)
  | work fails =>
    simp only [ioStep] at taken
    split_ifs at taken with place failed <;> obtain rfl := Option.some.inj taken <;>
      exact stays _ rfl rfl rfl rfl
  | leave =>
    simp only [ioStep] at taken
    split_ifs at taken with place
    obtain rfl := Option.some.inj taken
    exact .moved _ rfl rfl rfl rfl (by rw [place.1]; rfl) (by rw [place.1]; rfl)
      (by rw [place.1]; rfl)
  | closeFile succeeds | destroySemaphore succeeds =>
    simp only [ioStep] at taken
    split_ifs at taken with place success <;> obtain rfl := Option.some.inj taken <;>
      exact .moved _ rfl rfl rfl rfl (by rw [place]; rfl) (by rw [place]; rfl) (by rw [place]; rfl)

end IOSteps

variable [DecidableEq W] [DecidableEq I]

/-- What a step of main does to the counters: nothing, but it may create a thread. -/
structure MainCounts (state after : Life W I) : Prop where
  nThreads : after.nThreads = state.nThreads
  nIOThreads : after.nIOThreads = state.nIOThreads
  workers : after.workers = state.workers ∨ ∃ who wNum, (state.workers who).pc = .absent ∧
    after.workers = Function.update state.workers who ⟨.created, wNum, []⟩
  ioThreads : after.ioThreads = state.ioThreads ∨ ∃ who tnum, (state.ioThreads who).pc = .absent ∧
    after.ioThreads = Function.update state.ioThreads who ⟨.created, some tnum, []⟩

/-- An I/O thread may be created. -/
theorem createIOThread_counts {settings : Settings} {state after : Life W I} {created : Option I}
    (taken : mainStep settings state (.createIOThread created) = some after) :
    MainCounts state after := by
  simp only [mainStep] at taken
  split at taken
  · split_ifs at taken with more
    cases created with
    | none =>
      obtain rfl := Option.some.inj taken
      exact ⟨rfl, rfl, Or.inl rfl, Or.inl rfl⟩
    | some who =>
      simp only [addIOThread] at taken
      split_ifs at taken with absent
      obtain rfl := Option.some.inj taken
      exact ⟨rfl, rfl, Or.inl rfl, Or.inr ⟨who, _, absent, rfl⟩⟩
  · simp at taken

/-- A worker may be created. -/
theorem createThread_counts {settings : Settings} {state after : Life W I} {created : Option W}
    (taken : mainStep settings state (.createThread created) = some after) :
    MainCounts state after := by
  simp only [mainStep] at taken
  split at taken
  · cases created with
    | none =>
      obtain ⟨nums, _, rfl⟩ := Option.map_eq_some_iff.mp taken
      exact ⟨rfl, rfl, Or.inl rfl, Or.inl rfl⟩
    | some who =>
      simp only [addWorker] at taken
      split_ifs at taken with absent
      obtain rfl := Option.some.inj taken
      exact ⟨rfl, rfl, Or.inr ⟨who, _, absent, rfl⟩, Or.inl rfl⟩
  · simp at taken

/-- Every step of main is of this kind. Main writes neither counter; at most it makes a thread,
which counts itself by steps of its own. -/
theorem mainStep_counts {settings : Settings} {state after : Life W I} {act : MainAct W I}
    (taken : mainStep settings state act = some after) : MainCounts state after := by
  cases act with
  | createIOThread created => exact createIOThread_counts taken
  | createThread created => exact createThread_counts taken
  | scanSlot =>
    simp only [mainStep] at taken
    split at taken
    · split_ifs at taken with inside
      · obtain ⟨nums, _, chosen⟩ := Option.map_eq_some_iff.mp taken
        split_ifs at chosen <;> subst after <;> exact ⟨rfl, rfl, Or.inl rfl, Or.inl rfl⟩
      · obtain rfl := Option.some.inj taken
        exact ⟨rfl, rfl, Or.inl rfl, Or.inl rfl⟩
    · simp at taken
  | numberThread =>
    simp only [mainStep] at taken
    split at taken
    · obtain ⟨nums, _, rfl⟩ := Option.map_eq_some_iff.mp taken
      exact ⟨rfl, rfl, Or.inl rfl, Or.inl rfl⟩
    · simp at taken
  | unlock | leaveLoop | endThreads =>
    simp only [mainStep] at taken
    split at taken
    · obtain rfl := Option.some.inj taken
      exact ⟨rfl, rfl, Or.inl rfl, Or.inl rfl⟩
    · simp at taken
  | setupIOThreads | finishIOSetup | awaitIo | setupWorkerThreads | lockSlot | finishWorkerSetup |
    awaitWorkers | replaceWorker | lockAny | awaitThreads | cleanup =>
    simp only [mainStep] at taken
    split at taken
    · split_ifs at taken <;> obtain rfl := Option.some.inj taken <;>
        exact ⟨rfl, rfl, Or.inl rfl, Or.inl rfl⟩
    · simp at taken

section Runs

variable [Fintype W] [Fintype I] {state after : Life W I}

omit [DecidableEq I] in
/-- The counters stay accurate when one worker and `nThreads` change together. -/
theorem Accurate.worker (accurate : Accurate state) {who : W}
    (counts : WorkerCounts state after who) : Accurate after := by
  obtain ⟨worker, workers, ioThreads, nIOThreads, nThreads, history⟩ := counts
  have moved := total_update (fun worker : Worker => threadShare worker.pc) state.workers who worker
  constructor
  case threads =>
    apply add_right_cancel (b := threadShare (state.workers who).pc)
    rw [nThreads, accurate.threads, workers, ioThreads, add_right_comm, ← moved,
      add_right_comm]
  case ioThreads => rw [nIOThreads, accurate.ioThreads, ioThreads]
  case workerHistory =>
    intro other
    rw [workers]
    by_cases same : other = who
    · subst other
      rw [Function.update_self]
      exact history (accurate.workerHistory who)
    · rw [Function.update_of_ne same]
      exact accurate.workerHistory other
  case ioHistory => rw [ioThreads]; exact accurate.ioHistory

omit [DecidableEq W] in
/-- So they do when one I/O thread and both counters change together: the sum over the threads
differs in one summand, and the counter by the same number. -/
theorem Accurate.io (accurate : Accurate state) {who : I} (counts : IOCounts state after who) :
    Accurate after := by
  obtain ⟨thread, ioThreads, workers, nThreads, nIOThreads, history⟩ := counts
  have moved := total_update (fun thread : IOThread => ioThreadShare thread.pc)
    state.ioThreads who thread
  have movedIo := total_update (fun thread : IOThread => ioShare thread.pc)
    state.ioThreads who thread
  constructor
  case threads =>
    apply add_right_cancel (b := ioThreadShare (state.ioThreads who).pc)
    rw [nThreads, accurate.threads, workers, ioThreads, add_assoc, add_assoc, moved]
  case ioThreads =>
    apply add_right_cancel (b := ioShare (state.ioThreads who).pc)
    rw [nIOThreads, accurate.ioThreads, ioThreads, movedIo]
  case workerHistory => rw [workers]; exact accurate.workerHistory
  case ioHistory =>
    intro other
    rw [ioThreads]
    by_cases same : other = who
    · subst other
      rw [Function.update_self]
      exact history (accurate.ioHistory who)
    · rw [Function.update_of_ne same]
      exact accurate.ioHistory other

/-- A created thread contributes nothing before it runs, just as one that is absent, so the sums
stay what they were; and main changes neither counter. -/
theorem Accurate.main (accurate : Accurate state) (counts : MainCounts state after) :
    Accurate after := by
  obtain ⟨nThreads, nIOThreads, workers, ioThreads⟩ := counts
  have sameWorkers : total (fun worker : Worker => threadShare worker.pc) after.workers =
      total (fun worker : Worker => threadShare worker.pc) state.workers := by
    rcases workers with same | ⟨who, wNum, absent, created⟩
    · rw [same]
    · rw [created]
      exact total_update_same _ _ _ _ (by rw [absent]; rfl)
  have sameThreads (share : IOPc → BitVec 32) (none : share .created = share .absent) :
      total (fun thread : IOThread => share thread.pc) after.ioThreads =
        total (fun thread : IOThread => share thread.pc) state.ioThreads := by
    rcases ioThreads with same | ⟨who, tnum, absent, created⟩
    · rw [same]
    · rw [created]
      exact total_update_same _ _ _ _ (by rw [absent]; exact none)
  constructor
  case threads => rw [nThreads, accurate.threads, sameWorkers, sameThreads ioThreadShare rfl]
  case ioThreads => rw [nIOThreads, accurate.ioThreads, sameThreads ioShare rfl]
  case workerHistory =>
    intro other
    rcases workers with same | ⟨who, wNum, absent, created⟩
    · rw [same]; exact accurate.workerHistory other
    · by_cases here : other = who
      · subst other; simp [created, workerUpdates]
      · simpa [created, here] using accurate.workerHistory other
  case ioHistory =>
    intro other
    rcases ioThreads with same | ⟨who, tnum, absent, created⟩
    · rw [same]; exact accurate.ioHistory other
    · by_cases here : other = who
      · subst other; simp [created, ioUpdates]
      · simpa [created, here] using accurate.ioHistory other

/-- In every run the counters are accurate. -/
theorem reachable_accurate (settings : Settings)
    (reached : Reachable (step settings) Unrestricted Initial state) : Accurate state := by
  apply reached.invariant Accurate
  · rintro state ⟨_, _, _, _, nThreads, nIOThreads, _, workers, ioThreads⟩
    constructor
    case threads =>
      rw [nThreads, total_eq_zero _ _ fun who => by simp [workers who, threadShare],
        total_eq_zero _ _ fun who => by simp [ioThreads who, ioThreadShare], add_zero]
    case ioThreads =>
      rw [nIOThreads, total_eq_zero _ _ fun who => by simp [ioThreads who, ioShare]]
    case workerHistory => intro who; simp [workers who, workerUpdates]
    case ioHistory => intro who; simp [ioThreads who, ioUpdates]
  · rintro before label after _ accurate _ taken
    cases label with
    | main act => exact accurate.main (mainStep_counts taken)
    | worker who act => exact accurate.worker (workerStep_counts taken)
    | io who act => exact accurate.io (ioStep_counts taken)

/-- When no thread runs, main's waiting loops end: `EndPThreads`, then
`cleanupDataFile`. -/
def WaitsEnd (settings : Settings) (state : Life W I) : Prop :=
  (state.main = .awaitThreads →
    mainStep settings state .awaitThreads = some { state with main := .cleanup }) ∧
  (state.main = .cleanup →
    mainStep settings state .cleanup = some { state with main := .finished })

/-- The counting contract in one state: a thread that returned decremented once each
counter that it incremented, and without running threads both counters are zero, so
that the waiting loops end. -/
structure Settled (settings : Settings) (state : Life W I) : Prop where
  workers : ∀ who, (state.workers who).pc = .returned →
    DecrementsOnce (state.workers who).updates
  ioThreads : ∀ who, (state.ioThreads who).pc = .returned ∨ (state.ioThreads who).pc = .abandoned →
    DecrementsOnce (state.ioThreads who).updates
  zero : (∀ who, ¬ WorkerRuns (state.workers who).pc) →
    (∀ who, ¬ IORuns (state.ioThreads who).pc) →
    state.nThreads = 0 ∧ state.nIOThreads = 0 ∧ WaitsEnd settings state

omit [DecidableEq W] [DecidableEq I] in
/-- Without running or abandoned threads both counters are zero. -/
theorem Accurate.zero (accurate : Accurate state)
    (noWorker : ∀ who, ¬ WorkerRuns (state.workers who).pc)
    (noIo : ∀ who, ¬ IORuns (state.ioThreads who).pc)
    (none : ∀ who, (state.ioThreads who).pc ≠ .abandoned) :
    state.nThreads = 0 ∧ state.nIOThreads = 0 := by
  have ended (who : W) : threadShare (state.workers who).pc = 0 := by
    have stopped := noWorker who
    cases place : (state.workers who).pc <;> first | rfl | simp [place, WorkerRuns] at stopped
  have endedIo (who : I) : ioThreadShare (state.ioThreads who).pc = 0 ∧
      ioShare (state.ioThreads who).pc = 0 := by
    have stopped := noIo who
    have late := none who
    cases place : (state.ioThreads who).pc <;>
      first | exact ⟨rfl, rfl⟩ | simp [place, IORuns] at stopped late
  constructor
  · rw [accurate.threads, total_eq_zero (fun worker : Worker => threadShare worker.pc) _ ended,
      total_eq_zero (fun thread : IOThread => ioThreadShare thread.pc) _
        fun who => (endedIo who).1, add_zero]
  · rw [accurate.ioThreads, total_eq_zero (fun thread : IOThread => ioShare thread.pc) _
      fun who => (endedIo who).2]

/-- Accurate counters settle exactly when no I/O thread was abandoned. -/
theorem Accurate.settled_iff (settings : Settings) (accurate : Accurate state) :
    Settled settings state ↔ ∀ who, (state.ioThreads who).pc ≠ .abandoned := by
  constructor
  · intro settled who abandoned
    have once := settled.ioThreads who (Or.inr abandoned)
    rw [accurate.ioHistory who, abandoned] at once
    exact absurd (once.1 (by decide)) (by decide)
  · intro none
    refine ⟨?_, ?_, ?_⟩
    · intro who returned
      rw [accurate.workerHistory who, returned]
      decide
    · rintro who (returned | abandoned)
      · rw [accurate.ioHistory who, returned]
        decide
      · exact absurd abandoned (none who)
    · intro noWorker noIo
      obtain ⟨threads, ioThreads⟩ := accurate.zero noWorker noIo none
      refine ⟨threads, ioThreads, ?_, ?_⟩ <;> intro place <;> simp [mainStep, place, threads]

/-- In every run, on every path of the threads, the counting contract holds in a state
exactly when no I/O thread has taken an early error return.

Every call may fail: a creation, a lock, a semaphore, the opening of the file. Without running
threads both counters are shown to be zero and the waiting loops to end. That the threads stop
running is not shown here.

Proof: each counter is the sum of what the threads contribute, and only an early return of an I/O
thread leaves its contribution behind. -/
theorem counters_settled_iff (settings : Settings) (state : Life W I)
    (reached : Reachable (step settings) Unrestricted Initial state) :
    Settled settings state ↔ ∀ who, (state.ioThreads who).pc ≠ .abandoned :=
  (reachable_accurate settings reached).settled_iff settings

end Runs

/-- One I/O thread and one worker. -/
def onePair : Settings := defaults 2 2 1 "dwh.dat"

/-- Both threads are created and ended. Whether the I/O thread can open the file is
left open, and what it does after that. -/
def pairSchedule (worker : W) (thread : I) (opens : Bool) (ending : List IOAct) :
    List (Label W I) :=
  [.main (.setupIOThreads true true), .main (.createIOThread (some thread)), .io thread .count,
    .io thread .countIo, .io thread .testArgument, .io thread (.initSemaphore true),
    .io thread (.openFile opens), .main (.finishIOSetup true), .main .awaitIo,
    .main (.setupWorkerThreads true true), .main (.lockSlot true), .main .numberThread,
    .main (.createThread (some worker)), .main (.unlock true), .main (.finishWorkerSetup true),
    .worker worker .count, .worker worker (.initSemaphore true), .main .awaitWorkers,
    .main .leaveLoop, .main .endThreads, .worker worker .leave,
    .worker worker (.destroySemaphore true), .worker worker .release,
    .worker worker .uncount] ++ ending.map fun act => .io thread act

/-- With the file opened both threads return and the counters are zero. -/
theorem counters_settled_iff_onePair : ∃ state : Life (Fin 1) (Fin 1),
    (state.main = .awaitThreads ∧ state.nThreads = 0 ∧ (state.workers 0).pc = .returned ∧
      (state.ioThreads 0).pc = .returned) ∧
    (Settled onePair state ↔ ∀ who, (state.ioThreads who).pc ≠ .abandoned) := by
  obtain ⟨state, reached, test⟩ := replay_exhibits (step onePair) (fun _ _ => True) Initial
    (pairSchedule 0 0 true [.leave, .closeFile true, .destroySemaphore true, .uncountIo, .uncount])
    (initialLife (Fin 1) (Fin 1)) (fun state => state.main = .awaitThreads ∧ state.nThreads = 0 ∧
      (state.workers 0).pc = .returned ∧ (state.ioThreads 0).pc = .returned)
    (initialLife_initial _ _) (by decide)
  exact ⟨state, of_decide_eq_true test, counters_settled_iff onePair state reached⟩

/-- When the file cannot be opened, no thread is left and `nThreads` is one. Main
waits for ever. -/
theorem counters_not_always_settled :
    ¬ ∀ (settings : Settings) (state : Life (Fin 1) (Fin 1)),
      verifySettings settings = .ok settings →
      Reachable (step settings) Unrestricted Initial state → Settled settings state := by
  intro always
  obtain ⟨state, reached, test⟩ := replay_exhibits (step onePair) (fun _ _ => True) Initial
    (pairSchedule 0 0 false []) (initialLife (Fin 1) (Fin 1))
    (fun state => state.main = .awaitThreads ∧ state.nThreads = 1 ∧
      (state.workers 0).pc = .returned ∧ (state.ioThreads 0).pc = .abandoned)
    (initialLife_initial _ _) (by decide)
  obtain ⟨_, one, returned, abandoned⟩ := of_decide_eq_true test
  have settled := always onePair state (by decide) reached
  have zero := settled.zero
    (fun who => by rw [Subsingleton.elim who 0, returned]; simp [WorkerRuns])
    (fun who => by rw [Subsingleton.elim who 0, abandoned]; simp [IORuns])
  rw [one] at zero
  exact absurd zero.1 (by decide)

end AvocadoMisc.Dwh.ThreadCounts
