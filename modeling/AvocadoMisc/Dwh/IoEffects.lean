import AvocadoMisc.Dwh.IoSystem

/-!
# What a step of a thread can do

The step functions of the workers and of the I/O threads, inverted once. An effect names
the place that the step starts from, the guards that it passed and the state after it.
Invariants are proved effect by effect; the step functions are not unfolded again.

Most steps of a thread only move it from one place to another. They are kept together:
for a worker with the mark that its buffer is queued, for an I/O thread with
`EndAllThreads`, which they may set.
-/

namespace AvocadoMisc.Dwh.IoEffects

open VerifySettings Sizing Queues Transfers IoSystem

/-- A worker moves on. The mark says whether its buffer then counts as queued. -/
inductive Moves (g : Shared) (worker : Worker) : WorkerAct → WorkerPc → Bool → Prop where
  | count (place : worker.pc = .created) : Moves g worker .count .counted worker.memQueued
  | start (place : worker.pc = .looping) (running : g.endAllThreads = false) :
      Moves g worker .loopTest .active worker.memQueued
  | stop (place : worker.pc = .looping) : Moves g worker .loopTest .closing worker.memQueued
  | idle (act : WorkerAct) (place : worker.pc = .active) :
      Moves g worker act .looping worker.memQueued
  | refuse (node : Addr) (iotype : Direction) (place : worker.pc = .submitting node iotype)
      (stopped : g.endAllIo = true) : Moves g worker .endIOTest (.waiting node iotype) true
  | enter (node : Addr) (iotype : Direction) (place : worker.pc = .submitting node iotype)
      (running : g.endAllIo = false) :
      Moves g worker .endIOTest (.admitted node iotype) worker.memQueued
  | miss (succeeds : Bool) (node : Addr) (iotype : Direction)
      (place : worker.pc = .waiting node iotype) :
      Moves g worker (.tryWait succeeds) (.testing node iotype) worker.memQueued
  | retry (node : Addr) (iotype : Direction) (place : worker.pc = .testing node iotype) :
      Moves g worker .waitTest (.waiting node iotype) worker.memQueued
  | giveUp (node : Addr) (iotype : Direction) (place : worker.pc = .testing node iotype)
      (stopping : g.endAllThreads = true) : Moves g worker .waitTest .looping worker.memQueued
  | keep (place : worker.pc = .closing)
      (kept : worker.myMem = none ∨ worker.memQueued = true) :
      Moves g worker .freeBuffer .destroying worker.memQueued
  | release (place : worker.pc = .finishing) : Moves g worker .release .released worker.memQueued
  | uncount (place : worker.pc = .released) : Moves g worker .uncount .returned worker.memQueued

variable {W I : Type}

section Workers

variable [DecidableEq W]

/-- The effects of a worker's steps, one constructor for each thing that a step can do to nodes,
buffers, semaphores and queues. A step that does none of these `moves`. -/
inductive WorkerEffect (state : System W I) (who : W) : WorkerAct → System W I → Prop where
  | moves (act : WorkerAct) (nThreads : BitVec 32) (pc : WorkerPc) (sz : BitVec 64)
      (memQueued endMe : Bool) (move : Moves state.shared (state.workers who) act pc memQueued) :
      WorkerEffect state who act ({ state with nThreads := nThreads }.setWorker who
        { state.workers who with pc := pc, sz := sz, memQueued := memQueued, endMe := endMe })
  | initialises (place : (state.workers who).pc = .counted) :
      WorkerEffect state who (.semInit true) ({ state with
        shared.sems := Function.update state.shared.sems (state.workers who).slot
          ⟨true, 0⟩ }.setWorker who { state.workers who with pc := .looping, memQueued := false })
  | fails (place : (state.workers who).pc = .counted) :
      WorkerEffect state who (.semInit false)
        ({ state with shared := endAllIf true state.shared }.setWorker who
          { state.workers who with pc := .finishing })
  | allocates (act : WorkerAct) (mem : Buf) (sz : BitVec 64)
      (place : (state.workers who).pc = .active) (without : (state.workers who).myMem = none)
      (free : state.bufOwner mem = none) :
      WorkerEffect state who act ({ state with
        bufOwner := Function.update state.bufOwner mem (some who) }.setWorker who
          { state.workers who with pc := .looping, myMem := some mem, sz := sz })
  | frees (act : WorkerAct) (mem : Buf) (pc : WorkerPc) (sz : BitVec 64)
      (has : (state.workers who).myMem = some mem)
      (place : (state.workers who).pc = .active ∧ pc = .looping ∨
        (state.workers who).pc = .closing ∧ (state.workers who).memQueued = false ∧
          pc = .destroying) :
      WorkerEffect state who act ({ state with
        bufOwner := Function.update state.bufOwner mem none }.setWorker who
          { state.workers who with pc := pc, myMem := none, sz := sz })
  | requests (act : WorkerAct) (node : Addr) (iotype : Direction) (ioLen : BitVec 64)
      (place : (state.workers who).pc = .active) (has : (state.workers who).myMem ≠ none)
      (free : state.nodeOwner node = none) :
      WorkerEffect state who act ({ state with
        shared := fillNode node (state.workers who).slot (state.workers who).myMem ioLen
          state.shared
        nodeOwner := Function.update state.nodeOwner node (some who) }.setWorker who
          { state.workers who with pc := .submitting node iotype })
  | enqueues (calls : LockCalls) (node : Addr) (iotype : Direction) (queued : Bool)
      (shared : Shared) (stats : Stats)
      (place : (state.workers who).pc = .admitted node iotype)
      (ran : queueIOAdmitted iotype.queue calls (some node) state.shared =
        some (queued, shared)) :
      WorkerEffect state who (.enqueue calls)
        ({ state with shared := shared, stats := stats }.setWorker who
          { state.workers who with pc := .waiting node iotype, memQueued := true })
  | notices (succeeds : Bool) (node : Addr) (iotype : Direction) (slot : Slot)
      (place : (state.workers who).pc = .waiting node iotype)
      (key : state.shared.heap.mySem node = some slot)
      (posted : (state.shared.sems slot).value ≠ 0) :
      WorkerEffect state who (.tryWait succeeds) ({ state with
        shared.sems := Function.update state.shared.sems slot
          { state.shared.sems slot with
            value := (state.shared.sems slot).value - 1 } }.setWorker who
              { state.workers who with pc := .collecting node iotype })
  | collects (calls : LockCalls) (node : Addr) (iotype : Direction) (shared : Shared)
      (stats : Stats) (place : (state.workers who).pc = .collecting node iotype)
      (ran : getIODoneNode calls (some node) state.shared = some (true, shared)) :
      WorkerEffect state who (.getDone calls) ({ state with
        shared := shared
        stats := stats
        nodeOwner := Function.update state.nodeOwner node none }.setWorker who
          { state.workers who with pc := .looping, memQueued := false })
  | loses (calls : LockCalls) (node : Addr) (iotype : Direction) (shared : Shared)
      (place : (state.workers who).pc = .collecting node iotype)
      (ran : getIODoneNode calls (some node) state.shared = some (false, shared)) :
      WorkerEffect state who (.getDone calls)
        ({ state with shared := endAllIf true shared }.setWorker who
          { state.workers who with pc := .looping })
  | destroys (succeeds : Bool) (slot : Slot) (own : (state.workers who).slot = slot)
      (place : (state.workers who).pc = .destroying) :
      WorkerEffect state who (.semDestroy succeeds) ({ state with
        shared := endAllIf (!succeeds) { state.shared with
          sems := Function.update state.shared.sems slot { state.shared.sems slot with
            initialised := (state.shared.sems slot).initialised && !succeeds } } }.setWorker who
              { state.workers who with pc := .finishing })

variable {settings : Settings} {state after : System W I} {who : W}

/-- Activity 0 has these effects. -/
theorem allocate_effect {memUsed : BitVec 64} {draw : Rand} {result : Option Buf}
    (taken : workerStep settings state who (.allocate memUsed draw result) = some after) :
    WorkerEffect state who (.allocate memUsed draw result) after := by
  simp only [workerStep] at taken
  split_ifs at taken with place without
  · cases result with
    | none =>
      obtain rfl := Option.some.inj taken
      exact .moves _ state.nThreads _ _ _ _ (.idle _ place)
    | some mem =>
      simp only at taken
      split_ifs at taken with free
      obtain rfl := Option.some.inj taken
      exact .allocates _ mem _ place without free
  · obtain rfl := Option.some.inj taken
    exact .moves _ state.nThreads _ _ _ _ (.idle _ place)

/-- Activity 7 has these effects up to the request function. -/
theorem request_effect {result : Option Addr} {draw : Rand} {iotype : Direction}
    (taken : workerStep settings state who (.request result draw iotype) = some after) :
    WorkerEffect state who (.request result draw iotype) after := by
  simp only [workerStep] at taken
  split_ifs at taken with place ready
  · cases result with
    | none =>
      obtain rfl := Option.some.inj taken
      exact .moves _ state.nThreads _ _ _ _ (.idle _ place)
    | some node =>
      simp only at taken
      split_ifs at taken with free
      obtain rfl := Option.some.inj taken
      exact .requests _ node iotype _ place ready.1 free
  · obtain rfl := Option.some.inj taken
    exact .moves _ state.nThreads _ _ _ _ (.idle _ place)

/-- Activity 1 frees the buffer, if there is one. -/
theorem free_effect
    (taken : workerStep settings state who .free = some after) :
    WorkerEffect state who .free after := by
  simp only [workerStep] at taken
  split_ifs at taken with place
  split at taken
  case h_1 mem has =>
    obtain rfl := Option.some.inj taken
    exact .frees _ mem .looping 0 has (Or.inl ⟨place, rfl⟩)
  case h_2 =>
    obtain rfl := Option.some.inj taken
    exact .moves _ state.nThreads _ _ _ _ (.idle _ place)

/-- A request function refuses a request after `EndAllThreads`, or goes on to the queue. -/
theorem endIOTest_effect
    (taken : workerStep settings state who .endIOTest = some after) :
    WorkerEffect state who .endIOTest after := by
  cases place : (state.workers who).pc with
  | submitting node iotype =>
    simp only [workerStep, place] at taken
    split_ifs at taken with stopped <;> obtain rfl := Option.some.inj taken
    · exact .moves _ state.nThreads _ _ _ _ (.refuse node iotype place stopped)
    · exact .moves _ state.nThreads _ _ _ _
        (.enter node iotype place (Bool.eq_false_iff.mpr stopped))
  | _ => simp [workerStep, place] at taken

/-- The node goes into its queue. -/
theorem enqueue_effect {calls : LockCalls}
    (taken : workerStep settings state who (.enqueue calls) = some after) :
    WorkerEffect state who (.enqueue calls) after := by
  cases place : (state.workers who).pc with
  | admitted node iotype =>
    simp only [workerStep, place] at taken
    obtain ⟨⟨queued, shared⟩, ran, rfl⟩ := Option.map_eq_some_iff.mp taken
    exact .enqueues calls node iotype queued shared _ place ran
  | _ => simp [workerStep, place] at taken

/-- The wait finds the semaphore posted, or it does not. -/
theorem tryWait_effect {succeeds : Bool}
    (taken : workerStep settings state who (.tryWait succeeds) = some after) :
    WorkerEffect state who (.tryWait succeeds) after := by
  cases place : (state.workers who).pc with
  | waiting node iotype =>
    simp only [workerStep, place] at taken
    obtain ⟨slot, key, rfl⟩ := Option.map_eq_some_iff.mp taken
    split
    case isTrue posted => exact .notices succeeds node iotype slot place key posted.2
    case isFalse => exact .moves _ state.nThreads _ _ _ _ (.miss succeeds node iotype place)
  | _ => simp [workerStep, place] at taken

/-- The node is found in the queue of done nodes, or the program ends. -/
theorem getDone_effect {calls : LockCalls}
    (taken : workerStep settings state who (.getDone calls) = some after) :
    WorkerEffect state who (.getDone calls) after := by
  cases place : (state.workers who).pc with
  | collecting node iotype =>
    simp only [workerStep, place] at taken
    obtain ⟨⟨removed, shared⟩, ran, rfl⟩ := Option.map_eq_some_iff.mp taken
    cases removed with
    | true => exact .collects calls node iotype shared _ place ran
    | false => exact .loses calls node iotype shared place ran
  | _ => simp [workerStep, place] at taken

/-- The wait is given up after `EndAllThreads`, or tried again. -/
theorem waitTest_effect
    (taken : workerStep settings state who .waitTest = some after) :
    WorkerEffect state who .waitTest after := by
  cases place : (state.workers who).pc with
  | testing node iotype =>
    simp only [workerStep, place] at taken
    split_ifs at taken with stops <;> obtain rfl := Option.some.inj taken
    · exact .moves _ state.nThreads _ _ _ _ (.giveUp node iotype place stops)
    · exact .moves _ state.nThreads _ _ _ _ (.retry node iotype place)
  | _ => simp [workerStep, place] at taken

/-- At the end a worker frees its buffer unless it is in a queue. -/
theorem freeBuffer_effect
    (taken : workerStep settings state who .freeBuffer = some after) :
    WorkerEffect state who .freeBuffer after := by
  simp only [workerStep] at taken
  split_ifs at taken with place
  split at taken
  case h_1 mem has unmarked =>
    obtain rfl := Option.some.inj taken
    exact .frees _ mem .destroying _ has (Or.inr ⟨place, unmarked, rfl⟩)
  case h_2 keeps =>
    obtain rfl := Option.some.inj taken
    have kept : (state.workers who).myMem = none ∨ (state.workers who).memQueued = true := by
      cases has : (state.workers who).myMem with
      | none => exact Or.inl rfl
      | some mem =>
        cases queued : (state.workers who).memQueued with
        | false => exact (keeps mem has queued).elim
        | true => exact Or.inr rfl
    exact .moves _ state.nThreads _ _ _ _ (.keep place kept)

/-- Every step of a worker has one of the effects. The proofs about runs are by these effects and do
not unfold the step again. -/
theorem workerStep_effect {act : WorkerAct}
    (taken : workerStep settings state who act = some after) :
    WorkerEffect state who act after := by
  cases act with
  | count =>
    simp only [workerStep] at taken
    split_ifs at taken with place
    obtain rfl := Option.some.inj taken
    exact .moves _ _ _ _ _ _ (.count place)
  | semInit succeeds =>
    simp only [workerStep] at taken
    split_ifs at taken with place succeeded <;> obtain rfl := Option.some.inj taken
    · subst succeeded
      exact .initialises place
    · obtain rfl := Bool.eq_false_iff.mpr succeeded
      exact .fails place
  | loopTest =>
    simp only [workerStep] at taken
    split_ifs at taken with place runs <;> obtain rfl := Option.some.inj taken
    · exact .moves _ state.nThreads _ _ _ _ (.start place (Bool.eq_false_iff.mpr runs.1))
    · exact .moves _ state.nThreads _ _ _ _ (.stop place)
  | allocate memUsed draw result => exact allocate_effect taken
  | free => exact free_effect taken
  | endMe draw | idle =>
    simp only [workerStep] at taken
    split_ifs at taken with place
    obtain rfl := Option.some.inj taken
    exact .moves _ state.nThreads _ _ _ _ (.idle _ place)
  | request result draw iotype => exact request_effect taken
  | endIOTest => exact endIOTest_effect taken
  | enqueue calls => exact enqueue_effect taken
  | tryWait succeeds => exact tryWait_effect taken
  | getDone calls => exact getDone_effect taken
  | waitTest => exact waitTest_effect taken
  | freeBuffer => exact freeBuffer_effect taken
  | semDestroy succeeds =>
    simp only [workerStep] at taken
    split_ifs at taken with place
    obtain rfl := Option.some.inj taken
    exact .destroys succeeds _ rfl place
  | release =>
    simp only [workerStep] at taken
    split_ifs at taken with place
    obtain rfl := Option.some.inj taken
    exact .moves _ state.nThreads _ _ _ _ (.release place)
  | uncount =>
    simp only [workerStep] at taken
    split_ifs at taken with place
    obtain rfl := Option.some.inj taken
    exact .moves _ _ _ _ _ _ (.uncount place)

end Workers

section IOThreads

variable [DecidableEq I]

/-- The effects of an I/O thread's steps, one constructor for each thing that a step can do to the
node in its hand and to the queues. A step that does none of these `moves`. -/
inductive IOEffect (state : System W I) (who : I) : IOAct → System W I → Prop where
  | moves (act : IOAct) (nThreads nIOThreads : BitVec 32) (endAllThreads : Bool)
      (thread : IOThread) (before : (state.ioThreads who).pc.hand = none)
      (now : thread.pc.hand = none)
      (grows : state.shared.endAllThreads = true → endAllThreads = true) :
      IOEffect state who act ({ state with
        shared.endAllThreads := endAllThreads
        nThreads := nThreads
        nIOThreads := nIOThreads }.setIo who thread)
  | misses (activity : Direction) (calls : LockCalls) (shared : Shared)
      (place : (state.ioThreads who).pc = .active)
      (ran : getIONode activity calls state.shared = some (none, shared)) :
      IOEffect state who (.take activity calls) ({ state with shared := shared }.setIo who
        { state.ioThreads who with pc := .looping })
  | takes (activity : Direction) (calls : LockCalls) (node : Addr) (shared : Shared)
      (stats : Stats) (place : (state.ioThreads who).pc = .active)
      (ran : getIONode activity calls state.shared = some (some node, shared)) :
      IOEffect state who (.take activity calls) ({ state with
        shared := setFd node (state.ioThreads who).myFd shared
        stats := stats }.setIo who { state.ioThreads who with pc := .holding node activity })
  | performs (act : IOAct) (node : Addr) (activity : Direction) (ioDone : BitVec 64)
      (failed : Bool) (stats : Stats)
      (place : (state.ioThreads who).pc = .holding node activity) :
      IOEffect state who act ({ state with
        shared := endAllIf failed (setFd node (-1) { state.shared with
          heap.ioDone := Function.update state.shared.heap.ioDone node ioDone })
        stats := stats }.setIo who { state.ioThreads who with pc := .performed node activity })
  | givesBack (calls : LockCalls) (post : Bool) (node : Addr) (activity : Direction)
      (queued : Bool) (shared : Shared)
      (place : (state.ioThreads who).pc = .performed node activity)
      (ran : queueIODone calls post (some node) state.shared = some (queued, shared)) :
      IOEffect state who (.giveBack calls post)
        ({ state with shared := endAllIf (!queued) shared }.setIo who
          { state.ioThreads who with pc := .looping })

variable {state after : System W I} {who : I}

/-- A thread takes a node from a queue, or finds none. -/
theorem take_effect {activity : Direction} {calls : LockCalls}
    (taken : ioStep state who (.take activity calls) = some after) :
    IOEffect state who (.take activity calls) after := by
  simp only [ioStep] at taken
  split_ifs at taken with place
  obtain ⟨⟨result, shared⟩, ran, moved⟩ := Option.map_eq_some_iff.mp taken
  cases result with
  | none =>
    obtain rfl := moved
    exact .misses activity calls shared place ran
  | some node =>
    obtain rfl := moved
    exact .takes activity calls node shared _ place ran

/-- The node in a thread's hands is transferred. -/
theorem perform_effect {readStream verbose : Bool} {answers : FileAnswers}
    (taken : ioStep state who (.perform readStream verbose answers) = some after) :
    IOEffect state who (.perform readStream verbose answers) after := by
  cases place : (state.ioThreads who).pc with
  | holding node activity =>
    simp only [ioStep, place] at taken
    obtain rfl := Option.some.inj taken
    exact .performs _ node activity _ _ _ place
  | _ => simp [ioStep, place] at taken

/-- The node goes on to the done queue, and its owner may be woken. -/
theorem giveBack_effect {calls : LockCalls} {post : Bool}
    (taken : ioStep state who (.giveBack calls post) = some after) :
    IOEffect state who (.giveBack calls post) after := by
  cases place : (state.ioThreads who).pc with
  | performed node activity =>
    simp only [ioStep, place] at taken
    obtain ⟨⟨queued, shared⟩, ran, rfl⟩ := Option.map_eq_some_iff.mp taken
    exact .givesBack calls post node activity queued shared place ran
  | _ => simp [ioStep, place] at taken

/-- Every step of an I/O thread has one of the effects, which the proofs about runs go by. -/
theorem ioStep_effect {act : IOAct} (taken : ioStep state who act = some after) :
    IOEffect state who act after := by
  have emptyHand {pc : IOPc} (place : (state.ioThreads who).pc = pc) (empty : pc.hand = none) :
      (state.ioThreads who).pc.hand = none := by rw [place, empty]
  have stops (failed : Bool) (stopping : state.shared.endAllThreads = true) :
      (state.shared.endAllThreads || failed) = true := by rw [stopping, Bool.true_or]
  cases act with
  | take activity calls => exact take_effect taken
  | perform readStream verbose answers => exact perform_effect taken
  | giveBack calls post => exact giveBack_effect taken
  | setup myFd =>
    simp only [ioStep] at taken
    split_ifs at taken with place
    split at taken <;> obtain rfl := Option.some.inj taken
    · exact .moves _ state.nThreads state.nIOThreads state.shared.endAllThreads _
        (emptyHand place rfl) (by rfl) id
    · exact .moves _ state.nThreads state.nIOThreads _ _ (emptyHand place rfl) (by rfl) (stops true)
  | loopTest =>
    simp only [ioStep] at taken
    split_ifs at taken with place <;> obtain rfl := Option.some.inj taken <;>
      exact .moves _ state.nThreads state.nIOThreads state.shared.endAllThreads _
        (emptyHand place rfl) (by rfl) id
  | closeFile succeeds | semDestroy succeeds =>
    simp only [ioStep] at taken
    split_ifs at taken with place
    obtain rfl := Option.some.inj taken
    exact .moves _ state.nThreads state.nIOThreads _ _ (emptyHand place rfl) (by rfl) (stops _)
  | count | uncount =>
    simp only [ioStep] at taken
    split_ifs at taken with place
    obtain rfl := Option.some.inj taken
    exact .moves _ _ state.nIOThreads state.shared.endAllThreads _ (emptyHand place rfl) (by rfl) id
  | countIo | uncountIo | idle =>
    simp only [ioStep] at taken
    split_ifs at taken with place
    obtain rfl := Option.some.inj taken
    exact .moves _ state.nThreads _ state.shared.endAllThreads _ (emptyHand place rfl) (by rfl) id

end IOThreads

end AvocadoMisc.Dwh.IoEffects
