import AvocadoMisc.Library.Transitions
import AvocadoMisc.Dwh.QueueLaws
import AvocadoMisc.Dwh.Transfers
import AvocadoMisc.Dwh.ThreadLife

/-!
# Workers, I/O threads and the shutdown

The loops of `WorkerThreadStart` and `IOThreadStart` as far as they touch nodes, buffers
and semaphores, and main from the test on: it creates threads, then `EndIOTasks` waits
until `isIOPending` finds the queues empty one after the other, and `EndPThreads` ends
all threads.

A step is one critical section of a queue, or one access to another shared variable, so
everything else interleaves: the test of `EndAllIO` with the queueing behind it, the
three samples of `isIOPending`, and the transfer between taking a node and giving it
back. What a call answers is part of the step. An allocation answers with an address
that is free. A buffer's contents, the signals and the names of threads are left out.
-/

namespace AvocadoMisc.Dwh.IoSystem

open VerifySettings Sizing Queues Transfers

/-- Where a worker is in `WorkerThreadStart`. From `submitting` to `testing` it is in
activity 7: `admitted` once `EndAllIO` was found clear, `collecting` after a successful
`sem_trywait`, `testing` after a failed one. -/
inductive WorkerPc where
  | absent
  | created
  | counted
  | looping
  | active
  | submitting (node : Addr) (iotype : Direction)
  | admitted (node : Addr) (iotype : Direction)
  | waiting (node : Addr) (iotype : Direction)
  | collecting (node : Addr) (iotype : Direction)
  | testing (node : Addr) (iotype : Direction)
  | closing
  | destroying
  | finishing
  | released
  | returned
  deriving DecidableEq

/-- A worker: its slot and its local variables. -/
structure Worker where
  pc : WorkerPc
  slot : Slot
  myMem : Option Buf
  sz : BitVec 64
  memQueued : Bool
  endMe : Bool

/-- Where an I/O thread is in `IOThreadStart`. It holds a node from where it takes one until it
gives it back, and is abandoned if it returns before its loop. -/
inductive IOPc where
  | absent
  | created
  | countedThread
  | counted
  | looping
  | active
  | holding (node : Addr) (activity : Direction)
  | performed (node : Addr) (activity : Direction)
  | closing
  | destroying
  | leaving
  | uncounted
  | returned
  | abandoned
  deriving DecidableEq

/-- An I/O thread and its descriptor. -/
structure IOThread where
  pc : IOPc
  myFd : Int

/-- Where main is. `sample` is a call of `isIOPending` before it reads the given queue.
`breakThreads` and `breakSample` are the test that gives up without I/O threads. `drained`
is behind a loop that ended because nothing was pending, `quit` behind any other. -/
inductive MainPc where
  | running
  | testWorkers
  | sample (id : QueueId)
  | breakThreads
  | breakSample (direction : Direction)
  | drained
  | quit
  | ended (pendingEnded : Bool)
  deriving DecidableEq

/-- The whole state. `nodeOwner` and `bufOwner` say which worker allocated an address
that is not free. -/
structure System (W I : Type) where
  shared : Shared
  stats : Stats
  nThreads : BitVec 32
  nIOThreads : BitVec 32
  nodeOwner : Addr → Option W
  bufOwner : Buf → Option W
  main : MainPc
  workers : W → Worker
  ioThreads : I → IOThread

/-- Steps of main. -/
inductive MainAct (W I : Type) where
  | createIOThread (who : I)
  | createWorker (who : W) (slot : Slot)
  | endIo
  | testWorkers
  | sample (calls : LockCalls)
  | breakThreads
  | breakSample (calls : LockCalls)
  | endThreads

/-- Steps of a worker. What the system decides is in the step: whether a call succeeds, which
address or number it returns, and how the calls under a lock go. -/
inductive WorkerAct where
  | count
  | semInit (succeeds : Bool)
  | loopTest
  | allocate (memUsed : BitVec 64) (draw : Rand) (result : Option Buf)
  | free
  | endMe (draw : Rand)
  | idle
  | request (result : Option Addr) (draw : Rand) (iotype : Direction)
  | endIOTest
  | enqueue (calls : LockCalls)
  | tryWait (succeeds : Bool)
  | getDone (calls : LockCalls)
  | waitTest
  | freeBuffer
  | semDestroy (succeeds : Bool)
  | release
  | uncount

/-- Steps of an I/O thread. What the system decides is in the step: whether a call succeeds, what
the file calls answer, and how the calls under a lock go. -/
inductive IOAct where
  | count
  | countIo
  | setup (myFd : Option Int)
  | loopTest
  | idle
  | take (activity : Direction) (calls : LockCalls)
  | perform (readStream verbose : Bool) (answers : FileAnswers)
  | giveBack (calls : LockCalls) (post : Bool)
  | closeFile (succeeds : Bool)
  | semDestroy (succeeds : Bool)
  | uncountIo
  | uncount

/-- Which thread moves and how. -/
inductive Label (W I : Type) where
  | main (act : MainAct W I)
  | worker (who : W) (act : WorkerAct)
  | io (who : I) (act : IOAct)

variable {W I : Type} [DecidableEq W] [DecidableEq I]

/-- Set `EndAllThreads` when something failed. -/
def endAllIf (failed : Bool) (g : Shared) : Shared :=
  { g with endAllThreads := g.endAllThreads || failed }

/-- Replace a worker's record. -/
def System.setWorker (who : W) (worker : Worker) (state : System W I) : System W I :=
  { state with workers := Function.update state.workers who worker }

/-- Replace an I/O thread's record. -/
def System.setIo (who : I) (thread : IOThread) (state : System W I) : System W I :=
  { state with ioThreads := Function.update state.ioThreads who thread }

/-- The next place of main when a queue was found empty by `isIOPending`. -/
def afterEmpty : QueueId → MainPc
  | .read => .sample .write
  | .write => .sample .done
  | .done => .drained

/-- One step of main: it creates threads, ends the I/O, and then samples the queues to see whether
they are empty. Each sample is a step, so the other threads run between them. -/
def mainStep (state : System W I) (act : MainAct W I) : Option (System W I) :=
  match act with
  | .createIOThread who =>
    if state.main = .running ∧ (state.ioThreads who).pc = .absent then
      some (state.setIo who ⟨.created, -1⟩)
    else none
  | .createWorker who slot =>
    if state.main = .running ∧ (state.workers who).pc = .absent then
      some (state.setWorker who ⟨.created, slot, none, 0, false, false⟩)
    else none
  | .endIo =>
    if state.main = .running then
      some { state with shared.endAllIo := true, main := .testWorkers }
    else none
  | .testWorkers =>
    if state.main = .testWorkers then
      if state.nThreads > state.nIOThreads then some { state with main := .sample .read }
      else some { state with main := .quit }
    else none
  | .sample calls =>
    match state.main with
    | .sample id =>
      (isQEmpty id calls state.shared).map fun (empty, shared) =>
        { state with shared := shared, main := if empty then afterEmpty id else .breakThreads }
    | _ => none
  | .breakThreads =>
    if state.main = .breakThreads then
      if state.nIOThreads < 1 then some { state with main := .breakSample .read }
      else some { state with main := .testWorkers }
    else none
  | .breakSample calls =>
    match state.main with
    | .breakSample direction =>
      (isQEmpty direction.queue calls state.shared).map fun (empty, shared) =>
        { state with
          shared := shared
          main :=
            if empty then
              match direction with
              | .read => .breakSample .write
              | .write => .testWorkers
            else .quit }
    | _ => none
  | .endThreads =>
    if state.main = .drained ∨ state.main = .quit then
      some { state with
        shared.endAllThreads := true
        main := .ended (state.main = .drained) }
    else none

/-- The members of a zeroed node that a worker assigns before it queues the node. -/
def fillNode (node : Addr) (slot : Slot) (ioBuffer : Option Buf) (ioLen : BitVec 64) (g : Shared) :
    Shared :=
  { setNext node none (setPrev node none g) with
    heap.mySem := Function.update g.heap.mySem node (some slot)
    heap.myFd := Function.update g.heap.myFd node 0
    heap.ioBuffer := Function.update g.heap.ioBuffer node ioBuffer
    heap.ioLen := Function.update g.heap.ioLen node ioLen
    heap.ioDone := Function.update g.heap.ioDone node 0 }

/-- One step of a worker. `queueIORead` and `queueIOWrite` take two: they test `EndAllIO`
without the lock. Whatever they answer, the worker takes its buffer as queued. -/
def workerStep (settings : Settings) (state : System W I) (who : W) (act : WorkerAct) :
    Option (System W I) :=
  let worker := state.workers who
  match act with
  | .count =>
    if worker.pc = .created then
      some ({ state with nThreads := state.nThreads + 1 }.setWorker who
        { worker with pc := .counted })
    else none
  | .semInit succeeds =>
    if worker.pc = .counted then
      if succeeds then
        some ({ state with
          shared.sems := Function.update state.shared.sems worker.slot ⟨true, 0⟩ }.setWorker who
            { worker with pc := .looping, memQueued := false })
      else
        some ({ state with shared := endAllIf true state.shared }.setWorker who
          { worker with pc := .finishing })
    else none
  | .loopTest =>
    if worker.pc = .looping then
      if ¬ state.shared.endAllThreads ∧ ¬ worker.endMe then
        some (state.setWorker who { worker with pc := .active })
      else some (state.setWorker who { worker with pc := .closing })
    else none
  | .allocate memUsed draw result =>
    if worker.pc = .active then
      if worker.myMem = none then
        let sz := bufferSize settings memUsed draw
        match result with
        | some mem =>
          if state.bufOwner mem = none then
            some ({ state with
              bufOwner := Function.update state.bufOwner mem (some who) }.setWorker who
                { worker with pc := .looping, myMem := some mem, sz := sz })
          else none
        | none => some (state.setWorker who { worker with pc := .looping, sz := sz })
      else some (state.setWorker who { worker with pc := .looping })
    else none
  | .free =>
    if worker.pc = .active then
      match worker.myMem with
      | some mem =>
        some ({ state with bufOwner := Function.update state.bufOwner mem none }.setWorker who
          { worker with pc := .looping, myMem := none, sz := 0 })
      | none => some (state.setWorker who { worker with pc := .looping })
    else none
  | .endMe draw =>
    if worker.pc = .active then
      let ends := state.nThreads - state.nIOThreads > 1 ∧ draw.val < ThreadLife.restartScope
      some (state.setWorker who { worker with pc := .looping, endMe := worker.endMe || ends })
    else none
  | .idle =>
    if worker.pc = .active then some (state.setWorker who { worker with pc := .looping })
    else none
  | .request result draw iotype =>
    if worker.pc = .active then
      if worker.myMem ≠ none ∧ state.nIOThreads > 0 then
        match result with
        | some node =>
          if state.nodeOwner node = none then
            some ({ state with
              shared := fillNode node worker.slot worker.myMem (requestLength worker.sz draw)
                state.shared
              nodeOwner := Function.update state.nodeOwner node (some who) }.setWorker who
                { worker with pc := .submitting node iotype })
          else none
        | none => some (state.setWorker who { worker with pc := .looping })
      else some (state.setWorker who { worker with pc := .looping })
    else none
  | .endIOTest =>
    match worker.pc with
    | .submitting node iotype =>
      if state.shared.endAllIo then
        some (state.setWorker who { worker with pc := .waiting node iotype, memQueued := true })
      else some (state.setWorker who { worker with pc := .admitted node iotype })
    | _ => none
  | .enqueue calls =>
    match worker.pc with
    | .admitted node iotype =>
      (queueIOAdmitted iotype.queue calls (some node) state.shared).map fun (queued, shared) =>
        { state with
          shared := shared
          stats.nQueuedIOTasks := state.stats.nQueuedIOTasks + if queued then 1 else 0 }.setWorker
            who { worker with pc := .waiting node iotype, memQueued := true }
    | _ => none
  | .tryWait succeeds =>
    match worker.pc with
    | .waiting node iotype =>
      (state.shared.heap.mySem node).map fun slot =>
        let sem := state.shared.sems slot
        if succeeds ∧ sem.value ≠ 0 then
          { state with
            shared.sems := Function.update state.shared.sems slot
              { sem with value := sem.value - 1 } }.setWorker who
                { worker with pc := .collecting node iotype }
        else state.setWorker who { worker with pc := .testing node iotype }
    | _ => none
  | .getDone calls =>
    match worker.pc with
    | .collecting node iotype =>
      (getIODoneNode calls (some node) state.shared).map fun (removed, shared) =>
        if removed then
          { state with
            shared := shared
            stats.totalIo := addTo iotype (shared.heap.ioDone node) state.stats.totalIo
            nodeOwner := Function.update state.nodeOwner node none }.setWorker who
              { worker with pc := .looping, memQueued := false }
        else
          { state with shared := endAllIf true shared }.setWorker who
            { worker with pc := .looping }
    | _ => none
  | .waitTest =>
    match worker.pc with
    | .testing node iotype =>
      if state.shared.endAllThreads then
        some (state.setWorker who { worker with pc := .looping })
      else some (state.setWorker who { worker with pc := .waiting node iotype })
    | _ => none
  | .freeBuffer =>
    if worker.pc = .closing then
      match worker.myMem, worker.memQueued with
      | some mem, false =>
        some ({ state with bufOwner := Function.update state.bufOwner mem none }.setWorker who
          { worker with pc := .destroying, myMem := none })
      | _, _ => some (state.setWorker who { worker with pc := .destroying })
    else none
  | .semDestroy succeeds =>
    if worker.pc = .destroying then
      let sem := state.shared.sems worker.slot
      some ({ state with
        shared := endAllIf (!succeeds) { state.shared with
          sems := Function.update state.shared.sems worker.slot
            { sem with initialised := sem.initialised && !succeeds } } }.setWorker who
              { worker with pc := .finishing })
    else none
  | .release =>
    if worker.pc = .finishing then some (state.setWorker who { worker with pc := .released })
    else none
  | .uncount =>
    if worker.pc = .released then
      some ({ state with nThreads := state.nThreads - 1 }.setWorker who
        { worker with pc := .returned })
    else none

/-- The members of a node that a transfer uses. -/
def nodeData (g : Shared) (node : Addr) : NodeData :=
  ⟨g.heap.myFd node, g.heap.ioBuffer node, g.heap.ioLen node, g.heap.ioDone node⟩

/-- Assign a node's descriptor. -/
def setFd (node : Addr) (fd : Int) (g : Shared) : Shared :=
  { g with heap.myFd := Function.update g.heap.myFd node fd }

/-- One step of an I/O thread. A node that cannot be given back is dropped. -/
def ioStep (state : System W I) (who : I) (act : IOAct) : Option (System W I) :=
  let thread := state.ioThreads who
  match act with
  | .count =>
    if thread.pc = .created then
      some ({ state with nThreads := state.nThreads + 1 }.setIo who
        { thread with pc := .countedThread })
    else none
  | .countIo =>
    if thread.pc = .countedThread then
      some ({ state with nIOThreads := state.nIOThreads + 1 }.setIo who
        { thread with pc := .counted })
    else none
  | .setup myFd =>
    if thread.pc = .counted then
      match myFd with
      | some fd => some (state.setIo who ⟨.looping, fd⟩)
      | none =>
        some ({ state with shared := endAllIf true state.shared }.setIo who
          { thread with pc := .abandoned })
    else none
  | .loopTest =>
    if thread.pc = .looping then
      if state.shared.endAllThreads then some (state.setIo who { thread with pc := .closing })
      else some (state.setIo who { thread with pc := .active })
    else none
  | .idle =>
    if thread.pc = .active then some (state.setIo who { thread with pc := .looping }) else none
  | .take activity calls =>
    if thread.pc = .active then
      (getIONode activity calls state.shared).map fun (result, shared) =>
        match result with
        | some node =>
          { state with
            shared := setFd node thread.myFd shared
            stats.nTriedIOTasks := state.stats.nTriedIOTasks + 1 }.setIo who
              { thread with pc := .holding node activity }
        | none => { state with shared := shared }.setIo who { thread with pc := .looping }
    else none
  | .perform readStream verbose answers =>
    match thread.pc with
    | .holding node activity =>
      let outcome := ioFileFor activity readStream verbose answers (nodeData state.shared node)
        state.stats
      let shared := { state.shared with
        heap.ioDone := Function.update state.shared.heap.ioDone node outcome.ioDone }
      some ({ state with
        shared := endAllIf outcome.endAllThreads (setFd node (-1) shared)
        stats := outcome.stats }.setIo who { thread with pc := .performed node activity })
    | _ => none
  | .giveBack calls post =>
    match thread.pc with
    | .performed node _ =>
      (queueIODone calls post (some node) state.shared).map fun (queued, shared) =>
        { state with shared := endAllIf (!queued) shared }.setIo who
          { thread with pc := .looping }
    | _ => none
  | .closeFile succeeds =>
    if thread.pc = .closing then
      some ({ state with shared := endAllIf (!succeeds) state.shared }.setIo who
        ⟨.destroying, -1⟩)
    else none
  | .semDestroy succeeds =>
    if thread.pc = .destroying then
      some ({ state with shared := endAllIf (!succeeds) state.shared }.setIo who
        { thread with pc := .leaving })
    else none
  | .uncountIo =>
    if thread.pc = .leaving then
      some ({ state with nIOThreads := state.nIOThreads - 1 }.setIo who
        { thread with pc := .uncounted })
    else none
  | .uncount =>
    if thread.pc = .uncounted then
      some ({ state with nThreads := state.nThreads - 1 }.setIo who
        { thread with pc := .returned })
    else none

/-- One step of the program. -/
def step (settings : Settings) (state : System W I) (label : Label W I) : Option (System W I) :=
  match label with
  | .main act => mainStep state act
  | .worker who act => workerStep settings state who act
  | .io who act => ioStep state who act

/-- Before the threads are created. -/
def initialSystem (W I : Type) : System W I where
  shared := initialShared
  stats := noStats
  nThreads := 0
  nIOThreads := 0
  nodeOwner := fun _ => none
  bufOwner := fun _ => none
  main := .running
  workers := fun _ => ⟨.absent, 0, none, 0, false, false⟩
  ioThreads := fun _ => ⟨.absent, -1⟩

/-- A run starts there. -/
def Initial (state : System W I) : Prop := state = initialSystem W I

/-- The node that an I/O thread has in its hands. -/
def IOPc.hand : IOPc → Option Addr
  | .holding node _ | .performed node _ => some node
  | _ => none

end AvocadoMisc.Dwh.IoSystem
