import Mathlib.Logic.Function.Basic
import AvocadoMisc.Dwh.Sizing

/-!
# Creation and end of the threads

The main thread creates the I/O threads and the workers, replaces workers while the
test runs, and ends them all. A worker owns one entry of `wktinfo`, which counts as
used while its `thread_num` is not zero. Every thread counts itself in `nThreads`, an
I/O thread in `nIOThreads` as well.

A step is one access of a thread to this shared state, so a scan of `wktinfo` or the
two counter updates of an I/O thread interleave with the other threads. What a system
call answers is part of the step. The work inside the loops is left out except for
setting `EndAllThreads`, which the loops test.

Thread identities are arbitrary: a run that creates more threads is one over a larger
type. A thread's record also keeps the counter updates it has made.
-/

namespace AvocadoMisc.Dwh.ThreadLife

open VerifySettings Sizing

/-- An update of one of the two thread counters. -/
inductive CounterUpdate where
  | incThreads
  | decThreads
  | incIOThreads
  | decIOThreads
  deriving DecidableEq

/-- Where a worker is in `WorkerThreadStart`. It is `released` when its slot is free but it is still
counted. -/
inductive WorkerPc where
  | absent
  | created
  | counted
  | working (endMe : Bool)
  | closing
  | finishing
  | released
  | returned
  deriving DecidableEq

/-- A worker thread: its entry of `wktinfo` and its counter updates. -/
structure Worker where
  pc : WorkerPc
  slot : Nat
  updates : List CounterUpdate

/-- Where an I/O thread is in `IOThreadStart`. The early error returns end in
`abandoned`. -/
inductive IOPc where
  | absent
  | created
  | countedThread
  | counted
  | hasArgument
  | hasSemaphore
  | working
  | closing
  | destroying
  | leaving
  | uncounted
  | returned
  | abandoned
  deriving DecidableEq

/-- An I/O thread: its argument, an entry of `iotinfo`, and its counter updates. -/
structure IOThread where
  pc : IOPc
  arg : Option Nat
  updates : List CounterUpdate

/-- Which call of `startOneWorkerThread` main is in. -/
inductive Origin where
  | setup (tnum : Nat)
  | replacement
  deriving DecidableEq

/-- Where main is. `scan`, `number`, `create` and `unlock` are inside
`startOneWorkerThread`. -/
inductive MainPc where
  | start
  | createIo (tnum : Nat)
  | awaitIo
  | setupWorkers
  | createWorkers (tnum : Nat)
  | awaitWorkers
  | testing
  | lockAny
  | scan (wNum : Nat)
  | number (wNum : Nat) (origin : Origin)
  | create (wNum : Nat) (origin : Origin)
  | unlock (origin : Origin)
  | ending
  | awaitThreads
  | cleanup
  | finished
  deriving DecidableEq

/-- The shared state. `wktinfo` is absent while it is null, and otherwise holds the
`thread_num` of every entry. -/
structure Life (W I : Type) where
  main : MainPc
  threadNum : BitVec 32
  wktilock : Bool
  wktinfo : Option (Nat → BitVec 32)
  nThreads : BitVec 32
  nIOThreads : BitVec 32
  endAllThreads : Bool
  workers : W → Worker
  ioThreads : I → IOThread

/-- Steps of main. What the system decides is in the step: whether a call succeeds, which thread is
created, and which number is drawn. -/
inductive MainAct (W I : Type) where
  | setupIOThreads (attr alloc : Bool)
  | createIOThread (created : Option I)
  | finishIOSetup (destroyed : Bool)
  | awaitIo
  | setupWorkerThreads (attr alloc : Bool)
  | lockSlot (locked : Bool)
  | finishWorkerSetup (destroyed : Bool)
  | awaitWorkers
  | replaceWorker (draw : Rand)
  | lockAny (locked : Bool)
  | scanSlot
  | numberThread
  | createThread (created : Option W)
  | unlock (unlocked : Bool)
  | leaveLoop
  | endThreads
  | awaitThreads
  | cleanup

/-- Steps of a worker. -/
inductive WorkerAct where
  | count
  | initSemaphore (succeeds : Bool)
  | endMe (draw : Rand)
  | work (fails : Bool)
  | leave
  | destroySemaphore (succeeds : Bool)
  | release
  | uncount

/-- Steps of an I/O thread. Each of the early returns of `IOThreadStart` is the failure of one of
these. -/
inductive IOAct where
  | count
  | countIo
  | testArgument
  | initSemaphore (succeeds : Bool)
  | openFile (succeeds : Bool)
  | work (fails : Bool)
  | leave
  | closeFile (succeeds : Bool)
  | destroySemaphore (succeeds : Bool)
  | uncountIo
  | uncount

/-- Which thread moves and how. -/
inductive Label (W I : Type) where
  | main (act : MainAct W I)
  | worker (who : W) (act : WorkerAct)
  | io (who : I) (act : IOAct)

variable {W I : Type} [DecidableEq W] [DecidableEq I]

/-- `RESTART_SCOPE`. -/
def restartScope : Nat := randMax / 800

/-- The workers that `SetupWorkerThreads` creates. -/
def minworkers (settings : Settings) : Int := (settings.minthreads - settings.iothreads).toInt

/-- The entries of `wktinfo`. -/
def maxworkers (settings : Settings) : Int := (settings.maxthreads - settings.iothreads).toInt

/-- Assign an entry's `thread_num`; an assignment through null has no result. -/
def setThreadNum (wNum : Nat) (value : BitVec 32) (state : Life W I) : Option (Life W I) :=
  state.wktinfo.map fun nums => { state with wktinfo := some (Function.update nums wNum value) }

/-- `pthread_create` of a worker under a fresh identity. -/
def addWorker (who : W) (wNum : Nat) (state : Life W I) : Option (Life W I) :=
  if (state.workers who).pc = .absent then
    some { state with workers := Function.update state.workers who ⟨.created, wNum, []⟩ }
  else none

/-- `pthread_create` of an I/O thread under a fresh identity. -/
def addIOThread (who : I) (tnum : Nat) (state : Life W I) : Option (Life W I) :=
  if (state.ioThreads who).pc = .absent then
    some { state with ioThreads := Function.update state.ioThreads who ⟨.created, some tnum, []⟩ }
  else none

/-- One step of main: it creates the I/O threads and the workers, replaces workers that have ended,
and waits for all to end. Looking for a free slot is a step for each slot, and the mutex is held
from the lock to the unlock. -/
def mainStep (settings : Settings) (state : Life W I) (act : MainAct W I) :
    Option (Life W I) :=
  match act with
  | .setupIOThreads attr alloc =>
    match state.main with
    | .start =>
      if settings.iothreads > 0 ∧ attr ∧ alloc then some { state with main := .createIo 0 }
      else some { state with main := .setupWorkers }
    | _ => none
  | .createIOThread created =>
    match state.main with
    | .createIo tnum =>
      if tnum < settings.iothreads.toNat then
        let state := { state with threadNum := state.threadNum + 1 }
        match created with
        | some who => addIOThread who tnum { state with main := .createIo (tnum + 1) }
        | none => some { state with main := .setupWorkers }
      else none
    | _ => none
  | .finishIOSetup destroyed =>
    match state.main with
    | .createIo tnum =>
      if tnum < settings.iothreads.toNat then none
      else some { state with main := if destroyed then .awaitIo else .setupWorkers }
    | _ => none
  | .awaitIo =>
    match state.main with
    | .awaitIo =>
      if state.nIOThreads < settings.iothreads then some state
      else some { state with main := .setupWorkers }
    | _ => none
  | .setupWorkerThreads attr alloc =>
    match state.main with
    | .setupWorkers =>
      if attr ∧ alloc then some { state with wktinfo := some fun _ => 0, main := .createWorkers 0 }
      else some { state with main := .testing }
    | _ => none
  | .lockSlot locked =>
    match state.main with
    | .createWorkers tnum =>
      if (tnum : Int) < minworkers settings then
        if locked then
          if state.wktilock then none
          else some { state with wktilock := true, main := .number tnum (.setup tnum) }
        else some { state with main := .testing }
      else none
    | _ => none
  | .finishWorkerSetup destroyed =>
    match state.main with
    | .createWorkers tnum =>
      if (tnum : Int) < minworkers settings then none
      else some { state with main := if destroyed then .awaitWorkers else .testing }
    | _ => none
  | .awaitWorkers =>
    match state.main with
    | .awaitWorkers =>
      if state.nThreads ≤ state.nIOThreads then some state
      else some { state with main := .testing }
    | _ => none
  | .replaceWorker draw =>
    match state.main with
    | .testing =>
      if settings.shortThreads ∧ ¬ state.endAllThreads ∧ state.nThreads < settings.maxthreads ∧
          restartScope ≤ draw.val then
        some { state with main := .lockAny }
      else some state
    | _ => none
  | .lockAny locked =>
    match state.main with
    | .lockAny =>
      if locked then
        if state.wktilock then none
        else some { state with wktilock := true, main := .scan 0 }
      else some { state with main := .testing }
    | _ => none
  | .scanSlot =>
    match state.main with
    | .scan wNum =>
      if (wNum : Int) < maxworkers settings then
        state.wktinfo.map fun nums =>
          if nums wNum = 0#32 then { state with main := .number wNum .replacement }
          else { state with main := .scan (wNum + 1) }
      else some { state with main := .unlock .replacement }
    | _ => none
  | .numberThread =>
    match state.main with
    | .number wNum origin =>
      setThreadNum wNum state.threadNum
        { state with threadNum := state.threadNum + 1, main := .create wNum origin }
    | _ => none
  | .createThread created =>
    match state.main with
    | .create wNum origin =>
      match created with
      | some who => addWorker who wNum { state with main := .unlock origin }
      | none => setThreadNum wNum 0 { state with main := .testing }
    | _ => none
  | .unlock unlocked =>
    match state.main with
    | .unlock origin =>
      some { state with
        wktilock := !unlocked
        main := match origin with
          | .setup tnum => .createWorkers (tnum + 1)
          | .replacement => .testing }
    | _ => none
  | .leaveLoop =>
    match state.main with
    | .testing => some { state with main := .ending }
    | _ => none
  | .endThreads =>
    match state.main with
    | .ending => some { state with endAllThreads := true, main := .awaitThreads }
    | _ => none
  | .awaitThreads =>
    match state.main with
    | .awaitThreads =>
      if state.nThreads > 0 then some state else some { state with main := .cleanup }
    | _ => none
  | .cleanup =>
    match state.main with
    | .cleanup =>
      if state.nThreads > 0 then some state else some { state with main := .finished }
    | _ => none

/-- One step of a worker, from where it counts itself to where it uncounts itself. A failure of a
semaphore call sets the flag that ends all threads. -/
def workerStep (state : Life W I) (who : W) (act : WorkerAct) : Option (Life W I) :=
  let worker := state.workers who
  let become (pc : WorkerPc) (state : Life W I) : Life W I :=
    { state with workers := Function.update state.workers who { worker with pc := pc } }
  match act with
  | .count =>
    if worker.pc = .created then
      some { state with
        nThreads := state.nThreads + 1
        workers := Function.update state.workers who
          { worker with pc := .counted, updates := worker.updates ++ [.incThreads] } }
    else none
  | .initSemaphore succeeds =>
    if worker.pc = .counted then
      if succeeds then some (become (.working false) state)
      else some (become .finishing { state with endAllThreads := true })
    else none
  | .endMe draw =>
    if worker.pc = .working false ∧ ¬ state.endAllThreads then
      if state.nThreads - state.nIOThreads > 1 ∧ draw.val < restartScope then
        some (become (.working true) state)
      else some state
    else none
  | .work fails =>
    if worker.pc = .working false ∧ ¬ state.endAllThreads then
      some (if fails then { state with endAllThreads := true } else state)
    else none
  | .leave =>
    if worker.pc = .working true ∨ (worker.pc = .working false ∧ state.endAllThreads) then
      some (become .closing state)
    else none
  | .destroySemaphore succeeds =>
    if worker.pc = .closing then
      some (become .finishing (if succeeds then state else { state with endAllThreads := true }))
    else none
  | .release =>
    if worker.pc = .finishing then (setThreadNum worker.slot 0 state).map (become .released)
    else none
  | .uncount =>
    if worker.pc = .released then
      some { state with
        nThreads := state.nThreads - 1
        workers := Function.update state.workers who
          { worker with pc := .returned, updates := worker.updates ++ [.decThreads] } }
    else none

/-- One step of an I/O thread. Three errors return before the counters are lowered. -/
def ioStep (state : Life W I) (who : I) (act : IOAct) : Option (Life W I) :=
  let thread := state.ioThreads who
  let become (pc : IOPc) (state : Life W I) : Life W I :=
    { state with ioThreads := Function.update state.ioThreads who { thread with pc := pc } }
  match act with
  | .count =>
    if thread.pc = .created then
      some { state with
        nThreads := state.nThreads + 1
        ioThreads := Function.update state.ioThreads who
          { thread with pc := .countedThread, updates := thread.updates ++ [.incThreads] } }
    else none
  | .countIo =>
    if thread.pc = .countedThread then
      some { state with
        nIOThreads := state.nIOThreads + 1
        ioThreads := Function.update state.ioThreads who
          { thread with pc := .counted, updates := thread.updates ++ [.incIOThreads] } }
    else none
  | .testArgument =>
    if thread.pc = .counted then
      if thread.arg = none then some (become .abandoned { state with endAllThreads := true })
      else some (become .hasArgument state)
    else none
  | .initSemaphore succeeds =>
    if thread.pc = .hasArgument then
      if succeeds then some (become .hasSemaphore state)
      else some (become .abandoned { state with endAllThreads := true })
    else none
  | .openFile succeeds =>
    if thread.pc = .hasSemaphore then
      if succeeds then some (become .working state)
      else some (become .abandoned { state with endAllThreads := true })
    else none
  | .work fails =>
    if thread.pc = .working ∧ ¬ state.endAllThreads then
      some (if fails then { state with endAllThreads := true } else state)
    else none
  | .leave =>
    if thread.pc = .working ∧ state.endAllThreads then some (become .closing state) else none
  | .closeFile succeeds =>
    if thread.pc = .closing then
      some (become .destroying (if succeeds then state else { state with endAllThreads := true }))
    else none
  | .destroySemaphore succeeds =>
    if thread.pc = .destroying then
      some (become .leaving (if succeeds then state else { state with endAllThreads := true }))
    else none
  | .uncountIo =>
    if thread.pc = .leaving then
      some { state with
        nIOThreads := state.nIOThreads - 1
        ioThreads := Function.update state.ioThreads who
          { thread with pc := .uncounted, updates := thread.updates ++ [.decIOThreads] } }
    else none
  | .uncount =>
    if thread.pc = .uncounted then
      some { state with
        nThreads := state.nThreads - 1
        ioThreads := Function.update state.ioThreads who
          { thread with pc := .returned, updates := thread.updates ++ [.decThreads] } }
    else none

/-- One step of the program. -/
def step (settings : Settings) (state : Life W I) (label : Label W I) : Option (Life W I) :=
  match label with
  | .main act => mainStep settings state act
  | .worker who act => workerStep state who act
  | .io who act => ioStep state who act

/-- Main starts, no thread exists, all globals are zero. -/
def Initial (state : Life W I) : Prop :=
  state.main = .start ∧ state.threadNum = 0 ∧ state.wktilock = false ∧ state.wktinfo = none ∧
    state.nThreads = 0 ∧ state.nIOThreads = 0 ∧ state.endAllThreads = false ∧
    (∀ who, state.workers who = ⟨.absent, 0, []⟩) ∧
    ∀ who, state.ioThreads who = ⟨.absent, none, []⟩

/-- Main before its first step. -/
def initialLife (W I : Type) : Life W I :=
  ⟨.start, 0, false, none, 0, 0, false, fun _ => ⟨.absent, 0, []⟩, fun _ => ⟨.absent, none, []⟩⟩

/-- It is an initial state. -/
theorem initialLife_initial (W I : Type) : Initial (initialLife W I) :=
  ⟨rfl, rfl, rfl, rfl, rfl, rfl, rfl, fun _ => rfl, fun _ => rfl⟩

end AvocadoMisc.Dwh.ThreadLife
