import AvocadoMisc.Library.Transitions
import AvocadoMisc.Dwh.QueueLaws
import AvocadoMisc.Dwh.ThreadLife

/-!
# Every lock is released

Functions of dwh that lock one of its mutexes: the queue functions and
`startOneWorkerThread`. Each is split at the lock. Up to there it blocks, returns without
the mutex, or takes it; the rest runs under the mutex and returns. Threads interleave
at this point, and between their calls change anything but the mutexes.

The queue functions reach their unlock on every path. `startOneWorkerThread` returns the
error of `pthread_create` from the middle of its critical section, and nobody unlocks
`wktilock` after that.
-/

namespace AvocadoMisc.Dwh.LockBalance

open VerifySettings Queues QueueContents QueueLaws
open ThreadLife (maxworkers)
open Library.Transitions

/-- The mutexes that some function locks. Two more are only made and destroyed. -/
inductive Mutex where
  | wktilock
  | queue (id : QueueId)
  deriving DecidableEq

/-- The globals of `startOneWorkerThread`. `wktinfo` is absent while it is null, and
otherwise holds the `thread_num` of every entry. -/
structure Workers where
  wktilock : Bool
  threadNum : BitVec 32
  wktinfo : Option (Nat → BitVec 32)
  nThreads : BitVec 32
  nPeakThreads : BitVec 32

/-- The globals that the functions use: the queues with their mutexes, and the workers. -/
structure Program where
  shared : Shared
  workers : Workers

/-- Whether a mutex is held. -/
def Program.held (program : Program) : Mutex → Bool
  | .wktilock => program.workers.wktilock
  | .queue id => (program.shared.queues id).locked

/-- Take a mutex. -/
def Program.lock (program : Program) : Mutex → Program
  | .wktilock => { program with workers.wktilock := true }
  | .queue id => { program with shared := holding id program.shared }

/-- What the pthread calls of one `startOneWorkerThread` answer: true for zero, and the error
of `pthread_create` itself. -/
structure StartCalls where
  lock : Bool
  create : Int
  unlock : Bool

/-- `getUnusedWorkerThreadNum`: the first entry with a zero `thread_num`, or -1. Reading an
entry of a null `wktinfo` has no result. -/
def getUnusedWorkerThreadNum (settings : Settings) (workers : Workers) : Option Int :=
  match workers.wktinfo with
  | some nums =>
    match (List.range (maxworkers settings).toNat).find? fun wNum => nums wNum = 0 with
    | some wNum => some wNum
    | none => some (-1)
  | none => if 0 < maxworkers settings then none else some (-1)

/-- The entry for the new worker: the given one, or an unused one. -/
def chooseNumber (settings : Settings) (wNum : Int) (workers : Workers) : Option Int :=
  if wNum < 0 then getUnusedWorkerThreadNum settings workers else some wNum

/-- Assign an entry's `thread_num`. -/
def setThreadNum (wNum : Int) (value : BitVec 32) (workers : Workers) : Option Workers :=
  workers.wktinfo.map fun nums =>
    { workers with wktinfo := some (Function.update nums wNum.toNat value) }

/-- Unlock `wktilock`. A failed call leaves it held. -/
def unlockWorkers (unlock : Bool) (workers : Workers) : Workers :=
  if unlock then { workers with wktilock := false } else workers

/-- `startOneWorkerThread` under the mutex. The result has the workers with the mutex as it is left:
a failing `pthread_create` returns without unlocking it. -/
def startLocked (settings : Settings) (calls : StartCalls) (wNum : Int) (workers : Workers) :
    Option (Int × Workers) := do
  let wNum ← chooseNumber settings wNum workers
  if 0 ≤ wNum then
    let workers ← setThreadNum wNum workers.threadNum
      { workers with threadNum := workers.threadNum + 1 }
    if calls.create ≠ 0 then
      -- This return is inside the critical section.
      let workers ← setThreadNum wNum 0 workers
      some (calls.create, workers)
    else
      let workers := { workers with
        nPeakThreads :=
          if workers.nThreads > workers.nPeakThreads then workers.nThreads
          else workers.nPeakThreads }
      some (0, unlockWorkers calls.unlock workers)
  else some (-1, unlockWorkers calls.unlock workers)

/-- Create one worker. A held mutex blocks. -/
def startOneWorkerThread (settings : Settings) (calls : StartCalls) (wNum : Int)
    (workers : Workers) : Option (Int × Workers) :=
  if calls.lock then
    if workers.wktilock then none
    else startLocked settings calls wNum { workers with wktilock := true }
  else some (-1, workers)

/-- A call of a queue function with what its pthread calls answer. -/
inductive QueueCall where
  | isQEmpty (id : QueueId) (calls : LockCalls)
  | getIOReadNode (calls : LockCalls)
  | getIOWriteNode (calls : LockCalls)
  | getIODoneNode (calls : LockCalls) (node : Option Addr)
  | queueIo (id : QueueId) (calls : LockCalls) (node : Option Addr)
  | queueIODone (calls : LockCalls) (post : Bool) (node : Option Addr)
  | clearQ (id : QueueId) (calls : LockCalls)

namespace QueueCall

/-- The queue it locks. -/
def id : QueueCall → QueueId
  | .isQEmpty id _ => id
  | .getIOReadNode _ => .read
  | .getIOWriteNode _ => .write
  | .getIODoneNode _ _ => .done
  | .queueIo id _ _ => id
  | .queueIODone _ _ _ => .done
  | .clearQ id _ => id

/-- The answers of its lock and unlock. -/
def calls : QueueCall → LockCalls
  | .isQEmpty _ calls => calls
  | .getIOReadNode calls => calls
  | .getIOWriteNode calls => calls
  | .getIODoneNode calls _ => calls
  | .queueIo _ calls _ => calls
  | .queueIODone calls _ _ => calls
  | .clearQ _ calls => calls

/-- What the function leaves. -/
def run : QueueCall → Shared → Option Shared
  | .isQEmpty id calls, g => (Queues.isQEmpty id calls g).map Prod.snd
  | .getIOReadNode calls, g => (Queues.getIOReadNode calls g).map Prod.snd
  | .getIOWriteNode calls, g => (Queues.getIOWriteNode calls g).map Prod.snd
  | .getIODoneNode calls node, g => (Queues.getIODoneNode calls node g).map Prod.snd
  | .queueIo id calls node, g => (Queues.queueIo id calls node g).map Prod.snd
  | .queueIODone calls post node, g => (Queues.queueIODone calls post node g).map Prod.snd
  | .clearQ id calls, g => Queues.clearQ id calls g

/-- It comes to its lock call: a request is not refused, a node is not null. -/
def admitted : QueueCall → Shared → Bool
  | .queueIo _ _ node, g => !g.endAllIo && node.isSome
  | .queueIODone _ _ node, _ => node.isSome
  | _, _ => true

/-- What it does between lock and unlock. There is no result where a link that the source follows is
`NULL`, or where the links to be cleared have no end. -/
def body : QueueCall → Shared → Option Shared
  | .isQEmpty _ _, g => some g
  | .getIOReadNode _, g => some (takeReadHead g).2
  | .getIOWriteNode _, g => some (takeWriteHead g).2
  | .getIODoneNode _ node, g => some (unlinkDone node g).2
  | .queueIo id _ (some node), g => linkTail id node g
  | .queueIODone _ post (some node), g => some (wakeOwner post node (linkDone node g))
  | .queueIo _ _ none, g => some g
  | .queueIODone _ _ none, g => some g
  | .clearQ id _, g => (clearBody id g).map Prod.snd

end QueueCall

/-- A call of a function that locks: one of the queue functions, or the start of a worker. -/
inductive Call where
  | startOneWorkerThread (calls : StartCalls) (wNum : Int)
  | queue (call : QueueCall)

namespace Call

/-- The mutex that it locks. -/
def target : Call → Mutex
  | .startOneWorkerThread _ _ => .wktilock
  | .queue call => .queue call.id

/-- The answer of its lock call. -/
def locks : Call → Bool
  | .startOneWorkerThread calls _ => calls.lock
  | .queue call => call.calls.lock

/-- The answer of its unlock call. -/
def unlocks : Call → Bool
  | .startOneWorkerThread calls _ => calls.unlock
  | .queue call => call.calls.unlock

/-- It comes to its lock call. -/
def admitted : Call → Program → Bool
  | .startOneWorkerThread _ _, _ => true
  | .queue call, program => call.admitted program.shared

/-- What the whole function leaves. -/
def run (settings : Settings) : Call → Program → Option Program
  | .startOneWorkerThread calls wNum, program =>
    (LockBalance.startOneWorkerThread settings calls wNum program.workers).map fun ended =>
      { program with workers := ended.2 }
  | .queue call, program =>
    (call.run program.shared).map fun shared => { program with shared := shared }

/-- What the part from the lock on leaves. -/
def rest (settings : Settings) : Call → Program → Option Program
  | .startOneWorkerThread calls wNum, program =>
    (startLocked settings calls wNum program.workers).map fun ended =>
      { program with workers := ended.2 }
  | .queue call, program =>
    (call.body program.shared).map fun shared =>
      { program with shared := leaving call.id call.calls shared }

/-- The worker gets a number and `pthread_create` fails. Without a number it is not called. -/
def CreateFails (settings : Settings) (program : Program) : Call → Prop
  | .startOneWorkerThread calls wNum => calls.create ≠ 0 ∧
      ∃ number, chooseNumber settings wNum program.workers = some number ∧ 0 ≤ number
  | .queue _ => False

end Call

/-- No mutex is held that was not held before, so the call has unlocked what it locked. -/
def Released (before after : Program) : Prop :=
  ∀ mutex, after.held mutex = true → before.held mutex = true

section Split

/-- The state that a critical section leaves. -/
theorem critical_state {β : Type} (id : QueueId) (calls : LockCalls)
    (body : Shared → Option (β × Shared)) (g : Shared) :
    (critical id calls body g).map Prod.snd =
      if calls.lock then
        if (g.queues id).locked then none
        else (body (holding id g)).map fun ran => leaving id calls ran.2
      else some g := by
  obtain ⟨lock, unlock⟩ := calls
  cases lock with
  | false => rfl
  | true =>
    cases held : (g.queues id).locked with
    | true => simp [critical, lockQ, held]
    | false =>
      simp only [critical, lockQ, held, ↓reduceIte, Bool.false_eq_true, Option.bind_eq_bind,
        Option.bind_some]
      change ((body (holding id g)).bind _).map _ = _
      cases body (holding id g) with
      | none => rfl
      | some ran => cases unlock <;> rfl

/-- A queue function that comes to its lock call blocks, returns at once or runs its body
between lock and unlock. -/
theorem run_admitted {call : QueueCall} {g : Shared} (admitted : call.admitted g = true) :
    call.run g =
      if call.calls.lock then
        if (g.queues call.id).locked then none
        else (call.body (holding call.id g)).map (leaving call.id call.calls)
      else some g := by
  cases call with
  | isQEmpty id calls =>
    have state := critical_state id calls (fun g => some ((g.queues id).head.isNone, g)) g
    refine Eq.trans ?_ state
    simp only [QueueCall.run, isQEmpty, Option.bind_eq_bind]
    rcases critical id calls (fun g => some ((g.queues id).head.isNone, g)) g with
      _ | ⟨_ | ⟨_, _⟩, _⟩ <;> rfl
  | getIOReadNode calls =>
    have state := critical_state .read calls (fun g => some (takeReadHead g)) g
    refine Eq.trans ?_ state
    simp only [QueueCall.run, getIOReadNode, Option.bind_eq_bind]
    rcases critical .read calls (fun g => some (takeReadHead g)) g with _ | ⟨_, _⟩ <;> rfl
  | getIOWriteNode calls =>
    have state := critical_state .write calls (fun g => some (takeWriteHead g)) g
    refine Eq.trans ?_ state
    simp only [QueueCall.run, getIOWriteNode, Option.bind_eq_bind]
    rcases critical .write calls (fun g => some (takeWriteHead g)) g with _ | ⟨_, _⟩ <;> rfl
  | getIODoneNode calls node =>
    have state := critical_state .done calls (fun g => some (unlinkDone node g)) g
    refine Eq.trans ?_ state
    simp only [QueueCall.run, getIODoneNode, Option.bind_eq_bind]
    rcases critical .done calls (fun g => some (unlinkDone node g)) g with
      _ | ⟨_ | ⟨_, _⟩, _⟩ <;> rfl
  | queueIo id calls node =>
    cases node with
    | none => simp [QueueCall.admitted] at admitted
    | some node =>
      have running : g.endAllIo = false := by simpa [QueueCall.admitted] using admitted
      have state := critical_state id calls
        (fun g => (linkTail id node g).map fun g => ((), g)) g
      rw [Option.map_map] at state
      refine Eq.trans ?_ state
      simp only [QueueCall.run, queueIo, running, Bool.false_eq_true, ↓reduceIte,
        queueIOAdmitted, Option.bind_eq_bind]
      rcases critical id calls (fun g => (linkTail id node g).map fun g => ((), g)) g with
        _ | ⟨_ | ⟨_, _⟩, _⟩ <;> rfl
  | queueIODone calls post node =>
    cases node with
    | none => simp [QueueCall.admitted] at admitted
    | some node =>
      have state := critical_state .done calls
        (fun g => some ((), wakeOwner post node (linkDone node g))) g
      refine Eq.trans ?_ state
      simp only [QueueCall.run, queueIODone, Option.bind_eq_bind]
      rcases critical .done calls
        (fun g => some ((), wakeOwner post node (linkDone node g))) g with
        _ | ⟨_ | ⟨_, _⟩, _⟩ <;> rfl
  | clearQ id calls =>
    have state := critical_state id calls (clearBody id) g
    simp only [QueueCall.body, Option.map_map]
    refine Eq.trans ?_ state
    simp only [QueueCall.run, clearQ, Option.bind_eq_bind]
    rcases critical id calls (clearBody id) g with _ | ⟨_, _⟩ <;> rfl

/-- One that does not come to it changes nothing. -/
theorem run_refused {call : QueueCall} {g : Shared} (refused : call.admitted g = false) :
    call.run g = some g := by
  cases call with
  | queueIo id calls node =>
    cases node with
    | none =>
      cases stopped : g.endAllIo <;> simp [QueueCall.run, queueIo, queueIOAdmitted, stopped]
    | some node =>
      have stopped : g.endAllIo = true := by simpa [QueueCall.admitted] using refused
      simp [QueueCall.run, queueIo, stopped]
  | queueIODone calls post node =>
    cases node with
    | none => rfl
    | some node => simp [QueueCall.admitted] at refused
  | _ => simp [QueueCall.admitted] at refused

/-- Every function is split at its lock call. -/
theorem run_eq (settings : Settings) (call : Call) (program : Program) :
    call.run settings program =
      if call.admitted program ∧ call.locks then
        if program.held call.target then none
        else call.rest settings (program.lock call.target)
      else some program := by
  cases call with
  | startOneWorkerThread calls wNum =>
    cases lock : calls.lock <;> cases held : program.workers.wktilock <;>
      simp [Call.run, Call.rest, Call.admitted, Call.locks, Call.target, Program.held,
        Program.lock, startOneWorkerThread, lock, held]
  | queue call =>
    cases admitted : call.admitted program.shared with
    | false =>
      simp [Call.run, Call.admitted, run_refused admitted, admitted]
    | true =>
      cases lock : call.calls.lock <;>
        cases held : (program.shared.queues call.id).locked <;>
        simp [Call.run, Call.rest, Call.admitted, Call.locks, Call.target, Program.held,
          Program.lock, run_admitted admitted, admitted, lock, held, Function.comp_def]

end Split

section Rest

/-- An undisturbed queue body touches no mutex. -/
theorem undisturbed_locked {id : QueueId} {g after : Shared} (kept : Undisturbed id g after)
    (other : QueueId) : (after.queues other).locked = (g.queues other).locked := by
  by_cases same : other = id
  · rw [same, kept.locked]
  · rw [kept.others other same]

/-- Waking an owner touches no queue. -/
theorem wakeOwner_queues (post : Bool) (node : Addr) (g : Shared) :
    (wakeOwner post node g).queues = g.queues := by
  unfold wakeOwner semPost
  cases g.heap.mySem node <;> cases post <;> rfl

/-- No body of a queue function touches a mutex. The lock and the unlock around it are steps of
their own. -/
theorem body_locked {call : QueueCall} {g after : Shared} (ran : call.body g = some after)
    (other : QueueId) : (after.queues other).locked = (g.queues other).locked := by
  cases call with
  | isQEmpty id calls =>
    obtain rfl := Option.some.inj ran
    rfl
  | getIOReadNode calls =>
    obtain rfl := Option.some.inj ran
    exact undisturbed_locked (takeHead_undisturbed .read true g) other
  | getIOWriteNode calls =>
    obtain rfl := Option.some.inj ran
    exact undisturbed_locked (takeHead_undisturbed .write false g) other
  | getIODoneNode calls node =>
    obtain rfl := Option.some.inj ran
    exact undisturbed_locked (unlinkDone_undisturbed node g) other
  | queueIo id calls node =>
    cases node with
    | none =>
      obtain rfl := Option.some.inj ran
      rfl
    | some node => exact undisturbed_locked (linkTail_undisturbed ran) other
  | queueIODone calls post node =>
    cases node with
    | none =>
      obtain rfl := Option.some.inj ran
      rfl
    | some node =>
      obtain rfl := Option.some.inj ran
      rw [wakeOwner_queues]
      exact undisturbed_locked (linkDone_undisturbed node g) other
  | clearQ id calls =>
    obtain ⟨⟨freed, middle⟩, cleared, rfl⟩ := Option.map_eq_some_iff.mp ran
    simp only [clearBody, Option.bind_eq_bind, Option.bind_eq_some_iff] at cleared
    obtain ⟨⟨count, links, head, tail⟩, -, same⟩ := cleared
    obtain ⟨-, rfl⟩ := Prod.mk.inj (Option.some.inj same)
    by_cases here : other = id
    · subst here
      simp [setQueue]
    · simp [setQueue, here]

/-- A successful unlock of a queue frees its mutex and no other. -/
theorem leaving_locked {id : QueueId} {calls : LockCalls} (unlocks : calls.unlock = true)
    (g : Shared) (other : QueueId) : ((leaving id calls g).queues other).locked =
      if other = id then false else (g.queues other).locked := by
  by_cases here : other = id
  · subst here
    simp [leaving, unlocks, setQueue]
  · simp [leaving, unlocks, setQueue, here]

/-- Assigning an entry does not touch the mutex. -/
theorem setThreadNum_wktilock {wNum : Int} {value : BitVec 32} {workers after : Workers}
    (assigned : setThreadNum wNum value workers = some after) :
    after.wktilock = workers.wktilock := by
  obtain ⟨nums, -, rfl⟩ := Option.map_eq_some_iff.mp assigned
  rfl

/-- `startOneWorkerThread` leaves its critical section without the unlock exactly when it has
a number and `pthread_create` fails. -/
theorem startLocked_wktilock {settings : Settings} {calls : StartCalls} {wNum result : Int}
    {workers after : Workers} (ran : startLocked settings calls wNum workers = some (result, after))
    (unlocks : calls.unlock = true) (held : workers.wktilock = true) :
    after.wktilock = true ↔ calls.create ≠ 0 ∧
      ∃ number, chooseNumber settings wNum workers = some number ∧ 0 ≤ number := by
  simp only [startLocked, Option.bind_eq_bind, Option.bind_eq_some_iff] at ran
  obtain ⟨number, chosen, remaining⟩ := ran
  by_cases found : 0 ≤ number
  · rw [if_pos found, Option.bind_eq_some_iff] at remaining
    obtain ⟨middle, assigned, remaining⟩ := remaining
    by_cases fails : calls.create ≠ 0
    · rw [if_pos fails, Option.bind_eq_some_iff] at remaining
      obtain ⟨cleared, reset, same⟩ := remaining
      obtain ⟨-, rfl⟩ := Prod.mk.inj (Option.some.inj same)
      have kept : cleared.wktilock = true := by
        rw [setThreadNum_wktilock reset, setThreadNum_wktilock assigned]
        exact held
      exact iff_of_true kept ⟨fails, number, chosen, found⟩
    · rw [if_neg fails] at remaining
      obtain ⟨-, rfl⟩ := Prod.mk.inj (Option.some.inj remaining)
      simp [unlockWorkers, unlocks, fails]
  · rw [if_neg found] at remaining
    obtain ⟨-, rfl⟩ := Prod.mk.inj (Option.some.inj remaining)
    have none : ¬ ∃ other, chooseNumber settings wNum workers = some other ∧ 0 ≤ other := by
      rintro ⟨other, same, nonnegative⟩
      exact found (Option.some.inj (chosen.symm.trans same) ▸ nonnegative)
    simp [unlockWorkers, unlocks, none]

/-- What the part under the mutex leaves held, when its unlock succeeds. -/
theorem rest_held {settings : Settings} {call : Call} {program after : Program}
    (ran : call.rest settings program = some after) (unlocks : call.unlocks = true)
    (held : program.held call.target = true) :
    (after.held call.target = true ↔ call.CreateFails settings program) ∧
      ∀ other, other ≠ call.target → after.held other = program.held other := by
  cases call with
  | startOneWorkerThread calls wNum =>
    obtain ⟨⟨result, workers⟩, started, rfl⟩ := Option.map_eq_some_iff.mp ran
    refine ⟨startLocked_wktilock started unlocks held, fun other differs => ?_⟩
    cases other with
    | wktilock => exact absurd rfl differs
    | queue id => rfl
  | queue call =>
    obtain ⟨shared, executed, rfl⟩ := Option.map_eq_some_iff.mp ran
    constructor
    · simp [Program.held, Call.target, leaving_locked unlocks, Call.CreateFails]
    · intro other differs
      cases other with
      | wktilock => rfl
      | queue id =>
        have apart : id ≠ call.id := fun same => differs (same ▸ rfl)
        simp only [Program.held, leaving_locked unlocks, apart, ↓reduceIte]
        exact body_locked executed id

/-- Taking a mutex holds it and no other. -/
theorem lock_held (program : Program) (mutex other : Mutex) :
    (program.lock mutex).held other = if other = mutex then true else program.held other := by
  cases mutex with
  | wktilock => cases other <;> simp [Program.lock, Program.held]
  | queue id =>
    cases other with
    | wktilock => simp [Program.lock, Program.held]
    | queue here =>
      by_cases same : here = id
      · subst same
        simp [Program.lock, Program.held, holding, setQueue]
      · simp [Program.lock, Program.held, holding, setQueue, same]

/-- The number is chosen by data that the lock call does not change. -/
theorem createFails_lock (settings : Settings) (call : Call) (program : Program) :
    call.CreateFails settings (program.lock call.target) ↔ call.CreateFails settings program := by
  cases call <;> rfl

/-- A function that returned, with a successful unlock, holds no further mutex unless it took
its own and the creation failed. -/
theorem run_released_iff (settings : Settings) {call : Call} {before after : Program}
    (ran : call.run settings before = some after) (unlocks : call.unlocks = true) :
    Released before after ↔ ¬ (call.locks = true ∧ call.CreateFails settings before) := by
  rw [run_eq] at ran
  by_cases takes : call.admitted before = true ∧ call.locks = true
  · rw [if_pos takes] at ran
    cases held : before.held call.target with
    | true => simp [held] at ran
    | false =>
      simp only [held, Bool.false_eq_true, ↓reduceIte] at ran
      have own : (before.lock call.target).held call.target = true := by simp [lock_held]
      obtain ⟨leaks, others⟩ := rest_held ran unlocks own
      rw [createFails_lock] at leaks
      constructor
      · rintro released ⟨-, fails⟩
        exact absurd (released _ (leaks.mpr fails)) (by simp [held])
      · intro fine mutex kept
        by_cases same : mutex = call.target
        · rw [same] at kept
          exact absurd ⟨takes.2, leaks.mp kept⟩ fine
        · rwa [others mutex same, lock_held, if_neg same] at kept
  · rw [if_neg takes] at ran
    obtain rfl := Option.some.inj ran
    refine iff_of_true (fun _ held => held) ?_
    rintro ⟨locks, fails⟩
    cases call with
    | startOneWorkerThread calls wNum => exact takes ⟨rfl, locks⟩
    | queue call => exact fails

end Rest

/-! ### Threads -/

/-- The program with the call of each thread that holds its mutex and has not returned. -/
structure System (T : Type) where
  program : Program
  inside : T → Option Call

/-- What happens: a thread calls a function and comes to its lock, the function of a thread
goes on from there and returns, or some code outside the functions runs. -/
inductive Label (T : Type) where
  | enter (who : T) (call : Call)
  | leave (who : T)
  | outside (program : Program)

section Threads

variable {T : Type}

/-- Unlock calls succeed, and outside the functions no mutex is touched. -/
def Proper (state : System T) : Label T → Prop
  | .enter _ _ => True
  | .leave who => ∀ call, state.inside who = some call → call.unlocks = true
  | .outside program => ∀ mutex, program.held mutex = state.program.held mutex

/-- Every mutex that is held belongs to a function that has not returned. -/
def Clean (state : System T) : Prop :=
  ∀ mutex, state.program.held mutex = true →
    ∃ who call, state.inside who = some call ∧ call.target = mutex

/-- The step ends a `startOneWorkerThread` whose `pthread_create` fails. -/
def CreationFails (settings : Settings) (state : System T) : Label T → Prop
  | .leave who => ∃ call, state.inside who = some call ∧ call.CreateFails settings state.program
  | _ => False

/-- Threads inside a function hold its mutex, each alone, and no other mutex is held. -/
structure Exclusive (state : System T) : Prop where
  holds : ∀ who call, state.inside who = some call → state.program.held call.target = true
  alone : ∀ who call other further, state.inside who = some call →
    state.inside other = some further → call.target = further.target → who = other
  clean : Clean state

/-- No thread is in a function and no mutex is held, as at the start of the program. -/
def Idle (state : System T) : Prop :=
  (∀ who, state.inside who = none) ∧ ∀ mutex, state.program.held mutex = false

/-- There mutual exclusion holds. -/
theorem Idle.exclusive {state : System T} (idle : Idle state) : Exclusive state where
  holds who call inside := by simp [idle.1 who] at inside
  alone who call _ _ inside := by simp [idle.1 who] at inside
  clean mutex held := by simp [idle.2 mutex] at held

variable [DecidableEq T]

/-- One step. A call that does not get its mutex returns at once, and one whose mutex is held
waits. -/
def step (settings : Settings) (state : System T) : Label T → Option (System T)
  | .enter who call =>
    if (state.inside who).isSome then none
    else if call.admitted state.program ∧ call.locks then
      if state.program.held call.target then none
      else some ⟨state.program.lock call.target, Function.update state.inside who (some call)⟩
    else some state
  | .leave who =>
    (state.inside who).bind fun call => (call.rest settings state.program).map fun program =>
      ⟨program, Function.update state.inside who none⟩
  | .outside program => some { state with program := program }

/-- Coming to a lock keeps mutual exclusion: the thread gets the mutex only while nobody is in a
function with that mutex. -/
theorem enter_exclusive {settings : Settings} {state after : System T} {who : T} {call : Call}
    (exclusive : Exclusive state) (taken : step settings state (.enter who call) = some after) :
    Exclusive after := by
  simp only [step] at taken
  split_ifs at taken with busy takes held
  · have free : state.program.held call.target = false := by simpa using held
    obtain rfl := Option.some.inj taken
    have elsewhere : ∀ other further, Function.update state.inside who (some call) other =
        some further → other = who ∧ further = call ∨
          other ≠ who ∧ state.inside other = some further ∧ further.target ≠ call.target := by
      intro other further inside
      by_cases same : other = who
      · subst same
        rw [Function.update_self] at inside
        exact .inl ⟨rfl, (Option.some.inj inside).symm⟩
      · rw [Function.update_of_ne same] at inside
        refine .inr ⟨same, inside, fun target => ?_⟩
        have locked := exclusive.holds other further inside
        rw [target, free] at locked
        cases locked
    refine ⟨?_, ?_, ?_⟩
    · intro other further inside
      rw [lock_held]
      obtain ⟨-, rfl⟩ | ⟨-, before, apart⟩ := elsewhere other further inside
      · simp
      · rw [if_neg apart]
        exact exclusive.holds other further before
    · intro first call₁ second call₂ inside₁ inside₂ target
      obtain ⟨rfl, rfl⟩ | ⟨-, before₁, apart₁⟩ := elsewhere first call₁ inside₁
      · obtain ⟨rfl, -⟩ | ⟨-, -, apart₂⟩ := elsewhere second call₂ inside₂
        · rfl
        · exact absurd target.symm apart₂
      · obtain ⟨rfl, rfl⟩ | ⟨-, before₂, -⟩ := elsewhere second call₂ inside₂
        · exact absurd target apart₁
        · exact exclusive.alone first call₁ second call₂ before₁ before₂ target
    · intro mutex locked
      by_cases own : mutex = call.target
      · exact ⟨who, call, Function.update_self .., own.symm⟩
      · rw [lock_held, if_neg own] at locked
        obtain ⟨other, further, inside, target⟩ := exclusive.clean mutex locked
        have differs : other ≠ who := by
          rintro rfl
          simp [inside] at busy
        exact ⟨other, further, (Function.update_of_ne differs _ _).trans inside, target⟩
  · obtain rfl := Option.some.inj taken
    exact exclusive

/-- What returning from a function does to the mutexes. -/
theorem leave_held {settings : Settings} {state after : System T} {who : T}
    (exclusive : Exclusive state) (proper : Proper state (.leave who))
    (taken : step settings state (.leave who) = some after) :
    ∃ call, state.inside who = some call ∧
      after.inside = Function.update state.inside who none ∧
      (after.program.held call.target = true ↔ call.CreateFails settings state.program) ∧
      ∀ other, other ≠ call.target → after.program.held other = state.program.held other := by
  obtain ⟨call, inside, remaining⟩ := Option.bind_eq_some_iff.mp taken
  obtain ⟨program, ran, rfl⟩ := Option.map_eq_some_iff.mp remaining
  exact ⟨call, inside, rfl,
    rest_held ran (proper call inside) (exclusive.holds who call inside)⟩

/-- Without a failed creation, returning keeps mutual exclusion: the mutex of the call is free
behind it, and the others are as they were. -/
theorem leave_exclusive {settings : Settings} {state after : System T} {who : T}
    (exclusive : Exclusive state) (proper : Proper state (.leave who))
    (taken : step settings state (.leave who) = some after)
    (fine : ¬ CreationFails settings state (.leave who)) : Exclusive after := by
  obtain ⟨call, inside, emptied, leaks, others⟩ := leave_held exclusive proper taken
  have freed : ¬ after.program.held call.target = true := fun held =>
    fine ⟨call, inside, leaks.mp held⟩
  have remains : ∀ other further, after.inside other = some further →
      other ≠ who ∧ state.inside other = some further := by
    intro other further still
    rw [emptied] at still
    by_cases same : other = who
    · subst same
      simp at still
    · rw [Function.update_of_ne same] at still
      exact ⟨same, still⟩
  refine ⟨?_, ?_, ?_⟩
  · intro other further still
    obtain ⟨differs, before⟩ := remains other further still
    have apart : further.target ≠ call.target := fun same =>
      differs (exclusive.alone other further who call before inside same)
    rw [others _ apart]
    exact exclusive.holds other further before
  · intro first call₁ second call₂ still₁ still₂ target
    exact exclusive.alone first call₁ second call₂ (remains first call₁ still₁).2
      (remains second call₂ still₂).2 target
  · intro mutex locked
    have apart : mutex ≠ call.target := fun same => freed (same ▸ locked)
    rw [others mutex apart] at locked
    obtain ⟨other, further, before, target⟩ := exclusive.clean mutex locked
    have differs : other ≠ who := by
      rintro rfl
      rw [before] at inside
      exact apart (target.symm.trans (congrArg Call.target (Option.some.inj inside)))
    exact ⟨other, further, by rw [emptied, Function.update_of_ne differs]; exact before, target⟩

/-- After a failed creation `wktilock` is held and no thread is in a function that would
release it. -/
theorem creationFails_not_clean {settings : Settings} {state after : System T} {label : Label T}
    (exclusive : Exclusive state) (proper : Proper state label)
    (taken : step settings state label = some after)
    (fails : CreationFails settings state label) : ¬ Clean after := by
  cases label with
  | enter who call => exact fails.elim
  | outside program => exact fails.elim
  | leave who =>
    obtain ⟨call, inside, emptied, leaks, -⟩ := leave_held exclusive proper taken
    obtain ⟨same, known, failed⟩ := fails
    obtain rfl := Option.some.inj (known.symm.trans inside)
    intro clean
    obtain ⟨other, further, still, target⟩ := clean same.target (leaks.mpr failed)
    rw [emptied] at still
    by_cases here : other = who
    · subst here
      simp at still
    · rw [Function.update_of_ne here] at still
      exact here (exclusive.alone other further who same still inside target)

/-- Every step without a failed creation keeps mutual exclusion. -/
theorem step_exclusive {settings : Settings} {state after : System T} {label : Label T}
    (exclusive : Exclusive state) (proper : Proper state label)
    (taken : step settings state label = some after)
    (fine : ¬ CreationFails settings state label) : Exclusive after := by
  cases label with
  | enter who call => exact enter_exclusive exclusive taken
  | leave who => exact leave_exclusive exclusive proper taken fine
  | outside program =>
    obtain rfl := Option.some.inj taken
    refine ⟨fun who call inside => ?_, exclusive.alone, fun mutex held => ?_⟩
    · exact (proper call.target).trans (exclusive.holds who call inside)
    · exact exclusive.clean mutex ((proper mutex).symm.trans held)

/-- A function that returned has released its mutex, and throughout a run every mutex that is
held belongs to a function that has not returned: both exactly when no `pthread_create` fails
for a worker that has a number. -/
theorem lock_balance_iff (settings : Settings) (state : System T) (idle : Idle state) :
    (∀ (call : Call) (before after : Program), call.run settings before = some after →
      call.unlocks = true →
        (Released before after ↔ ¬ (call.locks = true ∧ call.CreateFails settings before))) ∧
    ∀ events, Trace (step settings) Proper state events →
      ((∀ event ∈ events, Clean event.after) ↔
        ∀ event ∈ events, ¬ CreationFails settings event.before event.label) := by
  refine ⟨fun call before after ran unlocks => run_released_iff settings ran unlocks, ?_⟩
  intro events trace
  exact trace.holds_iff (fun _ exclusive => exclusive.clean)
    (fun _ _ _ exclusive proper taken fine => step_exclusive exclusive proper taken fine)
    (fun _ _ _ exclusive proper taken fails =>
      creationFails_not_clean exclusive proper taken fails) idle.exclusive

end Threads

/-- A program with one free entry of `wktinfo`, before any thread runs. -/
def oneEntry : Program := ⟨initialShared, ⟨false, 1, some fun _ => 0, 0, 0⟩⟩

/-- Two threads, in no function. -/
def twoThreads : System Bool := ⟨oneEntry, fun _ => none⟩

/-- The creation of a worker that the system refuses. -/
def refusedCreation : Call := .startOneWorkerThread ⟨true, 11, true⟩ 0

/-- No thread is in a function at first. -/
theorem twoThreads_idle : Idle twoThreads :=
  ⟨fun _ => rfl, fun mutex => by cases mutex <;> rfl⟩

/-- The balance of two threads that start like that. -/
theorem lock_balance_two_threads :
    Idle twoThreads ∧ ∀ events,
      Trace (step (Sizing.manyWorkers 1048576)) Proper twoThreads events →
        ((∀ event ∈ events, Clean event.after) ↔ ∀ event ∈ events,
          ¬ CreationFails (Sizing.manyWorkers 1048576) event.before event.label) :=
  ⟨twoThreads_idle, (lock_balance_iff (Sizing.manyWorkers 1048576) _ twoThreads_idle).2⟩

/-- When `pthread_create` answers `EAGAIN`, the mutex stays held. -/
theorem lock_balance_fails :
    ¬ ∀ (settings : Settings) (call : Call) (before after : Program),
      call.run settings before = some after → call.unlocks = true → Released before after := by
  intro always
  have ran : refusedCreation.run (Sizing.manyWorkers 1048576) oneEntry =
      some ⟨initialShared, ⟨true, 2, some (Function.update (Function.update (fun _ => 0) 0 1) 0 0),
        0, 0⟩⟩ := rfl
  have released := always _ _ _ _ ran rfl .wktilock rfl
  exact absurd released (by decide)

end AvocadoMisc.Dwh.LockBalance
