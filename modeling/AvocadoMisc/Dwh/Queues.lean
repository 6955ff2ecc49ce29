import Mathlib.Logic.Function.Basic
import AvocadoMisc.Library.DoublyLinked

/-!
# The three I/O queues of dwh

The read queue, the write queue and the done queue are doubly linked lists of
`io_queue_node`s. Each has a head and a tail variable, a pending counter and a
mutex. The node heap is kept by field: one map from addresses for each member of
`struct io_queue_node`, and both link members in `Links`. A null pointer is
`none`. An address is one of the 2^64 - 1 others.

What the pthread calls of a function return is an argument. A blocked lock, a
write through a null pointer and a loop that does not end have no result. The
functions that the source repeats per queue are one definition applied to the
queue; the two that take a head differ in what they do to the tail and keep
their own bodies. Diagnostic output is left out.
-/

namespace AvocadoMisc.Dwh.Queues

open Library.DoublyLinked

/-- A node address other than null. -/
abbrev Addr := Fin 18446744073709551615

/-- A worker's `thread_info`, by its index in `wktinfo`. It holds the semaphore. -/
abbrev Slot := Nat

/-- The address of a worker's buffer. -/
abbrev Buf := Nat

/-- Which of the three queues. -/
inductive QueueId where
  | read
  | write
  | done
  deriving DecidableEq, Repr

/-- The two kinds of request. -/
inductive Direction where
  | read
  | write
  deriving DecidableEq, Repr

/-- The queue on which a request waits. -/
def Direction.queue : Direction → QueueId
  | .read => .read
  | .write => .write

/-- The global variables of one queue: head, tail, pending counter and whether
its mutex is held. -/
structure IoQueue where
  head : Option Addr
  tail : Option Addr
  pending : BitVec 64
  locked : Bool
  deriving DecidableEq

/-- A semaphore between `sem_init` and `sem_destroy`, with its value. -/
structure Sem where
  initialised : Bool
  value : Nat
  deriving DecidableEq

/-- The members of every `io_queue_node`. -/
structure Heap where
  links : Links Addr
  mySem : Addr → Option Slot
  myFd : Addr → Int
  ioBuffer : Addr → Option Buf
  ioLen : Addr → BitVec 64
  ioDone : Addr → BitVec 64

/-- The globals that the queue functions read and write. -/
structure Shared where
  heap : Heap
  queues : QueueId → IoQueue
  sems : Slot → Sem
  endAllIo : Bool
  endAllThreads : Bool

/-- The state before the threads start: empty queues, free mutexes, zero members. -/
def initialShared : Shared where
  heap :=
    { links := ⟨fun _ => none, fun _ => none⟩
      mySem := fun _ => none
      myFd := fun _ => 0
      ioBuffer := fun _ => none
      ioLen := fun _ => 0
      ioDone := fun _ => 0 }
  queues := fun _ => ⟨none, none, 0, false⟩
  sems := fun _ => ⟨false, 0⟩
  endAllIo := false
  endAllThreads := false

/-- Assign a node's `next` member. -/
def setNext (node : Addr) (value : Option Addr) (g : Shared) : Shared :=
  { g with heap.links.next := Function.update g.heap.links.next node value }

/-- Assign a node's `prev` member. -/
def setPrev (node : Addr) (value : Option Addr) (g : Shared) : Shared :=
  { g with heap.links.prev := Function.update g.heap.links.prev node value }

/-- Assign the global variables of one queue. -/
def setQueue (id : QueueId) (queue : IoQueue) (g : Shared) : Shared :=
  { g with queues := Function.update g.queues id queue }

/-- What `pthread_mutex_lock` and `pthread_mutex_unlock` answer in one critical
section: true for zero. -/
structure LockCalls where
  lock : Bool
  unlock : Bool
  deriving DecidableEq

/-- Both calls succeed. -/
def LockCalls.succeed : LockCalls := ⟨true, true⟩

/-- Lock a queue. A successful call on a held mutex blocks. -/
def lockQ (id : QueueId) (calls : LockCalls) (g : Shared) : Option (Bool × Shared) :=
  if calls.lock then
    if (g.queues id).locked then none
    else some (true, setQueue id { g.queues id with locked := true } g)
  else some (false, g)

/-- Unlock a queue. A failed call leaves the mutex held. -/
def unlockQ (id : QueueId) (calls : LockCalls) (g : Shared) : Bool × Shared :=
  if calls.unlock then (true, setQueue id { g.queues id with locked := false } g)
  else (false, g)

/-- `readQLock`, `writeQLock` and `doneQLock`. -/
def readQLock := lockQ .read
def writeQLock := lockQ .write
def doneQLock := lockQ .done

/-- `readQUnlock`, `writeQUnlock` and `doneQUnlock`. -/
def readQUnlock := unlockQ .read
def writeQUnlock := unlockQ .write
def doneQUnlock := unlockQ .done

/-- The common frame of the queue functions: lock, run the body, unlock, and end
all threads when the unlock fails. The answer is absent when the lock was not
obtained, and otherwise pairs the body's with whether the unlock succeeded. -/
def critical {β : Type} (id : QueueId) (calls : LockCalls)
    (body : Shared → Option (β × Shared)) (g : Shared) : Option (Option (β × Bool) × Shared) := do
  let (acquired, g) ← lockQ id calls g
  if acquired then
    let (answer, g) ← body g
    let (released, g) := unlockQ id calls g
    if released then some (some (answer, true), g)
    else some (some (answer, false), { g with endAllThreads := true })
  else some (none, g)

/-- `isReadQEmpty` and its copies. Without the lock the pending counter decides. -/
def isQEmpty (id : QueueId) (calls : LockCalls) (g : Shared) : Option (Bool × Shared) := do
  let (answer, g) ← critical id calls (fun g => some ((g.queues id).head.isNone, g)) g
  match answer with
  | some (result, _) => some (result, g)
  | none => some ((g.queues id).pending == 0, g)

def isReadQEmpty := isQEmpty .read
def isWriteQEmpty := isQEmpty .write
def isDoneQEmpty := isQEmpty .done

/-- The body of `getIOReadNode`: take the head off and clear the tail when the
queue is left empty. -/
def takeReadHead (g : Shared) : Option Addr × Shared :=
  match (g.queues .read).head with
  | none => (none, g)
  | some result =>
    let queue := g.queues .read
    let head := g.heap.links.next result
    let g := match head with
      | some first => setPrev first none (setQueue .read { queue with head := head } g)
      | none => setQueue .read { queue with head := head, tail := none } g
    let g := setNext result none (setPrev result none g)
    let queue := g.queues .read
    (some result, setQueue .read { queue with pending := queue.pending - 1 } g)

/-- Take the head node off the read queue. -/
def getIOReadNode (calls : LockCalls) (g : Shared) : Option (Option Addr × Shared) := do
  let (answer, g) ← critical .read calls (fun g => some (takeReadHead g)) g
  some (answer.bind (fun result => result.1), g)

/-- The body of `getIOWriteNode`: as for the read queue, but the tail is not
assigned when the queue is left empty. -/
def takeWriteHead (g : Shared) : Option Addr × Shared :=
  match (g.queues .write).head with
  | none => (none, g)
  | some result =>
    let queue := g.queues .write
    let head := g.heap.links.next result
    let g := match head with
      | some first => setPrev first none (setQueue .write { queue with head := head } g)
      | none => setQueue .write { queue with head := head } g
    let g := setNext result none (setPrev result none g)
    let queue := g.queues .write
    (some result, setQueue .write { queue with pending := queue.pending - 1 } g)

/-- Take the head node off the write queue. -/
def getIOWriteNode (calls : LockCalls) (g : Shared) : Option (Option Addr × Shared) := do
  let (answer, g) ← critical .write calls (fun g => some (takeWriteHead g)) g
  some (answer.bind (fun result => result.1), g)

/-- The body of `queueIORead` and `queueIOWrite`: add a node at the tail. With a
populated queue the new node's predecessor is written through unchecked. -/
def linkTail (id : QueueId) (node : Addr) (g : Shared) : Option Shared := do
  let queue := g.queues id
  let g ← match queue.head with
    | some _ =>
      let g := setNext node none (setPrev node queue.tail g)
      let g := setQueue id { queue with tail := some node } g
      match g.heap.links.prev node with
      | some before => some (setNext before (some node) g)
      | none => none
    | none =>
      let g := setNext node none (setPrev node none g)
      some (setQueue id { queue with head := some node, tail := some node } g)
  let queue := g.queues id
  some (setQueue id { queue with pending := queue.pending + 1 } g)

/-- `queueIORead` and `queueIOWrite` behind their test of `EndAllIO`. -/
def queueIOAdmitted (id : QueueId) (calls : LockCalls) (node : Option Addr) (g : Shared) :
    Option (Bool × Shared) :=
  match node with
  | none => some (false, g)
  | some node => do
    let (answer, g) ← critical id calls (fun g => (linkTail id node g).map (fun g => ((), g))) g
    match answer with
    | some (_, released) => some (released, g)
    | none => some (false, g)

/-- Add a node to a request queue unless I/O is being ended. -/
def queueIo (id : QueueId) (calls : LockCalls) (node : Option Addr) (g : Shared) :
    Option (Bool × Shared) :=
  if g.endAllIo then some (false, g) else queueIOAdmitted id calls node g

def queueIORead := queueIo .read
def queueIOWrite := queueIo .write

/-- The function that takes a request of the given kind. -/
def getIONode : Direction → LockCalls → Shared → Option (Option Addr × Shared)
  | .read => getIOReadNode
  | .write => getIOWriteNode

/-- The function that queues a request of the given kind. -/
def queueIORequest : Direction → LockCalls → Option Addr → Shared → Option (Bool × Shared)
  | .read => queueIORead
  | .write => queueIOWrite

/-- Add one to a semaphore. Failure ends all threads. -/
def semPost (succeeds : Bool) (slot : Slot) (g : Shared) : Shared :=
  if succeeds then
    let sem := g.sems slot
    { g with sems := Function.update g.sems slot { sem with value := sem.value + 1 } }
  else { g with endAllThreads := true }

/-- The first half of `queueIODone`'s body: add a node at the tail. Here the
predecessor is checked before it is written through. -/
def linkDone (node : Addr) (g : Shared) : Shared :=
  let queue := g.queues .done
  let g := match queue.head with
    | some _ =>
      let g := setNext node none (setPrev node queue.tail g)
      let g := setQueue .done { queue with tail := some node } g
      match g.heap.links.prev node with
      | some before => setNext before (some node) g
      | none => g
    | none =>
      let g := setNext node none (setPrev node none g)
      setQueue .done { queue with head := some node, tail := some node } g
  let queue := g.queues .done
  setQueue .done { queue with pending := queue.pending + 1 } g

/-- The second half, still under the lock: wake the node's owner. -/
def wakeOwner (post : Bool) (node : Addr) (g : Shared) : Shared :=
  match g.heap.mySem node with
  | some slot => semPost post slot g
  | none => g

/-- Add a node to the done queue and post its semaphore. -/
def queueIODone (calls : LockCalls) (post : Bool) (node : Option Addr) (g : Shared) :
    Option (Bool × Shared) :=
  match node with
  | none => some (false, g)
  | some node => do
    let (answer, g) ← critical .done calls (fun g =>
      some ((), wakeOwner post node (linkDone node g))) g
    match answer with
    | some (_, released) => some (released, g)
    | none => some (false, g)

/-- The body of `getIODoneNode`: a node with a neighbour, or the only node of the
done queue, is cut out. Which list the neighbours are on is not checked. -/
def unlinkDone (node : Option Addr) (g : Shared) : Bool × Shared :=
  match node, (g.queues .done).head with
  | some node, some head =>
    if g.heap.links.next node ≠ none ∨ g.heap.links.prev node ≠ none ∨
        (head = node ∧ (g.queues .done).tail = some node) then
      let g := match g.heap.links.prev node with
        | some before => setNext before (g.heap.links.next node) g
        | none => setQueue .done { g.queues .done with head := g.heap.links.next node } g
      let g := match g.heap.links.next node with
        | some after => setPrev after (g.heap.links.prev node) g
        | none => setQueue .done { g.queues .done with tail := g.heap.links.prev node } g
      let g := setNext node none (setPrev node none g)
      let queue := g.queues .done
      (true, setQueue .done { queue with pending := queue.pending - 1 } g)
    else (false, g)
  | _, _ => (false, g)

/-- Remove one node from the done queue, wherever it stands in it. -/
def getIODoneNode (calls : LockCalls) (node : Option Addr) (g : Shared) :
    Option (Bool × Shared) := do
  let (answer, g) ← critical .done calls (fun g => some (unlinkDone node g)) g
  match answer with
  | some (result, _) => some (result, g)
  | none => some (false, g)

/-- `clearAnIOQueue`: free the nodes from the head on and count them. The loop
runs once for each node; the freed nodes are not read again. The result pairs
the count with the links and the final head and tail. -/
def clearAnIOQueue : Nat → Links Addr → Option Addr → Option Addr → BitVec 64 →
    Option (BitVec 64 × Links Addr × Option Addr × Option Addr)
  | _, links, none, _, nodesFreed => some (nodesFreed, links, none, none)
  | 0, _, some _, _, _ => none
  | fuel + 1, links, some node, tail, nodesFreed =>
    match links.next node with
    | some first => clearAnIOQueue fuel { links with prev := Function.update links.prev first none }
        (some first) tail (nodesFreed + 1)
    | none => clearAnIOQueue fuel links none none (nodesFreed + 1)

/-- More iterations than there are addresses revisit a node. -/
def addressCount : Nat := 18446744073709551615

/-- The body of the three clear functions, with the number of nodes freed. -/
def clearBody (id : QueueId) (g : Shared) : Option (BitVec 64 × Shared) := do
  let queue := g.queues id
  let (nodesFreed, links, head, tail) ←
    clearAnIOQueue addressCount g.heap.links queue.head queue.tail 0
  some (nodesFreed, setQueue id
    { queue with head := head, tail := tail, pending := queue.pending - nodesFreed }
    { g with heap.links := links })

/-- Remove and free all nodes of a queue. -/
def clearQ (id : QueueId) (calls : LockCalls) (g : Shared) : Option Shared := do
  let (_, g) ← critical id calls (clearBody id) g
  some g

def clearIOReadQ := clearQ .read
def clearIOWriteQ := clearQ .write
def clearIODoneQ := clearQ .done

/-- The nodes of a queue, found by following `next` from its head. -/
def nodesOf (id : QueueId) (g : Shared) : List Addr :=
  walk g.heap.links.next addressCount (g.queues id).head

end AvocadoMisc.Dwh.Queues
