import AvocadoMisc.Library.Refinement
import AvocadoMisc.Dwh.QueueLaws

/-!
# The request queues are FIFO lists

Queueing, taking and clearing on the read queue, and separately on the write
queue, are compared with a list of nodes. After each operation the emptiness test
and the pending counter are observed as well. The write queue keeps a stale tail
when its last node is taken, so what relates heap and list leaves the tail of an
empty write queue open; every later assignment to it comes before it is read.

The other two queues may hold any well-formed lists. A queued node must be on
none of the three.
-/

namespace AvocadoMisc.Dwh.QueueRefinement

open Library.Refinement Queues QueueContents QueueLaws

/-- The operations on one request queue: a worker queues a node, an I/O thread takes one, and the
shutdown clears the queue. -/
inductive FifoOp where
  | queue (node : Addr)
  | get
  | clear
  deriving DecidableEq

/-- What an operation answers. Clearing answers with the number of freed nodes. -/
inductive FifoResult where
  | queued (accepted : Bool)
  | got (node : Option Addr)
  | cleared (nodesFreed : Nat)
  deriving DecidableEq

/-- An operation's answer, then the emptiness test and the pending counter. -/
structure Observation where
  result : FifoResult
  empty : Bool
  pending : Nat
  deriving DecidableEq

/-- Run one operation of the source, with every lock call succeeding. -/
def perform (direction : Direction) (g : Shared) : FifoOp → Option (FifoResult × Shared)
  | .queue node => do
    let (accepted, g) ← queueIORequest direction .succeed (some node) g
    some (.queued accepted, g)
  | .get => do
    let (node, g) ← getIONode direction .succeed g
    some (.got node, g)
  | .clear => do
    let (answer, g) ← critical direction.queue .succeed (clearBody direction.queue) g
    let (nodesFreed, _) ← answer
    some (.cleared nodesFreed.toNat, g)

/-- Run one operation and observe the queue. -/
def queueStep (direction : Direction) (g : Shared) (operation : FifoOp) :
    Option (Observation × Shared) := do
  let (result, g) ← perform direction g operation
  let (empty, g) ← isQEmpty direction.queue .succeed g
  some (⟨result, empty, (g.queues direction.queue).pending.toNat⟩, g)

/-- The list that an operation leaves, and its answer. -/
def fifoAnswer (fifo : List Addr) : FifoOp → FifoResult × List Addr
  | .queue node => (.queued true, fifo ++ [node])
  | .get => (.got fifo.head?, fifo.tail)
  | .clear => (.cleared fifo.length, [])

/-- The FIFO list as a model of the queue. -/
def fifoStep (fifo : List Addr) (operation : FifoOp) : Observation × List Addr :=
  let (result, rest) := fifoAnswer fifo operation
  (⟨result, rest.isEmpty, rest.length⟩, rest)

/-- A queued node is on none of the three queues. The other operations are free. -/
def Unlinked (direction : Direction) (elsewhere : QueueId → List Addr) (fifo : List Addr) :
    FifoOp → Prop
  | .queue node => node ∉ fifo ∧ ∀ other, other ≠ direction.queue → node ∉ elsewhere other
  | _ => True

/-- The queue holds this list and can be used: no shutdown, and its mutex free. -/
structure Holds (direction : Direction) (elsewhere : QueueId → List Addr) (g : Shared)
    (fifo : List Addr) : Prop where
  represented : Represents g (Function.update elsewhere direction.queue fifo)
  running : g.endAllIo = false
  free : (g.queues direction.queue).locked = false

/-- A critical section whose calls succeed keeps the queue usable. -/
theorem Holds.passed {direction : Direction} {elsewhere : QueueId → List Addr} {g after : Shared}
    {fifo rest : List Addr} (holds : Holds direction elsewhere g fifo)
    (represented : Represents after (Function.update elsewhere direction.queue rest))
    (passed : Passed direction.queue .succeed g after) : Holds direction elsewhere after rest :=
  ⟨represented, passed.endAllIo.trans holds.running, (passed.settled rfl).2.trans holds.free⟩

/-- Queueing a node that is on no queue accepts and appends it. -/
theorem queue_performs {direction : Direction} {elsewhere : QueueId → List Addr} {g : Shared}
    {fifo : List Addr} (holds : Holds direction elsewhere g fifo) (node : Addr)
    (unlinked : Unlinked direction elsewhere fifo (.queue node)) :
    ∃ after, perform direction g (.queue node) = some (.queued true, after) ∧
      Holds direction elsewhere after (fifo ++ [node]) := by
  have fresh : ∀ other, node ∉ Function.update elsewhere direction.queue fifo other := by
    intro other
    by_cases same : other = direction.queue
    · subst other; simpa using unlinked.1
    · simpa [same] using unlinked.2 other same
  obtain ⟨result, after, completed⟩ :=
    queueIOAdmitted_completes .succeed holds.represented fresh holds.free
  rcases queueIOAdmitted_law holds.represented fresh completed with
    ⟨impossible, _⟩ | ⟨_, rfl, appended, passed⟩
  · simp [LockCalls.succeed] at impossible
  · refine ⟨after, ?_, holds.passed (by simpa using appended) passed⟩
    simp only [perform, queueIORequest_eq, holds.running, Bool.false_eq_true, ↓reduceIte,
      completed]
    rfl

/-- Taking answers with the first node, or null when the list is empty. -/
theorem get_performs {direction : Direction} {elsewhere : QueueId → List Addr} {g : Shared}
    {fifo : List Addr} (holds : Holds direction elsewhere g fifo) :
    ∃ after, perform direction g .get = some (.got fifo.head?, after) ∧
      Holds direction elsewhere after fifo.tail := by
  obtain ⟨result, after, completed⟩ := getIONode_completes direction .succeed holds.free
  rcases getIONode_law holds.represented completed with ⟨impossible, _⟩ | ⟨_, rfl, rest, passed⟩
  · simp [LockCalls.succeed] at impossible
  · refine ⟨after, ?_, holds.passed (by simpa using rest) passed⟩
    simp only [perform, completed, Function.update_self]
    rfl

/-- Clearing frees and counts every node. -/
theorem clear_performs {direction : Direction} {elsewhere : QueueId → List Addr} {g : Shared}
    {fifo : List Addr} (holds : Holds direction elsewhere g fifo) :
    ∃ after, perform direction g .clear = some (.cleared fifo.length, after) ∧
      Holds direction elsewhere after [] := by
  have inside := represents_holding holds.represented direction.queue
  obtain ⟨middle, cleared, rest, _, kept⟩ := clearBody_spec inside direction.queue
  obtain ⟨answer, after, completed⟩ := critical_completes .succeed holds.free cleared
  rcases critical_cases completed with ⟨impossible, _⟩ | ⟨_, _, freed, state, body, rfl, rfl⟩
  · simp [LockCalls.succeed] at impossible
  · obtain ⟨rfl, rfl⟩ := Prod.mk.inj (Option.some.inj (cleared.symm.trans body))
    have count : (BitVec.ofNat 64 fifo.length).toNat = fifo.length := by
      have exact := holds.represented.pending_eq direction.queue
      rw [holds.represented.pending direction.queue] at exact
      simpa using exact
    refine ⟨_, ?_, holds.passed (by simpa using represents_leaving rest direction.queue .succeed)
      (undisturbed_passed .succeed holds.free kept)⟩
    simp only [perform, completed, Function.update_self, Option.bind_eq_bind, Option.bind_some,
      count]

/-- The emptiness test and the counter agree with the list. -/
theorem observation_agrees {direction : Direction} {elsewhere : QueueId → List Addr} {g : Shared}
    {fifo : List Addr} (holds : Holds direction elsewhere g fifo) :
    ∃ after, isQEmpty direction.queue .succeed g = some (fifo.isEmpty, after) ∧
      (after.queues direction.queue).pending.toNat = fifo.length ∧
      Holds direction elsewhere after fifo := by
  obtain ⟨result, after, completed⟩ := isQEmpty_completes direction.queue .succeed holds.free
  obtain ⟨exact, represented, passed⟩ := isQEmpty_law holds.represented completed
  have agrees : result = fifo.isEmpty := by
    rw [Bool.eq_iff_iff, exact, List.isEmpty_iff, Function.update_self]
  have counted := represented.pending_eq direction.queue
  rw [Function.update_self] at counted
  exact ⟨after, agrees ▸ completed, counted, holds.passed represented passed⟩

/-- One operation of either request queue refines one step of the FIFO list. -/
theorem queue_refines (direction : Direction) (elsewhere : QueueId → List Addr) :
    Refines (queueStep direction) fifoStep (Unlinked direction elsewhere)
      (Holds direction elsewhere) := by
  intro g fifo operation holds unlinked
  have performed : ∃ after, perform direction g operation =
      some ((fifoAnswer fifo operation).1, after) ∧
      Holds direction elsewhere after (fifoAnswer fifo operation).2 := by
    cases operation with
    | queue node => exact queue_performs holds node unlinked
    | get => exact get_performs holds
    | clear => exact clear_performs holds
  obtain ⟨middle, completed, kept⟩ := performed
  obtain ⟨after, tested, counted, observed⟩ := observation_agrees kept
  refine ⟨after, ?_, observed⟩
  simp only [queueStep, completed, tested, counted, Option.bind_eq_bind, Option.bind_some]
  rfl

/-- From an empty queue, every sequence of operations on unlinked nodes completes
with the answers of a FIFO list: the same nodes in the same order, null exactly
on the empty list, its length when cleared, and after every operation the
emptiness test and the pending counter of the list.

The mutex is free before each operation and no shutdown is under way, so that no operation is
refused. The other two queues may hold any lists. -/
theorem request_queue_refines_fifo (direction : Direction) (elsewhere : QueueId → List Addr)
    (g : Shared) (empty : Holds direction elsewhere g []) (operations : List FifoOp)
    (unlinked : LegalRun fifoStep (Unlinked direction elsewhere) operations []) :
    ∃ after, outputs (queueStep direction) operations g =
      some (modelOutputs fifoStep operations [], after) :=
  (queue_refines direction elsewhere).outputs_eq operations g [] empty unlinked

/-- The write queue of the initial state, taken until empty, refilled and cleared. -/
theorem request_queue_refines_fifo_refilled :
    LegalRun fifoStep (Unlinked .write fun _ => [])
        [.queue 3, .get, .get, .queue 4, .queue 3, .clear] [] ∧
      ∃ after, outputs (queueStep .write)
        [.queue 3, .get, .get, .queue 4, .queue 3, .clear] initialShared =
        some (modelOutputs fifoStep [.queue 3, .get, .get, .queue 4, .queue 3, .clear] [],
          after) := by
  have unlinked : LegalRun fifoStep (Unlinked .write fun _ => [])
      [.queue 3, .get, .get, .queue 4, .queue 3, .clear] [] := by
    simp [LegalRun, Unlinked, fifoStep, fifoAnswer]
  have empty : Holds .write (fun _ => []) initialShared [] :=
    ⟨by simpa [Function.update_eq_self] using initialShared_represents, rfl, rfl⟩
  exact ⟨unlinked, request_queue_refines_fifo .write _ initialShared empty _ unlinked⟩

end AvocadoMisc.Dwh.QueueRefinement
