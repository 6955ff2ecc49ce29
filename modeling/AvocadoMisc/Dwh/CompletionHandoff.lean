import AvocadoMisc.Dwh.HandoffSimulation

/-!
# Completion of I/O requests

While no shutdown is under way and all calls on mutexes and semaphores succeed, every
submitted node is in one place, and a worker whose `sem_trywait` succeeded finds its own
node on the done queue. `getIODoneNode`, which decides membership by the node's own
links, then removes that node and no other.

Both follow from the invariant of the hand-off: a semaphore is posted only by the one
node that its owner waits for.
-/

namespace AvocadoMisc.Dwh.CompletionHandoff

open Library.Transitions Library.Handoff Library.Places
open VerifySettings Queues QueueContents QueueLaws IoSystem HandoffSimulation

variable {W I : Type}

/-- Every call of a step on a mutex or a semaphore succeeds. A `sem_trywait` of a zero
semaphore still finds nothing. -/
def callsSucceed : Label W I → Bool
  | .main (.sample calls) | .main (.breakSample calls) => calls = .succeed
  | .worker _ (.semInit succeeds) | .worker _ (.tryWait succeeds) => succeeds
  | .worker _ (.semDestroy succeeds) => succeeds
  | .worker _ (.enqueue calls) | .worker _ (.getDone calls) => calls = .succeed
  | .io _ (.take _ calls) => calls = .succeed
  | .io _ (.giveBack calls post) => calls = .succeed ∧ post
  | .io _ (.semDestroy succeeds) => succeeds
  | _ => true

/-- The steps of a run without shutdown and failing calls, in which a new worker does not
get the semaphore of a live one. -/
def Orderly (state : System W I) (label : Label W I) : Prop :=
  state.shared.endAllIo = false ∧ state.shared.endAllThreads = false ∧
    callsSucceed label = true ∧ ∀ slot ∈ newSlot label, Unowned state slot

instance [Fintype W] (state : System W I) (label : Label W I) : Decidable (Orderly state label) :=
  inferInstanceAs (Decidable (_ ∧ _ ∧ _ ∧ _))

/-- Such steps are careful. -/
theorem Orderly.careful {state : System W I} {label : Label W I} (orderly : Orderly state label) :
    Careful state label := by
  obtain ⟨running, _, calls, free⟩ := orderly
  refine ⟨free, ?_⟩
  rw [running]
  cases label with
  | main act => rfl
  | worker who act =>
    cases act with
    | enqueue lockCalls =>
      obtain rfl : lockCalls = .succeed := of_decide_eq_true calls
      rfl
    | _ => rfl
  | io who act =>
    cases act with
    | giveBack lockCalls post =>
      obtain ⟨rfl, _⟩ : lockCalls = .succeed ∧ post = true := of_decide_eq_true calls
      rfl
    | _ => rfl

/-- The places of a node. -/
inductive Place (I : Type) where
  | queue (id : QueueId)
  | hand (who : I)

/-- A node is on a queue, or an I/O thread has it. -/
def At (state : System W I) (node : Addr) : Place I → Prop
  | .queue id => node ∈ nodesOf id state.shared
  | .hand who => (state.ioThreads who).pc.hand = some node

/-- A worker has queued the node and not freed it. -/
def Submitted (state : System W I) (node : Addr) : Prop :=
  ∃ who, state.nodeOwner node = some who ∧ ∀ iotype,
    (state.workers who).pc ≠ .submitting node iotype ∧
      (state.workers who).pc ≠ .admitted node iotype

/-- `getIODoneNode` succeeds, removes exactly the node and keeps the order of the rest. -/
def Collects (g : Shared) (node : Addr) : Prop :=
  node ∈ nodesOf .done g ∧ ∃ after, getIODoneNode .succeed (some node) g = some (true, after) ∧
    nodesOf .done after = (nodesOf .done g).erase node ∧
    ∀ id, id ≠ .done → nodesOf id after = nodesOf id g

/-- The contract of the completion hand-off: a node that was submitted is in exactly one place, no
queue has a node twice, and a worker whose `sem_trywait` succeeded collects its own node. -/
structure HandOff (state : System W I) : Prop where
  placed : ∀ node, Submitted state node → ∃! place : Place I, At state node place
  once : ∀ id, (nodesOf id state.shared).Nodup
  collected : ∀ who node iotype, (state.workers who).pc = .collecting node iotype →
    Collects state.shared node

section Proofs

variable {state : System W I} {contents : QueueId → List Addr}

/-- Being somewhere is being inside the ledger. -/
theorem at_of_inside (handed : Handed state contents) {node : Addr}
    (inside : (ledger state contents).Inside node) : ∃ place : Place I, At state node place := by
  rcases inside with ⟨id, listed⟩ | ⟨who, held⟩
  · exact ⟨.queue id, by rw [At, handed.represented.nodes_eq]; exact listed⟩
  · exact ⟨.hand who, held⟩

/-- And no node is in two places. -/
theorem at_unique (handed : Handed state contents) {node : Addr} {left right : Place I}
    (atLeft : At state node left) (atRight : At state node right) : left = right := by
  have placed := handed.sound.placed
  have listed {id : QueueId} (onQueue : At state node (.queue id)) : node ∈ contents id := by
    rwa [At, handed.represented.nodes_eq] at onQueue
  cases left with
  | queue id =>
    cases right with
    | queue other => rw [placed.apart id other node (listed atLeft) (listed atRight)]
    | hand who => exact absurd (listed atLeft) (placed.handApart who id node atRight)
  | hand who =>
    cases right with
    | queue id => exact absurd (listed atRight) (placed.handApart who id node atLeft)
    | hand other => rw [placed.handInj who other node atLeft atRight]

/-- A submitted node is inside. -/
theorem inside_of_submitted (handed : Handed state contents) {node : Addr}
    (submitted : Submitted state node) : (ledger state contents).Inside node := by
  obtain ⟨who, owned, queued⟩ := submitted
  refine (handed.sound.complete node who owned).resolve_left fun filling => ?_
  have place : phase (state.workers who).pc = .filling node := filling
  cases pc : (state.workers who).pc with
  | submitting other iotype =>
    rw [pc] at place
    exact (queued iotype).1 (pc.trans (by rw [Phase.filling.inj place]))
  | admitted other iotype =>
    rw [pc] at place
    exact (queued iotype).2 (pc.trans (by rw [Phase.filling.inj place]))
  | _ => simp [pc, phase] at place

/-- A worker that collects finds its node. -/
theorem collects (handed : Handed state contents) (running : state.shared.endAllThreads = false)
    {who : W} {node : Addr} {iotype : Direction}
    (place : (state.workers who).pc = .collecting node iotype) : Collects state.shared node := by
  have collecting : (ledger state contents).phase who = .collecting node := by
    simp only [ledger, place, phase]
  have stands := handed.sound.stands who
  rw [collecting] at stands
  have listed : node ∈ contents .done := stands.2.2.2
  have free : (state.shared.queues .done).locked = false := by
    by_contra locked
    have stops := handed.held .done (by simpa using locked)
    simp [running] at stops
  obtain ⟨result, after, ran⟩ := getIODoneNode_completes .succeed (some node) free
  rcases getIODoneNode_law handed.represented listed ran with
    ⟨impossible, _⟩ | ⟨_, rfl, rest, _⟩
  · simp [LockCalls.succeed] at impossible
  · refine ⟨by rw [handed.represented.nodes_eq]; exact listed, after, ran, ?_, ?_⟩
    · rw [rest.nodes_eq, handed.represented.nodes_eq, Function.update_self]
    · intro id differs
      rw [rest.nodes_eq, handed.represented.nodes_eq, Function.update_of_ne differs]

end Proofs

/-- The completion hand-off. In every run of any number of threads without shutdown and
failing calls, in which live workers have different semaphores, each submitted node is
in exactly one place, and a worker whose `sem_trywait` succeeded gets its own node back
and nothing else.

Nothing is said once a shutdown has begun, or a call on a mutex or a semaphore has failed. -/
theorem completion_handoff [DecidableEq W] [DecidableEq I] (settings : Settings)
    (state : System W I) (reached : Reachable (step settings) Orderly Initial state)
    (running : state.shared.endAllThreads = false) : HandOff state := by
  obtain ⟨contents, handed⟩ := reachable_handed
    (reached.weaken fun state label orderly => Orderly.careful orderly)
  refine ⟨?_, ?_, ?_⟩
  · intro node submitted
    obtain ⟨place, here⟩ := at_of_inside handed (inside_of_submitted handed submitted)
    exact ⟨place, here, fun other there => at_unique handed there here⟩
  · intro id
    rw [handed.represented.nodes_eq]
    exact handed.sound.placed.nodup id
  · intro who node iotype place
    exact collects handed running place

/-- A worker starts, allocates a buffer and queues a request. -/
def submits (who : Fin 2) (mem : Buf) (node : Addr) (iotype : Direction) :
    List (Label (Fin 2) (Fin 1)) :=
  [.worker who .count, .worker who (.semInit true), .worker who .loopTest,
    .worker who (.allocate 0 2147483647 (some mem)), .worker who .loopTest,
    .worker who (.request (some node) 2147483647 iotype), .worker who .endIOTest,
    .worker who (.enqueue .succeed)]

/-- The settings of the schedules: one I/O thread and up to two workers. -/
def threeThreads : Settings := defaults 2 3 1 "dwh.dat"

/-- The I/O thread has read for the first worker, which noticed it, and holds the node of
the second. -/
theorem completion_handoff_two : ∃ state : System (Fin 2) (Fin 1),
    ((state.workers 0).pc = .collecting 5 .read ∧ (state.workers 1).pc = .waiting 6 .write ∧
      (state.ioThreads 0).pc = .holding 6 .write) ∧ HandOff state := by
  obtain ⟨state, reached, test⟩ := replay_exhibits (step threeThreads) Orderly Initial
    ([.main (.createIOThread 0), .main (.createWorker 0 0), .main (.createWorker 1 1),
      .io 0 .count, .io 0 .countIo, .io 0 (.setup (some 3))] ++ submits 0 70 5 .read ++
      submits 1 80 6 .write ++
      [.io 0 .loopTest, .io 0 (.take .read .succeed),
        .io 0 (.perform true false ⟨true, true, ⟨true, true, false, false, 1048576⟩⟩),
        .io 0 (.giveBack .succeed true), .io 0 .loopTest, .io 0 (.take .write .succeed),
        .worker 0 (.tryWait true)])
    (initialSystem (Fin 2) (Fin 1)) (fun state =>
      state.shared.endAllThreads = false ∧ (state.workers 0).pc = .collecting 5 .read ∧
        (state.workers 1).pc = .waiting 6 .write ∧ (state.ioThreads 0).pc = .holding 6 .write)
    rfl (by decide)
  obtain ⟨running, places⟩ := of_decide_eq_true test
  exact ⟨state, places, completion_handoff threeThreads state reached running⟩

end AvocadoMisc.Dwh.CompletionHandoff
