import Mathlib.Data.Finset.Basic
import AvocadoMisc.Library.Transitions
import AvocadoMisc.Dwh.QueueLaws

/-!
# The representation invariant of the three queues

A run applies any operations to the three queues, with any answers of the lock
calls. Beside the heap it records which nodes have been linked into each queue and
not removed again; the invariant compares the heap with this record. It asks that
head and tail are null together, that the walk from the head visits the linked
nodes once and ends at the tail, that both links are inverse and null at the ends,
and that no pointer leads to a removed node.

One operation breaks it. `getIOWriteNode` leaves the tail of the write queue at
the node it removed when that node was the only one. `WellFormed` then fails at
once, and in a run without such a step it never does.
-/

namespace AvocadoMisc.Dwh.QueueInvariant

open Library.Transitions Library.DoublyLinked Queues QueueContents QueueLaws

/-- The shared state with the nodes that are linked into each queue. They are recorded beside the
heap, for the invariant to compare the two. -/
structure Tracked where
  shared : Shared
  linked : QueueId → Finset Addr

/-- The operations on the queues with the answers of their lock calls, and of `sem_post` where a
done node wakes its owner. -/
inductive QueueOp where
  | queueIo (direction : Direction) (calls : LockCalls) (node : Addr)
  | queueIODone (calls : LockCalls) (post : Bool) (node : Addr)
  | getIONode (direction : Direction) (calls : LockCalls)
  | getIODoneNode (calls : LockCalls) (node : Addr)
  | clear (id : QueueId) (calls : LockCalls)
  deriving DecidableEq

/-- A node joins a queue's record. -/
def enter (id : QueueId) (node : Addr) (joins : Bool) (linked : QueueId → Finset Addr) :
    QueueId → Finset Addr :=
  if joins then Function.update linked id (insert node (linked id)) else linked

/-- A node, if any, leaves a queue's record. -/
def strike (id : QueueId) (node : Option Addr) (linked : QueueId → Finset Addr) :
    QueueId → Finset Addr :=
  match node with
  | some node => Function.update linked id ((linked id).erase node)
  | none => linked

/-- Run one operation and keep the record. A request joins even when the failed
unlock makes its function answer false. -/
def queueStep (state : Tracked) : QueueOp → Option Tracked
  | .queueIo direction calls node => do
    let (_, after) ← queueIORequest direction calls (some node) state.shared
    let joins := calls.lock && !state.shared.endAllIo
    some ⟨after, enter direction.queue node joins state.linked⟩
  | .queueIODone calls post node => do
    let (_, after) ← Queues.queueIODone calls post (some node) state.shared
    some ⟨after, enter .done node calls.lock state.linked⟩
  | .getIONode direction calls => do
    let (node, after) ← Queues.getIONode direction calls state.shared
    some ⟨after, strike direction.queue node state.linked⟩
  | .getIODoneNode calls node => do
    let (removed, after) ← Queues.getIODoneNode calls (some node) state.shared
    some ⟨after, strike .done (if removed then some node else none) state.linked⟩
  | .clear id calls => do
    let after ← clearQ id calls state.shared
    some ⟨after, if calls.lock then Function.update state.linked id ∅ else state.linked⟩

/-- Only unlinked nodes are queued, and only a linked node of the done queue is
removed from it. -/
def Legal (state : Tracked) : QueueOp → Prop
  | .queueIo _ _ node => ∀ id, node ∉ state.linked id
  | .queueIODone _ _ node => ∀ id, node ∉ state.linked id
  | .getIODoneNode _ node => node ∈ state.linked .done
  | _ => True

/-- A property of all three queues is decided queue by queue. -/
instance decidableForallQueueId (holds : QueueId → Prop) [∀ id, Decidable (holds id)] :
    Decidable (∀ id, holds id) :=
  decidable_of_iff (holds .read ∧ holds .write ∧ holds .done)
    ⟨fun every id => by cases id <;> simp [every], fun every => ⟨every _, every _, every _⟩⟩

instance (state : Tracked) : (operation : QueueOp) → Decidable (Legal state operation)
  | .queueIo _ _ node => inferInstanceAs (Decidable (∀ id, node ∉ state.linked id))
  | .queueIODone _ _ node => inferInstanceAs (Decidable (∀ id, node ∉ state.linked id))
  | .getIODoneNode _ node => inferInstanceAs (Decidable (node ∈ state.linked .done))
  | .getIONode _ _ => inferInstanceAs (Decidable True)
  | .clear _ _ => inferInstanceAs (Decidable True)

/-- All queues are empty with a counter of zero, and nothing is linked. -/
def Empty (state : Tracked) : Prop :=
  (∀ id, (state.shared.queues id).head = none ∧ (state.shared.queues id).tail = none ∧
    (state.shared.queues id).pending = 0) ∧ ∀ id, state.linked id = ∅

/-- The representation invariant of one queue: from head to tail the links visit the linked nodes
once each, the links back are inverse to them, and no link leads out of the queue. -/
structure WellFormed (g : Shared) (id : QueueId) (linked : Finset Addr) : Prop where
  ends : (g.queues id).head = none ↔ (g.queues id).tail = none
  once : (nodesOf id g).Nodup
  visits : ∀ node, node ∈ nodesOf id g ↔ node ∈ linked
  last : (nodesOf id g).getLast? = (g.queues id).tail
  inverse : ∀ left ∈ linked, ∀ right ∈ linked,
    g.heap.links.next left = some right ↔ g.heap.links.prev right = some left
  headPrev : ∀ head, (g.queues id).head = some head → g.heap.links.prev head = none
  tailNext : ∀ tail, (g.queues id).tail = some tail → g.heap.links.next tail = none
  closed : ∀ node, (g.queues id).head = some node ∨ (g.queues id).tail = some node ∨
    (∃ member ∈ linked, g.heap.links.next member = some node ∨
      g.heap.links.prev member = some node) → node ∈ linked

/-- The invariant of all three queues, each of them compared with the nodes that are linked into it.
-/
def QueuesWellFormed (state : Tracked) : Prop :=
  ∀ id, WellFormed state.shared id (state.linked id)

/-- `getIOWriteNode` takes the only node of the write queue. -/
def TakesLastWrite (state : Tracked) : QueueOp → Prop
  | .getIONode .write calls => calls.lock = true ∧ (state.linked .write).card = 1
  | _ => False

/-- The record and the represented lists name the same nodes. -/
def Tracks (linked : QueueId → Finset Addr) (contents : QueueId → List Addr) : Prop :=
  ∀ id node, node ∈ linked id ↔ node ∈ contents id

/-- The heap represents lists that the record names, and no tail is stale. -/
def Sound (state : Tracked) : Prop :=
  ∃ contents, Represents state.shared contents ∧ Tracks state.linked contents ∧
    (state.shared.queues .write).tail = (contents .write).getLast?

/-- Replacing the nodes of one queue in both. -/
theorem Tracks.update {linked : QueueId → Finset Addr} {contents : QueueId → List Addr}
    (tracks : Tracks linked contents) (id : QueueId) (nodes : Finset Addr) (list : List Addr)
    (same : ∀ node, node ∈ nodes ↔ node ∈ list) :
    Tracks (Function.update linked id nodes) (Function.update contents id list) := by
  intro other node
  by_cases here : other = id
  · subst other; simpa using same node
  · simpa [here] using tracks other node

/-- A joining node is one appended to the list. -/
theorem Tracks.enter {linked : QueueId → Finset Addr} {contents : QueueId → List Addr}
    (tracks : Tracks linked contents) (id : QueueId) (node : Addr) :
    Tracks (enter id node true linked) (Function.update contents id (contents id ++ [node])) := by
  apply tracks.update id
  intro other
  simp [tracks id other, or_comm]

/-- A leaving node is one erased from the list. -/
theorem Tracks.strike {linked : QueueId → Finset Addr} {contents : QueueId → List Addr}
    (tracks : Tracks linked contents) (id : QueueId) (distinct : (contents id).Nodup)
    (node : Addr) :
    Tracks (strike id (some node) linked)
      (Function.update contents id ((contents id).erase node)) := by
  apply tracks.update id
  intro other
  rw [distinct.mem_erase_iff, Finset.mem_erase, tracks id other]

/-- The head, if any, leaves together with the first list element. -/
theorem Tracks.strike_head {linked : QueueId → Finset Addr} {contents : QueueId → List Addr}
    (tracks : Tracks linked contents) (id : QueueId) (distinct : (contents id).Nodup) :
    Tracks (QueueInvariant.strike id (contents id).head? linked)
      (Function.update contents id (contents id).tail) := by
  cases split : contents id with
  | nil =>
    have same : Function.update contents id [] = contents := by
      rw [← split, Function.update_eq_self]
    simpa [QueueInvariant.strike, same] using tracks
  | cons node rest =>
    have erased := tracks.strike id distinct node
    simpa [split] using erased

/-- A queue with one recorded node is a list with one element. -/
theorem Tracks.card_eq_one {linked : QueueId → Finset Addr} {contents : QueueId → List Addr}
    (tracks : Tracks linked contents) (id : QueueId) (distinct : (contents id).Nodup) :
    (linked id).card = 1 ↔ (contents id).length = 1 := by
  have same : linked id = (contents id).toFinset := by
    ext node
    simpa using tracks id node
  rw [same, List.toFinset_card_of_nodup distinct]

/-- Sound states satisfy the invariant: the lists that they represent are the linked nodes, and a
list is walked from its head to its tail. -/
theorem Sound.wellFormed {state : Tracked} (sound : Sound state) : QueuesWellFormed state := by
  obtain ⟨contents, represented, tracks, fresh⟩ := sound
  intro id
  have nodes := represented.nodes_eq id
  have head := represented.head id
  have tail : (state.shared.queues id).tail = (contents id).getLast? := by
    cases id with
    | write => exact fresh
    | read => exact represented.tail .read (Or.inr (by decide))
    | done => exact represented.tail .done (Or.inr (by decide))
  have linked := represented.linked id
  constructor
  case ends => rw [head, tail, List.head?_eq_none_iff, List.getLast?_eq_none_iff]
  case once => exact nodes ▸ represented.distinct id
  case visits => intro node; rw [nodes, tracks id node]
  case last => rw [nodes, tail]
  case inverse =>
    intro left leftMember right rightMember
    exact linked.inverse left right ((tracks id left).mp leftMember)
      ((tracks id right).mp rightMember)
  case headPrev => intro first found; exact linked.head_prev first (head ▸ found)
  case tailNext => intro last found; exact linked.last_next last (tail ▸ found)
  case closed =>
    rintro node (found | found | ⟨member, listed, follows | precedes⟩)
    · exact (tracks id node).mpr (List.mem_of_head? (head ▸ found))
    · exact (tracks id node).mpr (List.mem_of_getLast? (tail ▸ found))
    · exact (tracks id node).mpr
        (linked.next_mem member node ((tracks id member).mp listed) follows)
    · exact (tracks id node).mpr
        (linked.prev_mem member node ((tracks id member).mp listed) precedes)

/-- The tail of the write queue after an operation that did not touch that queue,
or that left the tail of the list it represents known. -/
theorem write_tail {g after : Shared} {contents updated : QueueId → List Addr}
    (fresh : (g.queues .write).tail = (contents .write).getLast?)
    (represented : Represents after updated)
    (known : updated .write ≠ [] ∨
      (after.queues .write = g.queues .write ∧ updated .write = contents .write)) :
    (after.queues .write).tail = (updated .write).getLast? := by
  rcases known with populated | ⟨queue, list⟩
  · exact represented.tail .write (Or.inl populated)
  · rw [queue, list, fresh]

/-- Queueing a request keeps a sound state sound, whether its lock call succeeds or not. The node is
on none of the queues before. -/
theorem queueIO_sound {state after : Tracked} (sound : Sound state) (direction : Direction)
    (calls : LockCalls) (node : Addr) (unlinked : ∀ id, node ∉ state.linked id)
    (taken : queueStep state (.queueIo direction calls node) = some after) : Sound after := by
  obtain ⟨contents, represented, tracks, fresh⟩ := sound
  simp only [queueStep, queueIORequest_eq, Option.bind_eq_bind, Option.bind_eq_some_iff,
    Option.some.injEq] at taken
  obtain ⟨⟨result, g⟩, ran, rfl⟩ := taken
  cases stopped : state.shared.endAllIo with
  | true =>
    simp only [stopped, ↓reduceIte, Option.some.injEq, Prod.mk.injEq] at ran
    obtain ⟨_, rfl⟩ := ran
    exact ⟨contents, represented, by simpa [enter] using tracks, fresh⟩
  | false =>
    simp only [stopped, Bool.false_eq_true, ↓reduceIte] at ran
    have outside : ∀ id, node ∉ contents id :=
      fun id listed => unlinked id ((tracks id node).mpr listed)
    rcases queueIOAdmitted_law represented outside ran with
      ⟨lock, _, rfl⟩ | ⟨lock, _, appended, passed⟩
    · exact ⟨contents, represented, by simpa [enter, lock] using tracks, fresh⟩
    · refine ⟨_, appended, by simpa [lock] using tracks.enter direction.queue node, ?_⟩
      apply write_tail fresh appended
      cases direction with
      | read => exact Or.inr ⟨passed.others .write (by decide), rfl⟩
      | write => exact Or.inl (by simp [Direction.queue])

/-- Handing a node to the done queue keeps a sound state sound. -/
theorem queueIODone_sound {state after : Tracked} (sound : Sound state) (calls : LockCalls)
    (post : Bool) (node : Addr) (unlinked : ∀ id, node ∉ state.linked id)
    (taken : queueStep state (.queueIODone calls post node) = some after) : Sound after := by
  obtain ⟨contents, represented, tracks, fresh⟩ := sound
  simp only [queueStep, Option.bind_eq_bind, Option.bind_eq_some_iff, Option.some.injEq] at taken
  obtain ⟨⟨result, g⟩, ran, rfl⟩ := taken
  have outside : ∀ id, node ∉ contents id :=
    fun id listed => unlinked id ((tracks id node).mpr listed)
  rcases queueIODone_law represented outside ran with
    ⟨lock, _, rfl⟩ | ⟨lock, _, linked, rfl, appended, passed⟩
  · exact ⟨contents, represented, by simpa [enter, lock] using tracks, fresh⟩
  · have woken := represents_wakeOwner appended post node
    refine ⟨_, woken, by simpa [lock] using tracks.enter .done node, ?_⟩
    apply write_tail fresh woken
    refine Or.inr ⟨?_, rfl⟩
    rw [← passed.others .write (by decide)]
    unfold wakeOwner semPost
    split
    · split <;> rfl
    · rfl

/-- Taking a request keeps a sound state sound, unless it is the last write. Then the tail would
stay at a node that is gone. -/
theorem getIONode_sound {state after : Tracked} (sound : Sound state) (direction : Direction)
    (calls : LockCalls)
    (keeps : ¬ TakesLastWrite state (.getIONode direction calls))
    (taken : queueStep state (.getIONode direction calls) = some after) : Sound after := by
  obtain ⟨contents, represented, tracks, fresh⟩ := sound
  simp only [queueStep, Option.bind_eq_bind, Option.bind_eq_some_iff, Option.some.injEq] at taken
  obtain ⟨⟨result, g⟩, ran, rfl⟩ := taken
  rcases getIONode_law represented ran with ⟨lock, rfl, rfl⟩ | ⟨lock, rfl, rest, passed⟩
  · exact ⟨contents, represented, tracks, fresh⟩
  · refine ⟨_, rest, tracks.strike_head direction.queue (represented.distinct _), ?_⟩
    cases direction with
    | read => exact write_tail fresh rest (Or.inr ⟨passed.others .write (by decide), rfl⟩)
    | write =>
      have unequal : (contents .write).length ≠ 1 := by
        intro single
        exact keeps ⟨lock, (tracks.card_eq_one .write (represented.distinct _)).mpr single⟩
      have shape : contents .write = [] ∨ ∃ first second others,
          contents .write = first :: second :: others := by
        cases list : contents .write with
        | nil => exact Or.inl rfl
        | cons first rest =>
          cases rest with
          | nil => simp [list] at unequal
          | cons second others => exact Or.inr ⟨first, second, others, rfl⟩
      rcases shape with split | ⟨first, second, others, split⟩
      · rw [getIOWriteNode_tail ran, fresh, split]
        simp [Direction.queue, split]
      · exact write_tail fresh rest (Or.inl (by simp [Direction.queue, split]))

/-- Removing a linked node of the done queue keeps a sound state sound. -/
theorem getIODoneNode_sound {state after : Tracked} (sound : Sound state) (calls : LockCalls)
    (node : Addr) (member : node ∈ state.linked .done)
    (taken : queueStep state (.getIODoneNode calls node) = some after) : Sound after := by
  obtain ⟨contents, represented, tracks, fresh⟩ := sound
  simp only [queueStep, Option.bind_eq_bind, Option.bind_eq_some_iff, Option.some.injEq] at taken
  obtain ⟨⟨removed, g⟩, ran, rfl⟩ := taken
  rcases getIODoneNode_law represented ((tracks .done node).mp member) ran with
    ⟨_, rfl, rfl⟩ | ⟨_, rfl, rest, passed⟩
  · exact ⟨contents, represented, tracks, fresh⟩
  · exact ⟨_, rest, tracks.strike .done (represented.distinct _) node,
      write_tail fresh rest (Or.inr ⟨passed.others .write (by decide), rfl⟩)⟩

/-- Clearing a queue keeps a sound state sound. -/
theorem clear_sound {state after : Tracked} (sound : Sound state) (id : QueueId)
    (calls : LockCalls) (taken : queueStep state (.clear id calls) = some after) :
    Sound after := by
  obtain ⟨contents, represented, tracks, fresh⟩ := sound
  simp only [queueStep, Option.bind_eq_bind, Option.bind_eq_some_iff, Option.some.injEq] at taken
  obtain ⟨g, ran, rfl⟩ := taken
  rcases clearQ_law represented ran with ⟨lock, rfl⟩ | ⟨lock, rest, tail, passed⟩
  · exact ⟨contents, represented, by simpa [lock] using tracks, fresh⟩
  · refine ⟨_, rest, by simpa [lock] using tracks.update id ∅ [] (by simp), ?_⟩
    by_cases here : QueueId.write = id
    · subst here
      simpa using tail
    · exact write_tail fresh rest (Or.inr ⟨passed.others .write here, by simp [here]⟩)

/-- Every legal operation except taking the last write keeps a sound state sound. -/
theorem sound_kept (before : Tracked) (operation : QueueOp) (after : Tracked)
    (sound : Sound before) (legal : Legal before operation)
    (taken : queueStep before operation = some after)
    (keeps : ¬ TakesLastWrite before operation) : Sound after := by
  cases operation with
  | queueIo direction calls node => exact queueIO_sound sound direction calls node legal taken
  | queueIODone calls post node => exact queueIODone_sound sound calls post node legal taken
  | getIONode direction calls => exact getIONode_sound sound direction calls keeps taken
  | getIODoneNode calls node => exact getIODoneNode_sound sound calls node legal taken
  | clear id calls => exact clear_sound sound id calls taken

/-- Taking the last write leaves a null head beside a tail that is not null. -/
theorem takesLastWrite_breaks (before : Tracked) (operation : QueueOp) (after : Tracked)
    (sound : Sound before) (_ : Legal before operation)
    (taken : queueStep before operation = some after)
    (takes : TakesLastWrite before operation) : ¬ QueuesWellFormed after := by
  obtain ⟨contents, represented, tracks, fresh⟩ := sound
  match operation, takes with
  | .getIONode .write calls, ⟨locked, single⟩ =>
    simp only [queueStep, Option.bind_eq_bind, Option.bind_eq_some_iff,
      Option.some.injEq] at taken
    obtain ⟨⟨result, g⟩, ran, rfl⟩ := taken
    have short := (tracks.card_eq_one .write (represented.distinct _)).mp single
    obtain ⟨node, split⟩ := List.length_eq_one_iff.mp short
    have stale := getIOWriteNode_tail ran
    rcases getIONode_law represented ran with ⟨failed, _⟩ | ⟨_, _, rest, _⟩
    · simp [locked] at failed
    · intro wellFormed
      have head : (g.queues .write).head = none := by
        simpa [Direction.queue, split] using rest.head .write
      have tail : (g.queues .write).tail = none := (wellFormed .write).ends.mp head
      rw [tail, fresh, split] at stale
      simp at stale

/-- Empty queues are sound. -/
theorem empty_sound (state : Tracked) (empty : Empty state) : Sound state := by
  refine ⟨fun _ => [], ?_, fun id node => by simp [empty.2 id], (empty.1 .write).2.1⟩
  exact
    { head := fun id => (empty.1 id).1
      tail := fun id _ => (empty.1 id).2.1
      linked := fun _ => linked_nil _
      distinct := fun _ => List.nodup_nil
      apart := fun _ _ _ member => absurd member List.not_mem_nil
      pending := fun id => (empty.1 id).2.2 }

/-- In a run from empty queues the invariant holds after every operation exactly
when `getIOWriteNode` never takes the only node of the write queue.

The lock calls may fail. A node that is queued is on no queue, and one that is removed from the done
queue is on it, as the callers see to.

Proof: every other operation keeps the invariant, and that one leaves the tail at the node that it
removed. -/
theorem queues_wellFormed_iff (state : Tracked) (events : List (Event Tracked QueueOp))
    (empty : Empty state) (trace : Trace queueStep Legal state events) :
    (∀ event ∈ events, QueuesWellFormed event.after) ↔
      ∀ event ∈ events, ¬ TakesLastWrite event.before event.label :=
  trace.holds_iff (fun _ sound => sound.wellFormed) sound_kept takesLastWrite_breaks
    (empty_sound state empty)

/-- The state before the first operation. -/
def initialTracked : Tracked := ⟨initialShared, fun _ => ∅⟩

/-- All its queues are empty. -/
theorem initialTracked_empty : Empty initialTracked :=
  ⟨fun _ => ⟨rfl, rfl, rfl⟩, fun _ => rfl⟩

/-- Two writes, one of them taken, handed over and removed from the done queue. -/
def twoWrites : List QueueOp :=
  [.queueIo .write .succeed 5, .queueIo .write .succeed 9, .getIONode .write .succeed,
    .queueIODone .succeed true 5, .getIODoneNode .succeed 5]

/-- A run that never takes the last write, and what the equivalence says of it. -/
theorem queues_wellFormed_iff_twoWrites : ∃ events,
    record queueStep Legal twoWrites initialTracked = some events ∧ events.length = 5 ∧
      ((∀ event ∈ events, QueuesWellFormed event.after) ↔
        ∀ event ∈ events, ¬ TakesLastWrite event.before event.label) := by
  have completed : ((record queueStep Legal twoWrites initialTracked).any
      (fun events => events.length = 5)) = true := by decide
  obtain ⟨events, recorded, length⟩ := (Option.any_eq_true _ _).mp completed
  have trace := record_trace queueStep Legal twoWrites initialTracked events recorded
  exact ⟨events, recorded, by simpa using length,
    queues_wellFormed_iff initialTracked events initialTracked_empty trace⟩

/-- One write queued and taken refutes the invariant for all runs: the head is
null and the tail is the removed node. -/
theorem queues_not_always_wellFormed :
    ¬ ∀ (state : Tracked) (events : List (Event Tracked QueueOp)), Empty state →
      Trace queueStep Legal state events → ∀ event ∈ events, QueuesWellFormed event.after := by
  intro always
  have stale : ((record queueStep Legal
      [.queueIo .write .succeed 5, .getIONode .write .succeed] initialTracked).bind
      List.getLast?).any (fun event => (event.after.shared.queues .write).head = none ∧
        (event.after.shared.queues .write).tail = some 5) = true := by decide
  obtain ⟨event, last, ends⟩ := (Option.any_eq_true _ _).mp stale
  obtain ⟨events, recorded, final⟩ := Option.bind_eq_some_iff.mp last
  obtain ⟨head, tail⟩ := of_decide_eq_true ends
  have trace := record_trace queueStep Legal _ initialTracked events recorded
  have holds := always initialTracked events initialTracked_empty trace event
    (List.mem_of_getLast? final) .write
  rw [holds.ends.mp head] at tail
  simp at tail

end AvocadoMisc.Dwh.QueueInvariant
