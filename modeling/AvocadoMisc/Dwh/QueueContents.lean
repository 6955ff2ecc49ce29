import Mathlib.Data.Fintype.Card
import AvocadoMisc.Dwh.Queues

/-!
# What the queue functions do to the queue contents

`Represents g contents` ties the heap and the queue variables to one list of
nodes per queue. The tail of an empty write queue is the only variable it leaves
open, because `getIOWriteNode` does not assign it there. Every queue function is
given one law: from a represented state it appends, takes the head, removes a
node or empties the list, and leaves everything outside the three lists alone.

The laws here are about the bodies of the critical sections, one for each. The
two bodies that take a head are instances of one function, and the checked write
of the done queue is compared with the unchecked one, so each law is proved once.
-/

namespace AvocadoMisc.Dwh.QueueContents

open Library.DoublyLinked Queues

/-- The queue variables and link members hold exactly these lists. -/
structure Represents (g : Shared) (contents : QueueId → List Addr) : Prop where
  head : ∀ id, (g.queues id).head = (contents id).head?
  tail : ∀ id, contents id ≠ [] ∨ id ≠ .write → (g.queues id).tail = (contents id).getLast?
  linked : ∀ id, Linked g.heap.links (contents id)
  distinct : ∀ id, (contents id).Nodup
  apart : ∀ id other node, node ∈ contents id → node ∈ contents other → id = other
  pending : ∀ id, (g.queues id).pending = BitVec.ofNat 64 (contents id).length

/-- Distinct addresses bound every list, so its length fits the counter. -/
theorem Represents.length_lt {g : Shared} {contents : QueueId → List Addr}
    (represented : Represents g contents) (id : QueueId) :
    (contents id).length ≤ addressCount := by
  have bound := (represented.distinct id).length_le_card
  simpa only [Fintype.card_fin, addressCount] using bound

/-- The walk from the head recovers the contents of a queue. -/
theorem Represents.nodes_eq {g : Shared} {contents : QueueId → List Addr}
    (represented : Represents g contents) (id : QueueId) : nodesOf id g = contents id := by
  unfold nodesOf
  rw [represented.head id]
  exact (represented.linked id).walk_eq addressCount (represented.length_lt id)

/-- The pending counter is the number of nodes, with no wrap-around. -/
theorem Represents.pending_eq {g : Shared} {contents : QueueId → List Addr}
    (represented : Represents g contents) (id : QueueId) :
    (g.queues id).pending.toNat = (contents id).length := by
  have bound := represented.length_lt id
  rw [represented.pending id, BitVec.toNat_ofNat]
  apply Nat.mod_eq_of_lt
  unfold addressCount at bound
  omega

/-- Representation reads the links and three variables of each queue. -/
theorem Represents.congr {g changed : Shared} {contents : QueueId → List Addr}
    (represented : Represents g contents) (links : changed.heap.links = g.heap.links)
    (head : ∀ id, (changed.queues id).head = (g.queues id).head)
    (tail : ∀ id, (changed.queues id).tail = (g.queues id).tail)
    (pending : ∀ id, (changed.queues id).pending = (g.queues id).pending) :
    Represents changed contents where
  head id := (head id).trans (represented.head id)
  tail id known := (tail id).trans (represented.tail id known)
  linked id := links ▸ represented.linked id
  distinct := represented.distinct
  apart := represented.apart
  pending id := (pending id).trans (represented.pending id)

/-- So a step that touches neither keeps it. -/
theorem Represents.frame {g changed : Shared} {contents : QueueId → List Addr}
    (represented : Represents g contents) (links : changed.heap.links = g.heap.links)
    (queues : changed.queues = g.queues) : Represents changed contents :=
  represented.congr links (fun _ => by rw [queues]) (fun _ => by rw [queues])
    (fun _ => by rw [queues])

/-- The link members of a node that is on no queue are not read either. -/
theorem Represents.outside {g changed : Shared} {contents : QueueId → List Addr}
    (represented : Represents g contents) (node : Addr) (absent : ∀ id, node ∉ contents id)
    (next : ∀ other, other ≠ node → changed.heap.links.next other = g.heap.links.next other)
    (prev : ∀ other, other ≠ node → changed.heap.links.prev other = g.heap.links.prev other)
    (queues : changed.queues = g.queues) : Represents changed contents where
  head id := queues ▸ represented.head id
  tail id known := queues ▸ represented.tail id known
  linked id := by
    have differs (other : Addr) (listed : other ∈ contents id) : other ≠ node := by
      rintro rfl
      exact absent id listed
    exact (represented.linked id).congr (fun other listed => prev other (differs other listed))
      (fun other listed => next other (differs other listed))
  distinct := represented.distinct
  apart := represented.apart
  pending id := queues ▸ represented.pending id

/-- A node of another queue is not on this one. -/
theorem Represents.foreign {g : Shared} {contents : QueueId → List Addr}
    (represented : Represents g contents) {id other : QueueId} (different : other ≠ id)
    {member : Addr} (listed : member ∈ contents other) : member ∉ contents id :=
  fun inside => different (represented.apart other id member listed inside)

/-- One queue gets another list. Its nodes are on no other queue, and the link members of the nodes
of the other queues stay. -/
theorem Represents.change {g changed : Shared} {contents : QueueId → List Addr}
    (represented : Represents g contents) (id : QueueId) (list : List Addr)
    (others : ∀ other, other ≠ id → changed.queues other = g.queues other)
    (head : (changed.queues id).head = list.head?)
    (tail : list ≠ [] ∨ id ≠ .write → (changed.queues id).tail = list.getLast?)
    (linked : Linked changed.heap.links list)
    (distinct : list.Nodup)
    (pending : (changed.queues id).pending = BitVec.ofNat 64 list.length)
    (apart : ∀ other, other ≠ id → ∀ member ∈ contents other, member ∉ list)
    (oldPrev : ∀ other, other ≠ id → ∀ member ∈ contents other,
      changed.heap.links.prev member = g.heap.links.prev member)
    (oldNext : ∀ other, other ≠ id → ∀ member ∈ contents other,
      changed.heap.links.next member = g.heap.links.next member) :
    Represents changed (Function.update contents id list) := by
  constructor
  case head =>
    intro other
    by_cases same : other = id
    · subst other
      simpa using head
    · simpa [same, others other same] using represented.head other
  case tail =>
    intro other known
    by_cases same : other = id
    · subst other
      simp only [Function.update_self] at known ⊢
      exact tail known
    · simp only [Function.update_of_ne same] at known ⊢
      simpa [others other same] using represented.tail other known
  case linked =>
    intro other
    by_cases same : other = id
    · subst other
      simpa only [Function.update_self] using linked
    · simp only [Function.update_of_ne same]
      exact (represented.linked other).congr (oldPrev other same) (oldNext other same)
  case distinct =>
    intro other
    by_cases same : other = id
    · subst other
      simpa only [Function.update_self] using distinct
    · simpa only [Function.update_of_ne same] using represented.distinct other
  case apart =>
    intro left right member inLeft inRight
    by_cases isLeft : left = id <;> by_cases isRight : right = id
    · exact isLeft.trans isRight.symm
    · rw [isLeft, Function.update_self] at inLeft
      rw [Function.update_of_ne isRight] at inRight
      exact absurd inLeft (apart right isRight member inRight)
    · rw [Function.update_of_ne isLeft] at inLeft
      rw [isRight, Function.update_self] at inRight
      exact absurd inRight (apart left isLeft member inLeft)
    · rw [Function.update_of_ne isLeft] at inLeft
      rw [Function.update_of_ne isRight] at inRight
      exact represented.apart left right member inLeft inRight
  case pending =>
    intro other
    by_cases same : other = id
    · subst other
      simpa using pending
    · simpa [same, others other same] using represented.pending other

/-- Linking a node that is on no queue behind a queue's last node appends it. -/
theorem Represents.append {g changed : Shared} {contents : QueueId → List Addr}
    (represented : Represents g contents) (id : QueueId) (node : Addr)
    (fresh : ∀ other, node ∉ contents other)
    (others : ∀ other, other ≠ id → changed.queues other = g.queues other)
    (head : (changed.queues id).head = (contents id ++ [node]).head?)
    (tail : (changed.queues id).tail = some node)
    (pending : (changed.queues id).pending = (g.queues id).pending + 1)
    (newPrev : changed.heap.links.prev node = (contents id).getLast?)
    (newNext : changed.heap.links.next node = none)
    (oldPrev : ∀ other, other ≠ node →
      changed.heap.links.prev other = g.heap.links.prev other)
    (lastNext : ∀ last, (contents id).getLast? = some last →
      changed.heap.links.next last = some node)
    (oldNext : ∀ other, other ≠ node → (contents id).getLast? ≠ some other →
      changed.heap.links.next other = g.heap.links.next other) :
    Represents changed (Function.update contents id (contents id ++ [node])) := by
  have differs (other : QueueId) (member : Addr) (listed : member ∈ contents other) :
      member ≠ node := fun same => fresh other (same ▸ listed)
  refine represented.change id (contents id ++ [node]) others head ?tail ?linked ?distinct ?pending
    ?apart ?oldPrev ?oldNext
  case tail =>
    intro _
    simpa using tail
  case linked =>
    exact (represented.linked id).append (represented.distinct id) newPrev newNext
      (fun member listed => oldPrev member (differs id member listed)) lastNext
      (fun member listed notLast => oldNext member (differs id member listed) notLast)
  case distinct =>
    exact List.Nodup.append (represented.distinct id) (List.nodup_singleton node)
      (by simpa using fresh id)
  case pending =>
    rw [pending, represented.pending id]
    simp [BitVec.ofNat_add]
  case apart =>
    intro other different member listed inside
    rcases List.mem_append.mp inside with old | new
    · exact represented.foreign different listed old
    · exact differs other member listed (List.mem_singleton.mp new)
  case oldPrev =>
    intro other _ member listed
    exact oldPrev member (differs other member listed)
  case oldNext =>
    intro other different member listed
    apply oldNext member (differs other member listed)
    intro last
    exact represented.foreign different listed (List.mem_of_getLast? last)

/-- Cutting a node out of a queue and joining its neighbours removes it. The tail of the write queue
may stay at the last node, and everything else is as it was. -/
theorem Represents.remove {g changed : Shared} {contents : QueueId → List Addr}
    (represented : Represents g contents) (id : QueueId) (front back : List Addr) (node : Addr)
    (split : contents id = front ++ node :: back)
    (others : ∀ other, other ≠ id → changed.queues other = g.queues other)
    (head : (changed.queues id).head = (front ++ back).head?)
    (tail : front ++ back ≠ [] ∨ id ≠ .write →
      (changed.queues id).tail = (front ++ back).getLast?)
    (pending : (changed.queues id).pending = (g.queues id).pending - 1)
    (joinNext : ∀ before, front.getLast? = some before →
      changed.heap.links.next before = back.head?)
    (joinPrev : ∀ after, back.head? = some after →
      changed.heap.links.prev after = front.getLast?)
    (oldNext : ∀ other, other ≠ node → front.getLast? ≠ some other →
      changed.heap.links.next other = g.heap.links.next other)
    (oldPrev : ∀ other, other ≠ node → back.head? ≠ some other →
      changed.heap.links.prev other = g.heap.links.prev other) :
    Represents changed (Function.update contents id (front ++ back)) := by
  have whole : (front ++ node :: back).Nodup := split ▸ represented.distinct id
  have absent : node ∉ front ++ back := by
    have middle := List.nodup_middle.mp whole
    exact (List.nodup_cons.mp middle).1
  have kept (member : Addr) (remains : member ∈ front ++ back) : member ∈ contents id := by
    rw [split]
    rcases List.mem_append.mp remains with ahead | behind
    · exact List.mem_append_left _ ahead
    · exact List.mem_append_right _ (List.mem_cons_of_mem node behind)
  have owned : node ∈ contents id := by simp [split]
  refine represented.change id (front ++ back) others head tail ?linked ?distinct ?pending ?apart
    ?oldPrev ?oldNext
  case linked =>
    apply Linked.remove (split ▸ represented.linked id) whole joinNext joinPrev
    · intro member remains notLast
      exact oldNext member (fun isNode => absent (isNode ▸ remains)) notLast
    · intro member remains notFirst
      exact oldPrev member (fun isNode => absent (isNode ▸ remains)) notFirst
  case distinct => exact (List.nodup_cons.mp (List.nodup_middle.mp whole)).2
  case pending =>
    rw [pending, represented.pending id, split]
    simp only [List.length_append, List.length_cons, ← Nat.add_assoc, BitVec.ofNat_add]
    exact BitVec.add_sub_cancel _ _
  case apart =>
    intro other different member listed remains
    exact represented.foreign different listed (kept member remains)
  case oldPrev =>
    intro other different member listed
    apply oldPrev member
      (fun isNode => represented.foreign different listed (isNode ▸ owned))
    intro first
    exact represented.foreign different listed (kept member
      (List.mem_append_right _ (List.mem_of_head? first)))
  case oldNext =>
    intro other different member listed
    apply oldNext member
      (fun isNode => represented.foreign different listed (isNode ▸ owned))
    intro last
    exact represented.foreign different listed (kept member
      (List.mem_append_left _ (List.mem_of_getLast? last)))

/-- The initial state represents three empty lists. -/
theorem initialShared_represents : Represents initialShared (fun _ => []) where
  head _ := rfl
  tail _ _ := rfl
  linked _ := linked_nil _
  distinct _ := List.nodup_nil
  apart _ _ _ member := absurd member List.not_mem_nil
  pending _ := rfl

/-! ### Bodies of the critical sections -/

/-- Outside the links and the list variables of one queue nothing changed. -/
structure Undisturbed (id : QueueId) (g after : Shared) : Prop where
  heap : after.heap = { g.heap with links := after.heap.links }
  sems : after.sems = g.sems
  endAllIo : after.endAllIo = g.endAllIo
  endAllThreads : after.endAllThreads = g.endAllThreads
  others : ∀ other, other ≠ id → after.queues other = g.queues other
  locked : (after.queues id).locked = (g.queues id).locked

namespace Undisturbed

variable {id : QueueId} {g middle after : Shared}

/-- No change. -/
theorem refl (id : QueueId) (g : Shared) : Undisturbed id g g :=
  ⟨rfl, rfl, rfl, rfl, fun _ _ => rfl, rfl⟩

/-- One change after another. -/
theorem trans (first : Undisturbed id g middle) (second : Undisturbed id middle after) :
    Undisturbed id g after where
  heap := by rw [second.heap, first.heap]
  sems := second.sems.trans first.sems
  endAllIo := second.endAllIo.trans first.endAllIo
  endAllThreads := second.endAllThreads.trans first.endAllThreads
  others other differs := (second.others other differs).trans (first.others other differs)
  locked := second.locked.trans first.locked

/-- A link of a node. -/
theorem thenSetNext (before : Undisturbed id g middle) (node : Addr) (value : Option Addr) :
    Undisturbed id g (setNext node value middle) :=
  before.trans ⟨rfl, rfl, rfl, rfl, fun _ _ => rfl, rfl⟩

/-- The other link. -/
theorem thenSetPrev (before : Undisturbed id g middle) (node : Addr) (value : Option Addr) :
    Undisturbed id g (setPrev node value middle) :=
  before.trans ⟨rfl, rfl, rfl, rfl, fun _ _ => rfl, rfl⟩

/-- The variables of the queue, except its mutex. -/
theorem thenSetQueue (before : Undisturbed id g middle) (queue : IoQueue)
    (locked : queue.locked = (middle.queues id).locked) :
    Undisturbed id g (setQueue id queue middle) :=
  before.trans ⟨rfl, rfl, rfl, rfl, fun _ differs => Function.update_of_ne differs _ _,
    by simpa [setQueue] using locked⟩

end Undisturbed

/-- The bodies of `getIOReadNode` and `getIOWriteNode`, with the assignment to the
tail that only the first makes as a parameter. -/
def takeHead (id : QueueId) (clearsTail : Bool) (g : Shared) : Option Addr × Shared :=
  match (g.queues id).head with
  | none => (none, g)
  | some result =>
    let queue := g.queues id
    let head := g.heap.links.next result
    let g := match head with
      | some first => setPrev first none (setQueue id { queue with head := head } g)
      | none =>
        if clearsTail then setQueue id { queue with head := head, tail := none } g
        else setQueue id { queue with head := head } g
    let g := setNext result none (setPrev result none g)
    let queue := g.queues id
    (some result, setQueue id { queue with pending := queue.pending - 1 } g)

/-- Taking from the read queue clears its tail with the last node. -/
theorem takeReadHead_eq : takeReadHead = takeHead .read true := rfl

/-- Taking from the write queue does not. -/
theorem takeWriteHead_eq : takeWriteHead = takeHead .write false := rfl

/-- Whatever the lists are, taking a head touches only its own queue and the links. -/
theorem takeHead_undisturbed (id : QueueId) (clearsTail : Bool) (g : Shared) :
    Undisturbed id g (takeHead id clearsTail g).2 := by
  have same := Undisturbed.refl id g
  cases head : (g.queues id).head with
  | none =>
    simp only [takeHead, head]
    exact same
  | some node =>
    simp only [takeHead, head]
    refine .thenSetQueue (.thenSetNext (.thenSetPrev ?_ ..) ..) _ (by rfl)
    split
    · exact .thenSetPrev (.thenSetQueue same _ (by rfl)) ..
    · split <;> exact .thenSetQueue same _ (by rfl)

/-- So does adding a node. -/
theorem linkTail_undisturbed {id : QueueId} {node : Addr} {g after : Shared}
    (linked : linkTail id node g = some after) : Undisturbed id g after := by
  have entered (prev : Option Addr) : Undisturbed id g (setNext node none (setPrev node prev g)) :=
    .thenSetNext (.thenSetPrev (.refl id g) ..) ..
  cases head : (g.queues id).head with
  | none =>
    simp only [linkTail, head] at linked
    obtain rfl := Option.some.inj linked
    exact .thenSetQueue (.thenSetQueue (entered none) _ (by rfl)) _ (by rfl)
  | some found =>
    cases tail : (g.queues id).tail with
    | none => simp [linkTail, head, tail, setNext, setPrev, setQueue] at linked
    | some last =>
      simp only [linkTail, head, tail, setNext, setPrev, setQueue, Function.update_self] at linked
      obtain rfl := Option.some.inj linked
      constructor
      case others => intro other differs; simp [differs]
      case locked => simp
      all_goals rfl

/-- And adding a node to the done queue. -/
theorem linkDone_undisturbed (node : Addr) (g : Shared) :
    Undisturbed .done g (linkDone node g) := by
  cases head : (g.queues .done).head with
  | none =>
    simp only [linkDone, head]
    have cleared : Undisturbed .done g (setNext node none (setPrev node none g)) :=
      .thenSetNext (.thenSetPrev (.refl .done g) ..) ..
    exact .thenSetQueue (.thenSetQueue cleared _ (by rfl)) _ (by rfl)
  | some found =>
    constructor
    case others =>
      intro other differs
      cases tail : (g.queues .done).tail <;>
        simp [linkDone, head, tail, setNext, setPrev, setQueue, differs]
    all_goals
      cases tail : (g.queues .done).tail <;>
        simp [linkDone, head, tail, setNext, setPrev, setQueue]

/-- And cutting a node out. -/
theorem unlinkDone_undisturbed (node : Option Addr) (g : Shared) :
    Undisturbed .done g (unlinkDone node g).2 := by
  have same := Undisturbed.refl .done g
  unfold unlinkDone
  split
  · split
    · refine .thenSetQueue (.thenSetNext (.thenSetPrev ?_ ..) ..) _ (by rfl)
      split
      · refine .thenSetPrev ?_ ..
        split
        · exact .thenSetNext same ..
        · exact .thenSetQueue same _ (by rfl)
      · refine .thenSetQueue ?_ _ (by rfl)
        split
        · exact .thenSetNext same ..
        · exact .thenSetQueue same _ (by rfl)
    · exact same
  · exact same

/-- Taking a head returns the first node and leaves the others; of an empty queue
it returns null. Only the write queue may keep a stale tail. -/
theorem takeHead_spec {g : Shared} {contents : QueueId → List Addr}
    (represented : Represents g contents) (id : QueueId) (clearsTail : Bool)
    (clears : clearsTail = true ∨ id = .write) :
    (takeHead id clearsTail g).1 = (contents id).head? ∧
      Represents (takeHead id clearsTail g).2
        (Function.update contents id (contents id).tail) ∧
      Undisturbed id g (takeHead id clearsTail g).2 := by
  have head := represented.head id
  cases split : contents id with
  | nil =>
    have unchanged : takeHead id clearsTail g = (none, g) := by simp [takeHead, head, split]
    have same : Function.update contents id [] = contents := by
      rw [← split, Function.update_eq_self]
    simp only [unchanged, List.head?_nil, List.tail_nil, same]
    exact ⟨trivial, represented, rfl, rfl, rfl, rfl, fun _ _ => rfl, rfl⟩
  | cons node rest =>
    rw [split] at head
    have whole : (node :: rest).Nodup := split ▸ represented.distinct id
    have next : g.heap.links.next node = rest.head? :=
      (represented.linked id [] node rest split).2
    refine ⟨by simp [takeHead, head], ?_, takeHead_undisturbed id clearsTail g⟩
    apply represented.remove id [] rest node split
    case others =>
      intro other differs
      cases rest <;> cases clearsTail <;>
        simp [takeHead, head, next, setNext, setPrev, setQueue, differs]
    case tail =>
      intro known
      have last := represented.tail id (Or.inl (by simp [split]))
      rw [split] at last
      cases rest <;> simp_all [takeHead, setNext, setPrev, setQueue]
    case joinPrev =>
      intro after first
      cases rest with
      | nil => simp at first
      | cons follower remaining =>
        obtain rfl : follower = after := by simpa using first
        have differs : follower ≠ node := by
          rintro rfl
          simp at whole
        simp [takeHead, head, next, setNext, setPrev, setQueue, differs]
    case oldNext =>
      intro other differs _
      cases rest <;> cases clearsTail <;>
        simp [takeHead, head, next, setNext, setPrev, setQueue, differs]
    case oldPrev =>
      intro other differs notFirst
      cases rest with
      | nil => cases clearsTail <;>
        simp [takeHead, head, next, setNext, setPrev, setQueue, differs]
      | cons follower remaining =>
        have apart : other ≠ follower := by
          rintro rfl
          simp at notFirst
        simp [takeHead, head, next, setNext, setPrev, setQueue, differs, apart]
    all_goals
      cases rest <;> cases clearsTail <;>
        simp [takeHead, head, next, setNext, setPrev, setQueue]

/-- Without the assignment, the tail is the one from before. -/
theorem takeHead_keeps_tail (id : QueueId) (g : Shared) :
    ((takeHead id false g).2.queues id).tail = (g.queues id).tail := by
  cases head : (g.queues id).head with
  | none => simp [takeHead, head]
  | some node =>
    cases next : g.heap.links.next node <;>
      simp [takeHead, head, next, setNext, setPrev, setQueue]

/-- Adding a node that is on no queue does not write through null and appends it. -/
theorem linkTail_spec {g : Shared} {contents : QueueId → List Addr}
    (represented : Represents g contents) (id : QueueId) (node : Addr)
    (fresh : ∀ other, node ∉ contents other) :
    ∃ after, linkTail id node g = some after ∧
      Represents after (Function.update contents id (contents id ++ [node])) ∧
      Undisturbed id g after := by
  have head := represented.head id
  have appends : ∃ after, linkTail id node g = some after ∧
      Represents after (Function.update contents id (contents id ++ [node])) := by
    rcases List.eq_nil_or_concat (contents id) with empty | ⟨front, last, split⟩
    · -- An empty queue: the node becomes head and tail.
      rw [empty, List.head?_nil] at head
      refine ⟨_, by simp only [linkTail, head]; rfl, ?_⟩
      apply represented.append id node fresh
      case others => intro other differs; simp [setNext, setPrev, setQueue, differs]
      case oldPrev => intro other differs; simp [setNext, setPrev, setQueue, differs]
      case oldNext => intro other differs _; simp [setNext, setPrev, setQueue, differs]
      all_goals simp [empty, setNext, setPrev, setQueue]
    · -- A populated queue: its last node is the new node's predecessor.
      have tail := represented.tail id (Or.inl (by simp [split]))
      have first : ∃ found, (g.queues id).head = some found := by
        rw [head, split]
        exact Option.isSome_iff_exists.mp (by cases front <;> rfl)
      obtain ⟨found, head⟩ := first
      rw [split, List.concat_eq_append, List.getLast?_concat] at tail
      have apart : last ≠ node := by
        rintro rfl
        exact fresh id (by simp [split])
      refine ⟨_, by
        simp only [linkTail, head, tail, setNext, setPrev, setQueue, Function.update_self]
        rfl, ?_⟩
      apply represented.append id node fresh
      case others => intro other differs; simp [differs]
      case head => simp [List.head?_append, ← represented.head id, head]
      case oldPrev => intro other differs; simp [differs]
      case oldNext =>
        intro other differs notLast
        have unlike : other ≠ last := by
          rintro rfl
          simp [split] at notLast
        simp [differs, unlike]
      case lastNext =>
        intro found final
        obtain rfl : last = found := by simpa [split] using final
        simp
      all_goals simp [split, apart.symm]
  obtain ⟨after, linked, rest⟩ := appends
  exact ⟨after, linked, rest, linkTail_undisturbed linked⟩

/-- The checked write of the done queue does what the unchecked one would. -/
theorem linkDone_eq {g after : Shared} {node : Addr} (linked : linkTail .done node g = some after) :
    linkDone node g = after := by
  cases head : (g.queues .done).head with
  | none =>
    simp only [linkTail, head] at linked
    simp only [linkDone, head]
    exact Option.some.inj linked
  | some found =>
    cases tail : (g.queues .done).tail with
    | none =>
      simp [linkTail, head, tail, setNext, setPrev, setQueue] at linked
    | some last =>
      simp only [linkTail, head, tail, setNext, setPrev, setQueue, Function.update_self] at linked
      simp only [linkDone, head, tail, setNext, setPrev, setQueue, Function.update_self]
      exact Option.some.inj linked

/-- What `getIODoneNode`'s body does to a node whose links are not its own: the
neighbours or the queue variables take over, and the node's links are cleared. -/
theorem unlinkDone_linked {g : Shared} {node : Addr}
    (entered : g.heap.links.next node ≠ none ∨ g.heap.links.prev node ≠ none ∨
      ((g.queues .done).head = some node ∧ (g.queues .done).tail = some node))
    (populated : (g.queues .done).head ≠ none)
    (proper : g.heap.links.prev node ≠ some node) :
    unlinkDone (some node) g = (true, { g with
      heap.links.next := Function.update
        (match g.heap.links.prev node with
          | some before => Function.update g.heap.links.next before (g.heap.links.next node)
          | none => g.heap.links.next) node none
      heap.links.prev := Function.update
        (match g.heap.links.next node with
          | some after => Function.update g.heap.links.prev after (g.heap.links.prev node)
          | none => g.heap.links.prev) node none
      queues := Function.update g.queues .done
        { head := match g.heap.links.prev node with
            | some _ => (g.queues .done).head
            | none => g.heap.links.next node
          tail := match g.heap.links.next node with
            | some _ => (g.queues .done).tail
            | none => g.heap.links.prev node
          pending := (g.queues .done).pending - 1
          locked := (g.queues .done).locked } }) := by
  obtain ⟨first, head⟩ := Option.ne_none_iff_exists'.mp populated
  have test : g.heap.links.next node ≠ none ∨ g.heap.links.prev node ≠ none ∨
      (first = node ∧ (g.queues .done).tail = some node) := by
    simpa [head] using entered
  simp only [unlinkDone, head, test, ↓reduceIte]
  cases prev : g.heap.links.prev node with
  | none =>
    cases next : g.heap.links.next node <;> simp [prev, next, setNext, setPrev, setQueue]
  | some before =>
    have apart : before ≠ node := fun same => proper (by rw [prev, same])
    cases next : g.heap.links.next node <;>
      simp [prev, next, head, setNext, setPrev, setQueue, apart.symm]

/-- Removing a node of the done queue succeeds and removes exactly that node,
wherever it stands. A node without neighbours is the only one, so it is head and
tail and passes the third test. -/
theorem unlinkDone_spec {g : Shared} {contents : QueueId → List Addr}
    (represented : Represents g contents) (node : Addr) (member : node ∈ contents .done) :
    (unlinkDone (some node) g).1 = true ∧
      Represents (unlinkDone (some node) g).2
        (Function.update contents .done ((contents .done).erase node)) ∧
      Undisturbed .done g (unlinkDone (some node) g).2 := by
  obtain ⟨front, back, split⟩ := List.append_of_mem member
  obtain ⟨prev, next⟩ := represented.linked .done front node back split
  have whole : (front ++ node :: back).Nodup := split ▸ represented.distinct .done
  have absent : node ∉ front ∧ node ∉ back := by
    have middle := (List.nodup_cons.mp (List.nodup_middle.mp whole)).1
    simpa using middle
  have erased : (contents .done).erase node = front ++ back := by
    rw [split, List.erase_append_right _ absent.1, List.erase_cons_head]
  have head : (g.queues .done).head = (front ++ node :: back).head? :=
    split ▸ represented.head .done
  have tail : (g.queues .done).tail = (front ++ node :: back).getLast? :=
    split ▸ represented.tail .done (Or.inr (by decide))
  have populated : (g.queues .done).head ≠ none := by
    rw [head]
    cases front <;> simp
  have proper : g.heap.links.prev node ≠ some node := by
    rw [prev]
    intro final
    exact absent.1 (List.mem_of_getLast? final)
  have entered : g.heap.links.next node ≠ none ∨ g.heap.links.prev node ≠ none ∨
      ((g.queues .done).head = some node ∧ (g.queues .done).tail = some node) := by
    rw [next, prev, head, tail]
    cases back with
    | cons after behind => simp
    | nil => cases front <;> simp
  have linked := unlinkDone_linked entered populated proper
  refine ⟨by rw [linked], ?_, unlinkDone_undisturbed (some node) g⟩
  rw [linked, erased]
  apply represented.remove .done front back node split
  case others => intro other differs; simp [differs]
  case head =>
    simp only [Function.update_self, prev, next, head]
    rcases List.eq_nil_or_concat front with rfl | ⟨ahead, before, rfl⟩
    · simp
    · simp [List.head?_append]
  case tail =>
    intro _
    simp only [Function.update_self, prev, next, tail]
    cases back <;> simp [List.getLast?_append]
  case pending => simp
  case joinNext =>
    intro before final
    have apart : before ≠ node := fun same => absent.1 (same ▸ List.mem_of_getLast? final)
    simp [prev, next, final, apart]
  case joinPrev =>
    intro after first
    have apart : after ≠ node := fun same => absent.2 (same ▸ List.mem_of_head? first)
    simp [prev, next, first, apart]
  case oldNext =>
    intro other differs notLast
    cases final : front.getLast? with
    | none => simp [prev, final, differs]
    | some before =>
      have apart : other ≠ before := by
        rintro rfl
        exact notLast final
      simp [prev, final, differs, apart]
  case oldPrev =>
    intro other differs notFirst
    cases first : back.head? with
    | none => simp [next, first, differs]
    | some after =>
      have apart : other ≠ after := by
        rintro rfl
        exact notFirst first
      simp [next, first, differs, apart]

/-- The loop of `clearAnIOQueue` over a represented list counts its nodes, clears
both queue variables and changes no link outside the list. -/
theorem clearAnIOQueue_spec (rest : List Addr) (fuel : Nat) (links : Links Addr)
    (tail : Option Addr) (freed : BitVec 64) (enough : rest.length ≤ fuel)
    (distinct : rest.Nodup)
    (chained : ∀ front node back, rest = front ++ node :: back →
      links.next node = back.head?) :
    ∃ changed, clearAnIOQueue fuel links rest.head? tail freed =
        some (freed + BitVec.ofNat 64 rest.length, changed, none, none) ∧
      (∀ other, other ∉ rest → changed.prev other = links.prev other) ∧
      changed.next = links.next := by
  induction rest generalizing fuel links tail freed with
  | nil => exact ⟨links, by cases fuel <;> simp [clearAnIOQueue], fun _ _ => rfl, rfl⟩
  | cons node rest inductionHypothesis =>
    obtain ⟨remaining, rfl⟩ : ∃ remaining, fuel = remaining + 1 :=
      Nat.exists_eq_succ_of_ne_zero (by simp only [List.length_cons] at enough; omega)
    have next : links.next node = rest.head? := chained [] node rest rfl
    have shorter : rest.length ≤ remaining := by simpa using enough
    have unique : rest.Nodup := (List.nodup_cons.mp distinct).2
    have count : freed + 1 + BitVec.ofNat 64 rest.length =
        freed + BitVec.ofNat 64 (rest.length + 1) := by
      rw [BitVec.ofNat_add, BitVec.add_assoc, BitVec.add_comm 1]
      rfl
    have further (front : List Addr) (other : Addr) (back : List Addr)
        (split : rest = front ++ other :: back) : links.next other = back.head? :=
      chained (node :: front) other back (by simp [split])
    cases rest with
    | nil =>
      refine ⟨links, ?_, fun _ _ => rfl, rfl⟩
      simp only [List.head?_cons, clearAnIOQueue, next, List.head?_nil]
      cases remaining <;> rfl
    | cons first others =>
      obtain ⟨changed, completed, oldPrev, oldNext⟩ := inductionHypothesis remaining
        { links with prev := Function.update links.prev first none } tail (freed + 1) shorter
        unique further
      refine ⟨changed, ?_, ?_, oldNext⟩
      · simp only [List.head?_cons] at completed
        simp only [List.head?_cons, clearAnIOQueue, next, completed]
        exact congrArg (fun total => some (total, changed, none, none)) count
      · intro other outside
        have apart : other ≠ first := by
          rintro rfl
          simp at outside
        have away : other ∉ first :: others := fun inside => outside (by simp [inside])
        rw [oldPrev other away]
        simp [apart]

/-- When the variables of a queue are cleared, its counter is lowered by its nodes, and no link of
another node changes, the queue is empty and the others hold what they held. -/
theorem Represents.cleared {g : Shared} {contents : QueueId → List Addr}
    (represented : Represents g contents) (id : QueueId) {links : Links Addr}
    (oldPrev : ∀ node, node ∉ contents id → links.prev node = g.heap.links.prev node)
    (oldNext : links.next = g.heap.links.next) :
    Represents (setQueue id { g.queues id with
        head := none
        tail := none
        pending := (g.queues id).pending - BitVec.ofNat 64 (contents id).length }
      { g with heap.links := links }) (Function.update contents id []) := by
  constructor
  case head =>
    intro other
    by_cases same : other = id
    · subst other; simp [setQueue]
    · simpa [setQueue, same] using represented.head other
  case tail =>
    intro other known
    by_cases same : other = id
    · subst other; simp [setQueue]
    · simp only [Function.update_of_ne same] at known ⊢
      simpa [setQueue, same] using represented.tail other known
  case linked =>
    intro other
    by_cases same : other = id
    · subst other
      simpa only [Function.update_self] using linked_nil _
    · simp only [Function.update_of_ne same]
      apply (represented.linked other).congr
      · intro node listed
        exact oldPrev node (fun inside => same (represented.apart other id node listed inside))
      · intro node _
        exact congrFun oldNext node
  case distinct =>
    intro other
    by_cases same : other = id
    · subst other; simp
    · simpa only [Function.update_of_ne same] using represented.distinct other
  case apart =>
    intro left right node inLeft inRight
    have listed (other : QueueId)
        (present : node ∈ Function.update contents id [] other) : node ∈ contents other := by
      by_cases same : other = id
      · subst other; simp at present
      · simpa only [Function.update_of_ne same] using present
    exact represented.apart left right node (listed left inLeft) (listed right inRight)
  case pending =>
    intro other
    by_cases same : other = id
    · subst other
      simp [setQueue, represented.pending]
    · simpa [setQueue, same] using represented.pending other

/-- Clearing a queue terminates, counts all its nodes and leaves it empty. The other queues are as
they were. -/
theorem clearBody_spec {g : Shared} {contents : QueueId → List Addr}
    (represented : Represents g contents) (id : QueueId) :
    ∃ after, clearBody id g = some (BitVec.ofNat 64 (contents id).length, after) ∧
      Represents after (Function.update contents id []) ∧
      (after.queues id).tail = none ∧ Undisturbed id g after := by
  obtain ⟨changed, completed, oldPrev, oldNext⟩ := clearAnIOQueue_spec (contents id)
    addressCount g.heap.links (g.queues id).tail 0 (represented.length_lt id)
    (represented.distinct id)
    (fun front node back split => (represented.linked id front node back split).2)
  have total : 0 + BitVec.ofNat 64 (contents id).length = BitVec.ofNat 64 (contents id).length :=
    BitVec.zero_add _
  rw [total] at completed
  refine ⟨_, by simp only [clearBody, represented.head id, completed]; rfl,
    represented.cleared id oldPrev oldNext, ?_, ?_⟩
  · simp [setQueue]
  · exact ⟨rfl, rfl, rfl, rfl, fun other differs => by simp [setQueue, differs],
      by simp [setQueue]⟩

end AvocadoMisc.Dwh.QueueContents
