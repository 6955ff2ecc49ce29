import AvocadoMisc.Dwh.QueueContents

/-!
# Laws of the locked queue functions

Each queue function is a critical section around one body. Its law is stated for
every answer of the lock and unlock calls. When the lock is not obtained nothing
changes. Otherwise the body's law holds, and `Passed` says what else may have
changed: only a failed unlock ends the threads and leaves the mutex held. A
function whose mutex is free completes; in particular it neither writes through
null nor loops for ever.
-/

namespace AvocadoMisc.Dwh.QueueLaws

open Library.DoublyLinked Queues QueueContents

/-- The state in which a body runs: as before, with the mutex held. -/
def holding (id : QueueId) (g : Shared) : Shared :=
  setQueue id { g.queues id with locked := true } g

/-- The state after the unlock call. -/
def leaving (id : QueueId) (calls : LockCalls) (g : Shared) : Shared :=
  if calls.unlock then setQueue id { g.queues id with locked := false } g
  else { g with endAllThreads := true }

/-- A completed critical section either failed to lock and did nothing, or ran its
body between lock and unlock. -/
theorem critical_cases {β : Type} {id : QueueId} {calls : LockCalls}
    {body : Shared → Option (β × Shared)} {g after : Shared} {answer : Option (β × Bool)}
    (ran : critical id calls body g = some (answer, after)) :
    (calls.lock = false ∧ answer = none ∧ after = g) ∨
      (calls.lock = true ∧ (g.queues id).locked = false ∧ ∃ result middle,
        body (holding id g) = some (result, middle) ∧
        answer = some (result, calls.unlock) ∧ after = leaving id calls middle) := by
  obtain ⟨lock, unlock⟩ := calls
  cases lock with
  | false =>
    simp only [critical, lockQ, Bool.false_eq_true, ↓reduceIte, Option.bind_eq_bind,
      Option.bind_some, Option.some.injEq, Prod.mk.injEq] at ran
    obtain ⟨rfl, rfl⟩ := ran
    exact Or.inl ⟨rfl, rfl, rfl⟩
  | true =>
    right
    cases held : (g.queues id).locked with
    | true => simp [critical, lockQ, held] at ran
    | false =>
      simp only [critical, lockQ, held, ↓reduceIte, Bool.false_eq_true, Option.bind_eq_bind,
        Option.bind_some] at ran
      change (body (holding id g)).bind _ = _ at ran
      obtain ⟨⟨result, middle⟩, executed, remaining⟩ := Option.bind_eq_some_iff.mp ran
      refine ⟨rfl, rfl, result, middle, executed, ?_⟩
      cases unlock <;>
        simp only [unlockQ, Bool.false_eq_true, ↓reduceIte, Option.some.injEq,
          Prod.mk.injEq] at remaining <;>
        exact ⟨remaining.1.symm, remaining.2.symm⟩

/-- A critical section whose mutex is free completes when its body does. -/
theorem critical_completes {β : Type} {id : QueueId} (calls : LockCalls)
    {body : Shared → Option (β × Shared)} {g middle : Shared} {result : β}
    (free : (g.queues id).locked = false) (executed : body (holding id g) = some (result, middle)) :
    ∃ answer after, critical id calls body g = some (answer, after) := by
  obtain ⟨lock, unlock⟩ := calls
  cases lock with
  | false => exact ⟨none, g, by simp [critical, lockQ]⟩
  | true =>
    refine ⟨some (result, unlock), leaving id ⟨true, unlock⟩ middle, ?_⟩
    simp only [critical, lockQ, free, ↓reduceIte, Bool.false_eq_true, Option.bind_eq_bind,
      Option.bind_some]
    change (body (holding id g)).bind _ = _
    rw [executed]
    cases unlock <;> simp [unlockQ, leaving]

/-- What holds after a critical section. Only a failed unlock ends the threads or
leaves the mutex in another state. -/
structure Passed (id : QueueId) (calls : LockCalls) (g after : Shared) : Prop where
  heap : after.heap = { g.heap with links := after.heap.links }
  sems : after.sems = g.sems
  endAllIo : after.endAllIo = g.endAllIo
  others : ∀ other, other ≠ id → after.queues other = g.queues other
  stopping : g.endAllThreads = true → after.endAllThreads = true
  settled : calls.unlock = true → after.endAllThreads = g.endAllThreads ∧
    (after.queues id).locked = (g.queues id).locked
  held : (after.queues id).locked = true →
    (g.queues id).locked = true ∨ after.endAllThreads = true

/-- Nothing has to change. -/
theorem Passed.refl (id : QueueId) (calls : LockCalls) (g : Shared) : Passed id calls g g :=
  ⟨rfl, rfl, rfl, fun _ _ => rfl, fun stopping => stopping, fun _ => ⟨rfl, rfl⟩, Or.inl⟩

/-- An undisturbed body gives a critical section that only passed. -/
theorem undisturbed_passed {id : QueueId} (calls : LockCalls) {g middle : Shared}
    (free : (g.queues id).locked = false) (kept : Undisturbed id (holding id g) middle) :
    Passed id calls g (leaving id calls middle) := by
  obtain ⟨lock, unlock⟩ := calls
  have heap := kept.heap
  have sems := kept.sems
  have endAllIo := kept.endAllIo
  have endAllThreads := kept.endAllThreads
  simp only [holding, setQueue] at heap sems endAllIo endAllThreads
  have others : ∀ other, other ≠ id → middle.queues other = g.queues other := by
    intro other differs
    simpa [holding, setQueue, differs] using kept.others other differs
  cases unlock with
  | false =>
    exact ⟨heap, sems, endAllIo, others, fun _ => rfl, fun impossible => by simp at impossible,
      fun _ => Or.inr rfl⟩
  | true =>
    refine ⟨heap, sems, endAllIo, ?_, fun stopping => endAllThreads.trans stopping,
      fun _ => ⟨endAllThreads, by simp [leaving, setQueue, free]⟩,
      fun held => by simp [leaving, setQueue] at held⟩
    intro other differs
    simpa [leaving, setQueue, differs] using others other differs

/-- So a critical section around an undisturbed body passes, also when it gets no lock. -/
theorem critical_passed {β : Type} {id : QueueId} {calls : LockCalls}
    {body : Shared → Option (β × Shared)} {g after : Shared} {answer : Option (β × Bool)}
    (ran : critical id calls body g = some (answer, after))
    (kept : ∀ result middle, body (holding id g) = some (result, middle) →
      Undisturbed id (holding id g) middle) : Passed id calls g after := by
  rcases critical_cases ran with ⟨_, _, rfl⟩ | ⟨_, free, result, middle, executed, _, rfl⟩
  · exact .refl ..
  · exact undisturbed_passed calls free (kept result middle executed)

/-- Taking the lock leaves the represented lists as they are. -/
theorem represents_holding {g : Shared} {contents : QueueId → List Addr}
    (represented : Represents g contents) (id : QueueId) : Represents (holding id g) contents := by
  have links : (holding id g).heap.links = g.heap.links := rfl
  apply represented.congr links <;> intro other <;> by_cases same : other = id <;>
    simp [holding, setQueue, same]

/-- So does the unlock call. -/
theorem represents_leaving {g : Shared} {contents : QueueId → List Addr}
    (represented : Represents g contents) (id : QueueId) (calls : LockCalls) :
    Represents (leaving id calls g) contents := by
  obtain ⟨lock, unlock⟩ := calls
  cases unlock with
  | false => exact represented.congr rfl (fun _ => rfl) (fun _ => rfl) (fun _ => rfl)
  | true =>
    have links : (leaving id ⟨lock, true⟩ g).heap.links = g.heap.links := rfl
    apply represented.congr links <;> intro other <;> by_cases same : other = id <;>
      simp [leaving, setQueue, same]

/-- The unlock call touches no tail. -/
theorem leaving_tail (id other : QueueId) (calls : LockCalls) (g : Shared) :
    ((leaving id calls g).queues other).tail = (g.queues other).tail := by
  obtain ⟨lock, unlock⟩ := calls
  cases unlock <;> by_cases same : other = id <;> simp [leaving, setQueue, same]

/-- Nor any head. -/
theorem leaving_head (id other : QueueId) (calls : LockCalls) (g : Shared) :
    ((leaving id calls g).queues other).head = (g.queues other).head := by
  obtain ⟨lock, unlock⟩ := calls
  cases unlock <;> by_cases same : other = id <;> simp [leaving, setQueue, same]

/-- A body's law carries over to its critical section. -/
theorem critical_law {β : Type} {id : QueueId} {calls : LockCalls}
    {body : Shared → Option (β × Shared)} {g after : Shared} {answer : Option (β × Bool)}
    {contents updated : QueueId → List Addr} (Answers : β → Prop)
    (represented : Represents g contents)
    (law : ∀ inside, Represents inside contents → ∃ result middle,
      body inside = some (result, middle) ∧ Answers result ∧ Represents middle updated ∧
        Undisturbed id inside middle)
    (ran : critical id calls body g = some (answer, after)) :
    (calls.lock = false ∧ answer = none ∧ after = g) ∨
      (calls.lock = true ∧ ∃ result, answer = some (result, calls.unlock) ∧ Answers result ∧
        Represents after updated ∧ Passed id calls g after) := by
  rcases critical_cases ran with failed | ⟨lock, free, result, middle, executed, answered, rfl⟩
  · exact Or.inl failed
  · obtain ⟨expected, state, same, answers, holds, kept⟩ :=
      law (holding id g) (represents_holding represented id)
    obtain ⟨rfl, rfl⟩ : expected = result ∧ state = middle := by
      simpa [same] using executed
    exact Or.inr ⟨lock, expected, answered, answers, represents_leaving holds id calls,
      undisturbed_passed calls free kept⟩

/-! ### One law for each function -/

/-- The law of the two functions that take a head. -/
def Took (id : QueueId) (calls : LockCalls) (contents : QueueId → List Addr) (g : Shared)
    (result : Option Addr) (after : Shared) : Prop :=
  (calls.lock = false ∧ result = none ∧ after = g) ∨
    (calls.lock = true ∧ result = (contents id).head? ∧
      Represents after (Function.update contents id (contents id).tail) ∧ Passed id calls g after)

/-- A critical section around `takeHead` obeys it. -/
theorem takeHead_law {id : QueueId} {clearsTail : Bool} (clears : clearsTail = true ∨ id = .write)
    {calls : LockCalls} {contents : QueueId → List Addr} {g after : Shared}
    {answer : Option (Option Addr × Bool)} (represented : Represents g contents)
    (ran : critical id calls (fun g => some (takeHead id clearsTail g)) g = some (answer, after)) :
    Took id calls contents g (answer.bind (fun result => result.1)) after := by
  have law := critical_law (fun result => result = (contents id).head?) represented
    (fun inside holds => by
      obtain ⟨taken, rest, kept⟩ := takeHead_spec holds id clearsTail clears
      exact ⟨_, _, rfl, taken, rest, kept⟩) ran
  rcases law with ⟨lock, rfl, rfl⟩ | ⟨lock, result, rfl, taken, rest, passed⟩
  · exact Or.inl ⟨lock, rfl, rfl⟩
  · exact Or.inr ⟨lock, taken, rest, passed⟩

/-- `getIOReadNode` takes the first node of the read queue. -/
theorem getIOReadNode_law {calls : LockCalls} {contents : QueueId → List Addr}
    {g after : Shared} {result : Option Addr} (represented : Represents g contents)
    (ran : getIOReadNode calls g = some (result, after)) :
    Took .read calls contents g result after := by
  simp only [getIOReadNode, takeReadHead_eq, Option.bind_eq_bind, Option.bind_eq_some_iff,
    Option.some.injEq] at ran
  obtain ⟨⟨answer, state⟩, executed, same⟩ := ran
  obtain ⟨rfl, rfl⟩ := Prod.mk.inj same
  exact takeHead_law (Or.inl rfl) represented executed

/-- `getIOWriteNode` takes the first node of the write queue. -/
theorem getIOWriteNode_law {calls : LockCalls} {contents : QueueId → List Addr}
    {g after : Shared} {result : Option Addr} (represented : Represents g contents)
    (ran : getIOWriteNode calls g = some (result, after)) :
    Took .write calls contents g result after := by
  simp only [getIOWriteNode, takeWriteHead_eq, Option.bind_eq_bind, Option.bind_eq_some_iff,
    Option.some.injEq] at ran
  obtain ⟨⟨answer, state⟩, executed, same⟩ := ran
  obtain ⟨rfl, rfl⟩ := Prod.mk.inj same
  exact takeHead_law (Or.inr rfl) represented executed

/-- With its mutex free, `getIOReadNode` completes. -/
theorem getIOReadNode_completes (calls : LockCalls) {g : Shared}
    (free : (g.queues .read).locked = false) :
    ∃ result after, getIOReadNode calls g = some (result, after) := by
  have inside : ∃ answer after, critical .read calls (fun g => some (takeReadHead g)) g =
      some (answer, after) := critical_completes calls free rfl
  obtain ⟨answer, after, executed⟩ := inside
  exact ⟨_, after, by simp only [getIOReadNode, executed]; rfl⟩

/-- With its mutex free, `getIOWriteNode` completes. -/
theorem getIOWriteNode_completes (calls : LockCalls) {g : Shared}
    (free : (g.queues .write).locked = false) :
    ∃ result after, getIOWriteNode calls g = some (result, after) := by
  have inside : ∃ answer after, critical .write calls (fun g => some (takeWriteHead g)) g =
      some (answer, after) := critical_completes calls free rfl
  obtain ⟨answer, after, executed⟩ := inside
  exact ⟨_, after, by simp only [getIOWriteNode, executed]; rfl⟩

/-- The two functions that take a request, under one law. -/
theorem getIONode_law {direction : Direction} {calls : LockCalls}
    {contents : QueueId → List Addr} {g after : Shared} {result : Option Addr}
    (represented : Represents g contents)
    (ran : getIONode direction calls g = some (result, after)) :
    Took direction.queue calls contents g result after := by
  cases direction with
  | read => exact getIOReadNode_law represented ran
  | write => exact getIOWriteNode_law represented ran

/-- With its mutex free, either of them completes. -/
theorem getIONode_completes (direction : Direction) (calls : LockCalls) {g : Shared}
    (free : (g.queues direction.queue).locked = false) :
    ∃ result after, getIONode direction calls g = some (result, after) := by
  cases direction with
  | read => exact getIOReadNode_completes calls free
  | write => exact getIOWriteNode_completes calls free

/-- `getIOWriteNode` never assigns the tail. -/
theorem getIOWriteNode_tail {calls : LockCalls} {g after : Shared} {result : Option Addr}
    (ran : getIOWriteNode calls g = some (result, after)) :
    (after.queues .write).tail = (g.queues .write).tail := by
  simp only [getIOWriteNode, takeWriteHead_eq, Option.bind_eq_bind, Option.bind_eq_some_iff,
    Option.some.injEq] at ran
  obtain ⟨⟨answer, state⟩, executed, same⟩ := ran
  obtain ⟨_, rfl⟩ := Prod.mk.inj same
  rcases critical_cases executed with ⟨_, _, rfl⟩ | ⟨_, _, taken, middle, body, _, rfl⟩
  · rfl
  · have stale := takeHead_keeps_tail .write (holding .write g)
    rw [Option.some.inj body] at stale
    rw [leaving_tail, stale]
    simp [holding, setQueue]

/-- A request function that was admitted appends its node. It answers true exactly
when lock and unlock succeeded; after a failed unlock the node is queued although
the answer is false. -/
theorem queueIOAdmitted_law {id : QueueId} {calls : LockCalls} {contents : QueueId → List Addr}
    {g after : Shared} {node : Addr} {result : Bool} (represented : Represents g contents)
    (fresh : ∀ other, node ∉ contents other)
    (ran : queueIOAdmitted id calls (some node) g = some (result, after)) :
    (calls.lock = false ∧ result = false ∧ after = g) ∨
      (calls.lock = true ∧ result = calls.unlock ∧
        Represents after (Function.update contents id (contents id ++ [node])) ∧
        Passed id calls g after) := by
  simp only [queueIOAdmitted, Option.bind_eq_bind, Option.bind_eq_some_iff] at ran
  obtain ⟨⟨answer, state⟩, executed, same⟩ := ran
  have law := critical_law (fun _ => True) represented
    (fun inside holds => by
      obtain ⟨linked, appended, rest, kept⟩ := linkTail_spec holds id node fresh
      exact ⟨(), linked, by rw [appended]; rfl, trivial, rest, kept⟩) executed
  rcases law with ⟨lock, rfl, rfl⟩ | ⟨lock, _, rfl, _, rest, passed⟩
  · simp only [Option.some.injEq, Prod.mk.injEq] at same
    exact Or.inl ⟨lock, same.1.symm, same.2.symm⟩
  · simp only [Option.some.injEq, Prod.mk.injEq] at same
    exact Or.inr ⟨lock, same.1.symm, same.2 ▸ rest, same.2 ▸ passed⟩

/-- With its mutex free, an admitted request function completes. -/
theorem queueIOAdmitted_completes {id : QueueId} (calls : LockCalls)
    {contents : QueueId → List Addr} {g : Shared} {node : Addr}
    (represented : Represents g contents) (fresh : ∀ other, node ∉ contents other)
    (free : (g.queues id).locked = false) :
    ∃ result after, queueIOAdmitted id calls (some node) g = some (result, after) := by
  obtain ⟨linked, appended, _⟩ := linkTail_spec (represents_holding represented id) id node fresh
  have inside : ∃ answer after, critical id calls
      (fun g => (linkTail id node g).map (fun g => ((), g))) g = some (answer, after) :=
    critical_completes calls free (by rw [appended]; rfl)
  obtain ⟨answer, after, executed⟩ := inside
  rcases answer with _ | ⟨_, released⟩
  · exact ⟨false, after, by simp only [queueIOAdmitted, executed]; rfl⟩
  · exact ⟨released, after, by simp only [queueIOAdmitted, executed]; rfl⟩

/-- A request function outside the shutdown is the admitted one. -/
theorem queueIORequest_eq (direction : Direction) (calls : LockCalls) (node : Option Addr)
    (g : Shared) : queueIORequest direction calls node g =
      if g.endAllIo then some (false, g) else queueIOAdmitted direction.queue calls node g := by
  cases direction <;> rfl

/-- Waking the owner touches one semaphore and perhaps the end-all flag. -/
theorem represents_wakeOwner {g : Shared} {contents : QueueId → List Addr}
    (represented : Represents g contents) (post : Bool) (node : Addr) :
    Represents (wakeOwner post node g) contents := by
  unfold wakeOwner semPost
  split
  · split <;> exact represented.congr rfl (fun _ => rfl) (fun _ => rfl) (fun _ => rfl)
  · exact represented

/-- The unlock call and waking the owner can be exchanged. -/
theorem leaving_wakeOwner (id : QueueId) (calls : LockCalls) (post : Bool) (node : Addr)
    (g : Shared) :
    leaving id calls (wakeOwner post node g) = wakeOwner post node (leaving id calls g) := by
  obtain ⟨lock, unlock⟩ := calls
  cases woken : g.heap.mySem node <;> cases post <;> cases unlock <;>
    simp [wakeOwner, semPost, leaving, setQueue, woken]

/-- `queueIODone` appends its node and then wakes the owner. -/
theorem queueIODone_law {calls : LockCalls} {post : Bool} {contents : QueueId → List Addr}
    {g after : Shared} {node : Addr} {result : Bool} (represented : Represents g contents)
    (fresh : ∀ other, node ∉ contents other)
    (ran : queueIODone calls post (some node) g = some (result, after)) :
    (calls.lock = false ∧ result = false ∧ after = g) ∨
      (calls.lock = true ∧ result = calls.unlock ∧ ∃ linked,
        after = wakeOwner post node linked ∧
        Represents linked (Function.update contents .done (contents .done ++ [node])) ∧
        Passed .done calls g linked) := by
  simp only [queueIODone, Option.bind_eq_bind, Option.bind_eq_some_iff] at ran
  obtain ⟨⟨answer, state⟩, executed, same⟩ := ran
  rcases critical_cases executed with ⟨lock, rfl, rfl⟩ | ⟨lock, free, _, middle, body, rfl, rfl⟩
  · simp only [Option.some.injEq, Prod.mk.injEq] at same
    exact Or.inl ⟨lock, same.1.symm, same.2.symm⟩
  · simp only [Option.some.injEq, Prod.mk.injEq] at same body
    obtain ⟨rfl, rfl⟩ := same
    obtain ⟨linked, appended, rest, kept⟩ :=
      linkTail_spec (represents_holding represented .done) .done node fresh
    refine Or.inr ⟨lock, rfl, leaving .done calls linked, ?_,
      represents_leaving rest .done calls, undisturbed_passed calls free kept⟩
    rw [← body.2, linkDone_eq appended, leaving_wakeOwner]

/-- With its mutex free, `queueIODone` completes. -/
theorem queueIODone_completes (calls : LockCalls) (post : Bool) {g : Shared} (node : Addr)
    (free : (g.queues .done).locked = false) :
    ∃ result after, queueIODone calls post (some node) g = some (result, after) := by
  have inside : ∃ answer after, critical .done calls
      (fun g => some ((), wakeOwner post node (linkDone node g))) g = some (answer, after) :=
    critical_completes calls free rfl
  obtain ⟨answer, after, executed⟩ := inside
  rcases answer with _ | ⟨_, released⟩
  · exact ⟨false, after, by simp only [queueIODone, executed]; rfl⟩
  · exact ⟨released, after, by simp only [queueIODone, executed]; rfl⟩

/-- `getIODoneNode` removes a node that is on the done queue. The answer does not
depend on the unlock call. -/
theorem getIODoneNode_law {calls : LockCalls} {contents : QueueId → List Addr}
    {g after : Shared} {node : Addr} {result : Bool} (represented : Represents g contents)
    (member : node ∈ contents .done)
    (ran : getIODoneNode calls (some node) g = some (result, after)) :
    (calls.lock = false ∧ result = false ∧ after = g) ∨
      (calls.lock = true ∧ result = true ∧
        Represents after (Function.update contents .done ((contents .done).erase node)) ∧
        Passed .done calls g after) := by
  simp only [getIODoneNode, Option.bind_eq_bind, Option.bind_eq_some_iff] at ran
  obtain ⟨⟨answer, state⟩, executed, same⟩ := ran
  have law := critical_law (fun removed => removed = true) represented
    (fun inside holds => by
      obtain ⟨removed, rest, kept⟩ := unlinkDone_spec holds node member
      exact ⟨_, _, rfl, removed, rest, kept⟩) executed
  rcases law with ⟨lock, rfl, rfl⟩ | ⟨lock, removed, rfl, holds, rest, passed⟩
  · simp only [Option.some.injEq, Prod.mk.injEq] at same
    exact Or.inl ⟨lock, same.1.symm, same.2.symm⟩
  · simp only [Option.some.injEq, Prod.mk.injEq] at same
    exact Or.inr ⟨lock, same.1.symm.trans holds, same.2 ▸ rest, same.2 ▸ passed⟩

/-- With its mutex free, `getIODoneNode` completes. -/
theorem getIODoneNode_completes (calls : LockCalls) {g : Shared} (node : Option Addr)
    (free : (g.queues .done).locked = false) :
    ∃ result after, getIODoneNode calls node g = some (result, after) := by
  have inside : ∃ answer after, critical .done calls (fun g => some (unlinkDone node g)) g =
      some (answer, after) := critical_completes calls free rfl
  obtain ⟨answer, after, executed⟩ := inside
  rcases answer with _ | ⟨removed, _⟩
  · exact ⟨false, after, by simp only [getIODoneNode, executed]; rfl⟩
  · exact ⟨removed, after, by simp only [getIODoneNode, executed]; rfl⟩

/-- The emptiness tests answer exactly, by the head or, when the lock fails, by
the pending counter. -/
theorem isQEmpty_law {id : QueueId} {calls : LockCalls} {contents : QueueId → List Addr}
    {g after : Shared} {result : Bool} (represented : Represents g contents)
    (ran : isQEmpty id calls g = some (result, after)) :
    (result = true ↔ contents id = []) ∧ Represents after contents ∧ Passed id calls g after := by
  simp only [isQEmpty, Option.bind_eq_bind, Option.bind_eq_some_iff] at ran
  obtain ⟨⟨answer, state⟩, executed, same⟩ := ran
  have law := critical_law (fun empty => empty = (contents id).isEmpty) represented
    (fun inside holds => by
      refine ⟨_, _, rfl, ?_, holds, rfl, rfl, rfl, rfl, fun _ _ => rfl, rfl⟩
      rw [holds.head id]
      cases contents id <;> rfl) executed
  rcases law with ⟨lock, rfl, rfl⟩ | ⟨lock, empty, rfl, exact, rest, passed⟩
  · simp only [Option.some.injEq, Prod.mk.injEq] at same
    obtain ⟨rfl, rfl⟩ := same
    refine ⟨?_, represented, .refl ..⟩
    rw [beq_iff_eq, ← BitVec.toNat_inj, represented.pending_eq id]
    exact List.length_eq_zero_iff
  · simp only [Option.some.injEq, Prod.mk.injEq] at same
    obtain ⟨rfl, rfl⟩ := same
    exact ⟨by rw [exact, List.isEmpty_iff], rest, passed⟩

/-- With its mutex free, an emptiness test completes. -/
theorem isQEmpty_completes (id : QueueId) (calls : LockCalls) {g : Shared}
    (free : (g.queues id).locked = false) :
    ∃ result after, isQEmpty id calls g = some (result, after) := by
  have inside : ∃ answer after, critical id calls
      (fun g => some ((g.queues id).head.isNone, g)) g = some (answer, after) :=
    critical_completes calls free rfl
  obtain ⟨answer, after, executed⟩ := inside
  rcases answer with _ | ⟨empty, _⟩
  · exact ⟨_, after, by simp only [isQEmpty, executed]; rfl⟩
  · exact ⟨empty, after, by simp only [isQEmpty, executed]; rfl⟩

/-- A clear function empties its queue and clears its tail. -/
theorem clearQ_law {id : QueueId} {calls : LockCalls} {contents : QueueId → List Addr}
    {g after : Shared} (represented : Represents g contents)
    (ran : clearQ id calls g = some after) :
    (calls.lock = false ∧ after = g) ∨
      (calls.lock = true ∧ Represents after (Function.update contents id []) ∧
        (after.queues id).tail = none ∧ Passed id calls g after) := by
  simp only [clearQ, Option.bind_eq_bind, Option.bind_eq_some_iff, Option.some.injEq] at ran
  obtain ⟨⟨answer, state⟩, executed, rfl⟩ := ran
  rcases critical_cases executed with ⟨lock, _, rfl⟩ | ⟨lock, free, freed, middle, body, _, rfl⟩
  · exact Or.inl ⟨lock, rfl⟩
  · obtain ⟨cleared, completed, rest, tail, kept⟩ :=
      clearBody_spec (represents_holding represented id) id
    obtain ⟨rfl, rfl⟩ : BitVec.ofNat 64 (contents id).length = freed ∧ cleared = middle := by
      simpa [completed] using body
    exact Or.inr ⟨lock, represents_leaving rest id calls, (leaving_tail id id calls _).trans tail,
      undisturbed_passed calls free kept⟩

/-- With its mutex free, a clear function terminates. -/
theorem clearQ_completes {id : QueueId} (calls : LockCalls) {contents : QueueId → List Addr}
    {g : Shared} (represented : Represents g contents) (free : (g.queues id).locked = false) :
    ∃ after, clearQ id calls g = some after := by
  obtain ⟨cleared, completed, _⟩ := clearBody_spec (represents_holding represented id) id
  obtain ⟨answer, after, executed⟩ := critical_completes calls free completed
  exact ⟨after, by simp only [clearQ, executed]; rfl⟩

/-! ### What the functions leave alone, whatever the queues hold -/

/-- Both functions that take a request run the same body. -/
theorem getIONode_ran {direction : Direction} {calls : LockCalls} {g after : Shared}
    {result : Option Addr} (ran : getIONode direction calls g = some (result, after)) :
    ∃ clearsTail answer, critical direction.queue calls
        (fun g => some (takeHead direction.queue clearsTail g)) g = some (answer, after) ∧
      result = answer.bind fun taken => taken.1 := by
  cases direction with
  | read =>
    simp only [getIONode, getIOReadNode, takeReadHead_eq, Option.bind_eq_bind,
      Option.bind_eq_some_iff, Option.some.injEq] at ran
    obtain ⟨⟨answer, state⟩, executed, same⟩ := ran
    obtain ⟨rfl, rfl⟩ := Prod.mk.inj same
    exact ⟨true, answer, executed, rfl⟩
  | write =>
    simp only [getIONode, getIOWriteNode, takeWriteHead_eq, Option.bind_eq_bind,
      Option.bind_eq_some_iff, Option.some.injEq] at ran
    obtain ⟨⟨answer, state⟩, executed, same⟩ := ran
    obtain ⟨rfl, rfl⟩ := Prod.mk.inj same
    exact ⟨false, answer, executed, rfl⟩

/-- Taking a request passes. -/
theorem getIONode_passed {direction : Direction} {calls : LockCalls} {g after : Shared}
    {result : Option Addr} (ran : getIONode direction calls g = some (result, after)) :
    Passed direction.queue calls g after := by
  obtain ⟨clearsTail, _, executed, _⟩ := getIONode_ran ran
  refine critical_passed executed fun taken middle body => ?_
  have undisturbed := takeHead_undisturbed direction.queue clearsTail (holding direction.queue g)
  rwa [Option.some.inj body] at undisturbed

/-- From a queue without a head nothing is taken. -/
theorem getIONode_empty {direction : Direction} {calls : LockCalls} {g after : Shared}
    {result : Option Addr} (ran : getIONode direction calls g = some (result, after))
    (empty : (g.queues direction.queue).head = none) :
    result = none ∧ (after.queues direction.queue).head = none := by
  obtain ⟨clearsTail, answer, executed, rfl⟩ := getIONode_ran ran
  have inside : ((holding direction.queue g).queues direction.queue).head = none := by
    simpa [holding, setQueue] using empty
  rcases critical_cases executed with ⟨_, rfl, rfl⟩ | ⟨_, _, taken, middle, body, rfl, rfl⟩
  · exact ⟨rfl, empty⟩
  · simp only [takeHead, inside, Option.some.injEq, Prod.mk.injEq] at body
    obtain ⟨rfl, rfl⟩ := body
    exact ⟨rfl, (leaving_head ..).trans inside⟩

/-- So does queueing an admitted one. -/
theorem queueIOAdmitted_passed {id : QueueId} {calls : LockCalls} {g after : Shared} {node : Addr}
    {result : Bool} (ran : queueIOAdmitted id calls (some node) g = some (result, after)) :
    Passed id calls g after := by
  simp only [queueIOAdmitted, Option.bind_eq_bind, Option.bind_eq_some_iff] at ran
  obtain ⟨⟨answer, state⟩, executed, same⟩ := ran
  have passed : Passed id calls g state := by
    refine critical_passed executed fun _ middle body => ?_
    obtain ⟨linked, entered, same⟩ := Option.map_eq_some_iff.mp body
    obtain ⟨_, rfl⟩ := Prod.mk.inj same
    exact linkTail_undisturbed entered
  cases answer <;> (obtain ⟨_, rfl⟩ := Prod.mk.inj (Option.some.inj same); exact passed)

/-- And collecting a finished one. -/
theorem getIODoneNode_passed {calls : LockCalls} {g after : Shared} {node : Option Addr}
    {result : Bool} (ran : getIODoneNode calls node g = some (result, after)) :
    Passed .done calls g after := by
  simp only [getIODoneNode, Option.bind_eq_bind, Option.bind_eq_some_iff] at ran
  obtain ⟨⟨answer, state⟩, executed, same⟩ := ran
  have passed : Passed .done calls g state := by
    refine critical_passed executed fun removed middle body => ?_
    have undisturbed := unlinkDone_undisturbed node (holding .done g)
    rwa [Option.some.inj body] at undisturbed
  cases answer <;> (obtain ⟨_, rfl⟩ := Prod.mk.inj (Option.some.inj same); exact passed)

/-- `getIODoneNode` puts nothing on an empty done queue. -/
theorem getIODoneNode_empty {calls : LockCalls} {g after : Shared} {node : Option Addr}
    {result : Bool} (ran : getIODoneNode calls node g = some (result, after))
    (empty : (g.queues .done).head = none) : (after.queues .done).head = none := by
  simp only [getIODoneNode, Option.bind_eq_bind, Option.bind_eq_some_iff] at ran
  obtain ⟨⟨answer, state⟩, executed, same⟩ := ran
  have inside : ((holding .done g).queues .done).head = none := by
    simpa [holding, setQueue] using empty
  have head : (state.queues .done).head = none := by
    rcases critical_cases executed with ⟨_, _, rfl⟩ | ⟨_, _, removed, middle, body, _, rfl⟩
    · exact empty
    · cases node <;> simp only [unlinkDone, inside, Option.some.injEq, Prod.mk.injEq] at body <;>
        (obtain ⟨_, rfl⟩ := body; exact (leaving_head ..).trans inside)
  cases answer <;> (obtain ⟨_, rfl⟩ := Prod.mk.inj (Option.some.inj same); exact head)

/-- `queueIODone` passes, and then wakes the owner unless it got no lock. -/
theorem queueIODone_passed {calls : LockCalls} {post : Bool} {g after : Shared} {node : Addr}
    {result : Bool} (ran : queueIODone calls post (some node) g = some (result, after)) :
    ∃ linked, Passed .done calls g linked ∧
      (after = linked ∨ after = wakeOwner post node linked) := by
  simp only [queueIODone, Option.bind_eq_bind, Option.bind_eq_some_iff] at ran
  obtain ⟨⟨answer, state⟩, executed, same⟩ := ran
  rcases critical_cases executed with ⟨_, rfl, rfl⟩ | ⟨_, free, _, middle, body, rfl, rfl⟩
  · obtain ⟨_, rfl⟩ := Prod.mk.inj (Option.some.inj same)
    exact ⟨_, .refl .., Or.inl rfl⟩
  · obtain ⟨_, rfl⟩ := Prod.mk.inj (Option.some.inj same)
    obtain ⟨_, rfl⟩ := Prod.mk.inj (Option.some.inj body)
    exact ⟨leaving .done calls (linkDone node (holding .done g)),
      undisturbed_passed calls free (linkDone_undisturbed node _),
      Or.inr (leaving_wakeOwner .done calls post node _)⟩

/-- An emptiness test passes, keeps every head, and decides by the head if it got the
lock and by the pending counter if not. -/
theorem isQEmpty_passed {id : QueueId} {calls : LockCalls} {g after : Shared} {result : Bool}
    (ran : isQEmpty id calls g = some (result, after)) :
    Passed id calls g after ∧ (∀ other, (after.queues other).head = (g.queues other).head) ∧
      result = if calls.lock then (g.queues id).head.isNone else (g.queues id).pending == 0 := by
  simp only [isQEmpty, Option.bind_eq_bind, Option.bind_eq_some_iff] at ran
  obtain ⟨⟨answer, state⟩, executed, same⟩ := ran
  rcases critical_cases executed with ⟨lock, rfl, rfl⟩ | ⟨lock, free, _, middle, body, rfl, rfl⟩
  · obtain ⟨rfl, rfl⟩ := Prod.mk.inj (Option.some.inj same)
    exact ⟨.refl .., fun _ => rfl, by rw [lock]; rfl⟩
  · obtain ⟨rfl, rfl⟩ := Prod.mk.inj (Option.some.inj body)
    obtain ⟨rfl, rfl⟩ := Prod.mk.inj (Option.some.inj same)
    refine ⟨undisturbed_passed calls free (.refl ..), fun other => ?_, ?_⟩
    · rw [leaving_head]
      by_cases here : other = id <;> simp [holding, setQueue, here]
    · simp [lock, holding, setQueue]

end AvocadoMisc.Dwh.QueueLaws
