import AvocadoMisc.Dwh.ShutdownDrain

/-!
# Buffers and nodes of a worker that leaves

A worker that hands in a request marks its buffer as queued, whatever the request function
answered, and frees a buffer at the end only without that mark. So all buffers that outlive
their worker belong to a node that outlives it too: that holds in every run.

Whether the node is still under way is another question. A refused request, or one whose
lock failed, is on no queue, and nobody frees its node or its buffer. In runs without
these, the hand-off keeps every node of a worker that left on a queue or in the hands of
an I/O thread.
-/

namespace AvocadoMisc.Dwh.BufferRelease

open Library.Transitions Library.Handoff
open VerifySettings Queues QueueLaws Transfers IoSystem IoEffects
open HandoffSimulation CompletionHandoff ShutdownDrain

variable {W I : Type}

/-- A worker behind its loop, after it freed what it frees. -/
def left : WorkerPc → Bool
  | .destroying | .finishing | .released | .returned => true
  | _ => false

/-- The node is on a queue, or an I/O thread has it. -/
def UnderWay (state : System W I) (node : Addr) : Prop := ∃ place : Place I, At state node place

/-- What a worker allocated and did not free is a node under way and that node's buffer. -/
structure Released (state : System W I) (who : W) : Prop where
  nodes : ∀ node, state.nodeOwner node = some who → UnderWay state node
  buffers : ∀ mem, state.bufOwner mem = some who → ∃ node, state.nodeOwner node = some who ∧
    state.shared.heap.ioBuffer node = some mem ∧ UnderWay state node

/-! ### Buffers and nodes -/

/-- The worker allocated the node for its buffer. -/
def Backs (state : System W I) (who : W) (worker : Worker) (node : Addr) : Prop :=
  state.nodeOwner node = some who ∧ state.shared.heap.ioBuffer node = worker.myMem

/-- What a worker's place says about its buffer and the mark that it is queued. -/
def Marks (state : System W I) (who : W) (worker : Worker) : Prop :=
  match worker.pc with
  | .absent | .created | .counted => worker.myMem = none
  | .looping => worker.memQueued = true →
      state.shared.endAllThreads = true ∧ ∃ node, Backs state who worker node
  | .active => worker.memQueued = false
  | .submitting node _ | .admitted node _ =>
      worker.memQueued = false ∧ Backs state who worker node
  | .waiting node _ | .testing node _ | .collecting node _ =>
      worker.memQueued = true ∧ Backs state who worker node
  | .closing => worker.memQueued = true → ∃ node, Backs state who worker node
  | .destroying | .finishing | .released | .returned =>
      worker.myMem = none ∨ ∃ node, Backs state who worker node

/-- A worker's buffer is the one it allocated, and its place is right about it. -/
structure Kept (state : System W I) : Prop where
  owned : ∀ mem who, state.bufOwner mem = some who ↔ (state.workers who).myMem = some mem
  marks : ∀ who, Marks state who (state.workers who)

/-- The nodes of the workers in question stay theirs, with their buffers, and threads that
are ending go on ending. -/
structure Frame (Others : W → Prop) (state after : System W I) : Prop where
  nodes : ∀ node other, Others other → state.nodeOwner node = some other →
    after.nodeOwner node = some other ∧
      after.shared.heap.ioBuffer node = state.shared.heap.ioBuffer node
  grows : state.shared.endAllThreads = true → after.shared.endAllThreads = true

section Proofs

variable {settings : Settings} {state after : System W I}

/-- A step that leaves the nodes is a frame for every worker. -/
theorem frame_of_same {Others : W → Prop} (owner : after.nodeOwner = state.nodeOwner)
    (ioBuffer : after.shared.heap.ioBuffer = state.shared.heap.ioBuffer)
    (grows : state.shared.endAllThreads = true → after.shared.endAllThreads = true) :
    Frame Others state after :=
  ⟨fun node other _ owned => ⟨by rw [owner, owned], by rw [ioBuffer]⟩, grows⟩

/-- A node goes on backing its buffer. -/
theorem Backs.frame {Others : W → Prop} (frame : Frame Others state after) {who : W}
    (other : Others who) {worker : Worker} {node : Addr} (backs : Backs state who worker node) :
    Backs after who worker node := by
  obtain ⟨owner, ioBuffer⟩ := frame.nodes node who other backs.1
  exact ⟨owner, ioBuffer.trans backs.2⟩

/-- What a place says is not changed by the others. -/
theorem Marks.frame {Others : W → Prop} (frame : Frame Others state after) {who : W}
    (other : Others who) {worker : Worker} (marks : Marks state who worker) :
    Marks after who worker := by
  have some_backs (backed : ∃ node, Backs state who worker node) :
      ∃ node, Backs after who worker node := backed.imp fun _ backs => backs.frame frame other
  obtain ⟨pc, slot, myMem, sz, memQueued, endMe⟩ := worker
  cases pc with
  | looping => exact fun queued => (marks queued).imp frame.grows some_backs
  | submitting node iotype | admitted node iotype | waiting node iotype | testing node iotype
  | collecting node iotype => exact ⟨marks.1, marks.2.frame frame other⟩
  | closing => exact fun queued => some_backs (marks queued)
  | destroying | finishing | released | returned => exact marks.imp_right some_backs
  | absent | created | counted | active => exact marks

/-- A step that moves no worker and leaves the nodes and buffers. -/
theorem Kept.frame (kept : Kept state) (workers : after.workers = state.workers)
    (bufOwner : after.bufOwner = state.bufOwner) (frame : Frame (fun _ => True) state after) :
    Kept after := by
  refine ⟨fun mem who => ?_, fun who => ?_⟩
  · rw [workers, bufOwner]
    exact kept.owned mem who
  · rw [workers]
    exact (kept.marks who).frame frame trivial

/-- A worker that moves on keeps its node for its buffer. It gives up only when the
threads are ending. -/
theorem marks_of_moves {who : W} {act : WorkerAct} {pc : WorkerPc} {sz : BitVec 64}
    {memQueued endMe : Bool}
    (move : Moves state.shared (state.workers who) act pc memQueued)
    (marks : Marks state who (state.workers who)) :
    Marks state who { state.workers who with
      pc := pc, sz := sz, memQueued := memQueued, endMe := endMe } := by
  cases move with
  | count place => simpa only [Marks, place] using marks
  | start place running =>
    simp only [Marks, place, running, Bool.false_eq_true, false_and, imp_false] at marks
    exact Bool.eq_false_iff.mpr marks
  | stop place =>
    simp only [Marks, place] at marks
    exact fun queued => (marks queued).2
  | idle _ place =>
    simp only [Marks, place] at marks
    exact fun queued => absurd (marks.symm.trans queued) Bool.false_ne_true
  | refuse node iotype place stopped =>
    simp only [Marks, place] at marks
    exact ⟨rfl, marks.2⟩
  | giveUp node iotype place stopping =>
    simp only [Marks, place] at marks
    exact fun _ => ⟨stopping, node, marks.2⟩
  | keep place kept =>
    simp only [Marks, place] at marks
    exact kept.imp_right marks
  | enter node iotype place _ | miss _ node iotype place | retry node iotype place
  | release place | uncount place =>
    simp only [Marks, place] at marks
    exact marks

section Workers

variable [DecidableEq W] {who : W} {worker : Worker}

/-- The places after a step of one worker. -/
theorem marks_of_step (kept : Kept state)
    (workers : after.workers = Function.update state.workers who worker)
    (frame : Frame (fun other => other ≠ who) state after) (marks : Marks after who worker)
    (other : W) : Marks after other (after.workers other) := by
  rw [workers]
  by_cases same : other = who
  · subst same
    rwa [Function.update_self]
  · rw [Function.update_of_ne same]
    exact (kept.marks other).frame frame same

/-- A worker's step that leaves the buffers. -/
theorem Kept.same (kept : Kept state)
    (workers : after.workers = Function.update state.workers who worker)
    (bufOwner : after.bufOwner = state.bufOwner)
    (myMem : worker.myMem = (state.workers who).myMem)
    (frame : Frame (fun other => other ≠ who) state after) (marks : Marks after who worker) :
    Kept after := by
  refine ⟨fun mem other => ?_, marks_of_step kept workers frame marks⟩
  rw [bufOwner, kept.owned mem other, workers]
  by_cases same : other = who
  · subst same
    rw [Function.update_self, myMem]
  · rw [Function.update_of_ne same]

/-- A worker allocates or frees the one buffer that it has before or after the step. -/
theorem Kept.rebuffer (kept : Kept state) (mem : Buf)
    (before : ∀ buffer, (state.workers who).myMem = some buffer → buffer = mem)
    (now : ∀ buffer, worker.myMem = some buffer → buffer = mem)
    (only : ∀ other, state.bufOwner mem = some other → other = who)
    (workers : after.workers = Function.update state.workers who worker)
    (bufOwner : after.bufOwner =
      Function.update state.bufOwner mem (worker.myMem.map fun _ => who))
    (frame : Frame (fun other => other ≠ who) state after) (marks : Marks after who worker) :
    Kept after := by
  refine ⟨fun buffer other => ?_, marks_of_step kept workers frame marks⟩
  have owned := kept.owned buffer other
  rw [bufOwner, workers]
  by_cases here : buffer = mem <;> by_cases same : other = who
  · subst here same
    rw [Function.update_self, Function.update_self]
    cases has : worker.myMem with
    | none => simp
    | some own => simp [now own has]
  · subst here
    rw [Function.update_self, Function.update_of_ne same, ← owned]
    have notNow : (worker.myMem.map fun _ => who) ≠ some other := by
      simp [Ne.symm same]
    exact iff_of_false notNow fun owns => same (only other owns)
  · subst same
    rw [Function.update_of_ne here, Function.update_self, owned]
    exact iff_of_false (fun has => here (before buffer has)) fun has => here (now buffer has)
  · rw [Function.update_of_ne here, Function.update_of_ne same, owned]

/-- A worker frees its buffer. -/
theorem Kept.free (kept : Kept state) {mem : Buf} (has : (state.workers who).myMem = some mem)
    (workers : after.workers = Function.update state.workers who worker)
    (bufOwner : after.bufOwner = Function.update state.bufOwner mem none)
    (freed : worker.myMem = none) (frame : Frame (fun other => other ≠ who) state after)
    (marks : Marks after who worker) : Kept after := by
  refine kept.rebuffer mem (fun buffer had => ?_) (fun buffer holds => ?_) (fun other owns => ?_)
    workers ?_ frame marks
  · exact Option.some.inj (had.symm.trans has)
  · simp [freed] at holds
  · have own := (kept.owned mem who).mpr has
    exact Option.some.inj (owns.symm.trans own)
  · rw [bufOwner, freed]
    rfl

/-- A new node gets the buffer of its worker. -/
theorem Kept.request (kept : Kept state) {node : Addr} (iotype : Direction) (ioLen : BitVec 64)
    (place : (state.workers who).pc = .active) (free : state.nodeOwner node = none) :
    Kept ({ state with
      shared := fillNode node (state.workers who).slot (state.workers who).myMem ioLen
        state.shared
      nodeOwner := Function.update state.nodeOwner node (some who) }.setWorker who
        { state.workers who with pc := .submitting node iotype }) := by
  have marks := kept.marks who
  simp only [Marks, place] at marks
  refine kept.same rfl rfl rfl ⟨fun other worker differs owned => ?_, id⟩
    ⟨marks, Function.update_self .., Function.update_self ..⟩
  have distinct : other ≠ node := by
    rintro rfl
    rw [free] at owned
    cases owned
  exact ⟨(Function.update_of_ne distinct ..).trans owned, Function.update_of_ne distinct ..⟩

/-- A worker that got its node back frees the node and keeps the buffer. -/
theorem Kept.collect (kept : Kept state) {calls : LockCalls} {node : Addr} {iotype : Direction}
    {shared : Shared} (stats : Stats) (place : (state.workers who).pc = .collecting node iotype)
    (ran : getIODoneNode calls (some node) state.shared = some (true, shared)) :
    Kept ({ state with
      shared := shared
      stats := stats
      nodeOwner := Function.update state.nodeOwner node none }.setWorker who
        { state.workers who with pc := .looping, memQueued := false }) := by
  have marks := kept.marks who
  have passed := getIODoneNode_passed ran
  simp only [Marks, place] at marks
  refine kept.same rfl rfl rfl ⟨fun other worker differs owned => ?_, passed.stopping⟩
    fun queued => absurd queued Bool.false_ne_true
  have distinct : other ≠ node := by
    rintro rfl
    exact differs (Option.some.inj (owned.symm.trans marks.2.1))
  have ioBuffer : shared.heap.ioBuffer = state.shared.heap.ioBuffer := by rw [passed.heap]
  exact ⟨(Function.update_of_ne distinct ..).trans owned, congrFun ioBuffer other⟩

/-- A worker that does not get its node back gives up, and node and buffer stay its own. -/
theorem Kept.lose (kept : Kept state) {calls : LockCalls} {node : Addr} {iotype : Direction}
    {shared : Shared} (place : (state.workers who).pc = .collecting node iotype)
    (ran : getIODoneNode calls (some node) state.shared = some (false, shared)) :
    Kept ({ state with shared := endAllIf true shared }.setWorker who
      { state.workers who with pc := .looping }) := by
  have marks := kept.marks who
  have passed := getIODoneNode_passed ran
  have ioBuffer : shared.heap.ioBuffer = state.shared.heap.ioBuffer := by rw [passed.heap]
  simp only [Marks, place] at marks
  exact kept.same rfl rfl rfl (frame_of_same rfl ioBuffer fun _ => by
    simp [System.setWorker, endAllIf]) fun _ => ⟨by simp [System.setWorker, endAllIf], node,
      marks.2.1, (congrFun ioBuffer node).trans marks.2.2⟩

/-- Every step of a worker keeps the accounts of the buffers and nodes, its own by what the step
does, and those of the other workers because it leaves them alone. -/
theorem worker_kept (kept : Kept state) {act : WorkerAct}
    (taken : workerStep settings state who act = some after) : Kept after := by
  have marks := kept.marks who
  cases workerStep_effect taken with
  | moves _ nThreads pc sz memQueued endMe move =>
    have frame : Frame (fun _ => True) state
        ({ state with nThreads := nThreads }.setWorker who { state.workers who with
          pc := pc, sz := sz, memQueued := memQueued, endMe := endMe }) :=
      frame_of_same rfl rfl id
    exact kept.same rfl rfl rfl (frame_of_same rfl rfl id)
      ((marks_of_moves move marks).frame frame trivial)
  | initialises place =>
    exact kept.same rfl rfl rfl (frame_of_same rfl rfl id)
      fun queued => absurd queued Bool.false_ne_true
  | fails place =>
    simp only [Marks, place] at marks
    exact kept.same rfl rfl rfl (frame_of_same rfl rfl fun _ => by
      simp [System.setWorker, endAllIf]) (Or.inl marks)
  | allocates _ mem sz place without free =>
    simp only [Marks, place] at marks
    refine kept.rebuffer mem (fun buffer has => ?_) (fun buffer has => ?_) (fun other owns => ?_)
      rfl rfl (frame_of_same rfl rfl id)
      fun queued => absurd (marks.symm.trans queued) Bool.false_ne_true
    · simp [without] at has
    · exact (Option.some.inj has).symm
    · simp [free] at owns
  | frees _ mem pc sz has place =>
    refine kept.free has rfl rfl rfl (frame_of_same rfl rfl id) ?_
    rcases place with ⟨place, rfl⟩ | ⟨place, _, rfl⟩
    · simp only [Marks, place] at marks
      exact fun queued => absurd (marks.symm.trans queued) Bool.false_ne_true
    · exact Or.inl rfl
  | requests _ node iotype ioLen place has free => exact kept.request iotype ioLen place free
  | enqueues calls node iotype queued shared stats place ran =>
    have passed := queueIOAdmitted_passed ran
    have ioBuffer : shared.heap.ioBuffer = state.shared.heap.ioBuffer := by rw [passed.heap]
    simp only [Marks, place] at marks
    exact kept.same rfl rfl rfl (frame_of_same rfl ioBuffer passed.stopping)
      ⟨rfl, marks.2.1, (congrFun ioBuffer node).trans marks.2.2⟩
  | notices succeeds node iotype slot place key posted =>
    simp only [Marks, place] at marks
    exact kept.same rfl rfl rfl (frame_of_same rfl rfl id) marks
  | collects calls node iotype shared stats place ran => exact kept.collect stats place ran
  | loses calls node iotype shared place ran => exact kept.lose place ran
  | destroys succeeds slot own place =>
    simp only [Marks, place] at marks
    exact kept.same rfl rfl rfl (frame_of_same rfl rfl fun stopping => by
      simp [System.setWorker, endAllIf, stopping]) marks

end Workers

/-- Every step of an I/O thread keeps them, since it changes neither an owner nor a buffer. -/
theorem io_kept [DecidableEq I] (kept : Kept state) {who : I} {act : IOAct}
    (taken : ioStep state who act = some after) : Kept after := by
  cases ioStep_effect taken with
  | moves _ nThreads nIOThreads endAllThreads thread before now grows =>
    exact kept.frame rfl rfl (frame_of_same rfl rfl grows)
  | misses activity calls shared place ran
  | takes activity calls node shared stats place ran =>
    have passed := getIONode_passed ran
    have ioBuffer : shared.heap.ioBuffer = state.shared.heap.ioBuffer := by rw [passed.heap]
    exact kept.frame rfl rfl (frame_of_same rfl ioBuffer passed.stopping)
  | performs _ node activity ioDone failed stats place =>
    exact kept.frame rfl rfl (frame_of_same rfl rfl fun stopping => by
      simp [System.setIo, endAllIf, setFd, stopping])
  | givesBack calls post node activity queued shared place ran =>
    obtain ⟨linked, passed, woken⟩ := queueIODone_passed ran
    have woke : shared.heap = linked.heap ∧
        (linked.endAllThreads = true → shared.endAllThreads = true) := by
      rcases woken with rfl | rfl
      · exact ⟨rfl, id⟩
      · obtain ⟨heap, _, _, stopping⟩ := wakeOwner_frame post node linked
        exact ⟨heap, stopping⟩
    refine kept.frame rfl rfl (frame_of_same rfl ?_ fun stopping => ?_)
    · change shared.heap.ioBuffer = state.shared.heap.ioBuffer
      rw [woke.1, passed.heap]
    · simp [System.setIo, endAllIf, woke.2 (passed.stopping stopping)]

section Runs

variable [DecidableEq W] [DecidableEq I]

/-- Every step of main keeps them. A new worker has neither a buffer nor a node. -/
theorem main_kept (kept : Kept state) {act : MainAct W I}
    (taken : mainStep state act = some after) : Kept after := by
  cases act with
  | createWorker who slot =>
    simp only [mainStep] at taken
    split_ifs at taken with place
    obtain rfl := Option.some.inj taken
    have without := kept.marks who
    simp only [Marks, place.2] at without
    exact kept.same rfl rfl without.symm (frame_of_same rfl rfl id) rfl
  | sample calls | breakSample calls =>
    simp only [mainStep] at taken
    split at taken
    · obtain ⟨⟨empty, shared⟩, ran, rfl⟩ := Option.map_eq_some_iff.mp taken
      obtain ⟨passed, _⟩ := isQEmpty_passed ran
      have ioBuffer : shared.heap.ioBuffer = state.shared.heap.ioBuffer := by rw [passed.heap]
      exact kept.frame rfl rfl (frame_of_same rfl ioBuffer passed.stopping)
    · simp at taken
  | createIOThread who | endIo | testWorkers | breakThreads =>
    simp only [mainStep] at taken
    split_ifs at taken <;> obtain rfl := Option.some.inj taken <;>
      exact kept.frame rfl rfl (frame_of_same rfl rfl id)
  | endThreads =>
    simp only [mainStep] at taken
    split_ifs at taken
    obtain rfl := Option.some.inj taken
    exact kept.frame rfl rfl (frame_of_same rfl rfl fun _ => rfl)

/-- So they are kept in every run, also in one that refuses requests. -/
theorem reachable_kept {allowed : System W I → Label W I → Prop}
    (reached : Reachable (IoSystem.step settings) allowed Initial state) : Kept state := by
  apply reached.invariant Kept
  · rintro _ rfl
    exact ⟨fun mem who => iff_of_false nofun nofun, fun who => rfl⟩
  · intro before label after _ kept _ taken
    cases label with
    | main act => exact main_kept kept taken
    | worker who act => exact worker_kept kept taken
    | io who act => exact io_kept kept taken

end Runs

end Proofs

/-- No leaked buffer. In every run of any number of threads in which no request is refused,
the functions that link a node get their lock, and live workers have different
semaphores: when a worker has left, it has freed its buffer and its node, unless the node
is on a queue or in the hands of an I/O thread. -/
theorem buffers_released [DecidableEq W] [DecidableEq I] (settings : Settings)
    (state : System W I) (reached : Reachable (step settings) Careful Initial state) (who : W)
    (gone : left (state.workers who).pc = true) : Released state who := by
  obtain ⟨contents, handed⟩ := reachable_handed reached
  have kept : Kept state := reachable_kept reached
  have nodes (node : Addr) (owned : state.nodeOwner node = some who) : UnderWay state node := by
    have notFilling : (ledger state contents).phase who ≠ .filling node := by
      intro filling
      have place : phase (state.workers who).pc = .filling node := filling
      cases pc : (state.workers who).pc <;> simp [pc, left, phase] at gone place
    have inside := (handed.sound.complete node who owned).resolve_left notFilling
    exact at_of_inside handed inside
  refine ⟨nodes, fun mem owned => ?_⟩
  have has : (state.workers who).myMem = some mem := (kept.owned mem who).mp owned
  have backed : (state.workers who).myMem = none ∨
      ∃ node, Backs state who (state.workers who) node := by
    have marks := kept.marks who
    cases pc : (state.workers who).pc <;> simp only [pc, left, Marks] at gone marks <;>
      first | exact marks | cases gone
  rcases backed with without | ⟨node, own, ioBuffer⟩
  · rw [has] at without
    cases without
  · exact ⟨node, own, ioBuffer.trans has, nodes node own⟩

/-- The worker gave up its node while the I/O thread reads into its buffer. -/
theorem buffers_released_reading : ∃ state : System (Fin 2) (Fin 1),
    (state.nodeOwner 5 = some 0 ∧ state.bufOwner 70 = some 0 ∧
      (state.ioThreads 0).pc = .holding 5 .read) ∧ Released state 0 := by
  obtain ⟨state, reached, test⟩ := replay_exhibits (step threeThreads) Careful Initial
    (starts 0 0 ++ readTaken 0 0 5 ++ waitEnds ++ workerLeaves 0)
    (initialSystem (Fin 2) (Fin 1)) (fun state =>
      left (state.workers 0).pc = true ∧ state.nodeOwner 5 = some 0 ∧
        state.bufOwner 70 = some 0 ∧ (state.ioThreads 0).pc = .holding 5 .read) rfl (by decide)
  obtain ⟨gone, facts⟩ := of_decide_eq_true test
  exact ⟨state, facts, buffers_released threeThreads state reached 0 gone⟩

/-- A request that `EndAllIO` refuses is leaked with its buffer. No call fails. -/
theorem not_always_released : ¬ ∀ state : System (Fin 2) (Fin 1),
    Reachable (step threeThreads) (fun _ label => callsSucceed label = true) Initial state →
      ∀ who, left (state.workers who).pc = true → Released state who := by
  intro claim
  obtain ⟨state, reached, test⟩ := replay_exhibits (step threeThreads)
    (fun _ label => callsSucceed label = true) Initial
    (starts 0 0 ++ (submits 0 70 5 .read).take 6 ++ [.main .endIo, .worker 0 .endIOTest] ++
      waitEnds.tail ++ workerLeaves 0)
    (initialSystem (Fin 2) (Fin 1)) (fun state =>
      left (state.workers 0).pc = true ∧ state.nodeOwner 5 = some 0 ∧
        state.bufOwner 70 = some 0 ∧ (state.ioThreads 0).pc.hand = none ∧
        ∀ id ∈ [QueueId.read, .write, .done], (state.shared.queues id).head = none)
    rfl (by decide)
  obtain ⟨gone, owned, _, hand, heads⟩ := of_decide_eq_true test
  obtain ⟨place, here⟩ := (claim state reached 0 gone).nodes 5 owned
  cases place with
  | queue id =>
    have empty : nodesOf id state.shared = [] := by
      rw [nodesOf, heads id (by cases id <;> decide)]
      rfl
    simp [At, empty] at here
  | hand who =>
    obtain rfl : who = 0 := Subsingleton.elim ..
    exact Option.some_ne_none 5 (here.symm.trans hand)

end AvocadoMisc.Dwh.BufferRelease
