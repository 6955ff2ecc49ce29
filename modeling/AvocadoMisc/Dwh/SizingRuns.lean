import AvocadoMisc.Dwh.Memory
import AvocadoMisc.Dwh.Sizing

/-!
# Sizes in a run of dwh

A worker without a buffer loads `memUsed`, draws a size and calls `CountingCalloc` for it. With a
buffer it queues requests for it while there are I/O threads, one at a time, and waits for each of
them. It frees its buffer between requests. The main thread calls `CountingCalloc` as well, for its
tables. All steps interleave, and each atomic step on `memUsed` is one of its own, so a worker may
load a value that another call has not taken back yet.

A run goes wrong in two places only. A buffer is granted whose size is a fallback and exceeds
`--maxiosize`, or a request is queued that reaches the end of the file. Without I/O threads no
request is queued.
-/

namespace AvocadoMisc.Dwh.SizingRuns

open Library.Transitions VerifySettings Sizing

/-! ### The threads -/

/-- What a size was computed from: the memory in use that the worker has loaded, and the value of
`rand()`. -/
structure Draw where
  memUsed : BitVec 64
  value : Rand

/-- The variables of a worker: the buffer `myMem` and its size `sz`. The draw is there from the load
of `memUsed` to the end of `CountingCalloc`, and `io_len` while a request is queued. -/
structure Worker where
  myMem : Option Memory.Ptr
  sz : BitVec 64
  drawn : Option Draw
  ioLen : Option (BitVec 64)

/-- The shared memory, the running I/O threads and the workers. The counting calls of the main
thread are those of `none`. -/
structure State (W : Type) where
  memory : Memory.State (Option W)
  nIOThreads : Nat
  workers : W → Worker

/-- The steps. The node of a request is allocated with `calloc`. When this fails there is none. -/
inductive Act (W : Type) where
  | draw (worker : W) (value : Rand)
  | counting (thread : Option W) (act : Memory.Act)
  | request (worker : W) (value : Rand)
  | complete (worker : W)
  | ioStart
  | ioEnd

/-- What a thread is doing: it is in no call, in `CountingCalloc` or in `CountingFree`. -/
inductive Phase where
  | idle
  | asking
  | freeing
  deriving DecidableEq

/-- The call that a thread is in. -/
def phase : Memory.Call → Phase
  | .idle => .idle
  | .added _ | .admitted _ | .retracting _ => .asking
  | .freeing _ | .releasing _ => .freeing

/-- The calls of a worker: for the size that it has drawn, and for a buffer that is not queued. -/
def Worker.Calls (worker : Worker) : Memory.Act → Prop
  | .calloc nmem size => worker.drawn.isSome ∧ nmem = 1 ∧ size = worker.sz
  | .free mem => mem.isSome ∧ mem = worker.myMem ∧ worker.ioLen = none
  | _ => True

instance (worker : Worker) : (act : Memory.Act) → Decidable (worker.Calls act)
  | .calloc nmem size =>
    inferInstanceAs (Decidable (worker.drawn.isSome ∧ nmem = 1 ∧ size = worker.sz))
  | .free mem => inferInstanceAs (Decidable (mem.isSome ∧ mem = worker.myMem ∧ worker.ioLen = none))
  | .test | .allocate _ | .retract | .subtract | .release => isTrue trivial

/-- What a step of a call leaves in the variables. -/
def Worker.after (worker : Worker) : Memory.Act → Worker
  | .allocate (some mem) => { worker with myMem := some mem, drawn := none }
  | .retract => { worker with drawn := none }
  | .release => { worker with myMem := none, sz := 0 }
  | _ => worker

section System

variable {W : Type} [DecidableEq W]

/-- Replace the variables of a worker. -/
def State.set (state : State W) (w : W) (worker : Worker) : State W :=
  { state with workers := Function.update state.workers w worker }

/-- One step of the system. A worker draws a size, allocates by the steps of `Memory`, and requests
a transfer only while an I/O thread runs that can take it. -/
def step (settings : Settings) (state : State W) : Act W → Option (State W)
  | .draw w value =>
    let worker := state.workers w
    let memUsed := state.memory.memUsed
    if phase (state.memory.calls (some w)) = .idle ∧ worker.myMem = none ∧
        worker.drawn.isNone ∧ worker.ioLen = none then
      some (state.set w
        { worker with sz := bufferSize settings memUsed value, drawn := some ⟨memUsed, value⟩ })
    else none
  | .counting none act =>
    (Memory.threadStep settings.maxMem state.memory none act).map fun memory =>
      { state with memory }
  | .counting (some w) act =>
    if (state.workers w).Calls act then
      (Memory.threadStep settings.maxMem state.memory (some w) act).map fun memory =>
        { state with memory }.set w ((state.workers w).after act)
    else none
  | .request w value =>
    let worker := state.workers w
    if phase (state.memory.calls (some w)) = .idle ∧ worker.myMem ≠ none ∧
        worker.ioLen = none ∧ 0 < state.nIOThreads then
      some (state.set w { worker with ioLen := some (requestLength worker.sz value) })
    else none
  | .complete w =>
    if (state.workers w).ioLen ≠ none then some (state.set w { state.workers w with ioLen := none })
    else none
  | .ioStart =>
    if state.nIOThreads < settings.iothreads.toNat then
      some { state with nIOThreads := state.nIOThreads + 1 }
    else none
  | .ioEnd =>
    if 0 < state.nIOThreads then some { state with nIOThreads := state.nIOThreads - 1 } else none

omit [DecidableEq W] in
/-- Nothing is allocated, no I/O thread runs, and no worker has a buffer. -/
def Initial (state : State W) : Prop :=
  Memory.Initial state.memory ∧ state.nIOThreads = 0 ∧
    ∀ w, (state.workers w).myMem = none ∧ (state.workers w).drawn = none ∧
      (state.workers w).ioLen = none

end System

/-! ### The contract -/

/-- The sizing contract of a worker: of its buffer, and of its queued request. -/
structure Worker.Contract (settings : Settings) (worker : Worker) : Prop where
  bufferPositive : worker.myMem ≠ none → 1 ≤ worker.sz.toNat
  bufferBounded : worker.myMem ≠ none → worker.sz.toNat ≤ settings.maxIOSize.toNat
  requestPositive : ∀ ioLen, worker.ioLen = some ioLen → 1 ≤ ioLen.toNat
  requestBounded : ∀ ioLen, worker.ioLen = some ioLen → ioLen.toNat ≤ worker.sz.toNat
  requestInFile : ∀ ioLen, worker.ioLen = some ioLen →
    ioLen.toNat + 1 ≤ (chosenFileSize settings).toNat

/-- The sizing contract of all workers, of their buffers and of their queued requests. -/
def Contract {W : Type} (settings : Settings) (state : State W) : Prop :=
  ∀ w, (state.workers w).Contract settings

/-- The fallback exceeds a limit: 4096 bytes or half of what is available do, or eight bytes when
less than two are available. -/
def Exceeds (avail limit : Nat) : Prop :=
  limit < 4096 ∧ (4096 < avail ∨ 2 * limit + 1 < avail) ∨ limit < 8 ∧ avail < 2

/-- The steps that break the contract. A buffer is granted for a draw below one byte, where the
fallback exceeds `--maxiosize`. A request is queued for a file of less than two bytes, or its part
of the buffer is as long as the file. -/
def Overruns {W : Type} (settings : Settings) (state : State W) : Act W → Prop
  | .counting (some w) (.allocate (some _)) =>
    ∃ draw, (state.workers w).drawn = some draw ∧
      draw.value.val * settings.maxIOSize.toNat < randMax ∧
      Exceeds (available settings draw.memUsed).toNat settings.maxIOSize.toNat
  | .request w value =>
    (chosenFileSize settings).toNat < 2 ∨
      randMax * (chosenFileSize settings).toNat ≤ (state.workers w).sz.toNat * value.val
  | _ => False

/-! ### The sizes -/

/-- The fallback is within a limit that it does not exceed. -/
theorem fallback_le_iff (avail limit : Nat) : fallback avail ≤ limit ↔ ¬Exceeds avail limit := by
  unfold fallback Exceeds
  split
  · omega
  · split <;> omega

section Sizes

variable {settings : Settings} (admitted : Admitted settings)
include admitted

/-- A buffer is within `--maxiosize` unless a fallback exceeds it. -/
theorem bufferSize_le_iff (memUsed : BitVec 64) (value : Rand) :
    (bufferSize settings memUsed value).toNat ≤ settings.maxIOSize.toNat ↔
      ¬(value.val * settings.maxIOSize.toNat < randMax ∧
        Exceeds (available settings memUsed).toNat settings.maxIOSize.toNat) := by
  rw [bufferSize_toNat admitted, plainSize_le_iff admitted, fallback_le_iff, not_and]

/-- A buffer has a byte at least. -/
theorem one_le_bufferSize (memUsed : BitVec 64) (value : Rand) :
    1 ≤ (bufferSize settings memUsed value).toNat := by
  rw [bufferSize_toNat admitted]
  exact (plainSize_bounds admitted memUsed value).1

omit admitted in
/-- A request has a byte at least, and it is not longer than its buffer. -/
theorem requestLength_bounds {sz : BitVec 64} (positive : 1 ≤ sz.toNat)
    (bounded : sz.toNat ≤ 0x7FFFFFFF) (value : Rand) :
    1 ≤ (requestLength sz value).toNat ∧ (requestLength sz value).toNat ≤ sz.toNat := by
  have part : sz.toNat * value.val / randMax ≤ sz.toNat :=
    Nat.div_le_of_le_mul (by
      rw [Nat.mul_comm randMax]
      exact Nat.mul_le_mul_left _ (Nat.le_of_lt_succ value.isLt))
  rw [requestLength_toNat sz value bounded]
  omega

omit admitted in
/-- A request ends before a file does when the file has two bytes and the part of the buffer is
shorter than the file. -/
theorem requestLength_lt_iff {sz : BitVec 64} (bounded : sz.toNat ≤ 0x7FFFFFFF) (value : Rand)
    (fileSize : Nat) :
    (requestLength sz value).toNat + 1 ≤ fileSize ↔
      ¬(fileSize < 2 ∨ randMax * fileSize ≤ sz.toNat * value.val) := by
  have ends : sz.toNat * value.val / randMax < fileSize ↔
      sz.toNat * value.val < randMax * fileSize := by
    rw [Nat.div_lt_iff_lt_mul (by decide), Nat.mul_comm randMax]
  rw [requestLength_toNat sz value bounded, not_or, Nat.not_le, ← ends]
  omega

end Sizes

/-! ### One step -/

/-- The phase that a step of a call is taken in, and the one after it. -/
def phases : Memory.Act → Phase × Phase
  | .calloc _ _ => (.idle, .asking)
  | .test | .allocate none => (.asking, .asking)
  | .allocate (some _) | .retract => (.asking, .idle)
  | .free none => (.idle, .idle)
  | .free (some _) => (.idle, .freeing)
  | .subtract => (.freeing, .freeing)
  | .release => (.freeing, .idle)

/-- A step of a call is about the call of its thread, and takes it to the next phase. -/
theorem phases_of_threadStep {T : Type} [DecidableEq T] {maxMem : BitVec 64}
    {memory after : Memory.State T} {thread : T} {act : Memory.Act}
    (taken : Memory.threadStep maxMem memory thread act = some after) :
    phase (memory.calls thread) = (phases act).1 ∧
      ∃ call, phase call = (phases act).2 ∧
        after.calls = Function.update memory.calls thread call := by
  unfold Memory.threadStep at taken
  split at taken
  case h_1 call | h_3 call | h_4 call | h_5 call | h_7 call | h_9 call =>
    obtain rfl := Option.some.inj taken
    rw [call]
    refine ⟨rfl, _, ?_, rfl⟩
    rfl
  case h_2 call =>
    rw [call]
    split at taken
    all_goals
      obtain rfl := Option.some.inj taken
      refine ⟨rfl, _, ?_, rfl⟩
      rfl
  case h_6 call =>
    obtain rfl := Option.some.inj taken
    have idle : phase (memory.calls thread) = .idle := by
      rw [call]
      rfl
    exact ⟨idle, memory.calls thread, idle, (Function.update_eq_self _ _).symm⟩
  case h_8 call =>
    obtain ⟨sz, -, rfl⟩ := Option.map_eq_some_iff.mp taken
    rw [call]
    refine ⟨rfl, _, ?_, rfl⟩
    rfl
  case h_10 => cases taken

/-- What is known of a worker in a phase: its size is that of its draw, there is a draw while it is
in `CountingCalloc`, and it frees no buffer that is queued. There is none while it has a buffer. -/
structure Worker.Sound (settings : Settings) (worker : Worker) (phase : Phase) : Prop where
  drawn : ∀ draw, worker.drawn = some draw →
    worker.sz = bufferSize settings draw.memUsed draw.value
  asking : phase = .asking → worker.drawn.isSome
  holding : worker.myMem ≠ none → worker.drawn = none
  freeing : phase = .freeing → worker.ioLen = none ∧ worker.drawn = none
  contract : worker.Contract settings

section Workers

variable {settings : Settings} (admitted : Admitted settings) {worker : Worker}

/-- A worker without a request and without a buffer meets the contract. -/
theorem contract_of_none (noBuffer : worker.myMem = none) (noRequest : worker.ioLen = none) :
    worker.Contract settings := by
  constructor <;> simp [noBuffer, noRequest]

/-- A draw replaces a size that is not in use. -/
theorem Worker.Sound.draw (noBuffer : worker.myMem = none) (noRequest : worker.ioLen = none)
    (draw : Draw) :
    Worker.Sound settings
      { worker with sz := bufferSize settings draw.memUsed draw.value, drawn := some draw }
      .idle where
  drawn _ same := by
    obtain rfl := Option.some.inj same
    rfl
  asking := nofun
  holding hasBuffer := absurd noBuffer hasBuffer
  freeing := nofun
  contract := contract_of_none noBuffer noRequest

include admitted

/-- A granted buffer has the size that was drawn. -/
theorem Worker.Sound.grant (sound : worker.Sound settings .asking) (mem : Memory.Ptr)
    (fits : ∀ draw, worker.drawn = some draw →
      ¬(draw.value.val * settings.maxIOSize.toNat < randMax ∧
        Exceeds (available settings draw.memUsed).toNat settings.maxIOSize.toNat)) :
    Worker.Sound settings (worker.after (.allocate (some mem))) .idle := by
  obtain ⟨draw, isDraw⟩ := Option.isSome_iff_exists.mp (sound.asking rfl)
  have size := sound.drawn draw isDraw
  have bounded := (bufferSize_le_iff admitted draw.memUsed draw.value).mpr (fits draw isDraw)
  have positive := one_le_bufferSize admitted draw.memUsed draw.value
  rw [← size] at bounded positive
  exact {
    drawn := nofun
    asking := nofun
    holding := fun _ => rfl
    freeing := nofun
    contract := ⟨fun _ => positive, fun _ => bounded, sound.contract.requestPositive,
      sound.contract.requestBounded, sound.contract.requestInFile⟩ }

/-- A step of a call of a worker, where no buffer is granted that is too large. -/
theorem Worker.Sound.counting {act : Memory.Act} (sound : worker.Sound settings (phases act).1)
    (calls : worker.Calls act)
    (fits : ∀ mem, act = .allocate (some mem) → ∀ draw, worker.drawn = some draw →
      ¬(draw.value.val * settings.maxIOSize.toNat < randMax ∧
        Exceeds (available settings draw.memUsed).toNat settings.maxIOSize.toNat)) :
    Worker.Sound settings (worker.after act) (phases act).2 := by
  cases act with
  | calloc nmem size => exact ⟨sound.drawn, fun _ => calls.1, sound.holding, nofun, sound.contract⟩
  | test => exact sound
  | allocate result =>
    cases result with
    | none => exact sound
    | some mem => exact sound.grant admitted mem (fits mem rfl)
  | retract =>
    have contract := sound.contract
    exact ⟨nofun, nofun, fun _ => rfl, nofun, ⟨contract.bufferPositive, contract.bufferBounded,
      contract.requestPositive, contract.requestBounded, contract.requestInFile⟩⟩
  | free mem =>
    cases mem with
    | none => exact absurd calls.1 (by simp)
    | some mem =>
      obtain ⟨-, isBuffer, noRequest⟩ := calls
      have noDraw := sound.holding (by simp [← isBuffer])
      exact ⟨sound.drawn, nofun, sound.holding, fun _ => ⟨noRequest, noDraw⟩, sound.contract⟩
  | subtract => exact sound
  | release =>
    obtain ⟨noRequest, noDraw⟩ := sound.freeing rfl
    exact ⟨fun draw same => by simp [Worker.after, noDraw] at same, nofun, fun _ => noDraw, nofun,
      contract_of_none rfl noRequest⟩

/-- A request for a buffer. -/
theorem Worker.Sound.request (sound : worker.Sound settings .idle)
    (hasBuffer : worker.myMem ≠ none) (value : Rand)
    (ends : ¬((chosenFileSize settings).toNat < 2 ∨
      randMax * (chosenFileSize settings).toNat ≤ worker.sz.toNat * value.val)) :
    Worker.Sound settings { worker with ioLen := some (requestLength worker.sz value) } .idle := by
  have positive := sound.contract.bufferPositive hasBuffer
  have bounded := sound.contract.bufferBounded hasBuffer
  have small := bounded.trans admitted.ioSize
  obtain ⟨one, within⟩ := requestLength_bounds positive small value
  have inFile := (requestLength_lt_iff small value (chosenFileSize settings).toNat).mpr ends
  refine ⟨sound.drawn, nofun, sound.holding, nofun,
    ⟨fun _ => positive, fun _ => bounded, ?_, ?_, ?_⟩⟩
  all_goals
    intro ioLen same
    obtain rfl := Option.some.inj same
  · exact one
  · exact within
  · exact inFile

omit admitted in
/-- A request that is done. -/
theorem Worker.Sound.complete {phase : Phase} (sound : worker.Sound settings phase) :
    Worker.Sound settings { worker with ioLen := none } phase :=
  ⟨sound.drawn, sound.asking, sound.holding, fun isFreeing => ⟨rfl, (sound.freeing isFreeing).2⟩,
    ⟨sound.contract.bufferPositive, sound.contract.bufferBounded, nofun, nofun, nofun⟩⟩

end Workers

/-! ### Runs -/

/-- What is known of all workers. -/
def Good {W : Type} (settings : Settings) (state : State W) : Prop :=
  ∀ w, (state.workers w).Sound settings (phase (state.memory.calls (some w)))

section Runs

variable {W : Type} [DecidableEq W] {settings : Settings} {before after : State W}

/-- One worker changes its variables. -/
theorem Good.set (good : Good settings before) (w : W) {worker : Worker}
    (sound : worker.Sound settings (phase (before.memory.calls (some w)))) :
    Good settings (before.set w worker) := by
  intro other
  by_cases same : other = w
  · subst other
    simpa [State.set] using sound
  · simpa [State.set, same] using good other

/-- A step of a call of the main thread changes nothing about a worker. -/
theorem Good.counting_none (good : Good settings before) {act : Memory.Act}
    (taken : step settings before (.counting none act) = some after) : Good settings after := by
  obtain ⟨memory, moved, rfl⟩ := Option.map_eq_some_iff.mp taken
  obtain ⟨-, call, -, calls⟩ := phases_of_threadStep moved
  intro w
  have sameCall : memory.calls (some w) = before.memory.calls (some w) := by
    rw [calls, Function.update_of_ne (by simp)]
  rw [sameCall]
  exact good w

/-- A step of a call of a worker changes nothing about the others. -/
theorem Good.counting_some (good : Good settings before) {w : W} {act : Memory.Act}
    (taken : step settings before (.counting (some w) act) = some after)
    (sound : (before.workers w).Calls act →
      (before.workers w).Sound settings (phases act).1 →
        ((before.workers w).after act).Sound settings (phases act).2) :
    Good settings after := by
  rw [step] at taken
  split at taken
  case isFalse => cases taken
  case isTrue isCall =>
    obtain ⟨memory, moved, rfl⟩ := Option.map_eq_some_iff.mp taken
    obtain ⟨front, call, back, calls⟩ := phases_of_threadStep moved
    intro other
    by_cases same : other = w
    · subst other
      have own : phase (memory.calls (some w)) = (phases act).2 := by
        rw [calls, Function.update_self, back]
      have ready := good w
      rw [front] at ready
      simpa [State.set, own] using sound isCall ready
    · have sameCall : memory.calls (some other) = before.memory.calls (some other) := by
        rw [calls, Function.update_of_ne (by simpa using same)]
      simpa [State.set, same, sameCall] using good other

/-- A step that breaks nothing keeps what is known of the workers. Only the steps that hand a size
on, the allocation of a buffer and a request, use that nothing is overrun. -/
theorem Good.step (admitted : Admitted settings) (good : Good settings before) {label : Act W}
    (taken : step settings before label = some after)
    (fine : ¬Overruns settings before label) : Good settings after := by
  cases label with
  | draw w value =>
    simp only [SizingRuns.step] at taken
    split at taken
    case isFalse => cases taken
    case isTrue enabled =>
      obtain ⟨idle, noBuffer, -, noRequest⟩ := enabled
      obtain rfl := Option.some.inj taken
      refine good.set w ?_
      rw [idle]
      exact Worker.Sound.draw noBuffer noRequest ⟨before.memory.memUsed, value⟩
  | counting thread act =>
    cases thread with
    | none => exact good.counting_none taken
    | some w =>
      refine good.counting_some taken fun calls sound => sound.counting admitted calls ?_
      rintro mem rfl draw isDraw tooLarge
      exact fine ⟨draw, isDraw, tooLarge⟩
  | request w value =>
    simp only [SizingRuns.step] at taken
    split at taken
    case isFalse => cases taken
    case isTrue enabled =>
      obtain ⟨idle, hasBuffer, -, -⟩ := enabled
      obtain rfl := Option.some.inj taken
      have sound := good w
      refine good.set w ?_
      rw [idle] at sound ⊢
      exact sound.request admitted hasBuffer value fine
  | complete w =>
    simp only [SizingRuns.step] at taken
    split at taken
    case isFalse => cases taken
    case isTrue =>
      obtain rfl := Option.some.inj taken
      exact good.set w (good w).complete
  | ioStart =>
    simp only [SizingRuns.step] at taken
    split at taken
    case isFalse => cases taken
    case isTrue => exact Option.some.inj taken ▸ good
  | ioEnd =>
    simp only [SizingRuns.step] at taken
    split at taken
    case isFalse => cases taken
    case isTrue => exact Option.some.inj taken ▸ good

/-- A buffer that is too large breaks the contract. -/
theorem not_contract_of_grant (admitted : Admitted settings) (good : Good settings before) {w : W}
    {mem : Memory.Ptr}
    (taken : step settings before (.counting (some w) (.allocate (some mem))) = some after)
    (overruns : Overruns settings before (.counting (some w) (.allocate (some mem)))) :
    ¬Contract settings after := by
  obtain ⟨draw, isDraw, tooLarge⟩ := overruns
  rw [step] at taken
  split at taken
  case isFalse => cases taken
  case isTrue =>
    obtain ⟨memory, -, rfl⟩ := Option.map_eq_some_iff.mp taken
    intro contract
    have bounded := (contract w).bufferBounded (by simp [State.set, Worker.after])
    have size := (good w).drawn draw isDraw
    simp only [State.set, Function.update_self, Worker.after, size] at bounded
    exact (bufferSize_le_iff admitted draw.memUsed draw.value).mp bounded tooLarge

/-- A request that does not end before the file breaks it. -/
theorem not_contract_of_request (admitted : Admitted settings) (good : Good settings before) {w : W}
    {value : Rand} (taken : step settings before (.request w value) = some after)
    (overruns : Overruns settings before (.request w value)) : ¬Contract settings after := by
  simp only [step] at taken
  split at taken
  case isFalse => cases taken
  case isTrue enabled =>
    obtain ⟨-, hasBuffer, -, -⟩ := enabled
    obtain rfl := Option.some.inj taken
    intro contract
    have inFile := (contract w).requestInFile (requestLength (before.workers w).sz value)
      (by simp only [State.set, Function.update_self])
    have small := ((good w).contract.bufferBounded hasBuffer).trans admitted.ioSize
    exact (requestLength_lt_iff small value _).mp inFile overruns

/-- After every step of a run the contract holds exactly when no step of it overruns. -/
theorem contract_iff_not_overruns (admitted : Admitted settings) {start : State W}
    {events : List (Event (State W) (Act W))}
    (trace : Trace (step settings) Unrestricted start events) (good : Good settings start) :
    (∀ event ∈ events, Contract settings event.after) ↔
      ∀ event ∈ events, ¬Overruns settings event.before event.label := by
  refine trace.holds_iff (fun state good w => (good w).contract)
    (fun before label after good _ taken fine => good.step admitted taken fine)
    (fun before label after good _ taken overruns => ?_) good
  cases label with
  | counting thread act =>
    cases thread with
    | none => exact overruns.elim
    | some w =>
      cases act with
      | allocate result =>
        cases result with
        | none => exact overruns.elim
        | some mem => exact not_contract_of_grant admitted good taken overruns
      | _ => exact overruns.elim
  | request w value => exact not_contract_of_request admitted good taken overruns
  | _ => exact overruns.elim

omit [DecidableEq W] in
/-- The threads start without buffers and draws. -/
theorem good_of_initial {start : State W} (begins : Initial start) : Good settings start := by
  obtain ⟨⟨-, -, -, idle⟩, -, none⟩ := begins
  intro w
  obtain ⟨noBuffer, noDraw, noRequest⟩ := none w
  have isIdle : phase (start.memory.calls (some w)) = .idle := by
    rw [idle (some w)]
    rfl
  rw [isIdle]
  exact ⟨by simp [noDraw], nofun, fun _ => noDraw, nofun, contract_of_none noBuffer noRequest⟩

end Runs

/-! ### Settings with room for every size -/

section Room

variable {W : Type} [DecidableEq W] {settings : Settings} {before after : State W}

/-- No more I/O threads run than there are. Only `ioStart` raises the number, and it is taken only
while it is below `--iothreads`. -/
theorem nIOThreads_step {label : Act W} (few : before.nIOThreads ≤ settings.iothreads.toNat)
    (taken : step settings before label = some after) :
    after.nIOThreads ≤ settings.iothreads.toNat := by
  cases label with
  | counting thread act =>
    cases thread with
    | none =>
      obtain ⟨memory, -, rfl⟩ := Option.map_eq_some_iff.mp taken
      exact few
    | some w =>
      simp only [step] at taken
      split at taken
      case isFalse => cases taken
      case isTrue =>
        obtain ⟨memory, -, rfl⟩ := Option.map_eq_some_iff.mp taken
        exact few
  | ioStart =>
    simp only [step] at taken
    split at taken
    case isFalse => cases taken
    case isTrue less =>
      obtain rfl := Option.some.inj taken
      exact less
  | ioEnd =>
    simp only [step] at taken
    split at taken
    case isFalse => cases taken
    case isTrue =>
      obtain rfl := Option.some.inj taken
      exact (Nat.sub_le _ _).trans few
  | _ =>
    simp only [step] at taken
    split at taken
    case isFalse => cases taken
    case isTrue => exact Option.some.inj taken ▸ few

/-- Where 4096 bytes are within `--maxiosize`, and that is below the file size or there are no I/O
threads, no step overruns. -/
theorem not_overruns_of_room {label : Act W} (good : Good settings before)
    (few : before.nIOThreads ≤ settings.iothreads.toNat)
    (page : 4096 ≤ settings.maxIOSize.toNat)
    (room : settings.iothreads = 0 ∨
      settings.maxIOSize.toNat < (chosenFileSize settings).toNat)
    (taken : step settings before label = some after) : ¬Overruns settings before label := by
  cases label with
  | counting thread act =>
    cases thread with
    | none => exact id
    | some w =>
      cases act with
      | allocate result =>
        cases result with
        | none => exact id
        | some mem =>
          rintro ⟨draw, -, -, exceeds⟩
          unfold Exceeds at exceeds
          omega
      | _ => exact id
  | request w value =>
    simp only [step] at taken
    split at taken
    case isFalse => cases taken
    case isTrue enabled =>
      obtain ⟨-, hasBuffer, -, running⟩ := enabled
      have some_ : settings.iothreads ≠ 0 := fun none => by
        rw [none] at few
        exact absurd few (Nat.not_le_of_lt running)
      have below := room.resolve_left some_
      have bounded := (good w).contract.bufferBounded hasBuffer
      rintro (tiny | long)
      · omega
      · have short : (before.workers w).sz.toNat * value.val <
            randMax * (chosenFileSize settings).toNat := by
          calc (before.workers w).sz.toNat * value.val
              ≤ settings.maxIOSize.toNat * randMax :=
                Nat.mul_le_mul bounded (Nat.le_of_lt_succ value.isLt)
            _ = randMax * settings.maxIOSize.toNat := Nat.mul_comm _ _
            _ < randMax * (chosenFileSize settings).toNat :=
                Nat.mul_lt_mul_of_pos_left below (by decide)
        exact absurd long (Nat.not_le_of_lt short)
  | _ => exact id

/-- With such settings the contract holds in every state of every run. -/
theorem contract_of_room (admitted : Admitted settings) {start : State W}
    {events : List (Event (State W) (Act W))}
    (trace : Trace (step settings) Unrestricted start events) (begins : Initial start)
    (page : 4096 ≤ settings.maxIOSize.toNat)
    (room : settings.iothreads = 0 ∨
      settings.maxIOSize.toNat < (chosenFileSize settings).toNat) :
    ∀ event ∈ events, Contract settings event.after := by
  have sound (state : State W)
      (holds : Good settings state ∧ state.nIOThreads ≤ settings.iothreads.toNat) :
      Contract settings state := fun w => (holds.1 w).contract
  have kept (before : State W) (label : Act W) (after : State W)
      (holds : Good settings before ∧ before.nIOThreads ≤ settings.iothreads.toNat)
      (_ : Unrestricted before label) (taken : step settings before label = some after)
      (_ : ¬False) : Good settings after ∧ after.nIOThreads ≤ settings.iothreads.toNat :=
    ⟨holds.1.step admitted taken (not_overruns_of_room holds.1 holds.2 page room taken),
      nIOThreads_step holds.2 taken⟩
  have atStart : Good settings start ∧ start.nIOThreads ≤ settings.iothreads.toNat :=
    ⟨good_of_initial begins, by rw [begins.2.1]; exact Nat.zero_le _⟩
  exact (trace.holds_iff sound kept (fun _ _ _ _ _ _ => False.elim) atStart).mpr fun _ _ => id

end Room

/-- The sizing contract after `VerifySettings`: in a run of any number of workers, from the start,
it holds after every step exactly when no step overruns. With 4096 bytes within `--maxiosize`, and
this below the file size or no I/O threads, it holds in every run.

The workers, the main thread and the I/O threads are interleaved in any way, and every value of
`rand()` is possible. Nothing is assumed about the addresses that `calloc` returns. It is not shown
which settings of the others have a run with a step that overruns. -/
theorem sizing_contract_iff {W : Type} [DecidableEq W] (given settings : Settings)
    (accepted : verifySettings given = .ok settings) (start : State W) (begins : Initial start)
    (events : List (Event (State W) (Act W)))
    (trace : Trace (step settings) Unrestricted start events) :
    ((∀ event ∈ events, Contract settings event.after) ↔
      ∀ event ∈ events, ¬Overruns settings event.before event.label) ∧
    (4096 ≤ settings.maxIOSize.toNat →
      settings.iothreads = 0 ∨ settings.maxIOSize.toNat < (chosenFileSize settings).toNat →
        ∀ event ∈ events, Contract settings event.after) := by
  have admitted := (verifySettings_ok accepted).1
  exact ⟨contract_iff_not_overruns admitted trace (good_of_initial begins),
    contract_of_room admitted trace begins⟩

/-- One worker before the start. -/
def oneWorker : State Unit where
  memory := Memory.initialState (Option Unit)
  nIOThreads := 0
  workers _ := ⟨none, 0, none, none⟩

/-- It is an initial state. -/
theorem oneWorker_initial : Initial oneWorker :=
  ⟨Memory.initialState_initial _, rfl, fun _ => ⟨rfl, rfl, rfl⟩⟩

/-- The main thread allocates the table of two hundred workers. Then a worker draws zero, and is
granted the size that this gives. -/
def zeroDraw (size : BitVec 64) : List (Act Unit) :=
  [.counting none (.calloc 200 64), .counting none .test, .counting none (.allocate (some 4096)),
    .draw () ⟨0, by decide⟩, .counting (some ()) (.calloc 1 size), .counting (some ()) .test,
    .counting (some ()) (.allocate (some 65536))]

instance {W : Type} (state : State W) (label : Act W) : Decidable (Unrestricted state label) :=
  isTrue trivial

/-- With the default limit of one mebibyte the contract holds. -/
theorem sizing_contract_default : ∃ events,
    Trace (step (manyWorkers 1048576)) Unrestricted oneWorker events ∧ events.length = 7 ∧
      ∀ event ∈ events, Contract (manyWorkers 1048576) event.after := by
  obtain ⟨events, recorded, length⟩ : ∃ events, record (step (manyWorkers 1048576)) Unrestricted
      (zeroDraw 4096) oneWorker = some events ∧ events.length = 7 := ⟨_, rfl, rfl⟩
  have trace := record_trace _ _ _ _ _ recorded
  have accepted : verifySettings (manyWorkers 1048576) = .ok (manyWorkers 1048576) := by decide
  exact ⟨events, trace, length, (sizing_contract_iff _ _ accepted _ oneWorker_initial events
    trace).2 (by decide) (.inl rfl)⟩

/-- With `--maxiosize 100` a zero draw gives a buffer of 4096 bytes. The memory in
use is that of the two hundred `thread_info` structures. -/
theorem sizing_contract_fails :
    ¬ ∀ given settings, verifySettings given = .ok settings → ∀ events,
      Trace (step settings) Unrestricted oneWorker events →
        ∀ event ∈ events, Contract settings event.after := by
  intro always
  have accepted : verifySettings (manyWorkers 100) = .ok (manyWorkers 100) := by decide
  obtain ⟨events, recorded, large⟩ := (Option.any_eq_true _ _).mp (show
    ((record (step (manyWorkers 100)) Unrestricted (zeroDraw 4096) oneWorker).any fun events =>
      events.any fun event => (event.after.workers ()).myMem.isSome &&
        decide (100 < (event.after.workers ()).sz.toNat)) = true by decide +kernel)
  obtain ⟨event, member, large⟩ := List.any_eq_true.mp large
  obtain ⟨hasBuffer, large⟩ := Bool.and_eq_true_iff.mp large
  have trace := record_trace _ _ _ _ _ recorded
  have contract := always _ _ accepted events trace event member ()
  have bounded := contract.bufferBounded (Option.isSome_iff_ne_none.mp hasBuffer)
  exact absurd bounded (Nat.not_le_of_lt (of_decide_eq_true large))

end AvocadoMisc.Dwh.SizingRuns
