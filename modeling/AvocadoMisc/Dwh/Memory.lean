import AvocadoMisc.Library.Transitions
import AvocadoMisc.Library.Accounting

/-!
# Counted allocation

`CountingCalloc` adds a size to the shared `memUsed`, compares the sum with the
limit and takes the size back when it is over, or when `calloc` fails. The size is
kept in a header before the block, from where `CountingFree` subtracts it. There is
no lock: every addition, load and subtraction is a step of its own, and the steps of
the threads' calls interleave.

Between its addition and its answer a call's size is in `memUsed` although no block
is granted for it. These sizes are accounted to the calls in progress. The limit
holds for the blocks because a call is admitted only after its own size, all granted
blocks and all earlier admitted calls were in the sum that it compared.
-/

namespace AvocadoMisc.Dwh.Memory

open Library.Transitions Library.Accounting

/-- The address of a block, as `CountingCalloc` returns it. -/
abbrev Ptr := Nat

/-- Where a thread is in a counting call: in none, in `CountingCalloc` behind the addition, behind
the comparison or before the size is taken back, or in `CountingFree` before or behind the
subtraction. -/
inductive Call where
  | idle
  | added (sz : BitVec 64)
  | admitted (sz : BitVec 64)
  | retracting (sz : BitVec 64)
  | freeing (mem : Ptr)
  | releasing (mem : Ptr)

/-- The shared state. A header is there while its block is allocated. The counted
blocks are those granted and not yet subtracted. -/
structure State (T : Type) where
  memUsed : BitVec 64
  header : Ptr → Option (BitVec 64)
  counted : Finset Ptr
  calls : T → Call

/-- The steps of `CountingCalloc` and `CountingFree`. What `calloc` answers is part
of the step. -/
inductive Act where
  | calloc (nmem size : BitVec 64)
  | test
  | allocate (result : Option Ptr)
  | retract
  | free (mem : Option Ptr)
  | subtract
  | release

variable {T : Type} [DecidableEq T]

/-- Replace a thread's place in its call. -/
def State.place (state : State T) (thread : T) (call : Call) : State T :=
  { state with calls := Function.update state.calls thread call }

/-- One step of one thread in the counting `calloc` and `free`. Adding, testing, allocating and
retracting are separate steps, between which other threads run; each update of the counter is one
step. -/
def threadStep (maxMem : BitVec 64) (state : State T) (thread : T) (act : Act) :
    Option (State T) :=
  match state.calls thread, act with
  | .idle, .calloc nmem size =>
    let sz := nmem * size
    some ({ state with memUsed := state.memUsed + sz }.place thread (.added sz))
  | .added sz, .test =>
    if maxMem > 0 ∧ state.memUsed > maxMem then some (state.place thread (.retracting sz))
    else some (state.place thread (.admitted sz))
  | .admitted sz, .allocate none => some (state.place thread (.retracting sz))
  | .admitted sz, .allocate (some mem) =>
    some ({ state with
      header := Function.update state.header mem (some sz)
      counted := insert mem state.counted }.place thread .idle)
  | .retracting sz, .retract =>
    some ({ state with memUsed := state.memUsed - sz }.place thread .idle)
  | .idle, .free none => some state
  | .idle, .free (some mem) => some (state.place thread (.freeing mem))
  | .freeing mem, .subtract =>
    (state.header mem).map fun sz =>
      { state with
        memUsed := state.memUsed - sz
        counted := state.counted.erase mem }.place thread (.releasing mem)
  | .releasing mem, .release =>
    some ({ state with header := Function.update state.header mem none }.place thread .idle)
  | _, _ => none

/-- One step of the system: some thread moves. -/
def step (maxMem : BitVec 64) (state : State T) (label : T × Act) : Option (State T) :=
  threadStep maxMem state label.1 label.2

/-- The block that a call is freeing. -/
def Call.block : Call → Option Ptr
  | .freeing mem | .releasing mem => some mem
  | _ => none

/-- What the callers and `calloc` promise: the addition does not overflow, a new
block is at a free address, and a block is freed once. -/
def Proper (state : State T) : T × Act → Prop
  | (_, .calloc nmem size) => state.memUsed.toNat + (nmem * size).toNat < 2 ^ 64
  | (_, .allocate (some mem)) => state.header mem = none
  | (_, .free (some mem)) =>
    mem ∈ state.counted ∧ ∀ other, (state.calls other).block ≠ some mem
  | _ => True

/-- Nothing is allocated and no call is in progress. -/
def Initial (state : State T) : Prop :=
  state.memUsed = 0 ∧ (∀ mem, state.header mem = none) ∧ state.counted = ∅ ∧
    ∀ thread, state.calls thread = .idle

/-- The size of a block, from its header. -/
def blockSize (state : State T) (mem : Ptr) : Nat := ((state.header mem).getD 0).toNat

/-- The total size of the blocks granted and not yet uncounted. -/
def granted (state : State T) : Nat := ∑ mem ∈ state.counted, blockSize state mem

/-- The size that a call in progress has in `memUsed`. -/
def Call.pending : Call → Nat
  | .added sz | .admitted sz | .retracting sz => sz.toNat
  | _ => 0

/-- The part of it that the limit already admitted. -/
def Call.reserved : Call → Nat
  | .admitted sz => sz.toNat
  | _ => 0

/-- A block is counted until its size is subtracted, and allocated until it is
released. -/
def Placed (state : State T) : Call → Prop
  | .freeing mem => mem ∈ state.counted
  | .releasing mem => mem ∉ state.counted ∧ state.header mem ≠ none
  | _ => True

/-- The invariant. Besides the two accounts it keeps a header for every counted
block, and lets each block be freed by one call only. -/
structure Balanced [Fintype T] (maxMem : BitVec 64) (state : State T) : Prop where
  used : state.memUsed.toNat = granted state + total Call.pending state.calls
  limited : maxMem > 0 → granted state + total Call.reserved state.calls ≤ maxMem.toNat
  headed : ∀ mem ∈ state.counted, state.header mem ≠ none
  placed : ∀ thread, Placed state (state.calls thread)
  once : ∀ thread other mem, (state.calls thread).block = some mem →
    (state.calls other).block = some mem → thread = other

/-- What a call has reserved is part of what it has pending. -/
theorem reserved_le_pending (call : Call) : call.reserved ≤ call.pending := by
  cases call <;> simp [Call.reserved, Call.pending]

/-- A header of an uncounted block matters for no counted size. -/
theorem granted_header (header : Ptr → Option (BitVec 64)) (counted : Finset Ptr) (mem : Ptr)
    (outside : mem ∉ counted) (value : Option (BitVec 64)) :
    ∑ block ∈ counted, ((Function.update header mem value block).getD 0).toNat =
      ∑ block ∈ counted, ((header block).getD 0).toNat := by
  apply Finset.sum_congr rfl
  intro block member
  have differs : block ≠ mem := fun same => outside (same ▸ member)
  simp [differs]

/-- Replacing one call by one that frees a block which no other call frees keeps
every block with one call. -/
theorem once_update {calls : T → Call} (thread : T) (call : Call)
    (once : ∀ first second mem, (calls first).block = some mem →
      (calls second).block = some mem → first = second)
    (sole : ∀ other mem, call.block = some mem → (calls other).block = some mem →
      other = thread) (first second : T) (mem : Ptr)
    (firstFrees : (Function.update calls thread call first).block = some mem)
    (secondFrees : (Function.update calls thread call second).block = some mem) :
    first = second := by
  by_cases isFirst : first = thread
  · by_cases isSecond : second = thread
    · rw [isFirst, isSecond]
    · rw [isFirst, Function.update_self] at firstFrees
      rw [Function.update_of_ne isSecond] at secondFrees
      exact isFirst.trans (sole second mem firstFrees secondFrees).symm
  · rw [Function.update_of_ne isFirst] at firstFrees
    by_cases isSecond : second = thread
    · rw [isSecond, Function.update_self] at secondFrees
      exact (sole first mem secondFrees firstFrees).trans isSecond.symm
    · rw [Function.update_of_ne isSecond] at secondFrees
      exact once first second mem firstFrees secondFrees

section Laws

variable [Fintype T] {maxMem : BitVec 64} {state : State T} {thread : T}

/-- Blocks stay placed when one call changes and the others find their blocks as before. -/
theorem Balanced.places (balanced : Balanced maxMem state) {after : State T} {call : Call}
    (calls : after.calls = Function.update state.calls thread call) (own : Placed after call)
    (others : ∀ other block, other ≠ thread → (state.calls other).block = some block →
      (block ∈ after.counted ↔ block ∈ state.counted) ∧
        after.header block = state.header block) (other : T) :
    Placed after (after.calls other) := by
  rw [calls]
  by_cases same : other = thread
  · subst other
    rwa [Function.update_self]
  · rw [Function.update_of_ne same]
    have place := balanced.placed other
    have found (block : Ptr) := others other block same
    cases busy : state.calls other with
    | freeing block =>
      rw [busy] at place found
      exact (found block rfl).1.mpr place
    | releasing block =>
      rw [busy] at place found
      obtain ⟨counted, header⟩ := found block rfl
      exact ⟨fun remains => place.1 (counted.mp remains), by rw [header]; exact place.2⟩
    | _ => trivial

omit [DecidableEq T] in
/-- A block that a call frees has a header. -/
theorem Balanced.headed_of_block (balanced : Balanced maxMem state) {block : Ptr}
    (frees : (state.calls thread).block = some block) : state.header block ≠ none := by
  have place := balanced.placed thread
  cases busy : state.calls thread with
  | freeing found =>
    rw [busy] at place frees
    obtain rfl := Option.some.inj frees
    exact balanced.headed found place
  | releasing found =>
    rw [busy] at place frees
    obtain rfl := Option.some.inj frees
    exact place.2
  | _ => simp [busy, Call.block] at frees

/-- A step that leaves the blocks alone moves the pending and reserved sizes of one
thread. -/
theorem Balanced.move (balanced : Balanced maxMem state) (used : BitVec 64) (call : Call)
    (placed : Placed state call)
    (sole : ∀ other mem, call.block = some mem → (state.calls other).block = some mem →
      other = thread)
    (pending : used.toNat + (state.calls thread).pending = state.memUsed.toNat + call.pending)
    (reserved : maxMem > 0 → granted state + total Call.reserved state.calls + call.reserved ≤
      maxMem.toNat + (state.calls thread).reserved) :
    Balanced maxMem ({ state with memUsed := used }.place thread call) := by
  have pendingMoved := total_update Call.pending state.calls thread call
  have reservedMoved := total_update Call.reserved state.calls thread call
  have sameGranted : granted ({ state with memUsed := used }.place thread call) = granted state :=
    rfl
  constructor
  case used =>
    have balance := balanced.used
    rw [sameGranted]
    simp only [State.place]
    omega
  case limited =>
    intro positive
    have bound := reserved positive
    rw [sameGranted]
    simp only [State.place]
    omega
  case headed => exact balanced.headed
  case placed => exact balanced.places rfl placed fun _ _ _ _ => ⟨Iff.rfl, rfl⟩
  case once => exact once_update thread call balanced.once sole

/-- Adding a size to `memUsed` opens a pending size. -/
theorem Balanced.calloc (balanced : Balanced maxMem state) (idle : state.calls thread = .idle)
    (sz : BitVec 64) (fits : state.memUsed.toNat + sz.toNat < 2 ^ 64) :
    Balanced maxMem ({ state with memUsed := state.memUsed + sz }.place thread (.added sz)) := by
  apply balanced.move _ (.added sz) trivial (by simp [Call.block])
  · rw [BitVec.toNat_add, Nat.mod_eq_of_lt fits, idle]
    rfl
  · intro positive
    simpa [idle, Call.reserved] using balanced.limited positive

/-- A sum within the limit admits the call. All granted blocks and all admitted
sizes were part of that sum. -/
theorem Balanced.admits (balanced : Balanced maxMem state) {sz : BitVec 64}
    (added : state.calls thread = .added sz)
    (within : ¬ (maxMem > 0 ∧ state.memUsed > maxMem)) :
    Balanced maxMem (state.place thread (.admitted sz)) := by
  apply balanced.move _ (.admitted sz) trivial (by simp [Call.block])
  · simp [added, Call.pending]
  · intro positive
    have loaded : state.memUsed.toNat ≤ maxMem.toNat :=
      BitVec.not_lt.mp fun exceeds => within ⟨positive, exceeds⟩
    have pendingMoved := total_update Call.pending state.calls thread (.admitted sz)
    have reservedMoved := total_update Call.reserved state.calls thread (.admitted sz)
    have below := total_le Call.reserved Call.pending
      (Function.update state.calls thread (.admitted sz)) reserved_le_pending
    have balance := balanced.used
    simp only [added, Call.pending, Call.reserved] at pendingMoved reservedMoved ⊢
    omega

/-- A refused or failed call keeps its size pending until it is taken back. -/
theorem Balanced.refuse (balanced : Balanced maxMem state) {sz : BitVec 64}
    (reached : state.calls thread = .added sz ∨ state.calls thread = .admitted sz) :
    Balanced maxMem (state.place thread (.retracting sz)) := by
  apply balanced.move _ (.retracting sz) trivial (by simp [Call.block])
  · rcases reached with added | admitted
    · simp [added, Call.pending]
    · simp [admitted, Call.pending]
  · intro positive
    have bound := balanced.limited positive
    simp only [Call.reserved]
    omega

/-- Taking the size back closes the call. -/
theorem Balanced.retract (balanced : Balanced maxMem state) {sz : BitVec 64}
    (retracting : state.calls thread = .retracting sz) :
    Balanced maxMem ({ state with memUsed := state.memUsed - sz }.place thread .idle) := by
  have share := weight_le_total Call.pending state.calls thread
  have balance := balanced.used
  simp only [retracting, Call.pending] at share
  have enough : sz ≤ state.memUsed := BitVec.le_def.mpr (by omega)
  apply balanced.move _ .idle trivial (by simp [Call.block])
  · rw [BitVec.toNat_sub_of_le enough, retracting]
    simp only [Call.pending]
    omega
  · intro positive
    simpa [retracting, Call.reserved] using balanced.limited positive

/-- A call may start to free a counted block that no other call frees. -/
theorem Balanced.free (balanced : Balanced maxMem state) (idle : state.calls thread = .idle)
    {mem : Ptr} (member : mem ∈ state.counted)
    (unshared : ∀ other, (state.calls other).block ≠ some mem) :
    Balanced maxMem (state.place thread (.freeing mem)) := by
  apply balanced.move _ (.freeing mem) member
  · intro other block frees otherFrees
    obtain rfl : mem = block := by simpa [Call.block] using frees
    exact absurd otherFrees (unshared other)
  · simp [idle, Call.pending]
  · intro positive
    simpa [idle, Call.reserved] using balanced.limited positive

/-- A granted block takes over the size that was pending and reserved for it, so that the sums stay
what they were. It is assumed that the address is free. -/
theorem Balanced.grant (balanced : Balanced maxMem state) {sz : BitVec 64}
    (admitted : state.calls thread = .admitted sz) (mem : Ptr)
    (fresh : state.header mem = none) :
    Balanced maxMem ({ state with
      header := Function.update state.header mem (some sz)
      counted := insert mem state.counted }.place thread .idle) := by
  have outside : mem ∉ state.counted := fun member => balanced.headed mem member fresh
  have grown : granted ({ state with
      header := Function.update state.header mem (some sz)
      counted := insert mem state.counted }.place thread .idle) = granted state + sz.toNat := by
    unfold granted blockSize State.place
    rw [Finset.sum_insert outside, granted_header state.header state.counted mem outside (some sz)]
    simp [Nat.add_comm]
  have pendingMoved := total_update Call.pending state.calls thread .idle
  have reservedMoved := total_update Call.reserved state.calls thread .idle
  simp only [admitted, Call.pending, Call.reserved] at pendingMoved reservedMoved
  constructor
  case used =>
    have balance := balanced.used
    rw [grown]
    simp only [State.place]
    omega
  case limited =>
    intro positive
    have bound := balanced.limited positive
    rw [grown]
    simp only [State.place]
    omega
  case headed =>
    intro block member
    by_cases same : block = mem
    · simp [State.place, same]
    · have older : block ∈ state.counted := (Finset.mem_insert.mp member).resolve_left same
      simpa [State.place, same] using balanced.headed block older
  case placed =>
    refine balanced.places rfl trivial fun other block _ frees => ?_
    have differs : block ≠ mem := fun same => balanced.headed_of_block frees (same ▸ fresh)
    simp [State.place, differs]
  case once => exact once_update thread .idle balanced.once (by simp [Call.block])

/-- The subtraction uncounts the block, whose size the header still has. That size is in `memUsed`,
so the difference does not wrap. -/
theorem Balanced.subtract (balanced : Balanced maxMem state) {mem : Ptr} {sz : BitVec 64}
    (freeing : state.calls thread = .freeing mem) (header : state.header mem = some sz) :
    Balanced maxMem ({ state with
      memUsed := state.memUsed - sz
      counted := state.counted.erase mem }.place thread (.releasing mem)) := by
  have member : mem ∈ state.counted := by
    have place := balanced.placed thread
    rwa [freeing] at place
  have shrunk : granted ({ state with
      memUsed := state.memUsed - sz
      counted := state.counted.erase mem }.place thread (.releasing mem)) + sz.toNat =
      granted state := by
    have removed := Finset.sum_erase_add state.counted (blockSize state) member
    have size : blockSize state mem = sz.toNat := by simp [blockSize, header]
    rw [size] at removed
    exact removed
  have pendingMoved := total_update Call.pending state.calls thread (.releasing mem)
  have reservedMoved := total_update Call.reserved state.calls thread (.releasing mem)
  simp only [freeing, Call.pending, Call.reserved] at pendingMoved reservedMoved
  have balance := balanced.used
  constructor
  case used =>
    have enough : sz ≤ state.memUsed := BitVec.le_def.mpr (by omega)
    have lowered := BitVec.toNat_sub_of_le enough
    simp only [State.place] at shrunk ⊢
    omega
  case limited =>
    intro positive
    have bound := balanced.limited positive
    simp only [State.place] at shrunk ⊢
    omega
  case headed => exact fun block remains => balanced.headed block (Finset.mem_of_mem_erase remains)
  case placed =>
    refine balanced.places rfl ⟨Finset.notMem_erase mem _, balanced.headed mem member⟩
      fun other block differs frees => ?_
    have another : block ≠ mem := by
      rintro rfl
      exact differs (balanced.once other thread block frees (by simp [freeing, Call.block]))
    simp [State.place, another]
  case once =>
    apply once_update thread (.releasing mem) balanced.once
    intro other block frees otherFrees
    exact balanced.once other thread block otherFrees (by simpa [freeing, Call.block] using frees)

/-- Releasing an uncounted block changes no account: its size was taken off when it was uncounted.
-/
theorem Balanced.release (balanced : Balanced maxMem state) {mem : Ptr}
    (releasing : state.calls thread = .releasing mem) :
    Balanced maxMem ({ state with
      header := Function.update state.header mem none }.place thread .idle) := by
  have outside : mem ∉ state.counted := by
    have place := balanced.placed thread
    rw [releasing] at place
    exact place.1
  have sameGranted : granted ({ state with
      header := Function.update state.header mem none }.place thread .idle) = granted state :=
    granted_header state.header state.counted mem outside none
  have pendingMoved := total_update Call.pending state.calls thread .idle
  have reservedMoved := total_update Call.reserved state.calls thread .idle
  simp only [releasing, Call.pending, Call.reserved] at pendingMoved reservedMoved
  constructor
  case used =>
    have balance := balanced.used
    rw [sameGranted]
    simp only [State.place]
    omega
  case limited =>
    intro positive
    have bound := balanced.limited positive
    rw [sameGranted]
    simp only [State.place]
    omega
  case headed =>
    intro block member
    have differs : block ≠ mem := fun same => outside (same ▸ member)
    simpa [State.place, differs] using balanced.headed block member
  case placed =>
    refine balanced.places rfl trivial fun other block differs frees => ?_
    have another : block ≠ mem := by
      rintro rfl
      exact differs (balanced.once other thread block frees (by simp [releasing, Call.block]))
    simp [State.place, another]
  case once => exact once_update thread .idle balanced.once (by simp [Call.block])

/-- Every proper step keeps the accounts. There is one case for each branch of `threadStep`, and the
lemma above that it goes by. -/
theorem balanced_step (before : State T) (label : T × Act) (after : State T)
    (balanced : Balanced maxMem before) (proper : Proper before label)
    (taken : step maxMem before label = some after) : Balanced maxMem after := by
  obtain ⟨thread, act⟩ := label
  change threadStep maxMem before thread act = some after at taken
  unfold threadStep at taken
  split at taken
  · rename_i nmem size call
    obtain rfl := Option.some.inj taken
    exact balanced.calloc call (nmem * size) proper
  · rename_i sz call
    split at taken <;> rename_i within <;> obtain rfl := Option.some.inj taken
    · exact balanced.refuse (Or.inl call)
    · exact balanced.admits call within
  · rename_i sz call
    obtain rfl := Option.some.inj taken
    exact balanced.refuse (Or.inr call)
  · rename_i sz mem call
    obtain rfl := Option.some.inj taken
    exact balanced.grant call mem proper
  · rename_i sz call
    obtain rfl := Option.some.inj taken
    exact balanced.retract call
  · -- `CountingFree` returns at once without a block
    exact Option.some.inj taken ▸ balanced
  · rename_i mem call
    obtain rfl := Option.some.inj taken
    exact balanced.free call proper.1 proper.2
  · rename_i mem call
    obtain ⟨sz, header, rfl⟩ := Option.map_eq_some_iff.mp taken
    exact balanced.subtract call header
  · rename_i mem call
    obtain rfl := Option.some.inj taken
    exact balanced.release call
  · cases taken

end Laws

omit [DecidableEq T] in
/-- Before the first call nothing is granted or pending. -/
theorem initial_balanced [Fintype T] (maxMem : BitVec 64) (state : State T)
    (initial : Initial state) : Balanced maxMem state := by
  obtain ⟨used, unallocated, uncounted, idle⟩ := initial
  have nothing : granted state = 0 := by simp [granted, uncounted]
  have noPending : total Call.pending state.calls = 0 :=
    total_eq_zero _ _ fun thread => by simp [idle thread, Call.pending]
  have noReserved : total Call.reserved state.calls = 0 :=
    total_eq_zero _ _ fun thread => by simp [idle thread, Call.reserved]
  constructor
  case used => simp [used, nothing, noPending]
  case limited => simp [nothing, noReserved]
  case headed => simp [uncounted]
  case placed => intro thread; simp [idle thread, Placed]
  case once => simp [idle, Call.block]

/-- The memory budget. In every run of any number of threads the granted blocks
stay within the limit, `memUsed` is their size with the sizes of the calls in
progress, and it is exactly their size when no call is in progress.

It is assumed that no sum overflows 64 bits, that `calloc` returns an address that is free, and that
a block is freed once. A limit of zero means that there is none, and then the first bound is not
claimed. -/
theorem memory_budget [Fintype T] (maxMem : BitVec 64) (limited : maxMem > 0) (state : State T)
    (reached : Reachable (step maxMem) Proper Initial state) :
    granted state ≤ maxMem.toNat ∧
      state.memUsed.toNat = granted state + total Call.pending state.calls ∧
      ((∀ thread, state.calls thread = .idle) → state.memUsed.toNat = granted state) := by
  have balanced : Balanced maxMem state := reached.invariant (Balanced maxMem)
    (initial_balanced maxMem) (fun before label after _ holds proper taken =>
      balanced_step before label after holds proper taken)
  have bound := balanced.limited limited
  refine ⟨by omega, balanced.used, fun idle => ?_⟩
  have nothing : total Call.pending state.calls = 0 :=
    total_eq_zero _ _ fun thread => by simp [idle thread, Call.pending]
  rw [balanced.used, nothing, Nat.add_zero]

instance [Fintype T] (state : State T) : (label : T × Act) → Decidable (Proper state label)
  | (_, .calloc nmem size) =>
    inferInstanceAs (Decidable (state.memUsed.toNat + (nmem * size).toNat < 2 ^ 64))
  | (_, .allocate (some mem)) => inferInstanceAs (Decidable (state.header mem = none))
  | (_, .free (some mem)) => inferInstanceAs
    (Decidable (mem ∈ state.counted ∧ ∀ other, (state.calls other).block ≠ some mem))
  | (_, .test) => isTrue trivial
  | (_, .allocate none) => isTrue trivial
  | (_, .retract) => isTrue trivial
  | (_, .free none) => isTrue trivial
  | (_, .subtract) => isTrue trivial
  | (_, .release) => isTrue trivial

/-- No thread has called yet. -/
def initialState (T : Type) : State T := ⟨0, fun _ => none, ∅, fun _ => .idle⟩

/-- It is an initial state. -/
theorem initialState_initial (T : Type) : Initial (initialState T) :=
  ⟨rfl, fun _ => rfl, rfl, fun _ => rfl⟩

/-- Two threads under a limit of 128 bytes. The second one's 60 bytes are in
`memUsed` while its call is refused, and the budget still holds. -/
theorem memory_budget_refused : ∃ state : State (Fin 2),
    (state.memUsed = 160 ∧ granted state = 100) ∧ granted state ≤ 128 ∧
      state.memUsed.toNat = granted state + total Call.pending state.calls := by
  obtain ⟨state, reached, test⟩ := replay_exhibits (step 128) Proper Initial
    [(0, .calloc 1 100), (0, .test), (1, .calloc 4 15), (0, .allocate (some 4096)), (1, .test)]
    (initialState (Fin 2)) (fun state => state.memUsed = 160 ∧ granted state = 100)
    (initialState_initial (Fin 2)) (by decide)
  have budget := memory_budget 128 (by decide) state reached
  exact ⟨state, of_decide_eq_true test, budget.1, budget.2.1⟩

end AvocadoMisc.Dwh.Memory
