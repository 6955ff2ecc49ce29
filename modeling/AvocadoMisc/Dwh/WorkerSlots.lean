import Mathlib.Data.Fintype.Card
import AvocadoMisc.Library.Transitions
import AvocadoMisc.Dwh.ThreadLife

/-!
# Exclusive use of worker slots

A worker owns its entry of `wktinfo` from its creation until it has set the entry's
`thread_num` to zero. `getUnusedWorkerThreadNum` looks for a zero `thread_num`, so
an owned entry is found unused exactly when its thread was given the number zero.
Numbers come from one counter that starts at zero and is also used for I/O threads.
Without I/O threads the first worker gets the number zero, and the first
replacement then takes over the entry, and the semaphore, of a running worker.

In runs in which no worker is numbered zero the entries of live workers are
distinct, the scan returns only entries that no live worker owns, and there are
never more live workers than `maxthreads - iothreads`.
-/

namespace AvocadoMisc.Dwh.WorkerSlots

open Library.Transitions VerifySettings ThreadLife

variable {W I : Type}

/-- A live worker owns its slot: created, and not finished with its entry. -/
def owns : WorkerPc → Bool
  | .created | .counted | .working _ | .closing | .finishing => true
  | .absent | .released | .returned => false

/-- The number of slots. -/
def slotCount (settings : Settings) : Nat :=
  settings.maxthreads.toNat - settings.iothreads.toNat

/-- No live worker owns the slot. -/
def Unowned (wNum : Nat) (state : Life W I) : Prop :=
  ∀ who, owns (state.workers who).pc = true → (state.workers who).slot ≠ wNum

/-- All owned slots are below a bound. -/
def OwnedBelow (bound : Nat) (state : Life W I) : Prop :=
  ∀ who, owns (state.workers who).pc = true → (state.workers who).slot < bound

/-- Slot exclusivity in one state. The second clause is about the slot that main is
about to give to a new worker, from `getUnusedWorkerThreadNum` or from the setup. -/
structure Exclusive [Fintype W] (settings : Settings) (state : Life W I) : Prop where
  distinct : ∀ who other, owns (state.workers who).pc = true →
    owns (state.workers other).pc = true →
    (state.workers who).slot = (state.workers other).slot → who = other
  unused : ∀ wNum origin, state.main = .number wNum origin → Unowned wNum state
  bounded : (Finset.univ.filter fun who => owns (state.workers who).pc = true).card ≤
    slotCount settings

/-- The steps that number a worker. -/
def numbering : Label W I → Bool
  | .main .numberThread => true
  | _ => false

/-- Where main gives a number to a new worker, it is not zero. A step that gives none is free. -/
def NumbersNonzero (state : Life W I) (label : Label W I) : Prop :=
  numbering label = true → state.threadNum ≠ 0

instance (state : Life W I) (label : Label W I) : Decidable (NumbersNonzero state label) :=
  inferInstanceAs (Decidable (_ → _))

/-- The entry is marked as used. -/
def Marked (wNum : Nat) (state : Life W I) : Prop :=
  ∃ nums, state.wktinfo = some nums ∧ nums wNum ≠ 0

/-- What main's place says about the owned slots. -/
def MainClause (settings : Settings) (state : Life W I) : MainPc → Prop
  | .start | .createIo _ | .awaitIo | .setupWorkers => OwnedBelow 0 state
  | .createWorkers tnum => OwnedBelow tnum state
  | .number wNum origin => wNum < slotCount settings ∧ Unowned wNum state ∧
      ∀ tnum, origin = .setup tnum → wNum = tnum ∧ OwnedBelow tnum state
  | .create wNum origin => wNum < slotCount settings ∧ Unowned wNum state ∧
      Marked wNum state ∧ ∀ tnum, origin = .setup tnum → wNum = tnum ∧ OwnedBelow tnum state
  | .unlock (.setup tnum) => OwnedBelow (tnum + 1) state
  | _ => True

/-- The invariant: owned slots are marked, in range and distinct. -/
structure Slots (settings : Settings) (state : Life W I) : Prop where
  marked : ∀ who, owns (state.workers who).pc = true →
    Marked (state.workers who).slot state ∧ (state.workers who).slot < slotCount settings
  distinct : ∀ who other, owns (state.workers who).pc = true →
    owns (state.workers other).pc = true →
    (state.workers who).slot = (state.workers other).slot → who = other
  main : MainClause settings state state.main

/-- The invariant gives exclusivity. Distinct slots in range are at most as many as
there are slots. -/
theorem Slots.exclusive [Fintype W] {settings : Settings} {state : Life W I}
    (slots : Slots settings state) : Exclusive settings state := by
  refine ⟨slots.distinct, ?_, ?_⟩
  · intro wNum origin place
    have clause := slots.main
    rw [place] at clause
    exact clause.2.1
  · have range : ∀ who ∈ Finset.univ.filter fun who => owns (state.workers who).pc = true,
        (state.workers who).slot ∈ Finset.range (slotCount settings) := by
      intro who live
      exact Finset.mem_range.mpr (slots.marked who (Finset.mem_filter.mp live).2).2
    have injective : Set.InjOn (fun who => (state.workers who).slot)
        (Finset.univ.filter fun who => owns (state.workers who).pc = true) := by
      intro who live other alsoLive same
      simp only [Finset.coe_filter, Finset.mem_univ, true_and, Set.mem_ofPred_eq] at live alsoLive
      exact slots.distinct who other live alsoLive same
    have bound := Finset.card_le_card_of_injOn _ range injective
    rwa [Finset.card_range] at bound

variable [DecidableEq W] [DecidableEq I]

/-- What a worker's step does to the slots: it moves the worker, which never starts to
own a slot, and clears the mark of a slot only when the worker gives it up. -/
def WorkerKeeps (state after : Life W I) (who : W) : Prop :=
  ∃ pc updates, after.workers =
      Function.update state.workers who ⟨pc, (state.workers who).slot, updates⟩ ∧
    after.main = state.main ∧
    (owns pc = true → owns (state.workers who).pc = true) ∧
    (after.wktinfo = state.wktinfo ∨ (owns (state.workers who).pc = true ∧ owns pc = false ∧
      ∃ nums, state.wktinfo = some nums ∧
        after.wktinfo = some (Function.update nums (state.workers who).slot 0)))

omit [DecidableEq I] in
/-- Every step of a worker is of this kind. `release` alone writes the table, at the worker's own
slot and as its last step there; the others leave the table as it is. -/
theorem workerStep_keeps {state after : Life W I} {who : W} {act : WorkerAct}
    (taken : workerStep state who act = some after) : WorkerKeeps state after who := by
  have stays (middle : Life W I) (workers : middle.workers = state.workers)
      (main : middle.main = state.main) (wktinfo : middle.wktinfo = state.wktinfo) :
      WorkerKeeps state middle who :=
    ⟨(state.workers who).pc, (state.workers who).updates,
      by rw [Function.update_eq_self, workers], main, id, Or.inl wktinfo⟩
  cases act with
  | count | uncount =>
    simp only [workerStep] at taken
    split_ifs at taken with place
    obtain rfl := Option.some.inj taken
    exact ⟨_, _, rfl, rfl, by simp [place, owns], Or.inl rfl⟩
  | initSemaphore succeeds | destroySemaphore succeeds =>
    simp only [workerStep] at taken
    split_ifs at taken with place success <;> obtain rfl := Option.some.inj taken <;>
      exact ⟨_, _, rfl, rfl, by simp [place, owns], Or.inl rfl⟩
  | endMe draw =>
    simp only [workerStep] at taken
    split_ifs at taken with place ends <;> obtain rfl := Option.some.inj taken
    · exact ⟨_, _, rfl, rfl, by simp [place.1, owns], Or.inl rfl⟩
    · exact stays _ rfl rfl rfl
  | work fails =>
    simp only [workerStep] at taken
    split_ifs at taken with place failed <;> obtain rfl := Option.some.inj taken <;>
      exact stays _ rfl rfl rfl
  | leave =>
    simp only [workerStep] at taken
    split_ifs at taken with place
    obtain rfl := Option.some.inj taken
    rcases place with place | ⟨place, _⟩ <;>
      exact ⟨_, _, rfl, rfl, by simp [place, owns], Or.inl rfl⟩
  | release =>
    simp only [workerStep, setThreadNum, Option.map_map] at taken
    split_ifs at taken with place
    obtain ⟨nums, present, rfl⟩ := Option.map_eq_some_iff.mp taken
    exact ⟨_, _, rfl, rfl, by simp [owns], Or.inr ⟨by simp [place, owns], rfl, nums, present, rfl⟩⟩

omit [DecidableEq W] in
/-- An I/O thread's step touches no slot. -/
theorem ioStep_keeps {state after : Life W I} {who : I} {act : IOAct}
    (taken : ioStep state who act = some after) : after.workers = state.workers ∧
      after.main = state.main ∧ after.wktinfo = state.wktinfo := by
  cases act <;> simp only [ioStep] at taken <;> split_ifs at taken <;>
    obtain rfl := Option.some.inj taken <;> exact ⟨rfl, rfl, rfl⟩

omit [DecidableEq W] [DecidableEq I] in
/-- What a place of main says survives while no slot becomes owned and marks of
unowned slots stay. -/
theorem MainClause.carry {settings : Settings} {state after : Life W I} {place : MainPc}
    (clause : MainClause settings state place)
    (fewer : ∀ who, owns (after.workers who).pc = true → owns (state.workers who).pc = true ∧
      (after.workers who).slot = (state.workers who).slot)
    (marks : ∀ wNum, Unowned wNum state → Marked wNum state → Marked wNum after) :
    MainClause settings after place := by
  have below {bound : Nat} (bounded : OwnedBelow bound state) : OwnedBelow bound after := by
    intro who live
    obtain ⟨before, same⟩ := fewer who live
    rw [same]
    exact bounded who before
  have unowned {wNum : Nat} (free : Unowned wNum state) : Unowned wNum after := by
    intro who live
    obtain ⟨before, same⟩ := fewer who live
    rw [same]
    exact free who before
  cases place with
  | start | createIo | awaitIo | setupWorkers | createWorkers => exact below clause
  | number wNum origin =>
    obtain ⟨inside, free, setup⟩ := clause
    exact ⟨inside, unowned free, fun tnum isSetup =>
      ⟨(setup tnum isSetup).1, below (setup tnum isSetup).2⟩⟩
  | create wNum origin =>
    obtain ⟨inside, free, mark, setup⟩ := clause
    exact ⟨inside, unowned free, marks wNum free mark, fun tnum isSetup =>
      ⟨(setup tnum isSetup).1, below (setup tnum isSetup).2⟩⟩
  | unlock origin =>
    cases origin with
    | setup tnum => exact below clause
    | replacement => trivial
  | awaitWorkers | testing | lockAny | scan | ending | awaitThreads | cleanup | finished => trivial

section Steps

variable {settings : Settings} {state after : Life W I}

omit [DecidableEq W] [DecidableEq I] in
/-- A step that leaves workers and marks alone needs only main's new clause. -/
theorem Slots.place (slots : Slots settings state) (workers : after.workers = state.workers)
    (wktinfo : after.wktinfo = state.wktinfo) (clause : MainClause settings state after.main) :
    Slots settings after := by
  have marks (wNum : Nat) (mark : Marked wNum state) : Marked wNum after := by
    obtain ⟨nums, present, nonzero⟩ := mark
    exact ⟨nums, wktinfo.trans present, nonzero⟩
  refine ⟨?_, ?_, ?_⟩
  · intro who live
    rw [workers] at live ⊢
    exact ⟨marks _ (slots.marked who live).1, (slots.marked who live).2⟩
  · rw [workers]
    exact slots.distinct
  · exact clause.carry (fun who live => by rw [workers] at live ⊢; exact ⟨live, rfl⟩)
      (fun wNum _ mark => marks wNum mark)

omit [DecidableEq I] in
/-- A worker that gives up its slot clears only that slot's mark, which no other live
worker owns and main is not holding. -/
theorem Slots.worker (slots : Slots settings state) {who : W}
    (keeps : WorkerKeeps state after who) : Slots settings after := by
  obtain ⟨pc, updates, workers, main, owning, wktinfo⟩ := keeps
  have fewer (other : W) (live : owns (after.workers other).pc = true) :
      owns (state.workers other).pc = true ∧
        (after.workers other).slot = (state.workers other).slot := by
    rw [workers] at live ⊢
    by_cases same : other = who
    · subst other
      simp only [Function.update_self] at live ⊢
      exact ⟨owning live, trivial⟩
    · simp only [Function.update_of_ne same] at live ⊢
      exact ⟨live, trivial⟩
  have marks (wNum : Nat) (mark : Marked wNum state)
      (kept : owns (state.workers who).pc = true → owns pc = false →
        (state.workers who).slot ≠ wNum) : Marked wNum after := by
    obtain ⟨nums, present, nonzero⟩ := mark
    rcases wktinfo with same | ⟨live, gone, found, had, cleared⟩
    · exact ⟨nums, same.trans present, nonzero⟩
    · obtain rfl : nums = found := Option.some.inj (present.symm.trans had)
      refine ⟨_, cleared, ?_⟩
      rw [Function.update_of_ne (kept live gone).symm]
      exact nonzero
  refine ⟨?_, ?_, ?_⟩
  · intro other live
    obtain ⟨before, same⟩ := fewer other live
    rw [same]
    refine ⟨marks _ (slots.marked other before).1 ?_, (slots.marked other before).2⟩
    intro liveWho gone shared
    have isWho : who = other := slots.distinct who other liveWho before shared
    rw [workers, ← isWho, Function.update_self, gone] at live
    exact absurd live (by decide)
  · intro first second firstLive secondLive shared
    obtain ⟨firstBefore, firstSame⟩ := fewer first firstLive
    obtain ⟨secondBefore, secondSame⟩ := fewer second secondLive
    rw [firstSame, secondSame] at shared
    exact slots.distinct first second firstBefore secondBefore shared
  · rw [main]
    exact slots.main.carry fewer fun wNum free mark =>
      marks wNum mark fun live _ => free who live

omit [DecidableEq W] [DecidableEq I] in
/-- A loop index below a signed difference of thread counts is a slot. -/
theorem index_lt_slotCount (admitted : Admitted settings) {index : Nat} {threads : BitVec 32}
    (atLeast : settings.minthreads.toNat ≤ threads.toNat)
    (atMost : threads.toNat ≤ settings.maxthreads.toNat)
    (below : (index : Int) < (threads - settings.iothreads).toInt) :
    index < slotCount settings := by
  have workers := admitted.workers
  have enough : settings.iothreads ≤ threads := BitVec.le_def.mpr (by omega)
  have difference := BitVec.toNat_sub_of_le enough
  have signed : (threads - settings.iothreads).toInt ≤ (threads - settings.iothreads).toNat := by
    rw [BitVec.toInt_eq_toNat_cond]
    split <;> omega
  unfold slotCount
  omega

omit [DecidableEq W] [DecidableEq I] in
/-- A scanned slot with a zero `thread_num` is owned by no live worker. -/
theorem Slots.unowned_of_zero (slots : Slots settings state) {nums : Nat → BitVec 32} {wNum : Nat}
    (present : state.wktinfo = some nums) (zero : nums wNum = 0) : Unowned wNum state := by
  intro who live same
  obtain ⟨⟨found, had, nonzero⟩, _⟩ := slots.marked who live
  obtain rfl : nums = found := Option.some.inj (present.symm.trans had)
  exact nonzero (same ▸ zero)

omit [DecidableEq W] [DecidableEq I] in
/-- Writing the entry of a slot that no live worker owns leaves the owned slots marked, whatever is
written. -/
theorem Slots.marked_update (slots : Slots settings state) {wNum : Nat} {nums : Nat → BitVec 32}
    {value : BitVec 32} (present : state.wktinfo = some nums) (free : Unowned wNum state)
    (written : after.wktinfo = some (Function.update nums wNum value)) (who : W)
    (live : owns (state.workers who).pc = true) :
    Marked (state.workers who).slot after ∧ (state.workers who).slot < slotCount settings := by
  obtain ⟨⟨found, had, mark⟩, range⟩ := slots.marked who live
  obtain rfl : nums = found := Option.some.inj (present.symm.trans had)
  refine ⟨⟨_, written, ?_⟩, range⟩
  rw [Function.update_of_ne (free who live)]
  exact mark

/-- Marking a slot that no live worker owns as used. -/
theorem Slots.number (slots : Slots settings state) {wNum : Nat} {origin : Origin}
    (place : state.main = .number wNum origin) (nonzero : state.threadNum ≠ 0)
    (taken : mainStep settings state .numberThread = some after) : Slots settings after := by
  have clause := slots.main
  rw [place] at clause
  obtain ⟨inside, free, setup⟩ := clause
  simp only [mainStep, place, setThreadNum] at taken
  obtain ⟨nums, present, rfl⟩ := Option.map_eq_some_iff.mp taken
  exact ⟨slots.marked_update present free rfl, slots.distinct, inside, free,
    ⟨_, rfl, by simpa using nonzero⟩, setup⟩

/-- When no worker is made, main clears the mark again. No live worker has that slot, so the marks
of the others stay. -/
theorem Slots.notCreated (slots : Slots settings state) {wNum : Nat} {origin : Origin}
    (place : state.main = .create wNum origin)
    (taken : mainStep settings state (.createThread none) = some after) :
    Slots settings after := by
  have clause := slots.main
  rw [place] at clause
  obtain ⟨-, free, -, -⟩ := clause
  simp only [mainStep, place, setThreadNum] at taken
  obtain ⟨nums, present, rfl⟩ := Option.map_eq_some_iff.mp taken
  exact ⟨slots.marked_update present free rfl, slots.distinct, trivial⟩

/-- A new worker takes over the marked slot. No live worker has that slot, so the slots stay
distinct. -/
theorem Slots.created (slots : Slots settings state) {wNum : Nat} {origin : Origin}
    (place : state.main = .create wNum origin) {who : W}
    (taken : mainStep settings state (.createThread (some who)) = some after) :
    Slots settings after := by
  have clause := slots.main
  rw [place] at clause
  obtain ⟨inside, free, mark, setup⟩ := clause
  simp only [mainStep, place, addWorker] at taken
  split_ifs at taken with absent
  obtain rfl := Option.some.inj taken
  refine ⟨?_, ?_, ?_⟩
  · intro other live
    by_cases same : other = who
    · subst other
      simp only [Function.update_self]
      exact ⟨mark, inside⟩
    · simp only [Function.update_of_ne same] at live ⊢
      exact slots.marked other live
  · intro first second firstLive secondLive shared
    by_cases isFirst : first = who
    · by_cases isSecond : second = who
      · rw [isFirst, isSecond]
      · subst first
        simp only [Function.update_self, Function.update_of_ne isSecond] at secondLive shared
        exact absurd shared.symm (free second secondLive)
    · by_cases isSecond : second = who
      · subst second
        simp only [Function.update_self, Function.update_of_ne isFirst] at firstLive shared
        exact absurd shared (free first firstLive)
      · simp only [Function.update_of_ne isFirst, Function.update_of_ne isSecond]
          at firstLive secondLive shared
        exact slots.distinct first second firstLive secondLive shared
  · cases origin with
    | replacement => trivial
    | setup tnum =>
      obtain ⟨isNum, below⟩ := setup tnum rfl
      intro other live
      by_cases same : other = who
      · subst other
        simp only [Function.update_self]
        omega
      · simp only [Function.update_of_ne same] at live ⊢
        exact Nat.lt_succ_of_lt (below other live)

/-- A new I/O thread leaves the slots alone. -/
theorem Slots.createIOThread (slots : Slots settings state) {created : Option I}
    (taken : mainStep settings state (.createIOThread created) = some after) :
    Slots settings after := by
  have clause := slots.main
  simp only [mainStep] at taken
  split at taken
  · rename_i place
    rw [place] at clause
    split_ifs at taken with more
    cases created with
    | none =>
      obtain rfl := Option.some.inj taken
      exact slots.place rfl rfl clause
    | some who =>
      simp only [addIOThread] at taken
      split_ifs at taken with absent
      obtain rfl := Option.some.inj taken
      exact slots.place rfl rfl clause
  · simp at taken

/-- A fresh table of slots. No worker is live yet. -/
theorem Slots.setupWorkerThreads (slots : Slots settings state) {attr alloc : Bool}
    (taken : mainStep settings state (.setupWorkerThreads attr alloc) = some after) :
    Slots settings after := by
  have clause := slots.main
  simp only [mainStep] at taken
  split at taken
  · rename_i place
    rw [place] at clause
    have nobody (who : W) (live : owns (state.workers who).pc = true) : False :=
      Nat.not_lt_zero _ (clause who live)
    split_ifs at taken <;> obtain rfl := Option.some.inj taken
    · exact ⟨fun who live => (nobody who live).elim, slots.distinct, clause⟩
    · exact slots.place rfl rfl trivial
  · simp at taken

/-- While the first workers are created, the next slot lies above all owned ones. -/
theorem Slots.lockSlot (admitted : Admitted settings) (slots : Slots settings state)
    {locked : Bool} (taken : mainStep settings state (.lockSlot locked) = some after) :
    Slots settings after := by
  have clause := slots.main
  simp only [mainStep] at taken
  split at taken
  · rename_i tnum place
    rw [place] at clause
    split_ifs at taken with more lock held <;> obtain rfl := Option.some.inj taken
    · have inside := index_lt_slotCount admitted (Nat.le_refl _) admitted.range more
      refine slots.place rfl rfl ⟨inside, ?_, ?_⟩
      · intro who live
        exact Nat.ne_of_lt (clause who live)
      · intro other isSetup
        obtain rfl := Origin.setup.inj isSetup
        exact ⟨rfl, clause⟩
    · exact slots.place rfl rfl trivial
  · simp at taken

/-- The scan takes a slot whose number is zero, and no live worker owns that. -/
theorem Slots.scanSlot (admitted : Admitted settings) (slots : Slots settings state)
    (taken : mainStep settings state .scanSlot = some after) : Slots settings after := by
  simp only [mainStep] at taken
  split at taken
  · rename_i wNum place
    split_ifs at taken with inside
    · obtain ⟨nums, present, chosen⟩ := Option.map_eq_some_iff.mp taken
      split_ifs at chosen with zero <;> subst after
      · have range := index_lt_slotCount admitted admitted.range (Nat.le_refl _) inside
        exact slots.place rfl rfl ⟨range, slots.unowned_of_zero present zero, by simp⟩
      · exact slots.place rfl rfl trivial
    · obtain rfl := Option.some.inj taken
      exact slots.place rfl rfl trivial
  · simp at taken

/-- Behind the new worker of the setup the loop goes on. -/
theorem Slots.unlock (slots : Slots settings state) {unlocked : Bool}
    (taken : mainStep settings state (.unlock unlocked) = some after) : Slots settings after := by
  have clause := slots.main
  simp only [mainStep] at taken
  split at taken
  · rename_i origin place
    rw [place] at clause
    obtain rfl := Option.some.inj taken
    cases origin with
    | setup tnum => exact slots.place rfl rfl clause
    | replacement => exact slots.place rfl rfl trivial
  · simp at taken

/-- Main's steps keep the invariant, if it numbers workers other than zero: number 0 is the one that
a free slot holds, and a worker under it would leave its slot looking free. -/
theorem Slots.mainStep (admitted : Admitted settings) (slots : Slots settings state)
    {act : MainAct W I} (nonzero : NumbersNonzero state (.main act))
    (taken : mainStep settings state act = some after) : Slots settings after := by
  have clause := slots.main
  cases act with
  | setupIOThreads | finishIOSetup | awaitIo | finishWorkerSetup | awaitWorkers | replaceWorker |
    lockAny | awaitThreads | cleanup =>
    simp only [ThreadLife.mainStep] at taken
    split at taken
    · rename_i place
      rw [place] at clause
      split_ifs at taken <;> obtain rfl := Option.some.inj taken
      all_goals first
        | exact slots
        | exact slots.place rfl rfl clause
        | exact slots.place rfl rfl trivial
    · simp at taken
  | createIOThread created => exact slots.createIOThread taken
  | setupWorkerThreads attr alloc => exact slots.setupWorkerThreads taken
  | lockSlot locked => exact slots.lockSlot admitted taken
  | scanSlot => exact slots.scanSlot admitted taken
  | numberThread =>
    cases place : state.main with
    | number wNum origin => exact slots.number place (nonzero rfl) taken
    | _ => simp [ThreadLife.mainStep, place] at taken
  | createThread created =>
    cases place : state.main with
    | create wNum origin =>
      cases created with
      | none => exact slots.notCreated place taken
      | some who => exact slots.created place taken
    | _ => simp [ThreadLife.mainStep, place] at taken
  | unlock unlocked => exact slots.unlock taken
  | leaveLoop | endThreads =>
    simp only [ThreadLife.mainStep] at taken
    split at taken
    · obtain rfl := Option.some.inj taken
      exact slots.place rfl rfl trivial
    · simp at taken

end Steps

/-- The invariant holds in every run in which no worker is numbered zero. -/
theorem reachable_slots {settings : Settings} (admitted : Admitted settings) {state : Life W I}
    (reached : Reachable (step settings) NumbersNonzero Initial state) : Slots settings state := by
  apply reached.invariant (Slots settings)
  · rintro state ⟨main, _, _, _, _, _, _, workers, _⟩
    have nobody (who : W) (live : owns (state.workers who).pc = true) : False := by
      simp [workers who, owns] at live
    refine ⟨fun who live => (nobody who live).elim, fun who _ live => (nobody who live).elim, ?_⟩
    rw [main]
    exact fun who live => (nobody who live).elim
  · rintro before label after _ slots nonzero taken
    cases label with
    | main act => exact slots.mainStep admitted nonzero taken
    | worker who act => exact slots.worker (workerStep_keeps taken)
    | io who act =>
      obtain ⟨workers, main, wktinfo⟩ := ioStep_keeps taken
      apply slots.place workers wktinfo
      rw [main]
      exact slots.main

/-- Slot exclusivity. For admitted settings, in every run in which no worker is
numbered zero, live workers have distinct slots, a slot about to be given away has no
live owner, and there are at most `maxthreads - iothreads` live workers.

Creations may fail, and workers end and are replaced in any order. Once a worker has been given the
number zero nothing is said: its slot looks unused while it lives.

Proof: an owned slot has a number other than zero, so the scan finds only slots that nobody owns. -/
theorem worker_slots_exclusive [Fintype W] (given settings : Settings)
    (accepted : verifySettings given = .ok settings) (state : Life W I)
    (reached : Reachable (step settings) NumbersNonzero Initial state) :
    Exclusive settings state :=
  (reachable_slots (verifySettings_ok accepted).1 reached).exclusive

/-- Settings that leave room for two workers. -/
def twoWorkers (minthreads maxthreads iothreads : BitVec 32) : Settings :=
  defaults minthreads maxthreads iothreads "dwh.dat"

/-- Main creates its first worker and then a replacement. -/
def replacementSchedule (first : W) (draw : Sizing.Rand) : List (Label W I) :=
  [.main (.setupWorkerThreads true true), .main (.lockSlot true), .main .numberThread,
    .main (.createThread (some first)), .main (.unlock true), .main (.finishWorkerSetup true),
    .worker first .count, .main .awaitWorkers, .main (.replaceWorker draw),
    .main (.lockAny true)]

/-- With an I/O thread, which takes the number zero, the replacement gets the second
slot. -/
theorem worker_slots_exclusive_replacement : ∃ state : Life (Fin 2) (Fin 1),
    ((state.workers 0).pc = .counted ∧ (state.workers 0).slot = 0 ∧
      (state.workers 1).pc = .created ∧ (state.workers 1).slot = 1) ∧
    Exclusive (twoWorkers 2 3 1) state := by
  obtain ⟨state, reached, test⟩ := replay_exhibits (step (twoWorkers 2 3 1)) NumbersNonzero Initial
    ([.main (.setupIOThreads true true), .main (.createIOThread (some 0)), .io 0 .count,
      .io 0 .countIo, .main (.finishIOSetup true), .main .awaitIo] ++
      replacementSchedule 0 2147483647 ++ [.main .scanSlot, .main .scanSlot, .main .numberThread,
      .main (.createThread (some 1))])
    (initialLife (Fin 2) (Fin 1)) (fun state => (state.workers 0).pc = .counted ∧
      (state.workers 0).slot = 0 ∧ (state.workers 1).pc = .created ∧ (state.workers 1).slot = 1)
    (initialLife_initial _ _) (by decide)
  exact ⟨state, of_decide_eq_true test,
    worker_slots_exclusive (twoWorkers 2 3 1) (twoWorkers 2 3 1) (by decide) state reached⟩

/-- Without I/O threads the first worker is numbered zero. The replacement is given
its slot while it runs. -/
theorem worker_slots_not_exclusive :
    ¬ ∀ (given settings : Settings) (state : Life (Fin 2) (Fin 1)),
      verifySettings given = .ok settings →
      Reachable (step settings) Unrestricted Initial state → Exclusive settings state := by
  intro always
  obtain ⟨state, reached, test⟩ := replay_exhibits (step (twoWorkers 1 2 0)) (fun _ _ => True)
    Initial ([.main (.setupIOThreads true true)] ++ replacementSchedule 0 2147483647 ++
      [.main .scanSlot, .main .numberThread, .main (.createThread (some 1))])
    (initialLife (Fin 2) (Fin 1)) (fun state => owns (state.workers 0).pc = true ∧
      owns (state.workers 1).pc = true ∧ (state.workers 0).slot = (state.workers 1).slot)
    (initialLife_initial _ _) (by decide)
  obtain ⟨first, second, shared⟩ := of_decide_eq_true test
  have exclusive := always (twoWorkers 1 2 0) (twoWorkers 1 2 0) state (by decide) reached
  exact absurd (exclusive.distinct 0 1 first second shared) (by decide)

end AvocadoMisc.Dwh.WorkerSlots
