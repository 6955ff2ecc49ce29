import Mathlib.Data.BitVec
import Mathlib.Tactic.LinearCombination
import Mathlib.Tactic.Ring
import AvocadoMisc.Library.Transitions
import AvocadoMisc.Library.Accounting
import AvocadoMisc.Dwh.Transfers

/-!
# The accounts of the I/O counters

A request is submitted by a worker, performed by an I/O thread and retired by the
worker, which adds the node's `io_done` to the total of its kind. Any number of
requests overlap in any order, with any answers of the calls.

The books also list the transfers: the asynchronous calls that were made, with the
length and the result of each. The counter of tried bytes is the sum of the lengths, and
`under` the sum of the shortfalls. A total is not the sum of the results: `io_done` is
set to the whole length after every call that did not fail, so a total counts the
missing bytes of a short transfer as well, and they are counted twice in the equation.
-/

namespace AvocadoMisc.Dwh.TransferAccounts

open Library.Transitions Library.Accounting Queues Sizing Transfers

/-- Where a request is. -/
inductive RequestPc where
  | absent
  | queued
  | performed
  | retired
  deriving DecidableEq

/-- A request: its kind, which the worker keeps, and its node. -/
structure Request where
  direction : Direction
  node : NodeData
  pc : RequestPc

/-- One asynchronous call: its kind, the length it was given and what it returned. -/
structure Transfer where
  direction : Direction
  ioLen : BitVec 64
  result : BitVec 64

/-- The counters, the requests, and the transfers so far with the last one first. -/
structure Books (R : Type) where
  stats : Stats
  requests : R → Request
  transfers : List Transfer

/-- Steps of one request. What is drawn and what the calls answer is part of them. -/
inductive Act where
  | submit (direction : Direction) (buffer : Buf) (sz : BitVec 64) (draw : Rand)
  | perform (fd : Int) (readStream verbose : Bool) (answers : FileAnswers)
  | retire

variable {R : Type} [DecidableEq R]

/-- Replace one request. -/
def Books.place (books : Books R) (who : R) (request : Request) : Books R :=
  { books with requests := Function.update books.requests who request }

/-- Enter what a transfer left. The descriptor was only lent to the node. -/
def Books.perform (books : Books R) (who : R) (outcome : FileOutcome) : Books R :=
  let request := books.requests who
  { books with
    stats := outcome.stats
    transfers := match outcome.transferred with
      | some result => ⟨request.direction, request.node.ioLen, result⟩ :: books.transfers
      | none => books.transfers }.place who
        { request with
          node := { request.node with ioDone := outcome.ioDone, myFd := -1 }
          pc := .performed }

/-- One step: a worker submits a zeroed node with its buffer and a drawn length, an I/O
thread lends the node its descriptor for one transfer, or the worker retires the node. -/
def step (books : Books R) (label : R × Act) : Option (Books R) :=
  let (who, act) := label
  let request := books.requests who
  match act with
  | .submit direction buffer sz draw =>
    if request.pc = .absent then
      some ({ books with
        stats.nQueuedIOTasks := books.stats.nQueuedIOTasks + 1 }.place who
          ⟨direction, ⟨0, some buffer, requestLength sz draw, 0⟩, .queued⟩)
    else none
  | .perform fd readStream verbose answers =>
    if request.pc = .queued then
      let stats := { books.stats with nTriedIOTasks := books.stats.nTriedIOTasks + 1 }
      some (books.perform who (ioFileFor request.direction readStream verbose answers
        { request.node with myFd := fd } stats))
    else none
  | .retire =>
    if request.pc = .performed then
      some ({ books with
        stats.totalIo := addTo request.direction request.node.ioDone books.stats.totalIo }.place
          who { request with pc := .retired })
    else none

/-- No request was submitted and the counters are zero. -/
def Initial (books : Books R) : Prop :=
  books.stats = noStats ∧ books.transfers = [] ∧
    ∀ who, (books.requests who).pc = .absent ∧ (books.requests who).node.ioDone = 0

/-- Every submitted request was retired, so that nothing is under way in an account. -/
def Settled (books : Books R) : Prop :=
  ∀ who, (books.requests who).pc = .absent ∨ (books.requests who).pc = .retired

/-! ### Sums over the transfers -/

/-- The sum of an amount over the transfers of one kind. -/
def sumOf (amount : Transfer → BitVec 64) (direction : Direction) (transfers : List Transfer) :
    BitVec 64 :=
  ((transfers.filter fun transfer => transfer.direction = direction).map amount).sum

/-- The bytes that a call moved. -/
def Transfer.moved (transfer : Transfer) : BitVec 64 :=
  if transfer.result = failure then 0 else transfer.result

/-- The bytes that a call which did not fail left out. -/
def Transfer.shortfall (transfer : Transfer) : BitVec 64 :=
  if transfer.result = failure then 0 else transfer.ioLen - transfer.result

/-- The length of a call that failed. -/
def Transfer.failedLen (transfer : Transfer) : BitVec 64 :=
  if transfer.result = failure then transfer.ioLen else 0

@[simp] theorem sumOf_nil (amount : Transfer → BitVec 64) (direction : Direction) :
    sumOf amount direction [] = 0 := rfl

@[simp] theorem sumOf_cons_self (amount : Transfer → BitVec 64) (transfer : Transfer)
    (transfers : List Transfer) :
    sumOf amount transfer.direction (transfer :: transfers) =
      amount transfer + sumOf amount transfer.direction transfers := by
  simp [sumOf]

/-- A transfer of the other direction does not count. -/
theorem sumOf_cons_of_ne (amount : Transfer → BitVec 64) {direction : Direction}
    {transfer : Transfer} (differs : direction ≠ transfer.direction)
    (transfers : List Transfer) :
    sumOf amount direction (transfer :: transfers) = sumOf amount direction transfers := by
  simp [sumOf, differs.symm]

/-- A call's length is what it moved, left out, or failed to move. -/
theorem Transfer.ioLen_eq (transfer : Transfer) :
    transfer.ioLen = transfer.moved + transfer.shortfall + transfer.failedLen := by
  unfold moved shortfall failedLen
  split_ifs <;> simp

/-- The same for the sums. -/
theorem sumOf_ioLen (direction : Direction) (transfers : List Transfer) :
    sumOf Transfer.ioLen direction transfers =
      sumOf Transfer.moved direction transfers + sumOf Transfer.shortfall direction transfers +
        sumOf Transfer.failedLen direction transfers := by
  induction transfers with
  | nil => simp
  | cons transfer transfers inductionHypothesis =>
    by_cases same : direction = transfer.direction
    · subst same
      simp only [sumOf_cons_self, inductionHypothesis]
      rw [transfer.ioLen_eq]
      ring
    · simp only [sumOf_cons_of_ne _ same, inductionHypothesis]

/-! ### The books in every run -/

/-- What the performed and not yet retired requests of one kind will add to its total. -/
def due (direction : Direction) (request : Request) : BitVec 64 :=
  if request.pc = .performed ∧ request.direction = direction then request.node.ioDone else 0

/-- The counters of one kind in terms of the transfers. -/
structure Kept [Fintype R] (direction : Direction) (books : Books R) : Prop where
  tried : books.stats.triedIo direction = sumOf Transfer.ioLen direction books.transfers
  under : books.stats.under direction = sumOf Transfer.shortfall direction books.transfers
  done : books.stats.totalIo direction + total (due direction) books.requests +
    sumOf Transfer.failedLen direction books.transfers =
      sumOf Transfer.ioLen direction books.transfers
  fresh : ∀ who, (books.requests who).pc = .absent ∨ (books.requests who).pc = .queued →
    (books.requests who).node.ioDone = 0

variable [Fintype R]

/-- A step without a transfer that pays a total exactly what its request no longer owes
keeps the books. -/
theorem Kept.moves {direction : Direction} {books after : Books R} (kept : Kept direction books)
    (who : R) (request : Request)
    (requests : after.requests = Function.update books.requests who request)
    (transfers : after.transfers = books.transfers)
    (tried : after.stats.triedIo = books.stats.triedIo)
    (under : after.stats.under = books.stats.under)
    (paid : after.stats.totalIo direction + due direction request =
      books.stats.totalIo direction + due direction (books.requests who))
    (fresh : request.pc = .absent ∨ request.pc = .queued → request.node.ioDone = 0) :
    Kept direction after where
  tried := by rw [tried, transfers, kept.tried]
  under := by rw [under, transfers, kept.under]
  done := by
    have exchanged := total_update (due direction) books.requests who request
    rw [requests, transfers]
    linear_combination kept.done + paid + exchanged
  fresh other waiting := by
    rw [requests] at waiting ⊢
    by_cases same : other = who
    · subst other
      simp only [Function.update_self] at waiting ⊢
      exact fresh waiting
    · simp only [Function.update_of_ne same] at waiting ⊢
      exact kept.fresh other waiting

/-- A transfer keeps the books: its length is added to what was tried, its shortfall to
`under`, and the request owes the whole length or, after a failure, nothing. -/
theorem Kept.transfers {direction : Direction} {books after : Books R}
    (kept : Kept direction books) (who : R) (queued : (books.requests who).pc = .queued)
    (request : Request) (result : BitVec 64)
    (requests : after.requests = Function.update books.requests who request)
    (transfers : after.transfers =
      ⟨request.direction, request.node.ioLen, result⟩ :: books.transfers)
    (tried : after.stats.triedIo =
      addTo request.direction request.node.ioLen books.stats.triedIo)
    (total : after.stats.totalIo = books.stats.totalIo)
    (under : after.stats.under = addTo request.direction
      (if result = failure then 0 else request.node.ioLen - result) books.stats.under)
    (performed : request.pc = .performed)
    (ioDone : request.node.ioDone = if result = failure then 0 else request.node.ioLen) :
    Kept direction after := by
  have exchanged := total_update (due direction) books.requests who request
  have owed : due direction (books.requests who) = 0 := by simp [due, queued]
  have fresh (other : R) (waiting : (after.requests other).pc = .absent ∨
      (after.requests other).pc = .queued) : (after.requests other).node.ioDone = 0 := by
    rw [requests] at waiting ⊢
    by_cases same : other = who
    · subst other
      simp [performed] at waiting
    · simp only [Function.update_of_ne same] at waiting ⊢
      exact kept.fresh other waiting
  by_cases same : direction = request.direction
  · subst same
    have owes : due request.direction request =
        if result = failure then 0 else request.node.ioLen := by simp [due, performed, ioDone]
    have failing : Transfer.failedLen ⟨request.direction, request.node.ioLen, result⟩ =
        if result = failure then request.node.ioLen else 0 := rfl
    have cons (amount : Transfer → BitVec 64) :
        sumOf amount request.direction after.transfers =
          amount ⟨request.direction, request.node.ioLen, result⟩ +
            sumOf amount request.direction books.transfers := by
      rw [transfers, ← sumOf_cons_self]
    refine ⟨?_, ?_, ?_, fresh⟩
    · rw [tried, addTo_self, cons, kept.tried, add_comm]
    · rw [under, addTo_self, cons, kept.under, add_comm]
      rfl
    · rw [requests, total, cons, cons]
      rw [owes, owed] at exchanged
      rw [failing]
      by_cases failed : result = failure
      · simp only [failed, ↓reduceIte] at exchanged ⊢
        linear_combination kept.done + exchanged
      · simp only [failed, ↓reduceIte] at exchanged ⊢
        linear_combination kept.done + exchanged
  · have owes : due direction request = 0 := by simp [due, Ne.symm same]
    have cons (amount : Transfer → BitVec 64) :
        sumOf amount direction after.transfers = sumOf amount direction books.transfers := by
      rw [transfers, sumOf_cons_of_ne _ same]
    refine ⟨?_, ?_, ?_, fresh⟩
    · rw [tried, addTo_of_ne same, cons, kept.tried]
    · rw [under, addTo_of_ne same, cons, kept.under]
    · rw [requests, total, cons, cons]
      rw [owes, owed] at exchanged
      linear_combination kept.done + exchanged

/-- So an I/O thread keeps the books, whether its request led to a transfer or not. -/
theorem Kept.perform {direction : Direction} {books : Books R} (kept : Kept direction books)
    (who : R) (queued : (books.requests who).pc = .queued) (outcome : FileOutcome)
    (counts : Untouched (books.requests who).node books.stats outcome ∨
      Counted (books.requests who).direction (books.requests who).node books.stats outcome) :
    Kept direction (books.perform who outcome) := by
  have zero : (books.requests who).node.ioDone = 0 := kept.fresh who (Or.inr queued)
  rcases counts with ⟨none, ioDone, tried, total, under⟩ |
    ⟨result, some, ioDone, tried, total, under⟩
  · refine kept.moves who _ rfl ?_ tried under ?_ ?_
    · simp only [Books.perform, Books.place, none]
    · simp [Books.perform, Books.place, due, queued, ioDone, zero, total]
    · rintro (impossible | impossible) <;> cases impossible
  · refine kept.transfers who queued _ result rfl ?_ tried total under rfl ?_
    · simp only [Books.perform, Books.place, some]
    · simpa only [zero] using ioDone

/-- Every step keeps the books. Submitting and retiring change only the place of a request, which
decides what is due for it; the accounts are written by the step that performs it. -/
theorem Kept.step {direction : Direction} {books after : Books R} (kept : Kept direction books)
    {label : R × Act} (taken : step books label = some after) : Kept direction after := by
  obtain ⟨who, act⟩ := label
  cases act with
  | submit kind buffer sz draw =>
    simp only [TransferAccounts.step] at taken
    split_ifs at taken with absent
    obtain rfl := Option.some.inj taken
    exact kept.moves who _ rfl rfl rfl rfl (by simp [due, absent, Books.place]) (fun _ => rfl)
  | perform fd readStream verbose answers =>
    simp only [TransferAccounts.step] at taken
    split_ifs at taken with queued
    obtain rfl := Option.some.inj taken
    exact kept.perform who queued _ (ioFileFor_counts _ _ _ _ _ _)
  | retire =>
    simp only [TransferAccounts.step] at taken
    split_ifs at taken with performed
    obtain rfl := Option.some.inj taken
    refine kept.moves who _ rfl rfl rfl rfl ?_ (by rintro (impossible | impossible) <;>
      cases impossible)
    by_cases same : direction = (books.requests who).direction
    · subst same
      simp [Books.place, due, performed]
    · simp [Books.place, due, Ne.symm same, addTo_of_ne same]

/-- The books are kept in every run. -/
theorem reachable_kept {books : Books R} (reached : Reachable step Unrestricted Initial books)
    (direction : Direction) : Kept direction books := by
  apply reached.invariant (Kept direction)
  · rintro state ⟨stats, transfers, absent⟩
    have nothing : total (due direction) state.requests = 0 :=
      total_eq_zero _ _ fun who => by simp [due, (absent who).1]
    refine ⟨?_, ?_, ?_, fun who _ => (absent who).2⟩
    · rw [stats, transfers]; rfl
    · rw [stats, transfers]; rfl
    · rw [stats, transfers, nothing]; rfl
  · intro before label after _ kept _ taken
    exact kept.step taken

/-- The accounting contract: what was tried is what was done, left out and failed, and what
was done is what the calls moved. -/
structure Balanced (direction : Direction) (books : Books R) : Prop where
  equation : books.stats.triedIo direction = books.stats.totalIo direction +
    books.stats.under direction + sumOf Transfer.failedLen direction books.transfers
  moved : books.stats.totalIo direction = sumOf Transfer.moved direction books.transfers

omit [DecidableEq R] in
/-- Once every request was retired, a total is what the calls moved and left out. -/
theorem Kept.total_eq {direction : Direction} {books : Books R} (kept : Kept direction books)
    (settled : Settled books) : books.stats.totalIo direction =
      sumOf Transfer.moved direction books.transfers +
        sumOf Transfer.shortfall direction books.transfers := by
  have nothing : total (due direction) books.requests = 0 := by
    apply total_eq_zero
    intro who
    rcases settled who with place | place <;> simp [due, place]
  have done := kept.done
  rw [nothing, sumOf_ioLen] at done
  linear_combination done

/-- The bytes that the transfers of one kind left out, as a natural number. -/
def leftOut (direction : Direction) (transfers : List Transfer) : Nat :=
  ((transfers.filter fun transfer => transfer.direction = direction).map
    fun transfer => transfer.shortfall.toNat).sum

/-- A call left nothing out exactly when it failed or was not short. -/
theorem Transfer.shortfall_eq_zero (transfer : Transfer) :
    transfer.shortfall = 0 ↔ transfer.result = failure ∨ transfer.result = transfer.ioLen := by
  unfold shortfall
  split_ifs with failed
  · simp [failed]
  · rw [sub_eq_zero]
    exact ⟨fun same => Or.inr same.symm, fun whole => (whole.resolve_left failed).symm⟩

/-- Words whose sum does not wrap add up like numbers. -/
theorem sum_toNat (words : List (BitVec 64))
    (fits : (words.map BitVec.toNat).sum < 2 ^ 64) :
    words.sum.toNat = (words.map BitVec.toNat).sum := by
  induction words with
  | nil => rfl
  | cons word words inductionHypothesis =>
    simp only [List.map_cons, List.sum_cons] at fits ⊢
    rw [BitVec.toNat_add, inductionHypothesis (by omega)]
    exact Nat.mod_eq_of_lt fits

/-- Shortfalls that do not wrap sum to zero only when there are none. -/
theorem sumOf_shortfall_eq_zero {direction : Direction} {transfers : List Transfer}
    (fits : leftOut direction transfers < 2 ^ 64) :
    sumOf Transfer.shortfall direction transfers = 0 ↔
      ∀ transfer ∈ transfers, transfer.direction = direction →
        transfer.result = failure ∨ transfer.result = transfer.ioLen := by
  have exact := sum_toNat ((transfers.filter fun transfer =>
    transfer.direction = direction).map Transfer.shortfall)
  have nothing : (0 : BitVec 64).toNat = 0 := rfl
  rw [List.map_map] at exact
  rw [← BitVec.toNat_inj, sumOf, exact fits, nothing, List.sum_eq_zero_iff]
  constructor
  · intro none transfer listed same
    have counted : transfer.shortfall.toNat ∈ (transfers.filter fun transfer =>
        transfer.direction = direction).map (BitVec.toNat ∘ Transfer.shortfall) :=
      List.mem_map.mpr ⟨transfer, List.mem_filter.mpr ⟨listed, decide_eq_true same⟩, rfl⟩
    rw [← transfer.shortfall_eq_zero, ← BitVec.toNat_inj, none _ counted, nothing]
  · rintro whole words counted
    obtain ⟨transfer, filtered, rfl⟩ := List.mem_map.mp counted
    obtain ⟨listed, same⟩ := List.mem_filter.mp filtered
    have zero := transfer.shortfall_eq_zero.mpr (whole transfer listed (of_decide_eq_true same))
    rw [Function.comp_apply, zero, nothing]

/-- In every run in which every request was retired, the accounts of either kind balance
exactly when the shortfalls of its calls sum to zero as a counter. While fewer than 2^64
bytes were left out, that is when no call was short. -/
theorem accounts_balance_iff (books : Books R) (reached : Reachable step Unrestricted Initial books)
    (settled : Settled books) (direction : Direction) :
    (Balanced direction books ↔ sumOf Transfer.shortfall direction books.transfers = 0) ∧
      (leftOut direction books.transfers < 2 ^ 64 →
        (Balanced direction books ↔ ∀ transfer ∈ books.transfers,
          transfer.direction = direction →
            transfer.result = failure ∨ transfer.result = transfer.ioLen)) := by
  have kept := reachable_kept reached direction
  have total := kept.total_eq settled
  have split := sumOf_ioLen direction books.transfers
  have balanced : Balanced direction books ↔
      sumOf Transfer.shortfall direction books.transfers = 0 := by
    constructor
    · intro contract
      linear_combination contract.moved - total
    · intro whole
      refine ⟨?_, ?_⟩
      · rw [kept.tried, kept.under, split, total]
        linear_combination -whole
      · linear_combination total + whole
  exact ⟨balanced, fun fits => balanced.trans (sumOf_shortfall_eq_zero fits)⟩

/-- The calls of a transfer that returns the given result. -/
def answering (returned : BitVec 64) : FileAnswers :=
  ⟨true, true, ⟨true, true, false, false, returned⟩⟩

/-- No request of either of two workers was submitted. -/
def noBooks : Books (Fin 2) :=
  ⟨noStats, fun _ => ⟨.read, ⟨0, none, 0, 0⟩, .absent⟩, []⟩

/-- It is an initial state. -/
theorem noBooks_initial : Initial noBooks := ⟨rfl, rfl, fun _ => ⟨rfl, rfl⟩⟩

/-- A whole read of 100 bytes and a failed write, overlapping. -/
theorem accounts_balance_iff_whole : ∃ books : Books (Fin 2),
    books.stats.totalIo .read = 100 ∧ Balanced .read books ∧ Balanced .write books := by
  obtain ⟨books, reached, test⟩ := replay_exhibits step (fun _ _ => True) Initial
    [(0, .submit .read 7 100 2147483647), (1, .submit .write 8 50 2147483647),
      (1, .perform 3 true false (answering failure)), (0, .perform 3 true false (answering 100)),
      (0, .retire), (1, .retire)] noBooks
    (fun books => books.stats.totalIo .read = 100 ∧
      (∀ who, (books.requests who).pc = .absent ∨ (books.requests who).pc = .retired) ∧
      sumOf Transfer.shortfall .read books.transfers = 0 ∧
      sumOf Transfer.shortfall .write books.transfers = 0) noBooks_initial (by decide)
  obtain ⟨total, settled, reads, writes⟩ := of_decide_eq_true test
  exact ⟨books, total, (accounts_balance_iff books reached settled .read).1.mpr reads,
    (accounts_balance_iff books reached settled .write).1.mpr writes⟩

/-- A read of 100 bytes that moves 60: the total says 100, and the missing 40 are in
`under` as well. -/
theorem accounts_not_always_balanced :
    ¬ ∀ books : Books (Fin 2), Reachable step Unrestricted Initial books → Settled books →
      ∀ direction, Balanced direction books := by
  intro always
  obtain ⟨books, reached, test⟩ := replay_exhibits step (fun _ _ => True) Initial
    [(0, .submit .read 7 100 2147483647), (0, .perform 3 true false (answering 60)),
      (0, .retire)] noBooks
    (fun books => books.stats.totalIo .read = 100 ∧
      (∀ who, (books.requests who).pc = .absent ∨ (books.requests who).pc = .retired) ∧
      books.stats.triedIo .read = 100 ∧ books.stats.under .read = 40 ∧
      sumOf Transfer.failedLen .read books.transfers = 0) noBooks_initial (by decide)
  obtain ⟨total, settled, tried, under, failed⟩ := of_decide_eq_true test
  have contract := (always books reached settled .read).equation
  rw [tried, total, under, failed] at contract
  exact absurd contract (by decide)

end AvocadoMisc.Dwh.TransferAccounts
