import AvocadoMisc.Dwh.Queues
import AvocadoMisc.Dwh.Sizing

/-!
# One transfer and its counters

An I/O thread performs a node's request by one asynchronous call under a lock on the
file region. `asyncRead` and `asyncWrite` count failures and shortfalls; `ioFileRead`
and `ioFileWrite` count what was tried and record in the node what was done. Both
pairs differ only in their counters, in one more test before a read, and in the sign
of the variable that keeps the result: a write never takes a result for negative.

What the calls answer is an argument: whether the request is accepted, how the wait
ends, and what `aio_return64` gives. `(size_t)-1` is the failure value. The position in
the file reaches only the calls and is left out.
-/

namespace AvocadoMisc.Dwh.Transfers

open Queues

/-- The I/O counters. Those kept for reads and for writes are maps. -/
structure Stats where
  triedIo : Direction → BitVec 64
  totalIo : Direction → BitVec 64
  failed : Direction → BitVec 64
  incomplete : Direction → BitVec 64
  under : Direction → BitVec 64
  timeouts : Direction → BitVec 64
  nIOTasks : BitVec 32
  nTriedIOTasks : BitVec 32
  nQueuedIOTasks : BitVec 32

/-- The counters before the test. -/
def noStats : Stats :=
  ⟨fun _ => 0, fun _ => 0, fun _ => 0, fun _ => 0, fun _ => 0, fun _ => 0, 0, 0, 0⟩

/-- Add to one of the two counters of a map. -/
def addTo (direction : Direction) (amount : BitVec 64) (counter : Direction → BitVec 64) :
    Direction → BitVec 64 :=
  Function.update counter direction (counter direction + amount)

@[simp] theorem addTo_self (direction : Direction) (amount : BitVec 64)
    (counter : Direction → BitVec 64) :
    addTo direction amount counter direction = counter direction + amount := by
  simp [addTo]

@[simp] theorem addTo_of_ne {direction other : Direction} (differs : other ≠ direction)
    (amount : BitVec 64) (counter : Direction → BitVec 64) :
    addTo direction amount counter other = counter other := by
  simp [addTo, differs]

/-- `(size_t)-1`. -/
def failure : BitVec 64 := BitVec.allOnes 64

/-- What the asynchronous calls of one transfer answer. -/
structure AioAnswers where
  accepted : Bool
  finished : Bool
  timedOut : Bool
  allDone : Bool
  returned : BitVec 64

/-- The result of a transfer that was started: what `aio_return64` gives when the
wait ended without error or the cancelled request was already done. -/
def asyncResult (direction : Direction) (answers : AioAnswers) (stats : Stats) :
    BitVec 64 × Stats :=
  if answers.finished then (answers.returned, stats)
  else if answers.allDone then (answers.returned, stats)
  else if answers.timedOut then
    (failure, { stats with timeouts := addTo direction 1 stats.timeouts })
  else (failure, stats)

/-- `asyncRead` and `asyncWrite`. A refused request returns at once when the verbose
flag is set, before it is counted as failed. -/
def asyncIo (direction : Direction) (verbose : Bool) (answers : AioAnswers) (bufLen : BitVec 64)
    (stats : Stats) : BitVec 64 × Stats :=
  if ¬ answers.accepted ∧ verbose then (failure, stats)
  else
    let (result, stats) := asyncResult direction answers stats
    if result = failure then (result, { stats with failed := addTo direction 1 stats.failed })
    else if result ≠ bufLen then
      (result, { stats with
        incomplete := addTo direction 1 stats.incomplete
        under := addTo direction (bufLen - result) stats.under })
    else (result, stats)

def asyncRead := asyncIo .read
def asyncWrite := asyncIo .write

/-- The members of a node that a transfer uses. -/
structure NodeData where
  myFd : Int
  ioBuffer : Option Buf
  ioLen : BitVec 64
  ioDone : BitVec 64

/-- What the calls of one `ioFileRead` or `ioFileWrite` answer. -/
structure FileAnswers where
  lock : Bool
  unlock : Bool
  aio : AioAnswers

/-- What one `ioFileRead` or `ioFileWrite` leaves: its result, the node's `io_done`, the
counters, whether it ends all threads, and the result of the asynchronous call if
there was one. -/
structure FileOutcome where
  result : Bool
  ioDone : BitVec 64
  stats : Stats
  endAllThreads : Bool
  transferred : Option (BitVec 64)

/-- The common body. A call is made only when the file region was locked, and the node's
`io_done` is set to its whole length whatever part of it the call transferred. -/
def ioFile (direction : Direction) (negative : BitVec 64 → Bool) (verbose : Bool)
    (answers : FileAnswers) (node : NodeData) (stats : Stats) : FileOutcome :=
  if node.myFd = -1 then ⟨false, node.ioDone, stats, false, none⟩
  else if node.ioBuffer = none ∨ node.ioLen < 1 then ⟨false, node.ioDone, stats, false, none⟩
  else if answers.lock then
    let stats := { stats with triedIo := addTo direction node.ioLen stats.triedIo }
    let (result, stats) := asyncIo direction verbose answers.aio node.ioLen stats
    { result := answers.unlock && !negative result
      ioDone := if result ≠ failure then node.ioLen else node.ioDone
      stats := { stats with nIOTasks := stats.nIOTasks + 1 }
      endAllThreads := !answers.unlock
      transferred := some result }
  else ⟨false, node.ioDone, { stats with nIOTasks := stats.nIOTasks + 1 }, false, none⟩

/-- `ioFileRead` keeps the result in a signed variable, and needs the read stream. -/
def ioFileRead (readStream verbose : Bool) (answers : FileAnswers) (node : NodeData)
    (stats : Stats) : FileOutcome :=
  if readStream then ioFile .read (fun result => result.slt 0) verbose answers node stats
  else ⟨false, node.ioDone, stats, false, none⟩

/-- `ioFileWrite` keeps the result in an unsigned variable. -/
def ioFileWrite (verbose : Bool) (answers : FileAnswers) (node : NodeData) (stats : Stats) :
    FileOutcome :=
  ioFile .write (fun _ => false) verbose answers node stats

/-- The transfer for a node of the given kind. -/
def ioFileFor (direction : Direction) (readStream verbose : Bool) (answers : FileAnswers)
    (node : NodeData) (stats : Stats) : FileOutcome :=
  match direction with
  | .read => ioFileRead readStream verbose answers node stats
  | .write => ioFileWrite verbose answers node stats

/-- The asynchronous call touches neither what was tried nor the totals. Its shortfall
is added to `under`, unless it failed. -/
theorem asyncIO_counts (direction : Direction) (verbose : Bool) (answers : AioAnswers)
    (bufLen : BitVec 64) (stats : Stats) :
    (asyncIo direction verbose answers bufLen stats).2.triedIo = stats.triedIo ∧
      (asyncIo direction verbose answers bufLen stats).2.totalIo = stats.totalIo ∧
      (asyncIo direction verbose answers bufLen stats).2.under =
        addTo direction
          (if (asyncIo direction verbose answers bufLen stats).1 = failure then 0
            else bufLen - (asyncIo direction verbose answers bufLen stats).1) stats.under := by
  have started : (asyncResult direction answers stats).2.triedIo = stats.triedIo ∧
      (asyncResult direction answers stats).2.totalIo = stats.totalIo ∧
      (asyncResult direction answers stats).2.under = stats.under := by
    unfold asyncResult
    split_ifs <;> exact ⟨rfl, rfl, rfl⟩
  obtain ⟨tried, total, under⟩ := started
  by_cases refused : ¬ answers.accepted ∧ verbose
  · have returned : asyncIo direction verbose answers bufLen stats = (failure, stats) := by
      rw [asyncIo, if_pos refused]
    rw [returned]
    exact ⟨rfl, rfl, by simp [addTo]⟩
  · by_cases failed : (asyncResult direction answers stats).1 = failure
    · have returned : asyncIo direction verbose answers bufLen stats = (failure,
          { (asyncResult direction answers stats).2 with
            failed := addTo direction 1 (asyncResult direction answers stats).2.failed }) := by
        rw [asyncIo, if_neg refused]
        simp only [failed, ↓reduceIte]
      rw [returned]
      exact ⟨tried, total, by simpa [addTo] using under⟩
    · by_cases short : (asyncResult direction answers stats).1 ≠ bufLen
      · have returned : asyncIo direction verbose answers bufLen stats =
            ((asyncResult direction answers stats).1,
              { (asyncResult direction answers stats).2 with
                incomplete := addTo direction 1 (asyncResult direction answers stats).2.incomplete
                under := addTo direction (bufLen - (asyncResult direction answers stats).1)
                  (asyncResult direction answers stats).2.under }) := by
          rw [asyncIo, if_neg refused]
          simp only [failed, ↓reduceIte]
          rw [if_pos short]
        rw [returned]
        exact ⟨tried, total, by rw [if_neg failed, under]⟩
      · have returned : asyncIo direction verbose answers bufLen stats =
            asyncResult direction answers stats := by
          rw [asyncIo, if_neg refused]
          simp only [failed, short, ↓reduceIte]
        have whole : (asyncResult direction answers stats).1 = bufLen := not_not.mp short
        rw [returned, if_neg failed, whole, BitVec.sub_self]
        exact ⟨tried, total, by simpa [addTo] using under⟩

/-- A request without an asynchronous call leaves its node's `io_done` and the byte
counters. -/
def Untouched (node : NodeData) (stats : Stats) (outcome : FileOutcome) : Prop :=
  outcome.transferred = none ∧ outcome.ioDone = node.ioDone ∧
    outcome.stats.triedIo = stats.triedIo ∧ outcome.stats.totalIo = stats.totalIo ∧
    outcome.stats.under = stats.under

/-- A request with one adds its length to what was tried and its shortfall to `under`.
Unless the call failed, `io_done` becomes the whole length. -/
def Counted (direction : Direction) (node : NodeData) (stats : Stats) (outcome : FileOutcome) :
    Prop :=
  ∃ result, outcome.transferred = some result ∧
    outcome.ioDone = (if result = failure then node.ioDone else node.ioLen) ∧
    outcome.stats.triedIo = addTo direction node.ioLen stats.triedIo ∧
    outcome.stats.totalIo = stats.totalIo ∧
    outcome.stats.under =
      addTo direction (if result = failure then 0 else node.ioLen - result) stats.under

/-- The common body does one or the other. -/
theorem ioFile_counts (direction : Direction) (negative : BitVec 64 → Bool) (verbose : Bool)
    (answers : FileAnswers) (node : NodeData) (stats : Stats) :
    Untouched node stats (ioFile direction negative verbose answers node stats) ∨
      Counted direction node stats (ioFile direction negative verbose answers node stats) := by
  unfold ioFile
  split_ifs with descriptor buffer locked
  · exact Or.inl ⟨rfl, rfl, rfl, rfl, rfl⟩
  · exact Or.inl ⟨rfl, rfl, rfl, rfl, rfl⟩
  · obtain ⟨tried, total, under⟩ := asyncIO_counts direction verbose answers.aio node.ioLen
      { stats with triedIo := addTo direction node.ioLen stats.triedIo }
    refine Or.inr ⟨_, rfl, ?_, tried, total, under⟩
    simp only [ne_eq, ite_not]
  · exact Or.inl ⟨rfl, rfl, rfl, rfl, rfl⟩

/-- So do `ioFileRead` and `ioFileWrite`. -/
theorem ioFileFor_counts (direction : Direction) (readStream verbose : Bool)
    (answers : FileAnswers) (node : NodeData) (stats : Stats) :
    Untouched node stats (ioFileFor direction readStream verbose answers node stats) ∨
      Counted direction node stats
        (ioFileFor direction readStream verbose answers node stats) := by
  cases direction with
  | read =>
    simp only [ioFileFor, ioFileRead]
    split_ifs with opened
    · exact ioFile_counts .read _ verbose answers node stats
    · exact Or.inl ⟨rfl, rfl, rfl, rfl, rfl⟩
  | write => exact ioFile_counts .write _ verbose answers node stats

end AvocadoMisc.Dwh.Transfers
