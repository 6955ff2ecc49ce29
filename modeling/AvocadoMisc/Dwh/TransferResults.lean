import AvocadoMisc.Dwh.Transfers

/-!
# Results of the transfers

`ioFileRead` and `ioFileWrite` report one request with a Boolean: false for an invalid
node, a refused lock, a failed transfer and a failed unlock. The read keeps the
transfer's result in a signed variable and tests it for a negative value. In the write
the same test is on an unsigned variable and never true, so a failed write is reported
as done.
-/

namespace AvocadoMisc.Dwh.TransferResults

open Queues Transfers

/-- The result of `ioFileRead` for a node pointer. -/
def readResult (readStream verbose : Bool) (answers : FileAnswers) (stats : Stats) :
    Option NodeData → Bool
  | none => false
  | some node => (ioFileRead readStream verbose answers node stats).result

/-- The result of `ioFileWrite` for a node pointer. -/
def writeResult (verbose : Bool) (answers : FileAnswers) (stats : Stats) :
    Option NodeData → Bool
  | none => false
  | some node => (ioFileWrite verbose answers node stats).result

/-- A node with a file, a buffer and at least one byte. -/
def Valid : Option NodeData → Prop
  | none => False
  | some node => node.myFd ≠ -1 ∧ node.ioBuffer ≠ none ∧ 1 ≤ node.ioLen

/-- The outcome of the asynchronous transfer: `(size_t)-1` or a byte count. -/
def transferOutcome (verbose : Bool) (answers : AioAnswers) : BitVec 64 :=
  if ¬ answers.accepted ∧ verbose then failure
  else if answers.finished ∨ answers.allDone then answers.returned
  else failure

/-- Every step of a request succeeded. -/
def Done (verbose : Bool) (answers : FileAnswers) (node : Option NodeData) : Prop :=
  Valid node ∧ answers.lock = true ∧ transferOutcome verbose answers.aio ≠ failure ∧
    answers.unlock = true

/-- Both functions report whether the request was done, and so the same, for one node and one
outcome of the calls. -/
structure ResultsAgree (readStream verbose : Bool) (answers : FileAnswers) (stats : Stats)
    (node : Option NodeData) : Prop where
  read : readResult readStream verbose answers stats node = true ↔ Done verbose answers node
  write : writeResult verbose answers stats node = true ↔ Done verbose answers node
  same : readResult readStream verbose answers stats node = writeResult verbose answers stats node

/-- What the asynchronous call returns is the outcome of the transfer. -/
theorem asyncIo_outcome (direction : Direction) (verbose : Bool) (answers : AioAnswers)
    (bufLen : BitVec 64) (stats : Stats) :
    (asyncIo direction verbose answers bufLen stats).1 = transferOutcome verbose answers := by
  have started : (asyncResult direction answers stats).1 =
      if answers.finished ∨ answers.allDone then answers.returned else failure := by
    unfold asyncResult
    split_ifs <;> simp_all
  by_cases refused : ¬ answers.accepted ∧ verbose
  · rw [asyncIo, if_pos refused, transferOutcome, if_pos refused]
  · rw [asyncIo, if_neg refused, transferOutcome, if_neg refused, ← started]
    dsimp only
    split_ifs with failed short
    · exact failed.symm ▸ rfl
    · rfl
    · rfl

/-- The common body reports success when the node is valid, both lock calls succeed and the
transfer's outcome is not taken for negative. -/
theorem ioFile_result (direction : Direction) (negative : BitVec 64 → Bool) (verbose : Bool)
    (answers : FileAnswers) (node : NodeData) (stats : Stats) :
    (ioFile direction negative verbose answers node stats).result = true ↔
      Valid (some node) ∧ answers.lock = true ∧ answers.unlock = true ∧
        negative (transferOutcome verbose answers.aio) = false := by
  have empty : node.ioLen < 1 ↔ ¬ 1 ≤ node.ioLen := BitVec.not_le.symm
  unfold ioFile
  split_ifs with descriptor buffer locked
  · simp [Valid, descriptor]
  · have invalid : ¬ Valid (some node) := by
      rintro ⟨-, allocated, nonempty⟩
      exact buffer.elim allocated fun short => empty.mp short nonempty
    simp [invalid]
  · have valid : Valid (some node) :=
      ⟨descriptor, fun missing => buffer (.inl missing),
        not_not.mp fun short => buffer (.inr (empty.mpr short))⟩
    simp [valid, locked, asyncIo_outcome]
  · simp [locked]

/-- The node is valid and both lock calls succeed. -/
def Locked (answers : FileAnswers) (node : Option NodeData) : Prop :=
  Valid node ∧ answers.lock = true ∧ answers.unlock = true

/-- A read is reported as done when it was made under the lock, the read stream is open and
its outcome is not negative. -/
theorem readResult_iff (readStream verbose : Bool) (answers : FileAnswers) (stats : Stats)
    (node : Option NodeData) :
    readResult readStream verbose answers stats node = true ↔
      Locked answers node ∧ readStream = true ∧
        0 ≤ (transferOutcome verbose answers.aio).toInt := by
  have zero : (0 : BitVec 64).toInt = 0 := rfl
  have sign : (transferOutcome verbose answers.aio).slt 0 = false ↔
      0 ≤ (transferOutcome verbose answers.aio).toInt := by
    rw [← Bool.not_eq_true, BitVec.slt_iff_toInt_lt, zero, Int.not_lt]
  cases node with
  | none => simp [readResult, Locked, Valid]
  | some node =>
    cases readStream with
    | false => simp [readResult, ioFileRead]
    | true =>
      simp only [readResult, ioFileRead, ↓reduceIte, ioFile_result, sign, Locked, true_and,
        and_assoc]

/-- A write is reported as done when it was made under the lock. -/
theorem writeResult_iff (verbose : Bool) (answers : FileAnswers) (stats : Stats)
    (node : Option NodeData) :
    writeResult verbose answers stats node = true ↔ Locked answers node := by
  cases node with
  | none => simp [writeResult, Locked, Valid]
  | some node => simp only [writeResult, ioFileWrite, ioFile_result, Locked, and_true]

/-- The two functions report whether the request was done exactly when it is not made under
the lock, or the read stream is open and the transfer gives a byte count.

The answers of all calls are free. It is not asked what the transfer wrote to the file. -/
theorem results_agree_iff (readStream verbose : Bool) (answers : FileAnswers) (stats : Stats)
    (node : Option NodeData) :
    ResultsAgree readStream verbose answers stats node ↔
      (Valid node ∧ answers.lock = true ∧ answers.unlock = true →
        readStream = true ∧ 0 ≤ (transferOutcome verbose answers.aio).toInt) := by
  have read := readResult_iff readStream verbose answers stats node
  have write := writeResult_iff verbose answers stats node
  constructor
  · intro agree locked
    have written := write.mpr locked
    exact (read.mp (agree.same.trans written)).2
  · intro condition
    have counted : Locked answers node → transferOutcome verbose answers.aio ≠ failure := by
      intro locked failed
      have nonnegative := (condition locked).2
      rw [failed] at nonnegative
      exact absurd nonnegative (by decide)
    have done : Done verbose answers node ↔ Locked answers node :=
      ⟨fun done => ⟨done.1, done.2.1, done.2.2.2⟩,
        fun locked => ⟨locked.1, locked.2.1, counted locked, locked.2.2⟩⟩
    have reads : readResult readStream verbose answers stats node = true ↔ Locked answers node :=
      read.trans ⟨fun both => both.1, fun locked => ⟨locked, condition locked⟩⟩
    exact ⟨reads.trans done.symm, write.trans done.symm,
      Bool.eq_iff_iff.mpr (reads.trans write.symm)⟩

/-- A valid node whose transfer fails under the lock: the read reports it, the write does
not. -/
theorem results_agree_fails :
    ¬ ∀ readStream verbose answers stats node,
      ResultsAgree readStream verbose answers stats node := by
  intro always
  have agree := always true false
    { lock := true, unlock := true, aio := ⟨true, false, true, false, 0⟩ } noStats
    (some ⟨3, some 0, 512, 0⟩)
  exact absurd agree.same (by decide)

end AvocadoMisc.Dwh.TransferResults
