import Mathlib.Data.List.Basic
import Mathlib.Tactic.SplitIfs

/-!
# Cutting a list before marked elements

A list is cut into pieces before each element that is marked. The first piece is what stands
before the first marked element, and may be empty. Each other piece begins with a marked element
and has no other one.

The pieces are determined by this, and a loop that collects the current piece finds them.
-/

namespace AvocadoMisc.Library.Sections

universe u
variable {α : Type u} {marked : α → Bool}

/-- A piece that begins with its only marked element. -/
structure Headed (marked : α → Bool) (piece : List α) : Prop where
  begins : ∃ head ∈ piece.head?, marked head = true
  alone : ∀ a ∈ piece.tail, marked a = false

/-- The pieces of a list that is cut before each marked element. -/
structure CutBefore (marked : α → Bool) (list : List α) (pieces : List (List α)) : Prop where
  whole : pieces.flatten = list
  first : ∀ piece ∈ pieces.head?, ∀ a ∈ piece, marked a = false
  others : ∀ piece ∈ pieces.tail, Headed marked piece
  nonempty : pieces ≠ []

/-- The loop: a marked element closes the current piece. -/
def cutFrom (marked : α → Bool) : List α → List α → List (List α)
  | current, [] => [current]
  | current, a :: rest =>
    if marked a then current :: cutFrom marked [a] rest else cutFrom marked (current ++ [a]) rest

/-- The pieces that the loop finds. -/
def cutBefore (marked : α → Bool) (list : List α) : List (List α) := cutFrom marked [] list

/-- A run without marked elements stays with the current piece. -/
theorem cutFrom_append {run : List α} (unmarked : ∀ a ∈ run, marked a = false)
    (current rest : List α) :
    cutFrom marked current (run ++ rest) = cutFrom marked (current ++ run) rest := by
  induction run generalizing current with
  | nil => simp
  | cons a run inductionHypothesis =>
    have plain : marked a = false := unmarked a (by simp)
    have further := inductionHypothesis (fun b member => unmarked b (by simp [member]))
      (current ++ [a])
    rw [List.cons_append, cutFrom, plain, if_neg Bool.false_ne_true, further, List.append_assoc]
    rfl

/-- Pieces that are put together are found again.

Proof: by induction on the pieces. Each one's head closes the piece before it. -/
theorem cutFrom_flatten {pieces : List (List α)} (headed : ∀ piece ∈ pieces, Headed marked piece)
    (current : List α) : cutFrom marked current pieces.flatten = current :: pieces := by
  induction pieces generalizing current with
  | nil => rfl
  | cons piece pieces inductionHypothesis =>
    obtain ⟨⟨head, isHead, heads⟩, alone⟩ := headed piece (by simp)
    obtain ⟨tail, rfl⟩ : ∃ tail, piece = head :: tail := by
      cases piece with
      | nil => simp at isHead
      | cons other tail => exact ⟨tail, by rw [Option.some.inj isHead]⟩
    rw [List.tail_cons] at alone
    have further := inductionHypothesis (fun other member => headed other (by simp [member]))
      (head :: tail)
    rw [List.flatten_cons, List.cons_append, cutFrom, if_pos heads, cutFrom_append alone,
      List.singleton_append, further]

/-- Pieces cut before each marked element are the ones that the loop finds. -/
theorem CutBefore.eq_cutBefore {list : List α} {pieces : List (List α)}
    (cuts : CutBefore marked list pieces) : pieces = cutBefore marked list := by
  obtain ⟨whole, first, others, nonempty⟩ := cuts
  obtain ⟨piece, rest, rfl⟩ := List.exists_cons_of_ne_nil nonempty
  rw [List.tail_cons] at others
  rw [cutBefore, ← whole, List.flatten_cons, cutFrom_append (first piece rfl), List.nil_append,
    cutFrom_flatten others]

/-- What the loop finds with a current piece: that piece goes on, and the others are headed. -/
theorem cutFrom_spec (list current : List α) :
    ∃ run pieces, cutFrom marked current list = (current ++ run) :: pieces ∧
      run ++ pieces.flatten = list ∧ (∀ a ∈ run, marked a = false) ∧
      ∀ piece ∈ pieces, Headed marked piece := by
  induction list generalizing current with
  | nil => exact ⟨[], [], by simp [cutFrom]⟩
  | cons a rest inductionHypothesis =>
    rw [cutFrom]
    split_ifs with heads
    · obtain ⟨run, pieces, found, whole, unmarked, headed⟩ := inductionHypothesis [a]
      refine ⟨[], ([a] ++ run) :: pieces, by rw [found, List.append_nil], ?_, by simp, ?_⟩
      · simp [← whole]
      · rw [List.forall_mem_cons]
        exact ⟨⟨⟨a, rfl, heads⟩, unmarked⟩, headed⟩
    · obtain ⟨run, pieces, found, whole, unmarked, headed⟩ := inductionHypothesis (current ++ [a])
      refine ⟨a :: run, pieces, by rw [found, List.append_assoc]; rfl, by rw [← whole]; rfl, ?_,
        headed⟩
      rw [List.forall_mem_cons]
      exact ⟨by simpa using heads, unmarked⟩

/-- The loop cuts before each marked element. -/
theorem cutBefore_cuts (marked : α → Bool) (list : List α) :
    CutBefore marked list (cutBefore marked list) := by
  obtain ⟨run, pieces, found, whole, unmarked, headed⟩ := @cutFrom_spec α marked list []
  rw [List.nil_append] at found
  rw [cutBefore, found]
  constructor
  case whole => rw [List.flatten_cons, whole]
  case first =>
    rintro piece ⟨⟩
    exact unmarked
  case others => exact headed
  case nonempty => simp

end AvocadoMisc.Library.Sections
