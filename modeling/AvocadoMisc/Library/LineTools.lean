import AvocadoMisc.Library.Parts

/-!
# Tools that work on lines

What a pipe of such tools prints, for an input of lines: the lines in which a plain pattern is
found with or without regard to case, the numbers of such lines, and the lines from one number to
another one. A command's output is taken without the line breaks at its end.

A text without line breaks is in the output exactly when it is in one of the lines.
-/

namespace AvocadoMisc.Library.LineTools

open Parts Text

/-! ### Output -/

/-- Lines as they are printed. -/
def printed (listed : List (List Char)) : List Char := listed.flatMap fun line => line ++ ['\n']

/-- What is taken off the end of an output. -/
def isNewline (c : Char) : Bool := c = '\n' || c = '\r'

/-- An output without the line breaks at its end. -/
def chomp (output : List Char) : List Char := output.rdropWhile isNewline

/-- A text without line breaks is in an output exactly when it is in a line. -/
theorem infix_chomp_printed_iff {part : List Char} (nonempty : part ≠ [])
    (unbroken : ∀ c ∈ part, isNewline c = false) (listed : List (List Char)) :
    part <:+: chomp (printed listed) ↔ ∃ line ∈ listed, part <:+: line := by
  have trimmed : Trimmed isNewline part := Trimmed.of_word ⟨nonempty, unbroken⟩
  have noFeed : '\n' ∉ part := fun member => absurd (unbroken '\n' member) (by decide)
  rw [chomp, trimmed.infix_rdropWhile_iff, printed, infix_unlines_iff noFeed nonempty]

/-! ### Finding lines -/

/-- `grep -i` for a pattern that stands for itself. -/
def containsIgnoreCase (pattern line : List Char) : Bool :=
  contains (pattern.map Char.toLower) (line.map Char.toLower)

/-- What is in a line is found in it. -/
theorem containsIgnoreCase_of_infix {pattern line : List Char} (inLine : pattern <:+: line) :
    containsIgnoreCase pattern line = true :=
  decide_eq_true (inLine.map Char.toLower)

/-- `grep -n`, of which only the numbers are kept. Lines are counted from the first number. -/
def numbered (selects : List Char → Bool) (first : Nat) : List (List Char) → List Nat
  | [] => []
  | line :: rest =>
    if selects line then first :: numbered selects (first + 1) rest
    else numbered selects (first + 1) rest

/-- The numbers of what is put together. -/
theorem numbered_append (selects : List Char → Bool) (first : Nat)
    (front back : List (List Char)) :
    numbered selects first (front ++ back) =
      numbered selects first front ++ numbered selects (first + front.length) back := by
  induction front generalizing first with
  | nil => rfl
  | cons line rest inductionHypothesis =>
    have position : first + 1 + rest.length = first + (line :: rest).length := by
      rw [List.length_cons]
      omega
    rw [List.cons_append, numbered, numbered, inductionHypothesis, position]
    split
    · rw [List.cons_append]
    · rfl

/-! ### Taking lines -/

/-- `sed -n 'low,high p'`. When the second number is below the first one, there is one line. -/
def between (low high : Nat) (listed : List (List Char)) : List (List Char) :=
  (listed.drop (low - 1)).take (high - low + 1)

/-- The lines from the one behind a front on. -/
theorem between_append (front back : List (List Char)) (high : Nat) :
    between (front.length + 1) high (front ++ back) =
      back.take (high - (front.length + 1) + 1) := by
  rw [between, Nat.add_sub_cancel, List.drop_left]

end AvocadoMisc.Library.LineTools
