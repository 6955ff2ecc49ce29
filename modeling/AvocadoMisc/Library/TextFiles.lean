import AvocadoMisc.Library.Text

/-!
# Text that is read from files

A file that is opened for reading text has one kind of line end: a carriage return, alone or in
front of a newline, is read as a newline. The lines keep their ends, and only the last one may have
none. Other characters that end a line elsewhere, such as a form feed, stay inside of it.

A file that was put together from lines without either character is read line by line as it was
written.
-/

namespace AvocadoMisc.Library.TextFiles

open Library.Text

/-- Text that is read from a file has one kind of line end. -/
def universalNewlines (text : List Char) : List Char :=
  (unifyBreaks '\r' '\n' text).map fun c => if c = '\r' then '\n' else c

/-- Lines with their ends. The last one may have none. -/
def splitLines : List Char → List (List Char)
  | [] => []
  | c :: rest =>
    if c = '\n' then [c] :: splitLines rest
    else
      match splitLines rest with
      | [] => [[c]]
      | line :: others => (c :: line) :: others

/-- `readlines` of a file with some content. -/
def readlines (content : List Char) : List (List Char) := splitLines (universalNewlines content)

/-- Text that is read has no carriage return. -/
theorem return_notMem_universalNewlines (text : List Char) : '\r' ∉ universalNewlines text := by
  intro member
  obtain ⟨c, -, same⟩ := List.mem_map.mp member
  by_cases isReturn : c = '\r'
  · rw [if_pos isReturn] at same
    exact absurd same (by decide)
  · rw [if_neg isReturn] at same
    exact isReturn same

/-- Text without a carriage return is read as it is. -/
theorem universalNewlines_eq_self {text : List Char} (absent : '\r' ∉ text) :
    universalNewlines text = text := by
  rw [universalNewlines, unifyBreaks_eq_self absent]
  have kept : ∀ c ∈ text, (if c = '\r' then '\n' else c) = id c := fun c member =>
    if_neg fun same : c = '\r' => absent (same ▸ member)
  rw [List.map_congr_left kept, List.map_id]

/-- A line has a newline only at its end, and no character that is not in the text.

Proof: by induction on the text. A newline is a line of its own in front of the others, and any
other character goes in front of the first line of what follows it. -/
theorem mem_splitLines {text line : List Char} (member : line ∈ splitLines text) :
    '\n' ∉ line.dropLast ∧ line ⊆ text := by
  induction text generalizing line with
  | nil => cases member
  | cons c rest inductionHypothesis =>
    rw [splitLines] at member
    by_cases newline : c = '\n'
    · rw [if_pos newline] at member
      rcases List.mem_cons.mp member with rfl | later
      · exact ⟨by simp, by simp⟩
      · obtain ⟨inner, inText⟩ := inductionHypothesis later
        exact ⟨inner, List.subset_cons_of_subset c inText⟩
    · rw [if_neg newline] at member
      cases found : splitLines rest with
      | nil =>
        rw [found] at member
        rw [List.mem_singleton.mp member]
        simp
      | cons first others =>
        rw [found] at member inductionHypothesis
        rcases List.mem_cons.mp member with rfl | later
        · obtain ⟨inner, inText⟩ := inductionHypothesis List.mem_cons_self
          refine ⟨?_, List.cons_subset_cons c inText⟩
          cases first with
          | nil => simp
          | cons d tail => simpa [Ne.symm newline] using inner
        · obtain ⟨inner, inText⟩ := inductionHypothesis (List.mem_cons_of_mem first later)
          exact ⟨inner, List.subset_cons_of_subset c inText⟩

/-- A line that is read has no carriage return. -/
theorem return_notMem_of_mem_readlines {content line : List Char}
    (member : line ∈ readlines content) : '\r' ∉ line := fun isReturn =>
  return_notMem_universalNewlines content ((mem_splitLines member).2 isReturn)

/-- The first line of a text ends at the first newline. -/
theorem splitLines_append_newline {line : List Char} (solid : '\n' ∉ line) (rest : List Char) :
    splitLines (line ++ '\n' :: rest) = (line ++ ['\n']) :: splitLines rest := by
  induction line with
  | nil => rfl
  | cons c others inductionHypothesis =>
    simp only [List.mem_cons, not_or] at solid
    have differs : c ≠ '\n' := fun same => solid.1 same.symm
    rw [List.cons_append, splitLines, if_neg differs, inductionHypothesis solid.2]
    rfl

/-- Lines that were put together are found again. -/
theorem splitLines_unlines {listed : List (List Char)} (unbroken : ∀ line ∈ listed, '\n' ∉ line) :
    splitLines (listed.flatMap fun line => line ++ ['\n']) =
      listed.map fun line => line ++ ['\n'] := by
  induction listed with
  | nil => rfl
  | cons line rest inductionHypothesis =>
    rw [List.flatMap_cons, List.append_assoc, List.singleton_append,
      splitLines_append_newline (unbroken line List.mem_cons_self), inductionHypothesis
        fun other member => unbroken other (List.mem_cons_of_mem line member), List.map_cons]

/-- Lines that were written are read again, when neither kind of line end is inside of one. -/
theorem readlines_unlines {listed : List (List Char)}
    (unbroken : ∀ line ∈ listed, '\n' ∉ line ∧ '\r' ∉ line) :
    readlines (listed.flatMap fun line => line ++ ['\n']) =
      listed.map fun line => line ++ ['\n'] := by
  have absent : '\r' ∉ listed.flatMap fun line => line ++ ['\n'] := by
    intro member
    obtain ⟨line, inListed, inLine⟩ := List.mem_flatMap.mp member
    rcases List.mem_append.mp inLine with inside | atEnd
    · exact (unbroken line inListed).2 inside
    · exact absurd atEnd (by decide)
  rw [readlines, universalNewlines_eq_self absent,
    splitLines_unlines fun line member => (unbroken line member).1]

end AvocadoMisc.Library.TextFiles
