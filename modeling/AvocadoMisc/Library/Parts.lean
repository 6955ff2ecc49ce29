import AvocadoMisc.Library.Text

/-!
# Parts of a text

A part that neither begins nor ends in white space does not notice white space at the ends of the
text. A word of a text is a part of it, and of two words the second comes after the first. A part
without a line break is a part of one of the lines.
-/

namespace AvocadoMisc.Library.Parts

open Text

universe u
variable {α : Type u} {part front back text : List α}

/-! ### Beginnings -/

/-- A part that begins with a character that a text has at its beginning only is at the beginning
of the text. -/
theorem infix_cons_once_iff {c : α} (once : c ∉ text) :
    c :: part <:+: c :: text ↔ c :: part <+: c :: text := by
  rw [List.infix_cons_iff, or_iff_left]
  exact fun inText => once (inText.subset List.mem_cons_self)

/-- Two texts that are cut at the same separator agree in front of it, and go on alike. -/
theorem eq_of_prefix_append_cons {separator : α} {word other tail rest : List α}
    (absent : separator ∉ word) (otherAbsent : separator ∉ other)
    (begins : word ++ separator :: tail <+: other ++ separator :: rest) :
    word = other ∧ tail <+: rest := by
  induction word generalizing other with
  | nil =>
    cases other with
    | nil => exact ⟨rfl, (List.cons_prefix_cons.mp begins).2⟩
    | cons d others =>
      have same : separator = d := (List.cons_prefix_cons.mp begins).1
      exact absurd (same ▸ List.mem_cons_self) otherAbsent
  | cons c letters inductionHypothesis =>
    cases other with
    | nil =>
      have same : c = separator := (List.cons_prefix_cons.mp begins).1
      exact absurd (same ▸ List.mem_cons_self) absent
    | cons d others =>
      obtain ⟨rfl, further⟩ := List.cons_prefix_cons.mp begins
      obtain ⟨rfl, later⟩ := inductionHypothesis
        (fun member => absent (List.mem_cons_of_mem c member))
        (fun member => otherAbsent (List.mem_cons_of_mem c member)) further
      exact ⟨rfl, later⟩

/-- Joined fields tell which fields they are, when the first character between them is in none.

Proof: by induction on the fields. The first ones end where this character comes first. -/
theorem intercalate_injective {separator : α} (tail : List α) {first second : List (List α)}
    (flatFirst : ∀ field ∈ first, field ≠ [] ∧ separator ∉ field)
    (flatSecond : ∀ field ∈ second, field ≠ [] ∧ separator ∉ field)
    (same : (separator :: tail).intercalate first = (separator :: tail).intercalate second) :
    first = second := by
  have joined (fields : List (List α)) (field other : List α) :
      (separator :: tail).intercalate (field :: other :: fields) =
        field ++ separator :: (tail ++ (separator :: tail).intercalate (other :: fields)) := by
    rw [List.intercalate_cons_cons, List.append_assoc, List.cons_append]
  induction first generalizing second with
  | nil =>
    cases second with
    | nil => rfl
    | cons field rest =>
      obtain ⟨some_field, _⟩ := flatSecond field List.mem_cons_self
      cases rest <;> simp_all
  | cons field rest inductionHypothesis =>
    obtain ⟨some_field, flat⟩ := flatFirst field List.mem_cons_self
    cases second with
    | nil => cases rest <;> simp_all
    | cons other others =>
      obtain ⟨_, otherFlat⟩ := flatSecond other List.mem_cons_self
      cases rest with
      | nil =>
        cases others with
        | nil => simpa using same
        | cons next more =>
          rw [joined, List.intercalate_singleton] at same
          exact absurd (same ▸ List.mem_append_right _ List.mem_cons_self) flat
      | cons next more =>
        cases others with
        | nil =>
          rw [joined, List.intercalate_singleton] at same
          exact absurd (same ▸ List.mem_append_right _ List.mem_cons_self) otherFlat
        | cons otherNext otherMore =>
          rw [joined, joined] at same
          obtain ⟨rfl, _⟩ := eq_of_prefix_append_cons flat otherFlat
            ⟨[], (List.append_nil _).trans same⟩
          have later := List.append_cancel_left (List.cons.inj (List.append_cancel_left same)).2
          have equal := inductionHypothesis
            (fun name member => flatFirst name (List.mem_cons_of_mem _ member))
            (fun name member => flatSecond name (List.mem_cons_of_mem _ member)) later
          rw [equal]

/-! ### White space -/

section WhiteSpace

variable {space : α → Bool}

/-- A part with no white space at its ends. -/
structure Trimmed (space : α → Bool) (part : List α) : Prop where
  nonempty : part ≠ []
  first : ∀ c ∈ part.head?, space c = false
  last : ∀ c ∈ part.getLast?, space c = false

/-- A word is trimmed. -/
theorem Trimmed.of_word {word : List α} (isWord : IsWord space word) : Trimmed space word where
  nonempty := isWord.nonempty
  first c isFirst := isWord.solid c (List.mem_of_mem_head? isFirst)
  last c isLast := isWord.solid c (List.mem_of_mem_getLast? isLast)

/-- Between two words anything may stand. -/
theorem Trimmed.between {word other : List α} (isWord : IsWord space word)
    (isOther : IsWord space other) (middle : List α) :
    Trimmed space (word ++ (middle ++ other)) where
  nonempty := by simp [isWord.nonempty]
  first c isFirst := by
    rw [List.head?_append_of_ne_nil _ isWord.nonempty] at isFirst
    exact (Trimmed.of_word isWord).first c isFirst
  last c isLast := by
    rw [List.getLast?_append_of_ne_nil _ (by simp [isOther.nonempty]),
      List.getLast?_append_of_ne_nil _ isOther.nonempty] at isLast
    exact (Trimmed.of_word isOther).last c isLast

/-- White space in front does not matter to a part that begins with something else. -/
theorem infix_blank_append_iff (nonempty : part ≠ [])
    (first : ∀ c ∈ part.head?, space c = false) (blank : Blank space front) :
    part <:+: front ++ text ↔ part <:+: text := by
  induction front with
  | nil => rw [List.nil_append]
  | cons c rest inductionHypothesis =>
    have notHere : ¬part <+: c :: (rest ++ text) := by
      intro begins
      obtain ⟨d, others, rfl⟩ := List.exists_cons_of_ne_nil nonempty
      obtain rfl : d = c := (List.cons_prefix_cons.mp begins).1
      have solid := first d rfl
      rw [blank d List.mem_cons_self] at solid
      cases solid
    rw [List.cons_append, List.infix_cons_iff, or_iff_right notHere]
    exact inductionHypothesis fun d member => blank d (List.mem_cons_of_mem c member)

/-- Nor behind a text to one that ends with something else. -/
theorem infix_append_blank_iff (nonempty : part ≠ [])
    (last : ∀ c ∈ part.getLast?, space c = false) (blank : Blank space back) :
    part <:+: text ++ back ↔ part <:+: text := by
  have reversed : Blank space back.reverse := fun c member =>
    blank c (List.mem_reverse.mp member)
  have mirrored : part.reverse <:+: text.reverse ↔ part <:+: text := List.reverse_infix
  rw [← List.reverse_infix, List.reverse_append, ← mirrored]
  apply infix_blank_append_iff _ _ reversed
  · simpa using nonempty
  · rwa [List.head?_reverse]

/-- Stripping takes no trimmed part away. -/
theorem Trimmed.infix_strip_iff (trimmed : Trimmed space part) :
    part <:+: strip space text ↔ part <:+: text := by
  obtain ⟨front, back, blankFront, blankBack, whole⟩ := exists_strip space text
  conv_rhs => rw [whole]
  rw [infix_blank_append_iff trimmed.nonempty trimmed.first blankFront,
    infix_append_blank_iff trimmed.nonempty trimmed.last blankBack]

/-- Nor does it when only the front is stripped. -/
theorem Trimmed.infix_dropWhile_iff (trimmed : Trimmed space part) :
    part <:+: text.dropWhile space ↔ part <:+: text := by
  have blank : Blank space (text.takeWhile space) := fun c member => List.mem_takeWhile_imp member
  have whole : text.takeWhile space ++ text.dropWhile space = text :=
    List.takeWhile_append_dropWhile
  conv_rhs => rw [← whole]
  rw [infix_blank_append_iff trimmed.nonempty trimmed.first blank]

/-- Nor does it when only the back is stripped. -/
theorem Trimmed.infix_rdropWhile_iff (trimmed : Trimmed space part) :
    part <:+: text.rdropWhile space ↔ part <:+: text := by
  have mirrored : part.reverse <:+: (text.reverse.takeWhile space) ++
      text.reverse.dropWhile space ↔ part <:+: text := by
    rw [List.takeWhile_append_dropWhile]
    exact List.reverse_infix
  have blank : Blank space (text.reverse.takeWhile space) := fun c member =>
    List.mem_takeWhile_imp member
  have first : ∀ c ∈ part.reverse.head?, space c = false := by
    rw [List.head?_reverse]
    exact trimmed.last
  have nonempty : part.reverse ≠ [] := List.reverse_ne_nil_iff.mpr trimmed.nonempty
  rw [← mirrored, infix_blank_append_iff nonempty first blank, List.rdropWhile,
    ← List.reverse_infix, List.reverse_reverse]

/-! ### Words -/

/-- There is no white space in a word. -/
theorem not_mem_of_isWord {word : List α} (isWord : IsWord space word) {c : α}
    (white : space c = true) : c ∉ word := by
  intro member
  rw [isWord.solid c member] at white
  cases white

/-- The first word of a text, with the words after it in the rest.

Proof: the text is not blank, and its first word is the first of the list. -/
theorem exists_of_words_cons {word : List α} {others : List (List α)}
    (split : words space text = word :: others) :
    ∃ blank tail, text = blank ++ (word ++ tail) ∧ words space tail = others := by
  have solid : ¬Blank space text := by
    intro blank
    have none : words space text = [] := cut_blank blank _
    rw [none] at split
    cases split
  obtain ⟨blank, first, tail, rfl, white, isWord, ends⟩ := exists_first_word solid
  rw [words_word white isWord ends] at split
  obtain ⟨rfl, rest⟩ := List.cons.inj split
  exact ⟨blank, tail, rfl, rest⟩

/-- A word of a text is a part of it. -/
theorem infix_of_mem_words {word : List α} (member : word ∈ words space text) :
    word <:+: text := by
  induction split : words space text generalizing text with
  | nil =>
    rw [split] at member
    cases member
  | cons first others inductionHypothesis =>
    obtain ⟨blank, tail, rfl, rest⟩ := exists_of_words_cons split
    rw [split] at member
    rcases List.mem_cons.mp member with rfl | later
    · exact ⟨blank, tail, by rw [List.append_assoc]⟩
    · have inTail : word <:+: tail := by
        apply inductionHypothesis _ rest
        rwa [rest]
      have suffix : tail <:+ blank ++ (first ++ tail) :=
        (List.suffix_append first tail).trans (List.suffix_append blank _)
      exact inTail.trans suffix.isInfix

/-- A part without white space is in a text exactly when it is in one of its words.

Proof: by induction on the length of the text. The first word is taken off. -/
theorem infix_words_iff (isPart : IsWord space part) :
    part <:+: text ↔ ∃ word ∈ words space text, part <:+: word := by
  constructor
  · intro inside
    induction length : text.length using Nat.strongRecOn generalizing text with
    | ind length inductionHypothesis =>
      subst length
      have solid : ¬Blank space text := by
        intro blank
        obtain ⟨c, others, rfl⟩ := List.exists_cons_of_ne_nil isPart.nonempty
        have white := blank c (inside.subset List.mem_cons_self)
        rw [isPart.solid c List.mem_cons_self] at white
        cases white
      obtain ⟨front, word, tail, rfl, blank, isWord, ends⟩ := exists_first_word solid
      rw [words_word blank isWord ends]
      rw [infix_blank_append_iff isPart.nonempty (Trimmed.of_word isPart).first blank] at inside
      cases tail with
      | nil =>
        rw [List.append_nil] at inside
        exact ⟨word, List.mem_cons_self, inside⟩
      | cons c rest =>
        have white : space c = true := ends c rfl
        rcases (infix_append_cons_iff (not_mem_of_isWord isPart white)).mp inside with
          inWord | inRest
        · exact ⟨word, List.mem_cons_self, inWord⟩
        · have shorter : rest.length < (front ++ (word ++ c :: rest)).length := by
            simp only [List.length_append, List.length_cons]
            omega
          obtain ⟨other, member, inOther⟩ := inductionHypothesis _ shorter inRest rfl
          have single : Blank space [c] := by simpa [Blank] using white
          have later : words space (c :: rest) = words space rest := words_blank_append single rest
          rw [later]
          exact ⟨other, List.mem_cons_of_mem word member, inOther⟩
  · rintro ⟨word, member, inWord⟩
    exact inWord.trans (infix_of_mem_words member)

/-- A character that is no white space is in one of the words. -/
theorem mem_words_iff {c : α} (solid : space c = false) :
    c ∈ text ↔ ∃ word ∈ words space text, c ∈ word := by
  have isPart : IsWord space [c] := ⟨List.cons_ne_nil c [], by simpa using solid⟩
  simpa only [List.singleton_infix_iff] using infix_words_iff isPart

end WhiteSpace

/-! ### One part after another -/

section Following

variable {first second : List α}

/-- The second part comes somewhere after the first. -/
def Follows (first second text : List α) : Prop :=
  ∃ front middle back, text = front ++ (first ++ (middle ++ second)) ++ back

/-- What is between two parts, and the parts themselves, are one part. -/
theorem follows_iff : Follows first second text ↔
    ∃ middle, first ++ (middle ++ second) <:+: text := by
  constructor
  · rintro ⟨front, middle, back, rfl⟩
    exact ⟨middle, front, back, rfl⟩
  · rintro ⟨middle, front, back, rfl⟩
    exact ⟨front, middle, back, rfl⟩

/-- Each place of the first part is a beginning of what is left of the text. -/
theorem follows_iff_tails [DecidableEq α] : Follows first second text ↔
    ∃ tail ∈ text.tails, first <+: tail ∧ second <:+: tail.drop first.length := by
  simp only [List.mem_tails]
  constructor
  · rintro ⟨front, middle, back, rfl⟩
    refine ⟨first ++ (middle ++ (second ++ back)), ⟨front, ?_⟩, ⟨_, rfl⟩, ?_⟩
    · simp only [List.append_assoc]
    · rw [List.drop_left]
      exact ⟨middle, back, by rw [List.append_assoc]⟩
  · rintro ⟨tail, ⟨front, rfl⟩, ⟨rest, rfl⟩, isLater⟩
    rw [List.drop_left] at isLater
    obtain ⟨middle, back, rfl⟩ := isLater
    exact ⟨front, middle, back, by simp only [List.append_assoc]⟩

instance [DecidableEq α] : Decidable (Follows first second text) :=
  decidable_of_iff' _ follows_iff_tails

/-- The first word of a text and a later one. -/
theorem follows_of_words {space : α → Bool} {others : List (List α)}
    (split : words space text = first :: others) (member : second ∈ others) :
    Follows first second text := by
  obtain ⟨blank, tail, rfl, rest⟩ := exists_of_words_cons split
  rw [← rest] at member
  obtain ⟨middle, back, rfl⟩ := infix_of_mem_words member
  exact ⟨blank, middle, back, by simp only [List.append_assoc]⟩

end Following

/-! ### Lines -/

section Lines

variable {separator : α}

/-- A part without the separator is in a text exactly when it is in one of the pieces. -/
theorem infix_splitOn_iff [DecidableEq α] (absent : separator ∉ part) :
    part <:+: text ↔ ∃ piece ∈ text.splitOn separator, part <:+: piece := by
  have whole : [separator].intercalate (text.splitOn separator) = text :=
    List.intercalate_splitOn separator
  conv_lhs => rw [← whole]
  exact infix_intercalate_iff absent (List.splitOn_ne_nil separator text)

/-- A part without the line break is in the lines, each with its line break, exactly when it is
in one of them. -/
theorem infix_unlines_iff (absent : separator ∉ part) (nonempty : part ≠ [])
    {listed : List (List α)} :
    part <:+: listed.flatMap (fun line => line ++ [separator]) ↔
      ∃ line ∈ listed, part <:+: line := by
  induction listed with
  | nil => simpa using nonempty
  | cons line rest inductionHypothesis =>
    rw [List.flatMap_cons, List.append_assoc, List.singleton_append,
      infix_append_cons_iff absent, inductionHypothesis, List.exists_mem_cons_iff]

/-- There is no separator in a piece. The induction is on the text; a character that separates
nothing is put in front of the first piece, so this one is looked at by itself. -/
theorem solid_of_mem_splitOnP {separates : α → Bool} {piece : List α}
    (isPiece : piece ∈ text.splitOnP separates) {c : α} (member : c ∈ piece) :
    separates c = false := by
  induction text generalizing piece with
  | nil =>
    rw [List.splitOnP_nil, List.mem_singleton] at isPiece
    rw [isPiece] at member
    cases member
  | cons d rest inductionHypothesis =>
    obtain ⟨first, others, pieces⟩ :=
      List.exists_cons_of_ne_nil (List.splitOnP_ne_nil separates rest)
    rw [List.splitOnP_cons_eq_if_modifyHead, pieces] at isPiece
    rw [pieces] at inductionHypothesis
    split at isPiece
    case isTrue =>
      rcases List.mem_cons.mp isPiece with rfl | later
      · cases member
      · exact inductionHypothesis later member
    case isFalse solid =>
      rcases List.mem_cons.mp isPiece with rfl | later
      · rcases List.mem_cons.mp member with rfl | inFirst
        · exact eq_false_of_ne_true solid
        · exact inductionHypothesis List.mem_cons_self inFirst
      · exact inductionHypothesis (List.mem_cons_of_mem first later) member

/-- There is no line break in a line. -/
theorem solid_of_mem_lines [DecidableEq α] {isBreak : α → Bool} {cr lf : α} {line : List α}
    (isLine : line ∈ lines isBreak cr lf text) {c : α} (member : c ∈ line) :
    isBreak c = false := by
  rw [lines] at isLine
  split at isLine
  · exact solid_of_mem_splitOnP (List.mem_of_mem_dropLast isLine) member
  · exact solid_of_mem_splitOnP isLine member

end Lines

end AvocadoMisc.Library.Parts
