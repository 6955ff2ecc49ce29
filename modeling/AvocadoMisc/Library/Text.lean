import Mathlib.Data.List.DropRight
import Mathlib.Data.List.Infix
import Mathlib.Data.List.TakeWhile

/-!
# Words and lines of a text

A text is a list over any alphabet. Its words are the maximal runs without white space, and
`cut limit` takes at most as many words off the front as the limit says; what is left after that
is the last piece. Its lines end at line breaks, of which two together may count as one.

A text that was put together from words with white space between them is cut into these words,
and a text that was put together from lines is split into these lines. What has no separator in it
is in a row of fields exactly when it is in one of the fields. The last section has the white space
and the line breaks of character strings and of byte strings.
-/

namespace AvocadoMisc.Library.Text

universe u
variable {α : Type u}

/-! ### Words -/

section Words

variable (space : α → Bool)

/-- Take words off the front, at most as many as the limit. What is left is one more piece, with
the white space at its end. -/
def cut : Nat → List α → List (List α)
  | 0, text => if text.dropWhile space = [] then [] else [text.dropWhile space]
  | limit + 1, text =>
    if text.dropWhile space = [] then []
    else
      (text.dropWhile space).takeWhile (!space ·) ::
        cut limit ((text.dropWhile space).dropWhile (!space ·))

/-- All words. A text has no more words than characters. -/
def words (text : List α) : List (List α) := cut space text.length text

/-- A text without the white space at both ends. -/
def strip (text : List α) : List α := (text.dropWhile space).rdropWhile space

/-- A text without the white space at its end. -/
def rstrip (text : List α) : List α := text.rdropWhile space

/-- Whether a text is a part of another. -/
def contains [DecidableEq α] (pattern text : List α) : Bool := decide (pattern <:+: text)

/-- A run without white space. -/
structure IsWord (word : List α) : Prop where
  nonempty : word ≠ []
  solid : ∀ c ∈ word, space c = false

/-- A test that no character passes, by computation. -/
theorem none_of_check {test : α → Bool} {text : List α}
    (check : (text.all fun c => !test c) = true) : ∀ c ∈ text, test c = false := by
  simpa using check

/-- A test that every character passes, by computation. -/
theorem forall_of_check {Holds : α → Prop} [DecidablePred Holds] {text : List α}
    (check : text.all (fun c => decide (Holds c)) = true) : ∀ c ∈ text, Holds c :=
  fun c member => of_decide_eq_true (List.all_eq_true.mp check c member)

/-- A first character that does not pass a test, by computation. -/
theorem first_of_check {test : α → Bool} {first : Option α}
    (check : (first.all fun c => !test c) = true) : ∀ c ∈ first, test c = false := by
  cases first with
  | none => simp
  | some c => simpa using check

/-- A run without white space, by computation. -/
theorem isWord_of_check {space : α → Bool} {word : List α} (nonempty : word ≠ [])
    (check : (word.all fun c => !space c) = true) : IsWord space word :=
  ⟨nonempty, none_of_check check⟩

/-- White space only. -/
def Blank (text : List α) : Prop := ∀ c ∈ text, space c = true

/-- What follows a word: nothing, or white space first. -/
def Ends (tail : List α) : Prop := ∀ c ∈ tail.head?, space c = true

variable {space}

/-- The white space before a text is dropped. -/
theorem dropWhile_blank {blank : List α} (white : Blank space blank) (text : List α) :
    (blank ++ text).dropWhile space = text.dropWhile space := by
  rw [List.dropWhile_append_of_pos white]

/-- Nothing of a word is dropped. -/
theorem IsWord.dropWhile {word : List α} (isWord : IsWord space word) (tail : List α) :
    (word ++ tail).dropWhile space = word ++ tail := by
  obtain ⟨first, rest, rfl⟩ := List.exists_cons_of_ne_nil isWord.nonempty
  have solid : space first = false := isWord.solid first (by simp)
  simp [solid]

/-- Nothing of a word is stripped. -/
theorem IsWord.strip {word : List α} (isWord : IsWord space word) :
    Text.strip space word = word := by
  have front := isWord.dropWhile []
  rw [List.append_nil] at front
  rw [Text.strip, front, List.rdropWhile_eq_self_iff]
  intro something
  simp [isWord.solid _ (List.getLast_mem something)]

/-- What passes a test at the end of a text is dropped with it. -/
theorem rdropWhile_append {test : α → Bool} {front tail : List α}
    (inTail : ∀ c ∈ tail, test c = true) :
    (front ++ tail).rdropWhile test = front.rdropWhile test := by
  have reversed : ∀ c ∈ tail.reverse, test c = true := fun c member =>
    inTail c (List.mem_reverse.mp member)
  rw [List.rdropWhile, List.reverse_append, List.dropWhile_append_of_pos reversed]
  rfl

/-- A character that does not pass a test stays, with all that is before it. -/
theorem rdropWhile_append_cons {test : α → Bool} {c : α} (stays : test c = false)
    (front tail : List α) :
    (front ++ c :: tail).rdropWhile test = front ++ c :: tail.rdropWhile test := by
  induction tail using List.reverseRecOn with
  | nil =>
    rw [List.rdropWhile_nil, List.rdropWhile_eq_self_iff]
    intro something
    simp [stays]
  | append_singleton tail last inductionHypothesis =>
    rw [← List.cons_append, ← List.append_assoc]
    cases passes : test last with
    | true =>
      rw [List.rdropWhile_concat_pos _ _ _ passes, List.rdropWhile_concat_pos _ _ _ passes,
        inductionHypothesis]
    | false =>
      have keeps : ¬test last = true := by simp [passes]
      rw [List.rdropWhile_concat_neg _ _ _ keeps, List.rdropWhile_concat_neg _ _ _ keeps]
      simp

/-- White space behind a word is stripped. -/
theorem IsWord.rstrip {word blank : List α} (isWord : IsWord space word)
    (white : Blank space blank) : Text.rstrip space (word ++ blank) = word := by
  rw [Text.rstrip, rdropWhile_append white, List.rdropWhile_eq_self_iff]
  intro something
  simpa using isWord.solid _ (List.getLast_mem something)

/-- White space on both sides of a word is stripped. -/
theorem IsWord.strip_between {front word back : List α} (isWord : IsWord space word)
    (blankFront : Blank space front) (blankBack : Blank space back) :
    Text.strip space (front ++ (word ++ back)) = word := by
  rw [Text.strip, dropWhile_blank blankFront, isWord.dropWhile back]
  exact isWord.rstrip blankBack

/-- A word ends where white space begins. -/
theorem IsWord.span {word tail : List α} (isWord : IsWord space word) (ends : Ends space tail) :
    (word ++ tail).takeWhile (!space ·) = word ∧ (word ++ tail).dropWhile (!space ·) = tail := by
  have solid : ∀ c ∈ word, (!space c) = true := fun c member => by simp [isWord.solid c member]
  rw [List.takeWhile_append_of_pos solid, List.dropWhile_append_of_pos solid]
  cases tail with
  | nil => simp
  | cons c others =>
    have white : space c = true := ends c rfl
    simp [white]

/-- White space has no words. -/
theorem cut_blank {text : List α} (blank : Blank space text) (limit : Nat) :
    cut space limit text = [] := by
  have dropped : text.dropWhile space = [] := List.dropWhile_eq_nil_iff.mpr blank
  cases limit <;> simp [cut, dropped]

/-- The first word. -/
theorem cut_word {blank word tail : List α} (white : Blank space blank)
    (isWord : IsWord space word) (ends : Ends space tail) (limit : Nat) :
    cut space (limit + 1) (blank ++ (word ++ tail)) = word :: cut space limit tail := by
  obtain ⟨taken, dropped⟩ := isWord.span ends
  have something : word ++ tail ≠ [] := by simp [isWord.nonempty]
  rw [cut, dropWhile_blank white, isWord.dropWhile, if_neg something, taken, dropped]

/-- The last piece. -/
theorem cut_zero {blank word tail : List α} (white : Blank space blank)
    (isWord : IsWord space word) : cut space 0 (blank ++ (word ++ tail)) = [word ++ tail] := by
  have something : word ++ tail ≠ [] := by simp [isWord.nonempty]
  rw [cut, dropWhile_blank white, isWord.dropWhile, if_neg something]

/-- A limit that is not reached does not matter.

Proof: by induction on the limit. Each word takes a character off the text. -/
theorem cut_eq_words {text : List α} {limit : Nat} (enough : text.length ≤ limit) :
    cut space limit text = words space text := by
  suffices ∀ first second : Nat, ∀ text : List α, text.length ≤ first → text.length ≤ second →
      cut space first text = cut space second text from
    this limit text.length text enough (Nat.le_refl _)
  intro first
  induction first with
  | zero =>
    intro second text empty _
    rw [List.length_eq_zero_iff.mp (Nat.le_zero.mp empty)]
    exact (cut_blank (by simp [Blank]) 0).trans (cut_blank (by simp [Blank]) second).symm
  | succ first inductionHypothesis =>
    intro second text below belowSecond
    by_cases dropped : text.dropWhile space = []
    · have blank : Blank space text := List.dropWhile_eq_nil_iff.mp dropped
      rw [cut_blank blank, cut_blank blank]
    · have shorter : ((text.dropWhile space).dropWhile (!space ·)).length < text.length := by
        obtain ⟨c, rest, started⟩ := List.exists_cons_of_ne_nil dropped
        have solid : space c = false := by
          have stops := List.head_dropWhile_not space dropped
          simpa [started] using stops
        have suffix : (rest.dropWhile (!space ·)).length ≤ rest.length :=
          (List.dropWhile_suffix _).length_le
        have whole : (text.dropWhile space).length ≤ text.length :=
          (List.dropWhile_suffix _).length_le
        rw [started] at whole ⊢
        simp only [List.length_cons, solid, Bool.not_false, List.dropWhile_cons_of_pos] at whole ⊢
        omega
      obtain ⟨second, rfl⟩ : ∃ earlier, second = earlier + 1 := ⟨second - 1, by omega⟩
      rw [cut, cut, if_neg dropped, if_neg dropped,
        inductionHypothesis second _ (by omega) (by omega)]

/-- The first of all words. -/
theorem words_word {blank word tail : List α} (white : Blank space blank)
    (isWord : IsWord space word) (ends : Ends space tail) :
    words space (blank ++ (word ++ tail)) = word :: words space tail := by
  obtain ⟨first, rest, rfl⟩ := List.exists_cons_of_ne_nil isWord.nonempty
  have counted : (blank ++ (first :: rest ++ tail)).length =
      (blank.length + rest.length + tail.length) + 1 := by
    simp only [List.length_append, List.length_cons]
    omega
  rw [words, counted, cut_word white isWord ends, cut_eq_words (by omega)]

/-- Without white space, the text is the only word. -/
theorem words_solid {word : List α} (isWord : IsWord space word) : words space word = [word] := by
  have white : Blank space ([] : List α) := by simp [Blank]
  have ends : Ends space ([] : List α) := by simp [Ends]
  simpa [words, cut] using words_word white isWord ends

/-- Blank text before a text has no words. -/
theorem words_blank_append {blank : List α} (white : Blank space blank) (text : List α) :
    words space (blank ++ text) = words space text := by
  have skipped : ∀ limit, cut space limit (blank ++ text) = cut space limit text := by
    intro limit
    cases limit <;> rw [cut, cut, dropWhile_blank white]
  rw [words, skipped, cut_eq_words (by simp)]

/-- A text that is not blank begins with a word. -/
theorem exists_first_word {text : List α} (solid : ¬Blank space text) :
    ∃ blank word tail, text = blank ++ (word ++ tail) ∧ Blank space blank ∧ IsWord space word ∧
      Ends space tail := by
  have left : text.dropWhile space ≠ [] := fun dropped =>
    solid (List.dropWhile_eq_nil_iff.mp dropped)
  refine ⟨text.takeWhile space, (text.dropWhile space).takeWhile (!space ·),
    (text.dropWhile space).dropWhile (!space ·), ?_, fun c member => ?_, ⟨?_, fun c member => ?_⟩,
    fun c first => ?_⟩
  · rw [List.takeWhile_append_dropWhile, List.takeWhile_append_dropWhile]
  · exact List.mem_takeWhile_imp member
  · obtain ⟨c, rest, started⟩ := List.exists_cons_of_ne_nil left
    have stops := List.head_dropWhile_not space left
    simp only [started, List.head_cons] at stops
    simp [started, stops]
  · simpa using List.mem_takeWhile_imp member
  · cases tail : (text.dropWhile space).dropWhile (!space ·) with
    | nil => simp [tail] at first
    | cons d others =>
      have stops := List.head?_dropWhile_not (!space ·) (text.dropWhile space)
      rw [tail] at first stops
      simp only [List.head?_cons, Option.mem_some_iff] at first stops
      simpa [first] using stops

/-- White space separates words.

Proof: by induction on the number of characters in front of it. The first word is taken off. -/
theorem words_append {c : α} (white : space c = true) (first second : List α) :
    words space (first ++ c :: second) = words space first ++ words space second := by
  induction length : first.length using Nat.strongRecOn generalizing first with
  | ind length inductionHypothesis =>
    subst length
    by_cases blank : Blank space first
    · have single : Blank space (first ++ [c]) := by
        intro d member
        rcases List.mem_append.mp member with inFirst | last
        · exact blank d inFirst
        · rw [List.mem_singleton.mp last, white]
      have none : words space first = [] := cut_blank blank _
      rw [List.append_cons, words_blank_append single, none, List.nil_append]
    · obtain ⟨front, word, tail, rfl, isBlank, isWord, ends⟩ := exists_first_word blank
      have endsLater : Ends space (tail ++ c :: second) := by
        intro d isFirst
        cases tail with
        | nil =>
          rw [List.nil_append, List.head?_cons, Option.mem_some_iff] at isFirst
          rw [← isFirst, white]
        | cons e others => exact ends d isFirst
      have shorter : tail.length < (front ++ (word ++ tail)).length := by
        have positive := List.length_pos_of_ne_nil isWord.nonempty
        simp only [List.length_append]
        omega
      rw [List.append_assoc, List.append_assoc, words_word isBlank isWord endsLater,
        words_word isBlank isWord ends, inductionHypothesis _ shorter tail rfl, List.cons_append]

/-- White space behind a text has no words. -/
theorem words_append_blank {blank : List α} (white : Blank space blank) (text : List α) :
    words space (text ++ blank) = words space text := by
  cases blank with
  | nil => rw [List.append_nil]
  | cons c rest =>
    have none : words space rest = [] :=
      cut_blank (fun d member => white d (List.mem_cons_of_mem c member)) _
    rw [words_append (white c List.mem_cons_self), none, List.append_nil]

variable (space) in
/-- Stripping takes white space off both ends. -/
theorem exists_strip (text : List α) : ∃ front back, Blank space front ∧ Blank space back ∧
    text = front ++ (Text.strip space text ++ back) := by
  have whole : Text.strip space text ++
      ((text.dropWhile space).reverse.takeWhile space).reverse = text.dropWhile space := by
    rw [Text.strip, List.rdropWhile, ← List.reverse_append, List.takeWhile_append_dropWhile,
      List.reverse_reverse]
  refine ⟨text.takeWhile space, ((text.dropWhile space).reverse.takeWhile space).reverse,
    fun c member => List.mem_takeWhile_imp member,
    fun c member => List.mem_takeWhile_imp (List.mem_reverse.mp member), ?_⟩
  rw [whole, List.takeWhile_append_dropWhile]

/-- White space in front of a text that has none at its ends is all that is stripped. -/
theorem strip_indented {indent text : List α} (white : Blank space indent)
    (starts : ∀ c ∈ text.head?, space c = false)
    (ends : ∀ c ∈ text.getLast?, space c = false) :
    Text.strip space (indent ++ text) = text := by
  have front : text.dropWhile space = text := by
    cases text with
    | nil => rfl
    | cons c rest => rw [List.dropWhile_cons, starts c rfl]; rfl
  have back : text.rdropWhile space = text := by
    rw [List.rdropWhile_eq_self_iff]
    intro something
    simpa using ends _ (List.getLast?_eq_some_getLast something)
  rw [Text.strip, dropWhile_blank white, front, back]

variable (space) in
/-- A stripped text does not begin with white space. -/
theorem head_strip (text : List α) : ∀ c ∈ (Text.strip space text).head?, space c = false := by
  intro c isFirst
  obtain ⟨tail, whole⟩ := List.rdropWhile_prefix space (text.dropWhile space)
  have first : (text.dropWhile space).head? = some c := by
    rw [← whole, List.head?_append, show (List.rdropWhile space (text.dropWhile space)).head? =
      some c from isFirst]
    rfl
  have solid := List.head?_dropWhile_not space text
  rw [first] at solid
  simpa using solid

variable (space) in
/-- A stripped text does not end with white space. -/
theorem getLast_strip (text : List α) :
    ∀ c ∈ (Text.strip space text).getLast?, space c = false := by
  intro c isLast
  obtain ⟨something, rfl⟩ := List.mem_getLast?_eq_getLast isLast
  have solid := List.rdropWhile_last_not space (text.dropWhile space) something
  exact Bool.eq_false_iff.mpr solid

variable (space) in
/-- A text is stripped once. -/
theorem strip_strip (text : List α) :
    Text.strip space (Text.strip space text) = Text.strip space text := by
  have nothing : Blank space [] := fun c member => absurd member List.not_mem_nil
  exact strip_indented nothing (head_strip space text) (getLast_strip space text)

variable (space) in
/-- Stripping adds nothing. -/
theorem strip_subset (text : List α) : Text.strip space text ⊆ text := by
  obtain ⟨front, back, -, -, whole⟩ := exists_strip space text
  intro c member
  rw [whole]
  simp [member]

/-- White space at the end of a text is stripped. -/
theorem strip_append_blank {blank : List α} (white : Blank space blank) (text : List α) :
    Text.strip space (text ++ blank) = Text.strip space text := by
  rw [Text.strip, List.dropWhile_append]
  split
  · rename_i nothing
    have none : text.dropWhile space = [] := List.isEmpty_iff.mp nothing
    have noneBlank : blank.dropWhile space = [] := List.dropWhile_eq_nil_iff.mpr white
    rw [Text.strip, none, noneBlank]
  · rw [rdropWhile_append white, Text.strip]

/-- Stripping takes no word away. -/
theorem words_strip (text : List α) : words space (Text.strip space text) = words space text := by
  obtain ⟨front, back, blankFront, blankBack, whole⟩ := exists_strip space text
  calc words space (Text.strip space text)
      = words space (Text.strip space text ++ back) := (words_append_blank blankBack _).symm
    _ = words space (front ++ (Text.strip space text ++ back)) :=
        (words_blank_append blankFront _).symm
    _ = words space text := by rw [← whole]

/-- Stripping takes nothing solid away. -/
theorem mem_strip {text : List α} {c : α} (solid : space c = false) (member : c ∈ text) :
    c ∈ Text.strip space text := by
  obtain ⟨front, back, blankFront, blankBack, whole⟩ := exists_strip space text
  have outside {blank : List α} (white : Blank space blank) : c ∉ blank := fun inside => by
    rw [white c inside] at solid
    cases solid
  rw [whole, List.mem_append, List.mem_append] at member
  exact (member.resolve_left (outside blankFront)).resolve_right (outside blankBack)

/-- The words of a row of fields with white space between them are the words of the fields. -/
theorem words_intercalate {c : α} (white : space c = true) (fields : List (List α)) :
    words space ([c].intercalate fields) = fields.flatMap (words space) := by
  induction fields with
  | nil => simp [words, cut]
  | cons field rest inductionHypothesis =>
    cases rest with
    | nil => simp
    | cons second others =>
      rw [List.intercalate_cons_cons, List.append_assoc, List.singleton_append,
        words_append white, inductionHypothesis]
      rfl

/-- Words have a character and no white space.

Proof: by induction on the length of the text. The first word is taken off. -/
theorem isWord_of_mem_words {text word : List α} (member : word ∈ words space text) :
    IsWord space word := by
  induction length : text.length using Nat.strongRecOn generalizing text with
  | ind length inductionHypothesis =>
    subst length
    by_cases blank : Blank space text
    · have none : words space text = [] := cut_blank blank _
      rw [none] at member
      cases member
    · obtain ⟨front, first, tail, rfl, isBlank, isWord, ends⟩ := exists_first_word blank
      rw [words_word isBlank isWord ends] at member
      rcases List.mem_cons.mp member with rfl | inTail
      · exact isWord
      · have shorter : tail.length < (front ++ (first ++ tail)).length := by
          have positive := List.length_pos_of_ne_nil isWord.nonempty
          simp only [List.length_append]
          omega
        exact inductionHypothesis _ shorter inTail rfl

/-- Words are not empty. -/
theorem ne_nil_of_mem_words {text word : List α} (member : word ∈ words space text) :
    word ≠ [] := (isWord_of_mem_words member).nonempty

/-- A text with a solid character has a word. -/
theorem words_ne_nil {text : List α} {c : α} (member : c ∈ text) (solid : space c = false) :
    words space text ≠ [] := by
  have some_left : text.dropWhile space ≠ [] := fun dropped => by
    have white := List.dropWhile_eq_nil_iff.mp dropped c member
    simp [solid] at white
  have positive : text.length ≠ 0 := fun empty => by
    rw [List.length_eq_zero_iff.mp empty] at member
    cases member
  obtain ⟨limit, length⟩ := Nat.exists_eq_succ_of_ne_zero positive
  rw [words, length, cut, if_neg some_left]
  exact List.cons_ne_nil _ _

end Words

/-! ### Lines -/

section Lines

variable [DecidableEq α]

/-- Of a carriage return and a line feed that follows it, only the line feed is left. -/
def unifyBreaks (cr lf : α) : List α → List α
  | [] => []
  | c :: rest =>
    if c = cr ∧ rest.head? = some lf then unifyBreaks cr lf rest else c :: unifyBreaks cr lf rest

/-- The lines of a text. There is no line after the last break if nothing follows it. -/
def lines (isBreak : α → Bool) (cr lf : α) (text : List α) : List (List α) :=
  let pieces := (unifyBreaks cr lf text).splitOnP isBreak
  if pieces.getLast? = some [] then pieces.dropLast else pieces

/-- Without a carriage return nothing is to be unified. -/
theorem unifyBreaks_eq_self {cr lf : α} {text : List α} (absent : cr ∉ text) :
    unifyBreaks cr lf text = text := by
  induction text with
  | nil => rfl
  | cons c rest inductionHypothesis =>
    simp only [List.mem_cons, not_or] at absent
    rw [unifyBreaks, if_neg fun unified => absent.1 unified.1.symm, inductionHypothesis absent.2]

/-- Unifying line ends leaves something of a text. -/
theorem unifyBreaks_ne_nil {cr lf : α} {text : List α} (something : text ≠ []) :
    unifyBreaks cr lf text ≠ [] := by
  induction text with
  | nil => exact absurd rfl something
  | cons c rest inductionHypothesis =>
    rw [unifyBreaks]
    split
    case isTrue unified =>
      refine inductionHypothesis fun empty => ?_
      simp [empty] at unified
    case isFalse => exact List.cons_ne_nil _ _

/-- Unifying line ends adds nothing. -/
theorem unifyBreaks_sublist (cr lf : α) (text : List α) :
    (unifyBreaks cr lf text).Sublist text := by
  induction text with
  | nil => exact List.Sublist.refl []
  | cons c rest inductionHypothesis =>
    rw [unifyBreaks]
    split
    · exact inductionHypothesis.cons c
    · exact inductionHypothesis.cons_cons c

omit [DecidableEq α] in
/-- What is in a piece is in the text. -/
theorem mem_of_mem_splitOnP {separates : α → Bool} {text piece : List α}
    (isPiece : piece ∈ text.splitOnP separates) {c : α} (member : c ∈ piece) : c ∈ text := by
  induction text generalizing piece with
  | nil =>
    rw [List.splitOnP_nil, List.mem_singleton] at isPiece
    rwa [isPiece] at member
  | cons first rest inductionHypothesis =>
    obtain ⟨piece₁, others, pieces⟩ :=
      List.exists_cons_of_ne_nil (List.splitOnP_ne_nil separates rest)
    rw [List.splitOnP_cons_eq_if_modifyHead, pieces] at isPiece
    rw [pieces] at inductionHypothesis
    split at isPiece
    · rcases List.mem_cons.mp isPiece with empty | inRest
      · simp [empty] at member
      · exact List.mem_cons_of_mem _ (inductionHypothesis inRest member)
    · rcases List.mem_cons.mp isPiece with isFirst | inRest
      · rcases List.mem_cons.mp (isFirst ▸ member) with here | further
        · exact here ▸ List.mem_cons_self
        · exact List.mem_cons_of_mem _ (inductionHypothesis List.mem_cons_self further)
      · exact List.mem_cons_of_mem _
          (inductionHypothesis (List.mem_cons_of_mem _ inRest) member)

/-- What is in a line is in the text. -/
theorem mem_of_mem_lines {isBreak : α → Bool} {cr lf : α} {text line : List α}
    (isLine : line ∈ lines isBreak cr lf text) {c : α} (member : c ∈ line) : c ∈ text := by
  have isPiece : line ∈ (unifyBreaks cr lf text).splitOnP isBreak := by
    rw [lines] at isLine
    split at isLine
    · exact (List.dropLast_sublist _).subset isLine
    · exact isLine
  exact (unifyBreaks_sublist cr lf text).subset (mem_of_mem_splitOnP isPiece member)

/-- Only the empty text has no lines. A text that is a single line break has one line, which is
empty. -/
theorem lines_eq_nil_iff (isBreak : α → Bool) (cr lf : α) (text : List α) :
    lines isBreak cr lf text = [] ↔ text = [] := by
  constructor
  · intro none
    by_contra something
    have remains : unifyBreaks cr lf text ≠ [] := unifyBreaks_ne_nil something
    obtain ⟨c, rest, unified⟩ := List.exists_cons_of_ne_nil remains
    have more : (c :: rest).splitOnP isBreak ≠ [[]] := by
      obtain ⟨first, others, pieces⟩ :=
        List.exists_cons_of_ne_nil (List.splitOnP_ne_nil isBreak rest)
      rw [List.splitOnP_cons_eq_if_modifyHead, pieces]
      cases isBreak c <;> simp
    rw [lines, unified] at none
    match pieces : (c :: rest).splitOnP isBreak with
    | [] => exact List.splitOnP_ne_nil isBreak (c :: rest) pieces
    | [only] =>
      have solid : only ≠ [] := fun empty => more (by rw [pieces, empty])
      simp [pieces, solid] at none
    | first :: second :: others =>
      simp only [pieces] at none
      split at none <;> simp at none
  · rintro rfl
    simp [lines, unifyBreaks]

/-- Lines that were put together are split again. -/
theorem lines_unlines {isBreak : α → Bool} {cr lf : α} (breaks : isBreak cr = true)
    (ends : isBreak lf = true) (different : cr ≠ lf) {listed : List (List α)}
    (unbroken : ∀ line ∈ listed, ∀ c ∈ line, isBreak c = false) :
    lines isBreak cr lf (listed.flatMap fun line => line ++ [lf]) = listed := by
  have absent : cr ∉ listed.flatMap fun line => line ++ [lf] := by
    intro member
    obtain ⟨line, listedLine, inside⟩ := List.mem_flatMap.mp member
    rcases List.mem_append.mp inside with inLine | last
    · simp [unbroken line listedLine cr inLine] at breaks
    · exact different (List.mem_singleton.mp last)
  have pieces : (listed.flatMap fun line => line ++ [lf]).splitOnP isBreak = listed ++ [[]] := by
    clear absent
    induction listed with
    | nil => rfl
    | cons line rest inductionHypothesis =>
      rw [List.flatMap_cons, List.append_assoc, List.singleton_append,
        List.splitOnP_append_cons_of_forall_mem (unbroken line (by simp)) lf ends,
        inductionHypothesis fun other member => unbroken other (List.mem_cons_of_mem line member)]
      rfl
  rw [lines, unifyBreaks_eq_self absent, pieces]
  simp

/-- A text without breaks is one line. -/
theorem lines_single {isBreak : α → Bool} {cr lf : α} (breaks : isBreak cr = true)
    {text : List α} (something : text ≠ []) (unbroken : ∀ c ∈ text, isBreak c = false) :
    lines isBreak cr lf text = [text] := by
  have absent : cr ∉ text := by
    intro member
    rw [unbroken cr member] at breaks
    cases breaks
  rw [lines, unifyBreaks_eq_self absent, List.splitOnP_eq_singleton unbroken]
  simp [something]

end Lines

/-! ### Fields -/

section Fields

variable {pattern front back : List α} {separator : α}

/-- A text without the separator that begins a row begins its first field. -/
theorem prefix_append_cons_iff (absent : separator ∉ pattern) :
    pattern <+: front ++ separator :: back ↔ pattern <+: front := by
  constructor
  · intro begins
    induction front generalizing pattern with
    | nil =>
      cases pattern with
      | nil => exact List.nil_prefix
      | cons c rest =>
        obtain rfl : c = separator := (List.cons_prefix_cons.mp begins).1
        exact absurd List.mem_cons_self absent
    | cons c rest inductionHypothesis =>
      cases pattern with
      | nil => exact List.nil_prefix
      | cons d tail =>
        obtain ⟨same, begins⟩ := List.cons_prefix_cons.mp begins
        have tailAbsent : separator ∉ tail := fun member => absent (List.mem_cons_of_mem d member)
        exact List.cons_prefix_cons.mpr ⟨same, inductionHypothesis tailAbsent begins⟩
  · exact fun begins => begins.trans (List.prefix_append front _)

/-- A text without the separator is in one of the two parts. -/
theorem infix_append_cons_iff (absent : separator ∉ pattern) :
    pattern <:+: front ++ separator :: back ↔ pattern <:+: front ∨ pattern <:+: back := by
  induction front with
  | nil =>
    have begins : pattern <+: [] ++ separator :: back ↔ pattern <+: [] :=
      prefix_append_cons_iff absent
    rw [List.nil_append] at begins
    rw [List.nil_append, List.infix_cons_iff, begins, List.prefix_nil, List.infix_nil]
  | cons c rest inductionHypothesis =>
    have begins : pattern <+: (c :: rest) ++ separator :: back ↔ pattern <+: c :: rest :=
      prefix_append_cons_iff absent
    rw [List.cons_append] at begins
    rw [List.cons_append, List.infix_cons_iff, begins, inductionHypothesis, List.infix_cons_iff,
      or_assoc]

/-- A text without the separator is in a row exactly when it is in one of the fields. -/
theorem infix_intercalate_iff (absent : separator ∉ pattern) {fields : List (List α)}
    (some_field : fields ≠ []) :
    pattern <:+: [separator].intercalate fields ↔ ∃ field ∈ fields, pattern <:+: field := by
  induction fields with
  | nil => exact absurd rfl some_field
  | cons field rest inductionHypothesis =>
    cases rest with
    | nil => simp
    | cons second others =>
      rw [List.intercalate_cons_cons, List.append_assoc, List.singleton_append,
        infix_append_cons_iff absent, inductionHypothesis (List.cons_ne_nil _ _)]
      simp

/-- What is in front of the last field of a row, when there is a field in front of it. -/
theorem exists_intercalate_concat (separator : α) {fields : List (List α)}
    (some_field : fields ≠ []) :
    ∃ front, ∀ last, [separator].intercalate (fields ++ [last]) = front ++ separator :: last := by
  induction fields with
  | nil => exact absurd rfl some_field
  | cons field rest inductionHypothesis =>
    cases rest with
    | nil => exact ⟨field, fun last => by simp⟩
    | cons second others =>
      obtain ⟨front, concat⟩ := inductionHypothesis (by simp)
      refine ⟨field ++ separator :: front, fun last => ?_⟩
      rw [List.cons_append, List.cons_append, List.intercalate_cons_cons, ← List.cons_append,
        concat last]
      simp

/-- What is in front of the last field of a row. -/
theorem exists_intercalate_last (separator : α) (fields : List (List α)) :
    ∃ front, ∀ last, [separator].intercalate (fields ++ [last]) = front ++ last := by
  cases fields with
  | nil => exact ⟨[], fun last => by simp⟩
  | cons field rest =>
    obtain ⟨front, concat⟩ := exists_intercalate_concat separator (List.cons_ne_nil field rest)
    exact ⟨front ++ [separator], fun last => by rw [concat]; simp⟩

/-- A row starts with its first field. -/
theorem first_prefix_intercalate (field : List α) (rest : List (List α)) :
    field <+: [separator].intercalate (field :: rest) := by
  cases rest with
  | nil => simp
  | cons second others =>
    rw [List.intercalate_cons_cons, List.append_assoc]
    exact List.prefix_append field _

/-- What holds of every character of the fields and of the separator holds of the row. -/
theorem forall_mem_intercalate {Holds : α → Prop} {fields : List (List α)}
    (inFields : ∀ field ∈ fields, ∀ c ∈ field, Holds c) (ofSeparator : Holds separator) :
    ∀ c ∈ [separator].intercalate fields, Holds c := by
  induction fields with
  | nil => simp
  | cons field rest inductionHypothesis =>
    cases rest with
    | nil => simpa using inFields
    | cons second others =>
      have further := inductionHypothesis fun other member => inFields other (.tail field member)
      intro c member
      rw [List.intercalate_cons_cons, List.append_assoc, List.singleton_append,
        List.mem_append, List.mem_cons] at member
      rcases member with inField | rfl | inRest
      · exact inFields field List.mem_cons_self c inField
      · exact ofSeparator
      · exact further c inRest

/-- The first piece is what comes before the first separator. -/
theorem headD_splitOn [DecidableEq α] (text : List α) :
    (text.splitOn separator).headD [] = text.takeWhile (· ≠ separator) := by
  induction text with
  | nil => rfl
  | cons c rest inductionHypothesis =>
    obtain ⟨first, others, pieces⟩ :=
      List.exists_cons_of_ne_nil (List.splitOn_ne_nil separator rest)
    rw [pieces, List.headD_cons] at inductionHypothesis
    rw [List.splitOn_cons_eq_if_modifyHead, pieces]
    by_cases same : c = separator <;> simp [same, inductionHypothesis]

/-- The last piece is the whole text exactly when there is no separator in it. -/
theorem getLastD_splitOn_eq_self_iff [DecidableEq α] (text : List α) :
    (text.splitOn separator).getLastD [] = text ↔ separator ∉ text := by
  constructor
  · intro whole member
    obtain ⟨last, rest, reversed, absent⟩ :=
      List.eq_append_cons_of_mem (List.mem_reverse.mpr member)
    have text_eq : text = rest.reverse ++ separator :: last.reverse := by
      rw [← List.reverse_reverse text, reversed]
      simp
    have pieces : text.splitOn separator = rest.reverse.splitOn separator ++ [last.reverse] := by
      rw [text_eq, List.splitOn_append_cons_self,
        List.splitOn_eq_singleton fun inLast => absent (List.mem_reverse.mp inLast)]
    rw [pieces, List.getLastD_concat, text_eq] at whole
    have lengths := congrArg List.length whole
    simp only [List.length_append, List.length_cons, List.length_reverse] at lengths
    omega
  · intro absent
    rw [List.splitOn_eq_singleton absent]
    rfl

/-- The last piece is what comes behind the last separator. -/
theorem getLastD_splitOn_append [DecidableEq α] (front : List α) {last : List α}
    (absent : separator ∉ last) :
    ((front ++ separator :: last).splitOn separator).getLastD [] = last := by
  rw [List.splitOn_append_cons_self, List.splitOn_eq_singleton absent, List.getLastD_concat]

/-- A tail without separator belongs to the last piece. -/
theorem getLastD_splitOn_extend [DecidableEq α] (front : List α) {tail : List α}
    (absent : separator ∉ tail) :
    ((front ++ tail).splitOn separator).getLastD [] =
      (front.splitOn separator).getLastD [] ++ tail := by
  by_cases member : separator ∈ front
  · obtain ⟨last, rest, reversed, absentLast⟩ :=
      List.eq_append_cons_of_mem (List.mem_reverse.mpr member)
    have front_eq : front = rest.reverse ++ separator :: last.reverse := by
      rw [← List.reverse_reverse front, reversed]
      simp
    have absentWhole : separator ∉ last.reverse ++ tail := by
      simp [absentLast, absent]
    rw [front_eq, List.append_assoc, List.cons_append, getLastD_splitOn_append _ absentWhole,
      getLastD_splitOn_append _ (by simpa using absentLast)]
  · have absentWhole : separator ∉ front ++ tail := by simp [member, absent]
    rw [List.splitOn_eq_singleton absentWhole, List.splitOn_eq_singleton member]
    rfl

/-- Lines with breaks between them are split again. The last line must not be empty, since a break
at the end of a text begins no further line. -/
theorem lines_intercalate [DecidableEq α] {isBreak : α → Bool} {cr lf : α}
    (breaks : isBreak cr = true) (ends : isBreak lf = true) (different : cr ≠ lf)
    {listed : List (List α)} (unbroken : ∀ line ∈ listed, ∀ c ∈ line, isBreak c = false)
    (something : listed.getLast? ≠ some []) :
    lines isBreak cr lf ([lf].intercalate listed) = listed := by
  by_cases none : listed = []
  · subst none
    rfl
  have absent : cr ∉ [lf].intercalate listed := by
    have noReturn : ∀ c ∈ [lf].intercalate listed, c ≠ cr :=
      forall_mem_intercalate (fun line member c inside same => by
        rw [← same, unbroken line member c inside] at breaks
        cases breaks) (Ne.symm different)
    exact fun member => noReturn cr member rfl
  have pieces : ([lf].intercalate listed).splitOnP isBreak = listed := by
    clear absent something
    induction listed with
    | nil => exact absurd rfl none
    | cons line rest inductionHypothesis =>
      have solid := unbroken line (by simp)
      cases rest with
      | nil => simpa using List.splitOnP_eq_singleton solid
      | cons second others =>
        rw [List.intercalate_cons_cons, List.append_assoc, List.singleton_append,
          List.splitOnP_append_cons_of_forall_mem solid lf ends,
          inductionHypothesis
            (fun other member => unbroken other (List.mem_cons_of_mem line member)) (by simp)]
  rw [lines, unifyBreaks_eq_self absent, pieces, if_neg something]

end Fields

/-! ### Character strings and byte strings -/

/-- What a character string takes for white space. -/
def charSpace (c : Char) : Bool :=
  [0x9, 0xA, 0xB, 0xC, 0xD, 0x1C, 0x1D, 0x1E, 0x1F, 0x20, 0x85, 0xA0, 0x1680, 0x2000, 0x2001,
    0x2002, 0x2003, 0x2004, 0x2005, 0x2006, 0x2007, 0x2008, 0x2009, 0x200A, 0x2028, 0x2029,
    0x202F, 0x205F, 0x3000].contains c.toNat

/-- Where a line of a character string ends. -/
def charBreak (c : Char) : Bool :=
  [0xA, 0xB, 0xC, 0xD, 0x1C, 0x1D, 0x1E, 0x85, 0x2028, 0x2029].contains c.toNat

/-- The lines of a character string. -/
def charLines (text : List Char) : List (List Char) := lines charBreak '\r' '\n' text

/-- A number as it is written. -/
def decimal (n : Nat) : List Char := Nat.toDigits 10 n

/-- Different numbers are written in different ways. -/
theorem decimal_injective {m n : Nat} (same : decimal m = decimal n) : m = n := by
  have values := congrArg (fun digits => Nat.ofDigitChars 10 digits 0) same
  simpa [decimal, Nat.ofDigitChars_ten_toDigits] using values

/-- A number is written with digits. -/
theorem decimal_digits (n : Nat) : ∀ c ∈ decimal n, c.isDigit = true := fun _ member =>
  Nat.isDigit_of_mem_toDigits (by decide) (by decide) member

/-- Where a line ends there is white space. -/
theorem charSpace_of_charBreak {c : Char} (breaks : charBreak c = true) : charSpace c = true := by
  rw [charBreak, List.contains_iff_mem] at breaks
  rw [charSpace, List.contains_iff_mem]
  simp only [List.mem_cons, List.not_mem_nil, or_false] at breaks ⊢
  omega

/-- No line ends where there is no white space. -/
theorem charBreak_of_solid {c : Char} (solid : charSpace c = false) : charBreak c = false := by
  by_contra breaks
  rw [charSpace_of_charBreak (eq_true_of_ne_false breaks)] at solid
  cases solid

/-- A digit is no white space. -/
theorem charSpace_digit {c : Char} (digit : c.isDigit = true) : charSpace c = false := by
  have low : 48 ≤ c.toNat := (Char.isDigit_iff_toNat.mp digit).1
  have high : c.toNat ≤ 57 := (Char.isDigit_iff_toNat.mp digit).2
  by_contra white
  rw [Bool.not_eq_false, charSpace, List.contains_iff_mem] at white
  simp only [List.mem_cons, List.not_mem_nil, or_false] at white
  omega

/-- A space is white space. -/
theorem blank_space : Blank charSpace [' '] := forall_of_check (by decide)

/-- Two of them are. -/
theorem blank_spaces : Blank charSpace [' ', ' '] := forall_of_check (by decide)

/-- A number is a word. -/
theorem decimal_isWord (n : Nat) : IsWord charSpace (decimal n) :=
  ⟨Nat.toDigits_ne_nil, fun c member => charSpace_digit (decimal_digits n c member)⟩

/-- What a byte string takes for white space. -/
def byteSpace (byte : UInt8) : Bool := [0x9, 0xA, 0xB, 0xC, 0xD, 0x20].contains byte.toNat

/-- Where a line of a byte string ends. -/
def byteBreak (byte : UInt8) : Bool := [0xA, 0xD].contains byte.toNat

/-- The lines of a byte string. -/
def byteLines (data : List UInt8) : List (List UInt8) := lines byteBreak 13 10 data

end AvocadoMisc.Library.Text
