import AvocadoMisc.Library.Parts
import AvocadoMisc.Library.Regexes

/-!
# Values with a label

An expression for a value, white space and a label is searched for in a text. The first value with
the label is found, whatever is in front of it, as long as none of its symbols is there in front of
the label as well. What is found is the whole value when the symbol in front of it is no symbol of a
value.
-/

namespace AvocadoMisc.Library.Labels

open Library.Text Library.Regexes

universe u
variable {α : Type u}

/-- A value, white space and a label. -/
def labelled [DecidableEq α] (space : α → Bool) (value : Regex α) (label : List α) : Regex α :=
  sequence [.group 1 value, some1 space, literal label]

/-- There is a symbol of a value in front of the label, with white space between them. -/
def Labelled (number space : α → Bool) (label text : List α) : Prop :=
  ∃ c gap, number c = true ∧ Blank space gap ∧ gap ≠ [] ∧ c :: (gap ++ label) <:+: text

/-- An expression for texts of the symbols of a value. -/
def Consists (number : α → Bool) (value : Regex α) : Prop :=
  ∀ part, Describes value part → part ≠ [] ∧ ∀ c ∈ part, number c = true

variable {number space : α → Bool} {value : Regex α} {label text : List α}

/-- A label in a part of a text is in the text. -/
theorem Labelled.mono {part : List α} (labelled : Labelled number space label part)
    (inside : part <:+: text) : Labelled number space label text := by
  obtain ⟨c, gap, isNumber, blank, nonempty, infix_part⟩ := labelled
  exact ⟨c, gap, isNumber, blank, nonempty, infix_part.trans inside⟩

/-- The symbols may be among others. -/
theorem Labelled.weaken {other : α → Bool} (labelled : Labelled number space label text)
    (among : ∀ c, number c = true → other c = true) : Labelled other space label text := by
  obtain ⟨c, gap, isNumber, rest⟩ := labelled
  exact ⟨c, gap, among c isNumber, rest⟩

/-- Without the label there is no value with it. -/
theorem not_labelled_of_absent (absent : ¬ label <:+: text) :
    ¬ Labelled number space label text := by
  rintro ⟨c, gap, _, _, _, inside⟩
  apply absent
  have labelInside : label <:+: c :: (gap ++ label) := (List.suffix_append (c :: gap) label).isInfix
  exact labelInside.trans inside

/-- Symbols behind a text do not matter when the label does not end with one of them. -/
theorem labelled_append_iff {padding : α → Bool} {back : List α} (something : label ≠ [])
    (last : ∀ c ∈ label.getLast?, padding c = false) (blank : Blank padding back) :
    Labelled number space label (text ++ back) ↔ Labelled number space label text := by
  constructor
  · rintro ⟨c, gap, isNumber, isSpace, nonempty, inside⟩
    refine ⟨c, gap, isNumber, isSpace, nonempty, ?_⟩
    have ends : ∀ d ∈ (c :: (gap ++ label)).getLast?, padding d = false := by
      intro d isLast
      rw [← List.cons_append, List.getLast?_append_of_ne_nil _ something] at isLast
      exact last d isLast
    exact (Parts.infix_append_blank_iff (List.cons_ne_nil c _) ends blank).mp inside
  · exact fun inside => inside.mono (List.prefix_append text back).isInfix

/-- A value and its label have one in them. -/
theorem labelled_of_parts {digits gap rest : List α} (something : digits ≠ [])
    (numbers : ∀ c ∈ digits, number c = true) (blank : Blank space gap) (nonempty : gap ≠ []) :
    Labelled number space label (digits ++ (gap ++ (label ++ rest))) := by
  obtain ⟨front, last, rfl⟩ := (List.eq_nil_or_concat' digits).resolve_left something
  exact ⟨last, gap, numbers last (by simp), blank, nonempty, front, rest, by simp⟩

variable [DecidableEq α]

/-- What matches is a value, white space and the label. -/
theorem exists_of_matchStart (consists : Consists number value) {after : Captured α}
    (matched : matchStart (labelled space value label) text = some after) :
    ∃ digits gap rest, text = digits ++ (gap ++ (label ++ rest)) ∧ digits ≠ [] ∧
      (∀ c ∈ digits, number c = true) ∧ Blank space gap ∧ gap ≠ [] := by
  obtain ⟨_, rest, rfl, digits, _, rfl, isValue, gap, _, rfl, isGap, _, _, rfl, isLabel, rfl⟩ :=
    matchStart_sound matched
  obtain rfl := describes_literal isLabel
  obtain ⟨something, numbers⟩ := consists digits isValue
  obtain ⟨nonempty, blank⟩ := describes_some1 isGap
  exact ⟨digits, gap, rest, by simp, something, numbers, blank, nonempty⟩

/-- Nothing is found when there is no value with the label. -/
theorem search_eq_none (consists : Consists number value)
    (absent : ¬ Labelled number space label text) :
    search (labelled space value label) text = none := by
  cases found : search (labelled space value label) text with
  | none => rfl
  | some after =>
    obtain ⟨front, tail, rfl, matched⟩ := exists_matchStart found
    obtain ⟨digits, gap, rest, rfl, something, numbers, blank, nonempty⟩ :=
      exists_of_matchStart consists matched
    exact absurd ((labelled_of_parts something numbers blank nonempty).mono
      (List.suffix_append front _).isInfix) absent

/-- No match begins in front of a symbol that belongs neither to white space nor to the label, when
the symbol in front of it is none of a value.

Proof: the value of such a match ends in front of that symbol, and then its white space does, and
then its label. -/
theorem matchStart_eq_none (consists : Consists number value) {front rest : List α} {first : α}
    (ends : ∀ c ∈ front.getLast?, number c = false) (solid : space first = false)
    (foreign : first ∉ label) (something : label ≠ [])
    (absent : ¬ Labelled number space label front) :
    ∀ before behind, front = before ++ behind → behind ≠ [] →
      matchStart (labelled space value label) (behind ++ first :: rest) = none := by
  intro before behind split present
  cases matched : matchStart (labelled space value label) (behind ++ first :: rest) with
  | none => rfl
  | some after =>
    exfalso
    obtain ⟨digits, gap, tail, same, _, numbers, blank, nonempty⟩ :=
      exists_of_matchStart consists matched
    obtain ⟨front', last, rfl⟩ := (List.eq_nil_or_concat' behind).resolve_left present
    have noNumber : number last = false := ends last (by simp [split])
    have inFront : ∀ further, front' ++ [last] = digits ++ (gap ++ (label ++ further)) → False := by
      intro further inside
      apply absent
      rw [split, inside]
      exact (labelled_of_parts ‹_› numbers blank nonempty).mono
        (List.suffix_append before _).isInfix
    rcases List.append_eq_append_iff.mp same with ⟨more, isDigits, _⟩ | ⟨others, isFront, isRest⟩
    · -- the value goes beyond the last symbol in front
      have isNumber := numbers last (by simp [isDigits])
      rw [noNumber] at isNumber
      cases isNumber
    · rcases List.append_eq_append_iff.mp isRest with
        ⟨further, rfl, isLabel⟩ | ⟨more, isGap, isFirst⟩
      · -- the white space ends in front of the symbol, and so does the label
        rcases List.append_eq_append_iff.mp isLabel with
          ⟨beyond, rfl, _⟩ | ⟨more, isLabel, isFirst⟩
        · exact inFront beyond isFront
        · cases more with
          | nil =>
            rw [List.append_nil] at isLabel
            exact inFront [] (by rw [isFront, isLabel, List.append_nil])
          | cons c others =>
            obtain rfl := (List.cons.inj isFirst).1
            exact foreign (by simp [isLabel])
      · -- the symbol belongs to the white space, or the label begins with it
        cases more with
        | nil =>
          obtain ⟨c, others, rfl⟩ := List.exists_cons_of_ne_nil something
          obtain rfl := (List.cons.inj isFirst).1
          exact foreign List.mem_cons_self
        | cons c others =>
          obtain rfl := (List.cons.inj isFirst).1
          have isSpace := blank first (by simp [isGap])
          rw [solid] at isSpace
          cases isSpace

/-- The first value with the label is found, and it is the whole value. -/
theorem search_labelled (consists : Consists number value) {front digits gap rest : List α}
    {first : α} (begins : digits.head? = some first) (ends : ∀ c ∈ front.getLast?, number c = false)
    (solid : space first = false) (foreign : first ∉ label) (something : label ≠ [])
    (absent : ¬ Labelled number space label front)
    (takes : ∀ groups, Takes value groups digits (gap ++ (label ++ rest)) groups)
    (blank : Blank space gap) (nonempty : gap ≠ [])
    (stops : ∀ c ∈ label.head?, space c = false) :
    ∃ after, search (labelled space value label) (front ++ (digits ++ (gap ++ (label ++ rest)))) =
        some after ∧ after 1 = some digits := by
  obtain ⟨others, rfl⟩ : ∃ others, digits = first :: others := by
    cases digits with
    | nil => cases begins
    | cons c others =>
      obtain rfl := Option.some.inj begins
      exact ⟨others, rfl⟩
  have labelEnds : ∀ c ∈ (label ++ rest).head?, space c = false := by
    obtain ⟨c, letters, rfl⟩ := List.exists_cons_of_ne_nil something
    exact stops
  have whole : Takes (labelled space value label) (fun _ => none)
      ((first :: others) ++ (gap ++ label)) rest
      (Function.update (fun _ => none) 1 (some (first :: others))) := by
    refine Takes.cons (Takes.group ?_) (Takes.cons (Takes.some1 nonempty blank labelEnds)
      (Takes.single (Takes.literal label)))
    rw [List.append_assoc]
    exact takes _
  refine ⟨_, search_append ?_ (by simpa using whole.matchStart), by simp⟩
  exact matchStart_eq_none consists ends solid foreign something absent

end AvocadoMisc.Library.Labels
