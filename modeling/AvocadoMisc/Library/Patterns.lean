import Mathlib.Data.List.Infix

/-!
# Searching a text for a pattern

A pattern is a sequence of items, each for one symbol of a class or for any number of them. An
item that repeats takes as many symbols as it can and gives them back one by one when the items
after it do not match, and the search tries the places of the text from left to right.

`Accepts` says which texts a pattern describes, without an order of trials. A search succeeds
exactly when some part of the text is described by the pattern, and what it finds is such a part.
-/

namespace AvocadoMisc.Library.Patterns

universe u
variable {α : Type u}

/-- An item of a pattern, with its class of symbols. -/
inductive Item (α : Type u) where
  | one (accepted : α → Bool)
  | many (accepted : α → Bool)

/-- The items in order. -/
abbrev Pattern (α : Type u) := List (Item α)

/-- A text that stands for itself. -/
def literal [DecidableEq α] (text : List α) : Pattern α :=
  text.map fun c => .one fun other => decide (other = c)

/-! ### What a pattern describes -/

/-- The text is made of what the items stand for. -/
def Accepts : Pattern α → List α → Prop
  | [], text => text = []
  | .one accepted :: items, text =>
    ∃ c rest, text = c :: rest ∧ accepted c = true ∧ Accepts items rest
  | .many accepted :: items, text =>
    ∃ run rest, text = run ++ rest ∧ (∀ c ∈ run, accepted c = true) ∧ Accepts items rest

/-- A text that stands for itself comes first. -/
theorem accepts_literal_append [DecidableEq α] (word : List α) (items : Pattern α)
    (text : List α) :
    Accepts (literal word ++ items) text ↔ ∃ rest, text = word ++ rest ∧ Accepts items rest := by
  induction word generalizing text with
  | nil => simp [literal]
  | cons c word inductionHypothesis =>
    simp only [literal, List.map_cons, List.cons_append, Accepts] at inductionHypothesis ⊢
    constructor
    · rintro ⟨other, rest, rfl, same, accepts⟩
      obtain ⟨remaining, rfl, further⟩ := (inductionHypothesis rest).mp accepts
      exact ⟨remaining, by simpa using same, further⟩
    · rintro ⟨rest, rfl, accepts⟩
      exact ⟨c, word ++ rest, rfl, by simp, (inductionHypothesis _).mpr ⟨rest, rfl, accepts⟩⟩

/-- A text that stands for itself and nothing else. -/
theorem accepts_literal [DecidableEq α] (word text : List α) :
    Accepts (literal word) text ↔ text = word := by
  simpa [Accepts] using accepts_literal_append word [] text

/-! ### Matching from the left -/

/-- Take symbols as long as possible, and give them back until the continuation matches. What is
returned is the matched text. -/
def greedy (accepted : α → Bool) (continuation : List α → Option (List α)) :
    List α → Option (List α)
  | [] => continuation []
  | c :: rest =>
    if accepted c then
      match greedy accepted continuation rest with
      | some found => some (c :: found)
      | none => continuation (c :: rest)
    else continuation (c :: rest)

/-- The text that the pattern matches at the beginning. -/
def matchHere : Pattern α → List α → Option (List α)
  | [], _ => some []
  | .one _ :: _, [] => none
  | .one accepted :: items, c :: rest =>
    if accepted c then (matchHere items rest).map (c :: ·) else none
  | .many accepted :: items, text => greedy accepted (matchHere items) text

/-- The text that the pattern matches at the first place where it matches. -/
def search (pattern : Pattern α) : List α → Option (List α)
  | [] => matchHere pattern []
  | c :: rest =>
    match matchHere pattern (c :: rest) with
    | some found => some found
    | none => search pattern rest

/-- What is taken and matched is at the beginning: symbols of the class, and a match of the
continuation after them. -/
theorem greedy_sound {accepted : α → Bool} {continuation : List α → Option (List α)}
    {text found : List α} (matched : greedy accepted continuation text = some found) :
    ∃ run rest tail, text = run ++ rest ∧ (∀ c ∈ run, accepted c = true) ∧
      continuation rest = some tail ∧ found = run ++ tail := by
  induction text generalizing found with
  | nil => exact ⟨[], [], found, rfl, by simp, matched, rfl⟩
  | cons c rest inductionHypothesis =>
    have stopped : continuation (c :: rest) = some found →
        ∃ run remaining tail, c :: rest = run ++ remaining ∧
          (∀ symbol ∈ run, accepted symbol = true) ∧ continuation remaining = some tail ∧
          found = run ++ tail :=
      fun direct => ⟨[], c :: rest, found, rfl, by simp, direct, rfl⟩
    unfold greedy at matched
    split at matched
    case isTrue inClass =>
      cases further : greedy accepted continuation rest with
      | none => exact stopped (by simpa [further] using matched)
      | some inner =>
        obtain ⟨run, remaining, tail, rfl, all, continued, rfl⟩ := inductionHypothesis further
        obtain rfl : c :: (run ++ tail) = found := by simpa [further] using matched
        exact ⟨c :: run, remaining, tail, rfl, by simpa [inClass] using all, continued, rfl⟩
    case isFalse => exact stopped matched

/-- When the continuation matches after some symbols of the class, something is matched. -/
theorem greedy_complete {accepted : α → Bool} {continuation : List α → Option (List α)}
    {run rest : List α} (all : ∀ c ∈ run, accepted c = true)
    (continued : (continuation rest).isSome = true) :
    (greedy accepted continuation (run ++ rest)).isSome = true := by
  induction run with
  | nil =>
    cases rest with
    | nil => exact continued
    | cons c rest =>
      rw [List.nil_append, greedy]
      split
      · split
        · rfl
        · exact continued
      · exact continued
  | cons c run inductionHypothesis =>
    have inClass : accepted c = true := all c (by simp)
    have further := inductionHypothesis fun symbol member => all symbol (by simp [member])
    obtain ⟨found, matched⟩ := Option.isSome_iff_exists.mp further
    simp [greedy, inClass, matched]

/-- What is matched is the beginning of the text, and the pattern describes it.

Proof: by induction on the pattern. -/
theorem matchHere_sound {pattern : Pattern α} {text found : List α}
    (matched : matchHere pattern text = some found) : found <+: text ∧ Accepts pattern found := by
  induction pattern generalizing text found with
  | nil =>
    obtain rfl : [] = found := by simpa [matchHere] using matched
    exact ⟨List.nil_prefix, rfl⟩
  | cons item items inductionHypothesis =>
    cases item with
    | one accepted =>
      cases text with
      | nil => simp [matchHere] at matched
      | cons c rest =>
        unfold matchHere at matched
        split at matched
        case isTrue inClass =>
          obtain ⟨inner, further, rfl⟩ := Option.map_eq_some_iff.mp matched
          obtain ⟨first, accepts⟩ := inductionHypothesis further
          exact ⟨List.cons_prefix_cons.mpr ⟨rfl, first⟩, c, inner, rfl, inClass, accepts⟩
        case isFalse => cases matched
    | many accepted =>
      rw [matchHere] at matched
      obtain ⟨run, rest, tail, rfl, all, continued, rfl⟩ := greedy_sound matched
      obtain ⟨first, accepts⟩ := inductionHypothesis continued
      exact ⟨(List.prefix_append_right_inj run).mpr first, run, tail, rfl, all, accepts⟩

/-- Where the text begins with something that the pattern describes, something is matched. -/
theorem matchHere_complete {pattern : Pattern α} {found : List α} (rest : List α)
    (accepts : Accepts pattern found) : (matchHere pattern (found ++ rest)).isSome = true := by
  induction pattern generalizing found with
  | nil => rfl
  | cons item items inductionHypothesis =>
    cases item with
    | one accepted =>
      obtain ⟨c, remaining, rfl, inClass, further⟩ := accepts
      simpa [matchHere, inClass] using inductionHypothesis further
    | many accepted =>
      obtain ⟨run, remaining, rfl, all, further⟩ := accepts
      rw [List.append_assoc, matchHere]
      exact greedy_complete all (inductionHypothesis further)

/-! ### Searching -/

/-- What is found is a part of the text, and the pattern describes it. -/
theorem search_sound {pattern : Pattern α} {text found : List α}
    (matched : search pattern text = some found) : found <:+: text ∧ Accepts pattern found := by
  induction text with
  | nil =>
    obtain ⟨first, accepts⟩ := matchHere_sound matched
    exact ⟨first.isInfix, accepts⟩
  | cons c rest inductionHypothesis =>
    unfold search at matched
    split at matched
    case h_1 here_found here =>
      obtain rfl := Option.some.inj matched
      obtain ⟨first, accepts⟩ := matchHere_sound here
      exact ⟨first.isInfix, accepts⟩
    case h_2 =>
      obtain ⟨part, accepts⟩ := inductionHypothesis matched
      exact ⟨part.trans (List.suffix_cons c rest).isInfix, accepts⟩

/-- A search succeeds exactly when a part of the text is described by the pattern. -/
theorem search_isSome_iff (pattern : Pattern α) (text : List α) :
    (search pattern text).isSome = true ↔ ∃ found, found <:+: text ∧ Accepts pattern found := by
  constructor
  · intro success
    obtain ⟨found, matched⟩ := Option.isSome_iff_exists.mp success
    exact ⟨found, search_sound matched⟩
  · rintro ⟨found, ⟨before, after, rfl⟩, accepts⟩
    induction before with
    | nil =>
      have here := matchHere_complete after accepts
      rw [List.nil_append]
      cases whole : found ++ after with
      | nil => rw [whole] at here; exact here
      | cons c rest =>
        rw [whole] at here
        obtain ⟨first, matched⟩ := Option.isSome_iff_exists.mp here
        simp [search, matched]
    | cons c before inductionHypothesis =>
      rw [List.cons_append, List.cons_append, search]
      split
      · rfl
      · exact inductionHypothesis

end AvocadoMisc.Library.Patterns
