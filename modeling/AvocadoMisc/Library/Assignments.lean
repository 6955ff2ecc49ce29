import Mathlib.Logic.Function.Basic
import AvocadoMisc.Library.Text

/-!
# Rows of assignments

A row of assignments is a text of the form `name=value name=value`. Reading it takes the
words of the text one after another. Each is cut at its first sign of equality and replaces
the value of its name, so the last one for a name counts.

A row that was put together from pairs sets these pairs, provided that the names differ and
that the values have no white space. White space in a value breaks the pair: no name that a
word of a row assigns gets a value with white space.
-/

namespace AvocadoMisc.Library.Assignments

open Text

universe u
variable {α : Type u} [DecidableEq α]

section Words

variable (equals : α)

/-- What a word assigns to: its part before the sign. -/
def nameOf (word : List α) : List α := word.takeWhile fun c => decide (c ≠ equals)

/-- What it assigns: its part after the sign. -/
def valueOf (word : List α) : List α := (word.dropWhile fun c => decide (c ≠ equals)).tail

/-- An assignment as it is written. -/
def pair (name value : List α) : List α := name ++ equals :: value

/-- Carry out one assignment. -/
def assign (values : List α → List α) (word : List α) : List α → List α :=
  Function.update values (nameOf equals word) (valueOf equals word)

/-- Carry out assignments in order. -/
def assignAll (values : List α → List α) (row : List (List α)) : List α → List α :=
  row.foldl (assign equals) values

variable {equals}

/-- A written assignment is cut behind its name. -/
theorem pair_cut {name : List α} (plain : equals ∉ name) (value : List α) :
    nameOf equals (pair equals name value) = name ∧
      valueOf equals (pair equals name value) = value := by
  have differs : ∀ c ∈ name, decide (c ≠ equals) = true := fun c member =>
    decide_eq_true fun same => plain (same ▸ member)
  constructor
  · rw [nameOf, pair, List.takeWhile_append_of_pos differs]
    simp
  · rw [valueOf, pair, List.dropWhile_append_of_pos differs]
    simp

/-- A name that no word assigns keeps its value. -/
theorem assignAll_of_not_mem {row : List (List α)} {name : List α}
    (unnamed : ∀ word ∈ row, nameOf equals word ≠ name) (values : List α → List α) :
    assignAll equals values row name = values name := by
  induction row generalizing values with
  | nil => rfl
  | cons word rest inductionHypothesis =>
    obtain ⟨differs, others⟩ := List.forall_mem_cons.mp unnamed
    calc assignAll equals values (word :: rest) name
        = assign equals values word name := inductionHypothesis others _
      _ = values name := Function.update_of_ne (Ne.symm differs) _ _

/-- Pairs with different names set what they say.

Proof: by induction on the pairs. A name is not assigned again by the later ones. -/
theorem assignAll_pairs {pairs : List (List α × List α)}
    (plain : ∀ entry ∈ pairs, equals ∉ entry.1) (distinct : (pairs.map Prod.fst).Nodup)
    (values : List α → List α) {entry : List α × List α} (member : entry ∈ pairs) :
    assignAll equals values (pairs.map fun entry => pair equals entry.1 entry.2) entry.1 =
      entry.2 := by
  induction pairs generalizing values with
  | nil => cases member
  | cons first rest inductionHypothesis =>
    obtain ⟨plainFirst, plainRest⟩ := List.forall_mem_cons.mp plain
    rw [List.map_cons, List.nodup_cons] at distinct
    obtain ⟨name, value⟩ := pair_cut plainFirst first.2
    rw [List.map_cons]
    change assignAll equals (assign equals values (pair equals first.1 first.2)) _ entry.1 = _
    rcases List.mem_cons.mp member with rfl | later
    · have unnamed : ∀ word ∈ rest.map fun entry => pair equals entry.1 entry.2,
          nameOf equals word ≠ entry.1 := by
        intro word written
        obtain ⟨other, among, rfl⟩ := List.mem_map.mp written
        rw [(pair_cut (plainRest other among) other.2).1]
        exact fun same => distinct.1 (same ▸ List.mem_map_of_mem among)
      rw [assignAll_of_not_mem unnamed, assign, name, value, Function.update_self]
    · exact inductionHypothesis plainRest distinct.2 _ later

/-- What holds of the values of all words holds of the value of a name that some word
assigns. -/
theorem assignAll_of_mem {Holds : List α → Prop} {row : List (List α)} {name : List α}
    (every : ∀ word ∈ row, Holds (valueOf equals word))
    (named : ∃ word ∈ row, nameOf equals word = name) (values : List α → List α) :
    Holds (assignAll equals values row name) := by
  induction row generalizing values with
  | nil =>
    obtain ⟨word, member, -⟩ := named
    cases member
  | cons word rest inductionHypothesis =>
    obtain ⟨first, others⟩ := List.forall_mem_cons.mp every
    change Holds (assignAll equals (assign equals values word) rest name)
    by_cases later : ∃ other ∈ rest, nameOf equals other = name
    · exact inductionHypothesis others later _
    · have unnamed : ∀ other ∈ rest, nameOf equals other ≠ name := fun other member same =>
        later ⟨other, member, same⟩
      have here : nameOf equals word = name := by
        obtain ⟨other, member, same⟩ := named
        rcases List.mem_cons.mp member with rfl | among
        · exact same
        · exact absurd same (unnamed other among)
      rw [assignAll_of_not_mem unnamed, assign, ← here, Function.update_self]
      exact first

end Words

section Rows

variable {equals : α} {space : α → Bool}

/-- The value of a word has no white space. -/
theorem valueOf_solid {word : List α} (isWord : IsWord space word) :
    ∀ c ∈ valueOf equals word, space c = false := fun c member =>
  isWord.solid c ((List.dropWhile_suffix _).subset (List.mem_of_mem_tail member))

/-- A written assignment has a word for its name, whatever its value is. White space in the value
cuts the value only, as there is none in the name or the sign. -/
theorem exists_word_of_pair {name : List α} (isWord : IsWord space name)
    (plain : equals ∉ name) (solid : space equals = false) (value : List α) :
    ∃ word ∈ words space (pair equals name value), nameOf equals word = name := by
  have front : IsWord space (pair equals name (value.takeWhile (!space ·))) := by
    refine ⟨by simp [pair], fun c member => ?_⟩
    rcases List.mem_append.mp member with inName | rest
    · exact isWord.solid c inName
    · rcases List.mem_cons.mp rest with rfl | inValue
      · exact solid
      · simpa using List.mem_takeWhile_imp inValue
  have ends : Ends space (value.dropWhile (!space ·)) := by
    intro c first
    cases left : value.dropWhile (!space ·) with
    | nil => simp [left] at first
    | cons d others =>
      have stops := List.head?_dropWhile_not (!space ·) value
      rw [left] at first stops
      simp only [List.head?_cons, Option.mem_some_iff] at first stops
      simpa [first] using stops
  have split : pair equals name value =
      [] ++ (pair equals name (value.takeWhile (!space ·)) ++ value.dropWhile (!space ·)) := by
    simp [pair]
  refine ⟨pair equals name (value.takeWhile (!space ·)), ?_, (pair_cut plain _).1⟩
  rw [split, words_word (by simp [Blank]) front ends]
  exact List.mem_cons_self

end Rows

end AvocadoMisc.Library.Assignments
