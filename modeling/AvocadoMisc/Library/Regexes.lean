import Mathlib.Data.List.Infix
import Mathlib.Logic.Function.Basic

/-!
# Regular expressions with groups

An expression is matched by trying. A repetition takes as many symbols as it can and gives them
back one by one, an option is tried before it is left out, and the first alternative is tried
before the second. What comes after an expression is a continuation, which gets the groups, what
the expression took and the rest of the text.

`Takes` says that an expression takes a part of a text as soon as what comes after it goes well
with the rest. There is a rule for each kind of expression, so that a match of a text in parts is
composed of the matches of the parts. `Describes` says which texts an expression can take, and
every match is of such a text.
-/

namespace AvocadoMisc.Library.Regexes

universe u v
variable {α : Type u} {β : Type v}

/-- A regular expression over classes of symbols. -/
inductive Regex (α : Type u) where
  | empty
  | one (accepted : α → Bool)
  | many (accepted : α → Bool)
  | seq (first second : Regex α)
  | alt (first second : Regex α)
  | opt (inner : Regex α)
  | group (number : Nat) (inner : Regex α)

/-- One expression after another. -/
def sequence (parts : List (Regex α)) : Regex α := parts.foldr .seq .empty

/-- A text that stands for itself. -/
def literal [DecidableEq α] (text : List α) : Regex α :=
  sequence (text.map fun c => .one fun other => decide (other = c))

/-- One or more symbols of a class. -/
def some1 (accepted : α → Bool) : Regex α := .seq (.one accepted) (.many accepted)

/-- The text of each group that took part in the match. -/
abbrev Captured (α : Type u) := Nat → Option (List α)

/-! ### Matching -/

/-- Take symbols of a class as long as possible, and give them back until the continuation goes
well. -/
def greedy (accepted : α → Bool) (next : List α → List α → Option β) : List α → Option β
  | [] => next [] []
  | c :: rest =>
    if accepted c then
      match greedy accepted (fun taken => next (c :: taken)) rest with
      | some result => some result
      | none => next [] (c :: rest)
    else next [] (c :: rest)

/-- Match an expression and go on with what it took and the rest. -/
def run : Regex α → Captured α → List α → (Captured α → List α → List α → Option β) → Option β
  | .empty, groups, text, next => next groups [] text
  | .one _, _, [], _ => none
  | .one accepted, groups, c :: rest, next => if accepted c then next groups [c] rest else none
  | .many accepted, groups, text, next => greedy accepted (next groups) text
  | .seq first second, groups, text, next =>
    run first groups text fun groups taken rest =>
      run second groups rest fun groups more rest => next groups (taken ++ more) rest
  | .alt first second, groups, text, next =>
    match run first groups text next with
    | some result => some result
    | none => run second groups text next
  | .opt inner, groups, text, next =>
    match run inner groups text next with
    | some result => some result
    | none => next groups [] text
  | .group number inner, groups, text, next =>
    run inner groups text fun groups taken rest =>
      next (Function.update groups number (some taken)) taken rest

/-- The groups of a match at the beginning of the text. -/
def matchStart (regex : Regex α) (text : List α) : Option (Captured α) :=
  run regex (fun _ => none) text fun groups _ _ => some groups

/-- The groups of the first match in the text. -/
def search (regex : Regex α) : List α → Option (Captured α)
  | [] => matchStart regex []
  | c :: rest =>
    match matchStart regex (c :: rest) with
    | some groups => some groups
    | none => search regex rest

/-! ### The expressions one by one -/

section Equations

variable (accepted : α → Bool) (regex first second inner : Regex α) (groups : Captured α)
variable (c : α) (rest text : List α)

/-- What is tried second counts when the first comes to nothing. -/
theorem tried_or (tried other : Option β) :
    (match tried with
    | some result => some result
    | none => other) = tried.or other := by
  cases tried <;> rfl

/-- A repetition takes one symbol more, or stops here. -/
theorem greedy_cons (next : List α → List α → Option β) :
    greedy accepted next (c :: rest) =
      if accepted c then
        (greedy accepted (fun taken => next (c :: taken)) rest).or (next [] (c :: rest))
      else next [] (c :: rest) :=
  congrArg (fun taken => if accepted c then taken else next [] (c :: rest)) (tried_or _ _)

variable (next : Captured α → List α → List α → Option β)

/-- A symbol at the beginning of a text. -/
theorem run_one_cons :
    run (.one accepted) groups (c :: rest) next =
      if accepted c then next groups [c] rest else none := rfl

/-- A repetition. -/
theorem run_many : run (.many accepted) groups text next = greedy accepted (next groups) text := rfl

/-- The first alternative, and if nothing comes of it the second. -/
theorem run_alt :
    run (.alt first second) groups text next =
      (run first groups text next).or (run second groups text next) := tried_or _ _

/-- An option, and if nothing comes of it what goes on without it. -/
theorem run_opt :
    run (.opt inner) groups text next = (run inner groups text next).or (next groups [] text) :=
  tried_or _ _

/-- The match at the beginning of a text, and if there is none what is found behind it. -/
theorem search_cons :
    search regex (c :: rest) = (matchStart regex (c :: rest)).or (search regex rest) := by
  rw [search]
  cases matchStart regex (c :: rest) <;> rfl

end Equations

/-! ### What an expression takes -/

/-- The expression takes a part of the text when the continuation goes well with the rest. -/
def Takes (regex : Regex α) (groups : Captured α) (part rest : List α) (after : Captured α) :
    Prop :=
  ∀ (β : Type u) (next : Captured α → List α → List α → Option β) (result : β),
    next after part rest = some result → run regex groups (part ++ rest) next = some result

variable {regex first second inner : Regex α} {groups between after : Captured α}
variable {accepted : α → Bool} {part more rest text : List α}

/-- Nothing is taken. -/
theorem Takes.empty : Takes (.empty : Regex α) groups [] rest groups :=
  fun _ _ _ goesWell => goesWell

/-- One symbol is taken. -/
theorem Takes.one {c : α} (inClass : accepted c = true) :
    Takes (.one accepted) groups [c] rest groups := by
  intro β next result goesWell
  rw [List.singleton_append, run_one_cons, if_pos inClass]
  exact goesWell

/-- All symbols of a class are taken, up to the first other one. -/
theorem Takes.many (all : ∀ c ∈ part, accepted c = true)
    (ends : ∀ c ∈ rest.head?, accepted c = false) :
    Takes (.many accepted) groups part rest groups := by
  intro β next result goesWell
  rw [run_many]
  generalize next groups = goOn at goesWell
  induction part generalizing goOn with
  | nil =>
    cases rest with
    | nil => exact goesWell
    | cons c rest =>
      have other : accepted c = false := ends c rfl
      simpa [greedy_cons, other] using goesWell
  | cons c part inductionHypothesis =>
    have inClass : accepted c = true := all c (by simp)
    have further := inductionHypothesis (fun symbol member => all symbol (by simp [member]))
      (fun taken => goOn (c :: taken)) goesWell
    simp [greedy_cons, inClass, further]

/-- What two expressions take one after the other. -/
theorem Takes.seq (one : Takes first groups part (more ++ rest) between)
    (other : Takes second between more rest after) :
    Takes (.seq first second) groups (part ++ more) rest after := by
  intro β next result goesWell
  rw [List.append_assoc]
  exact one β _ result (other β _ result goesWell)

/-- An option that is there. -/
theorem Takes.opt (there : Takes inner groups part rest after) :
    Takes (.opt inner) groups part rest after := by
  intro β next result goesWell
  rw [run_opt, there β next result goesWell, Option.some_or]

/-- An option that is not there. -/
theorem Takes.opt_none
    (absent : ∀ (β : Type u) (next : Captured α → List α → List α → Option β),
      run inner groups rest next = none) :
    Takes (.opt inner) groups [] rest groups := by
  intro β next result goesWell
  rw [List.nil_append, run_opt, absent, Option.none_or]
  exact goesWell

/-- A symbol that is not there. -/
theorem run_one_eq_none (ends : ∀ c ∈ rest.head?, accepted c = false) (β : Type v)
    (next : Captured α → List α → List α → Option β) :
    run (.one accepted) groups rest next = none := by
  cases rest with
  | nil => rfl
  | cons c rest => simp [run_one_cons, ends c rfl]

/-- What is taken is put on record. -/
theorem Takes.group {number : Nat} (taken : Takes inner groups part rest after) :
    Takes (.group number inner) groups part rest (Function.update after number (some part)) :=
  fun β _ result goesWell => taken β _ result goesWell

/-- Some symbols of a class are taken, up to the first other one. -/
theorem Takes.some1 (something : part ≠ []) (all : ∀ c ∈ part, accepted c = true)
    (ends : ∀ c ∈ rest.head?, accepted c = false) :
    Takes (some1 accepted) groups part rest groups := by
  obtain ⟨c, others, rfl⟩ := List.exists_cons_of_ne_nil something
  exact (Takes.one (all c (by simp))).seq
    (Takes.many (fun symbol member => all symbol (by simp [member])) ends)

/-- The next expression of a sequence. -/
theorem Takes.cons {others : List (Regex α)} (one : Takes first groups part (more ++ rest) between)
    (other : Takes (sequence others) between more rest after) :
    Takes (sequence (first :: others)) groups (part ++ more) rest after :=
  one.seq other

/-- The last expression of a sequence. -/
theorem Takes.single (one : Takes first groups part rest after) :
    Takes (sequence [first]) groups part rest after := by
  have whole : Takes (sequence [first]) groups (part ++ []) rest after := one.cons Takes.empty
  rwa [List.append_nil] at whole

/-- A text that stands for itself is taken. -/
theorem Takes.literal [DecidableEq α] (word : List α) :
    Takes (literal word) groups word rest groups := by
  induction word with
  | nil => exact Takes.empty
  | cons c word inductionHypothesis =>
    have here : Takes (.one fun other => decide (other = c)) groups [c] (word ++ rest) groups :=
      Takes.one (by simp)
    exact here.seq inductionHypothesis

/-- An expression that takes the beginning of a text matches there. -/
theorem Takes.matchStart (taken : Takes regex (fun _ => none) part rest after) :
    matchStart regex (part ++ rest) = some after :=
  taken _ _ after rfl

/-! ### What an expression describes -/

/-- The texts that an expression can take, whatever the groups. -/
def Describes : Regex α → List α → Prop
  | .empty, text => text = []
  | .one accepted, text => ∃ c, text = [c] ∧ accepted c = true
  | .many accepted, text => ∀ c ∈ text, accepted c = true
  | .seq first second, text =>
    ∃ part more, text = part ++ more ∧ Describes first part ∧ Describes second more
  | .alt first second, text => Describes first text ∨ Describes second text
  | .opt inner, text => Describes inner text ∨ text = []
  | .group _ inner, text => Describes inner text

/-- The numbers of the groups in an expression. -/
def Regex.numbers : Regex α → List Nat
  | .empty => []
  | .one _ => []
  | .many _ => []
  | .seq first second => first.numbers ++ second.numbers
  | .alt first second => first.numbers ++ second.numbers
  | .opt inner => inner.numbers
  | .group number inner => number :: inner.numbers

/-- There are no groups in a text that stands for itself. -/
theorem numbers_literal [DecidableEq α] (word : List α) : (literal word).numbers = [] := by
  induction word with
  | nil => rfl
  | cons c rest inductionHypothesis =>
    rw [literal, List.map_cons, sequence, List.foldr_cons, Regex.numbers, Regex.numbers]
    exact inductionHypothesis

/-- A repetition takes symbols of its class. -/
theorem greedy_sound {next : List α → List α → Option β} {result : β}
    (matched : greedy accepted next text = some result) :
    ∃ part rest, text = part ++ rest ∧ (∀ c ∈ part, accepted c = true) ∧
      next part rest = some result := by
  induction text generalizing next with
  | nil => exact ⟨[], [], rfl, by simp, matched⟩
  | cons c rest inductionHypothesis =>
    have stopped : next [] (c :: rest) = some result →
        ∃ part remaining, c :: rest = part ++ remaining ∧
          (∀ symbol ∈ part, accepted symbol = true) ∧ next part remaining = some result :=
      fun direct => ⟨[], c :: rest, rfl, by simp, direct⟩
    rw [greedy_cons] at matched
    by_cases inClass : accepted c = true
    · rw [if_pos inClass] at matched
      rcases Option.or_eq_some_iff.mp matched with further | ⟨-, direct⟩
      · obtain ⟨part, remaining, rfl, all, continued⟩ := inductionHypothesis further
        exact ⟨c :: part, remaining, rfl, by simpa [inClass] using all, continued⟩
      · exact stopped direct
    · rw [if_neg inClass] at matched
      exact stopped matched

/-- What an expression takes is a text that it describes, and the groups that are not in it stay
as they were.

Proof: by induction on the expression. -/
theorem run_sound {next : Captured α → List α → List α → Option β} {result : β}
    (matched : run regex groups text next = some result) :
    ∃ part rest after, text = part ++ rest ∧ Describes regex part ∧
      (∀ number, number ∉ regex.numbers → after number = groups number) ∧
      next after part rest = some result := by
  induction regex generalizing groups text next with
  | empty => exact ⟨[], text, groups, rfl, rfl, fun _ _ => rfl, matched⟩
  | one accepted =>
    cases text with
    | nil => cases matched
    | cons c rest =>
      rw [run_one_cons] at matched
      by_cases inClass : accepted c = true
      · rw [if_pos inClass] at matched
        exact ⟨[c], rest, groups, rfl, ⟨c, rfl, inClass⟩, fun _ _ => rfl, matched⟩
      · rw [if_neg inClass] at matched
        cases matched
  | many accepted =>
    obtain ⟨part, rest, split, all, continued⟩ := greedy_sound matched
    exact ⟨part, rest, groups, split, all, fun _ _ => rfl, continued⟩
  | seq first second firstHypothesis secondHypothesis =>
    obtain ⟨part, tail, between, rfl, describes, kept, continued⟩ := firstHypothesis matched
    obtain ⟨more, rest, after, rfl, further, keptOn, goesWell⟩ := secondHypothesis continued
    refine ⟨part ++ more, rest, after, (List.append_assoc part more rest).symm,
      ⟨part, more, rfl, describes, further⟩, fun number absent => ?_, goesWell⟩
    rw [Regex.numbers, List.mem_append, not_or] at absent
    exact (keptOn number absent.2).trans (kept number absent.1)
  | alt first second firstHypothesis secondHypothesis =>
    rw [run_alt] at matched
    rcases Option.or_eq_some_iff.mp matched with tried | ⟨-, other⟩
    · obtain ⟨part, rest, after, split, describes, kept, goesWell⟩ := firstHypothesis tried
      exact ⟨part, rest, after, split, Or.inl describes,
        fun number absent => kept number fun member => absent (List.mem_append_left _ member),
        goesWell⟩
    · obtain ⟨part, rest, after, split, describes, kept, goesWell⟩ := secondHypothesis other
      exact ⟨part, rest, after, split, Or.inr describes,
        fun number absent => kept number fun member => absent (List.mem_append_right _ member),
        goesWell⟩
  | opt inner inductionHypothesis =>
    rw [run_opt] at matched
    rcases Option.or_eq_some_iff.mp matched with tried | ⟨-, absent⟩
    · obtain ⟨part, rest, after, split, describes, kept, goesWell⟩ := inductionHypothesis tried
      exact ⟨part, rest, after, split, Or.inl describes, kept, goesWell⟩
    · exact ⟨[], text, groups, rfl, Or.inr rfl, fun _ _ => rfl, absent⟩
  | group number inner inductionHypothesis =>
    obtain ⟨part, rest, after, split, describes, kept, goesWell⟩ := inductionHypothesis matched
    refine ⟨part, rest, _, split, describes, fun other absent => ?_, goesWell⟩
    rw [Regex.numbers, List.mem_cons, not_or] at absent
    rw [Function.update_of_ne absent.1, kept other absent.2]

/-- A match at the beginning of a text is of a text that the expression describes. -/
theorem matchStart_sound (matched : matchStart regex text = some after) :
    ∃ part rest, text = part ++ rest ∧ Describes regex part := by
  obtain ⟨part, rest, _, split, describes, -, -⟩ := run_sound matched
  exact ⟨part, rest, split, describes⟩

/-- A match that is searched for is a match at the beginning of what is left of the text. -/
theorem exists_matchStart (matched : search regex text = some after) :
    ∃ front rest, text = front ++ rest ∧ matchStart regex rest = some after := by
  induction text with
  | nil => exact ⟨[], [], rfl, matched⟩
  | cons c rest inductionHypothesis =>
    rw [search_cons] at matched
    rcases Option.or_eq_some_iff.mp matched with tried | ⟨-, behind⟩
    · exact ⟨[], c :: rest, rfl, tried⟩
    · obtain ⟨front, tail, rfl, found⟩ := inductionHypothesis behind
      exact ⟨c :: front, tail, rfl, found⟩

/-- What is found is a part of the text that the expression describes. -/
theorem search_sound (matched : search regex text = some after) :
    ∃ part, part <:+: text ∧ Describes regex part := by
  obtain ⟨front, tail, rfl, found⟩ := exists_matchStart matched
  obtain ⟨part, rest, rfl, describes⟩ := matchStart_sound found
  exact ⟨part, ⟨front, rest, List.append_assoc front part rest⟩, describes⟩

/-- The text of a group in front is one that the group describes. -/
theorem search_group_sound {number : Nat} (absent : number ∉ second.numbers)
    (matched : search (.seq (.group number inner) second) text = some after) :
    ∃ part, after number = some part ∧ Describes inner part := by
  obtain ⟨front, tail, rfl, found⟩ := exists_matchStart matched
  rw [matchStart, run, run] at found
  obtain ⟨part, rest, between, rfl, describes, -, continued⟩ := run_sound found
  obtain ⟨more, left, last, rfl, -, kept, done⟩ := run_sound continued
  obtain rfl := Option.some.inj done
  exact ⟨part, by rw [kept number absent, Function.update_self], describes⟩

/-- The first match is found when there is none in front of it. -/
theorem search_append {front : List α}
    (fails : ∀ before behind, front = before ++ behind → behind ≠ [] →
      matchStart regex (behind ++ rest) = none)
    (found : matchStart regex rest = some after) : search regex (front ++ rest) = some after := by
  induction front with
  | nil =>
    cases rest with
    | nil => exact found
    | cons c others => rw [List.nil_append, search_cons, found, Option.some_or]
  | cons c others inductionHypothesis =>
    have here : matchStart regex (c :: (others ++ rest)) = none :=
      fails [] (c :: others) rfl (List.cons_ne_nil c others)
    rw [List.cons_append, search_cons, here, Option.none_or]
    exact inductionHypothesis fun before behind split =>
      fails (c :: before) behind (by rw [split, List.cons_append])

/-- What a row of expressions describes ends with what the last of them describe. -/
theorem describes_sequence_append {front back : List (Regex α)}
    (describes : Describes (sequence (front ++ back)) text) :
    ∃ before part, text = before ++ part ∧ Describes (sequence back) part := by
  induction front generalizing text with
  | nil => exact ⟨[], text, rfl, describes⟩
  | cons first others inductionHypothesis =>
    obtain ⟨one, rest, rfl, _, further⟩ := describes
    obtain ⟨before, part, rfl, last⟩ := inductionHypothesis further
    exact ⟨one ++ before, part, (List.append_assoc one before part).symm, last⟩

/-- One or more symbols of a class. -/
theorem describes_some1 (describes : Describes (some1 accepted) text) :
    text ≠ [] ∧ ∀ c ∈ text, accepted c = true := by
  obtain ⟨_, more, rfl, ⟨c, rfl, inClass⟩, all⟩ := describes
  exact ⟨List.cons_ne_nil c more, List.forall_mem_cons.mpr ⟨inClass, all⟩⟩

/-- A literal describes itself. -/
theorem describes_literal [DecidableEq α] {word : List α}
    (describes : Describes (literal word) text) : text = word := by
  induction word generalizing text with
  | nil => exact describes
  | cons c rest inductionHypothesis =>
    obtain ⟨one, more, rfl, ⟨other, rfl, same⟩, further⟩ := describes
    rw [inductionHypothesis further, of_decide_eq_true same]
    rfl

end AvocadoMisc.Library.Regexes
