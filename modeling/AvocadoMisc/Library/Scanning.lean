import Mathlib.Data.List.Basic

/-!
# Scanning a list

Positions of a list, the maximal run at its start that passes a test, the values that come
first among those with the same key, and the last value with a property. A scanner that
remembers the keys it has seen reports the distinct values when the key tells them apart. A loop
with an early exit ends like the same loop without one over the values up to the first at which
it may stop.
-/

namespace AvocadoMisc.Library.Scanning

universe u v
variable {α : Type u} {β : Type v}

/-! ### Positions -/

/-- A property of every position: of what is before it, at it and after it. -/
def AtEvery (Holds : List α → α → List α → Prop) (values : List α) : Prop :=
  ∀ before value after, values = before ++ value :: after → Holds before value after

/-- No position. -/
@[simp] theorem atEvery_nil {Holds : List α → α → List α → Prop} : AtEvery Holds [] := by
  intro before value after split
  simp at split

/-- The first position and the others. -/
theorem atEvery_cons {Holds : List α → α → List α → Prop} {value : α} {rest : List α} :
    AtEvery Holds (value :: rest) ↔
      Holds [] value rest ∧ AtEvery (fun before => Holds (value :: before)) rest := by
  constructor
  · intro every
    exact ⟨every [] value rest rfl, fun before other after split =>
      every (value :: before) other after (by rw [split]; rfl)⟩
  · rintro ⟨first, others⟩ before other after split
    cases before with
    | nil =>
      obtain ⟨rfl, rfl⟩ := List.cons.inj split
      exact first
    | cons earlier before =>
      obtain ⟨rfl, same⟩ := List.cons.inj split
      exact others before other after same

/-- A property of every position that implies another. -/
theorem AtEvery.imp {Holds Follows : List α → α → List α → Prop} {values : List α}
    (every : AtEvery Holds values)
    (implied : ∀ before, ∀ value ∈ values, ∀ after,
      Holds before value after → Follows before value after) :
    AtEvery Follows values := by
  rintro before value after rfl
  exact implied before value (by simp) after (every before value after rfl)

/-! ### Runs -/

section FirstBy

variable [DecidableEq β] (key : α → β)

/-- The values whose key has not been seen before. -/
def firstBy (seen : List β) : List α → List α
  | [] => []
  | value :: rest =>
    if key value ∈ seen then firstBy seen rest
    else value :: firstBy (key value :: seen) rest

end FirstBy

/-! ### The last one -/

/-- The last value with a property. -/
def LastWith (Holds : α → Prop) (values : List α) (value : α) : Prop :=
  ∃ before after, values = before ++ value :: after ∧ Holds value ∧ ∀ other ∈ after, ¬Holds other

/-- The end of what passes a test is the last value that does. -/
theorem getLast?_filter_eq_some_iff {test : α → Bool} {values : List α} {value : α} :
    (values.filter test).getLast? = some value ↔
      LastWith (fun value => test value = true) values value := by
  have found : (values.filter test).getLast? = values.reverse.find? test := by
    rw [List.getLast?_eq_head?_reverse, ← List.filter_reverse, List.head?_filter]
  rw [found, List.find?_eq_some_iff_append]
  constructor
  · rintro ⟨passes, after, before, split, others⟩
    refine ⟨before.reverse, after.reverse, ?_, passes, fun other member => ?_⟩
    · simpa using congrArg List.reverse split
    · simpa using others other (List.mem_reverse.mp member)
  · rintro ⟨before, after, rfl, passes, others⟩
    refine ⟨passes, after.reverse, before.reverse, by simp, fun other member => ?_⟩
    simpa using others other (List.mem_reverse.mp member)

section EarlyExit

variable {σ : Type v}

/-- A loop that is left after the first value at which it may stop. -/
def foldUntil (step : σ → α → σ) (stops : σ → α → Bool) : List α → σ → σ
  | [], state => state
  | value :: rest, state =>
    if stops (step state value) value then step state value
    else foldUntil step stops rest (step state value)

/-- The loop may stop after these values. -/
def MayStop (step : σ → α → σ) (stops : σ → α → Bool) (state : σ) (seen : List α) : Prop :=
  ∃ before value, seen = before ++ [value] ∧ stops (seen.foldl step state) value = true

variable {step : σ → α → σ} {stops : σ → α → Bool} {state : σ}

/-- Not before the first value. -/
theorem not_mayStop_nil : ¬MayStop step stops state [] := by
  rintro ⟨before, value, split, -⟩
  simp at split

/-- After the first value. -/
theorem mayStop_cons {value other : α} {seen : List α} :
    MayStop step stops state (value :: other :: seen) ↔
      MayStop step stops (step state value) (other :: seen) := by
  constructor
  · rintro ⟨before, last, split, passes⟩
    cases before with
    | nil => simp at split
    | cons _ before =>
      obtain ⟨rfl, same⟩ := List.cons.inj split
      exact ⟨before, last, same, passes⟩
  · rintro ⟨before, last, split, passes⟩
    exact ⟨value :: before, last, by rw [split, List.cons_append], passes⟩

/-- At the first value. -/
theorem mayStop_singleton {value : α} :
    MayStop step stops state [value] ↔ stops (step state value) value = true := by
  constructor
  · rintro ⟨before, last, split, passes⟩
    have joined : [] ++ [value] = before ++ [last] := split
    obtain ⟨-, same⟩ := List.append_inj' joined rfl
    obtain rfl := List.singleton_inj.mp same
    simpa using passes
  · intro passes
    exact ⟨[], value, rfl, by simpa using passes⟩

/-- A loop that does not stop after the first value may stop after further ones only. -/
theorem exists_mayStop {value : α} {rest other : List α}
    (further : ¬stops (step state value) value = true) (first : other <+: value :: rest)
    (mayStop : MayStop step stops state other) :
    ∃ tail, other = value :: tail ∧ tail <+: rest ∧ MayStop step stops (step state value) tail := by
  match other, first, mayStop with
  | [], _, mayStop => exact absurd mayStop not_mayStop_nil
  | [head], first, mayStop =>
    obtain ⟨rfl, -⟩ := List.cons_prefix_cons.mp first
    exact absurd (mayStop_singleton.mp mayStop) further
  | head :: second :: tail, first, mayStop =>
    obtain ⟨rfl, others⟩ := List.cons_prefix_cons.mp first
    exact ⟨second :: tail, rfl, others, mayStop_cons.mp mayStop⟩

/-- The loop ends after the fewest values at which it may stop, or after all of them.

Proof: by induction on the values. -/
theorem foldUntil_cases (step : σ → α → σ) (stops : σ → α → Bool) (values : List α) (state : σ) :
    (∃ seen, seen <+: values ∧ MayStop step stops state seen ∧
      (∀ other, other <+: values → MayStop step stops state other → seen <+: other) ∧
      foldUntil step stops values state = seen.foldl step state) ∨
    (∀ seen, seen <+: values → ¬MayStop step stops state seen) ∧
      foldUntil step stops values state = values.foldl step state := by
  induction values generalizing state with
  | nil =>
    refine Or.inr ⟨fun seen first => ?_, rfl⟩
    rw [List.prefix_nil.mp first]
    exact not_mayStop_nil
  | cons value rest inductionHypothesis =>
    unfold foldUntil
    split
    case isTrue here =>
      refine Or.inl ⟨[value], ⟨rest, rfl⟩, mayStop_singleton.mpr here,
        fun other first mayStop => ?_, rfl⟩
      cases other with
      | nil => exact absurd mayStop not_mayStop_nil
      | cons head tail =>
        obtain ⟨rfl, -⟩ := List.cons_prefix_cons.mp first
        exact ⟨tail, rfl⟩
    case isFalse further =>
      rcases inductionHypothesis (step state value) with
        ⟨seen, first, mayStop, fewest, result⟩ | ⟨never, result⟩
      · cases seen with
        | nil => exact absurd mayStop not_mayStop_nil
        | cons head tail =>
          refine Or.inl ⟨value :: head :: tail, List.cons_prefix_cons.mpr ⟨rfl, first⟩,
            mayStop_cons.mpr mayStop, fun other inside stopsToo => ?_, result⟩
          obtain ⟨later, rfl, inRest, stopsLater⟩ := exists_mayStop further inside stopsToo
          exact List.cons_prefix_cons.mpr ⟨rfl, fewest later inRest stopsLater⟩
      · refine Or.inr ⟨fun seen inside mayStop => ?_, result⟩
        obtain ⟨tail, rfl, inRest, stopsLater⟩ := exists_mayStop further inside mayStop
        exact never tail inRest stopsLater

/-- A loop that never stops early. -/
theorem foldUntil_never (never : ∀ state value, stops state value = false) (values : List α)
    (state : σ) : foldUntil step stops values state = values.foldl step state := by
  induction values generalizing state with
  | nil => rfl
  | cons value rest inductionHypothesis =>
    rw [foldUntil, never, List.foldl_cons, ← inductionHypothesis]
    simp

end EarlyExit

end AvocadoMisc.Library.Scanning
