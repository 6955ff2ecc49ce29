import Mathlib.Data.Nat.Init

/-!
# Loops with a test in front

A loop tests its state and runs its body until the test fails. It is given as many turns as a
number says, and has no result when these do not suffice. An invariant with a measure that falls
in each turn gives a result for any number of turns that is at least the measure.
-/

namespace AvocadoMisc.Library.WhileLoops

variable {σ : Type*}

/-- The state after the loop, when it ends within the turns. -/
def whileLoop (test : σ → Bool) (body : σ → σ) : Nat → σ → Option σ
  | 0, state => if test state then none else some state
  | turns + 1, state => if test state then whileLoop test body turns (body state) else some state

/-- A loop ends with the state in which it is tested for the last time. -/
def Ends (test : σ → Bool) (body : σ → σ) (state last : σ) : Prop :=
  ∃ enough, ∀ turns, enough ≤ turns → whileLoop test body turns state = some last

variable {test : σ → Bool} {body : σ → σ} {state last : σ}

/-- When the test fails there is no turn. -/
theorem Ends.stop (stops : test state = false) : Ends test body state state := by
  refine ⟨0, fun turns _ => ?_⟩
  cases turns <;> simp [whileLoop, stops]

/-- When the test succeeds there is a turn. -/
theorem Ends.turn (goesOn : test state = true) (rest : Ends test body (body state) last) :
    Ends test body state last := by
  obtain ⟨enough, ends⟩ := rest
  refine ⟨enough + 1, fun turns more => ?_⟩
  obtain ⟨fewer, rfl⟩ : ∃ fewer, turns = fewer + 1 := ⟨turns - 1, by omega⟩
  rw [whileLoop, if_pos goesOn]
  exact ends fewer (by omega)

/-- A loop has one result. -/
theorem Ends.unique {other : σ} (first : Ends test body state last)
    (second : Ends test body state other) : last = other := by
  obtain ⟨enough, ends⟩ := first
  obtain ⟨plenty, endsToo⟩ := second
  have one := ends (max enough plenty) (Nat.le_max_left _ _)
  rw [endsToo (max enough plenty) (Nat.le_max_right _ _)] at one
  exact (Option.some.inj one).symm

/-- The rule of invariant and measure: the loop ends, with the invariant and without the test.

Proof: by induction on the measure. -/
theorem exists_ends {Invariant : σ → Prop} (measure : σ → Nat)
    (kept : ∀ state, Invariant state → test state = true →
      Invariant (body state) ∧ measure (body state) < measure state)
    (initially : Invariant state) :
    ∃ last, Ends test body state last ∧ Invariant last ∧ test last = false := by
  induction size : measure state using Nat.strong_induction_on generalizing state with
  | h size inductionHypothesis =>
    cases goesOn : test state with
    | false => exact ⟨state, .stop goesOn, initially, goesOn⟩
    | true =>
      obtain ⟨invariant, smaller⟩ := kept state initially goesOn
      obtain ⟨last, ends, final, stops⟩ :=
        inductionHypothesis _ (size ▸ smaller) invariant rfl
      exact ⟨last, .turn goesOn ends, final, stops⟩

end AvocadoMisc.Library.WhileLoops
