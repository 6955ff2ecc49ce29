import Mathlib.Data.List.Basic

/-!
# Loops that collect failures

A loop runs one round for each number below a bound. A failure is noted in the state and the loop
goes on. When a round without a failure keeps an invariant, the whole loop ends with the invariant
if no round fails, and with a failure otherwise.
-/

namespace AvocadoMisc.Library.Rounds

variable {σ : Type*}

/-- The state after some rounds. -/
def rounds (body : σ → Nat → σ) (count : Nat) (state : σ) : σ := (List.range count).foldl body state

/-- The last round. -/
theorem rounds_succ (body : σ → Nat → σ) (count : Nat) (state : σ) :
    rounds body (count + 1) state = body (rounds body count state) count := by
  rw [rounds, List.range_succ, List.foldl_append, List.foldl_cons, List.foldl_nil, rounds]

/-- A loop over what is made of the numbers below a bound. -/
theorem foldl_map_range {α : Type*} (body : σ → α → σ) (value : Nat → α) (count : Nat)
    (state : σ) :
    ((List.range count).map value).foldl body state =
      rounds (fun state k => body state (value k)) count state := by
  rw [rounds, List.foldl_map]

variable {body : σ → Nat → σ} {Invariant : Nat → σ → Prop} {Failed : σ → Prop} {Fine : Nat → Prop}
variable {count : Nat} {state : σ}

/-- When every round is fine, the invariant holds at the end.

Proof: by induction on the number of rounds. -/
theorem rounds_invariant (initially : Invariant 0 state)
    (kept : ∀ k < count, ∀ after, Invariant k after → Fine k → Invariant (k + 1) (body after k))
    (fine : ∀ k < count, Fine k) : Invariant count (rounds body count state) := by
  induction count with
  | zero => exact initially
  | succ count inductionHypothesis =>
    rw [rounds_succ]
    have before := inductionHypothesis (fun k below => kept k (Nat.lt_succ_of_lt below))
      fun k below => fine k (Nat.lt_succ_of_lt below)
    exact kept count (Nat.lt_succ_self count) _ before (fine count (Nat.lt_succ_self count))

/-- When some round is not fine, there is a failure at the end.

Proof: by induction on the number of rounds. A failure before the last round stays, and without one
the invariant holds in front of the last round. -/
theorem rounds_failed (initially : Invariant 0 state)
    (kept : ∀ k < count, ∀ after, Invariant k after → Fine k → Invariant (k + 1) (body after k))
    (fails : ∀ k < count, ∀ after, Invariant k after → ¬Fine k → Failed (body after k))
    (stays : ∀ k after, Failed after → Failed (body after k))
    (notFine : ∃ k < count, ¬Fine k) : Failed (rounds body count state) := by
  induction count with
  | zero =>
    obtain ⟨k, below, _⟩ := notFine
    omega
  | succ count inductionHypothesis =>
    rw [rounds_succ]
    by_cases before : ∃ k < count, ¬Fine k
    · exact stays count _ (inductionHypothesis (fun k below => kept k (Nat.lt_succ_of_lt below))
        (fun k below => fails k (Nat.lt_succ_of_lt below)) before)
    · have fine : ∀ k < count, Fine k := by
        intro k below
        by_contra not
        exact before ⟨k, below, not⟩
      have last : ¬Fine count := by
        obtain ⟨k, below, not⟩ := notFine
        obtain earlier | rfl := Nat.lt_succ_iff_lt_or_eq.mp below
        · exact absurd (fine k earlier) not
        · exact not
      have invariant := rounds_invariant initially
        (fun k below => kept k (Nat.lt_succ_of_lt below)) fine
      exact fails count (Nat.lt_succ_self count) _ invariant last

end AvocadoMisc.Library.Rounds
