import AvocadoMisc.Library.Scripts

/-!
# Contracts of scripts

A contract says of a script that it is not stopped: from every state with one property it comes to
its end, with a result and a state that have another one. Contracts are composed like scripts, with
an invariant for a loop.
-/

namespace AvocadoMisc.Library.Scripts

variable {ε σ α β : Type}

/-- From a state with the first property the script comes to its end, with the second one. -/
def Ensures (before : σ → Prop) (script : EStateM ε σ α) (after : α → σ → Prop) : Prop :=
  ∀ state, before state → ∃ value reached, script state = .ok value reached ∧ after value reached

variable {before stronger : σ → Prop} {script : EStateM ε σ α} {after weaker : α → σ → Prop}

/-- More may be assumed, and less may be promised. -/
theorem Ensures.weaken (ensured : Ensures before script after)
    (assumed : ∀ state, stronger state → before state)
    (promised : ∀ value state, after value state → weaker value state) :
    Ensures stronger script weaker := by
  intro state holds
  obtain ⟨value, reached, ran, result⟩ := ensured state (assumed state holds)
  exact ⟨value, reached, ran, promised value reached result⟩

/-- Less may be promised. -/
theorem Ensures.imp (ensured : Ensures before script after)
    (promised : ∀ value state, after value state → weaker value state) :
    Ensures before script weaker :=
  ensured.weaken (fun _ holds => holds) promised

/-- What is assumed about no state may be used to find the contract. -/
theorem Ensures.assuming {fact : Prop} (ensured : fact → Ensures before script after) :
    Ensures (fun state => fact ∧ before state) script after :=
  fun state assumed => ensured assumed.1 state assumed.2

/-- A contract for each value of something that the state has. -/
theorem Ensures.exists {ι : Type} {each : ι → σ → Prop}
    (ensured : ∀ i, Ensures (each i) script after) :
    Ensures (fun state => ∃ i, each i state) script after := by
  rintro state ⟨i, holds⟩
  exact ensured i state holds

/-- Returning a value. -/
theorem Ensures.pure {value : α} (holds : ∀ state, before state → after value state) :
    Ensures before (Pure.pure value : EStateM ε σ α) after :=
  fun state assumed => ⟨value, state, rfl, holds state assumed⟩

/-- Reading the state. -/
theorem Ensures.get {after : σ → σ → Prop} (holds : ∀ state, before state → after state state) :
    Ensures before (MonadState.get : EStateM ε σ σ) after :=
  fun state assumed => ⟨state, state, rfl, holds state assumed⟩

/-- Changing the state. -/
theorem Ensures.modify {change : σ → σ} {after : PUnit → σ → Prop}
    (holds : ∀ state, before state → after ⟨⟩ (change state)) :
    Ensures before (modify change : EStateM ε σ PUnit) after :=
  fun state assumed => ⟨⟨⟩, change state, rfl, holds state assumed⟩

/-- One script after another. -/
theorem Ensures.bind {next : α → EStateM ε σ β} {finally_ : β → σ → Prop}
    (first : Ensures before script after)
    (second : ∀ value, Ensures (after value) (next value) finally_) :
    Ensures before (script >>= next) finally_ := by
  intro state assumed
  obtain ⟨value, middle, ran, holds⟩ := first state assumed
  obtain ⟨result, reached, continued, promised⟩ := second value middle holds
  exact ⟨result, reached, by rw [bind_apply, ran]; exact continued, promised⟩

/-- A choice. -/
theorem Ensures.ite {condition : Prop} [Decidable condition] {yes no : EStateM ε σ α}
    (first : condition → Ensures before yes after) (second : ¬condition → Ensures before no after) :
    Ensures before (if condition then yes else no) after := by
  split
  · exact first ‹_›
  · exact second ‹_›

/-- What is demanded holds. -/
theorem Ensures.demand {condition : Prop} [Decidable condition] {ending : ε}
    (holds : condition) : Ensures before (demand condition ending) fun _ => before := by
  rw [Scripts.demand, if_pos holds]
  exact Ensures.pure fun _ assumed => assumed

/-- A loop whose body keeps an invariant. -/
theorem Ensures.forEach {body : α → EStateM ε σ PUnit} {values : List α}
    (round : ∀ value ∈ values, Ensures before (body value) fun _ => before) :
    Ensures before (forEach body values) fun _ => before := by
  induction values with
  | nil => exact Ensures.pure fun _ assumed => assumed
  | cons value rest inductionHypothesis =>
    exact (round value List.mem_cons_self).bind fun _ =>
      inductionHypothesis fun other member => round other (List.mem_cons_of_mem value member)

/-- What a script with a contract leaves. -/
theorem Ensures.leaves (ensured : Ensures before script after) {state : σ} (holds : before state) :
    ∃ value, after value (leaves script state) := by
  obtain ⟨value, reached, ran, result⟩ := ensured state holds
  exact ⟨value, by rw [Scripts.leaves, ran]; exact result⟩

/-- A script with a contract is not stopped. -/
theorem Ensures.stopped (ensured : Ensures before script after) {state : σ} (holds : before state) :
    stopped script state = none := by
  obtain ⟨value, reached, ran, -⟩ := ensured state holds
  rw [Scripts.stopped, ran]

end AvocadoMisc.Library.Scripts
