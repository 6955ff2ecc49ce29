/-!
# Scripts that may stop

A script works on a state step by step, and any step may stop it with an ending. What was done
before that stays done. Scripts are the computations of `EStateM`, and `leaves` is the state that
a script leaves behind, however it ends.

A case is a script to set it up, the script of the case itself, which runs when the first one came
to its end, and a script to take it down, which runs in any case.
-/

namespace AvocadoMisc.Library.Scripts

variable {ε σ α β : Type}

/-- The state after a script, whether it stopped or not. -/
def leaves (script : EStateM ε σ α) (state : σ) : σ :=
  match script state with
  | .ok _ after => after
  | .error _ after => after

/-- How a script was stopped, if it was. -/
def stopped (script : EStateM ε σ α) (state : σ) : Option ε :=
  match script state with
  | .ok _ _ => none
  | .error ending _ => some ending

/-! ### One step after another -/

/-- The second step runs in the state the first one leaves, if the first one did not stop. -/
theorem bind_apply (script : EStateM ε σ α) (next : α → EStateM ε σ β) (state : σ) :
    (script >>= next) state =
      match script state with
      | .ok value after => next value after
      | .error ending after => .error ending after :=
  rfl

/-- Returning a value changes nothing. -/
theorem pure_apply (value : α) (state : σ) :
    (pure value : EStateM ε σ α) state = .ok value state :=
  rfl

/-- Stopping changes nothing else. -/
theorem throw_apply (ending : ε) (state : σ) :
    (throw ending : EStateM ε σ α) state = .error ending state :=
  rfl

/-- Reading the state. -/
theorem get_apply (state : σ) : (get : EStateM ε σ σ) state = .ok state state :=
  rfl

/-- Stop unless something holds. -/
def demand (condition : Prop) [Decidable condition] (ending : ε) : EStateM ε σ PUnit :=
  if condition then pure ⟨⟩ else throw ending

/-- What holds does not stop a script, and what does not hold stops it. -/
theorem demand_bind_apply (condition : Prop) [Decidable condition] (ending : ε)
    (next : PUnit → EStateM ε σ β) (state : σ) :
    (demand condition ending >>= next) state =
      if condition then next ⟨⟩ state else .error ending state := by
  unfold demand
  split <;> rfl

/-- Changing the state. -/
theorem modify_apply (change : σ → σ) (state : σ) :
    (modify change : EStateM ε σ PUnit) state = .ok ⟨⟩ (change state) :=
  rfl

/-- A step that reads the state. -/
theorem get_bind_apply (next : σ → EStateM ε σ β) (state : σ) :
    (get >>= next : EStateM ε σ β) state = next state state :=
  rfl

/-- A step that changes the state. -/
theorem modify_bind_apply (change : σ → σ) (next : PUnit → EStateM ε σ β) (state : σ) :
    (modify change >>= next : EStateM ε σ β) state = next ⟨⟩ (change state) :=
  rfl

/-- What two steps leave. -/
theorem leaves_bind (script : EStateM ε σ α) (next : α → EStateM ε σ β) (state : σ) :
    leaves (script >>= next) state =
      match script state with
      | .ok value after => leaves (next value) after
      | .error _ after => after := by
  rw [leaves, bind_apply]
  cases script state <;> rfl

/-- What is left after a step that reads the state. -/
theorem leaves_get_bind (next : σ → EStateM ε σ β) (state : σ) :
    leaves (get >>= next : EStateM ε σ β) state = leaves (next state) state := by
  rw [leaves, get_bind_apply, leaves]

/-- What is left after a step that changes the state. -/
theorem leaves_modify_bind (change : σ → σ) (next : PUnit → EStateM ε σ β) (state : σ) :
    leaves (modify change >>= next : EStateM ε σ β) state = leaves (next ⟨⟩) (change state) := by
  rw [leaves, modify_bind_apply, leaves]

/-- What is left after a demand. -/
theorem leaves_demand_bind (condition : Prop) [Decidable condition] (ending : ε)
    (next : PUnit → EStateM ε σ β) (state : σ) :
    leaves (demand condition ending >>= next) state =
      if condition then leaves (next ⟨⟩) state else state := by
  rw [leaves, demand_bind_apply]
  by_cases holds : condition
  · rw [if_pos holds, if_pos holds]
    rfl
  · rw [if_neg holds, if_neg holds]

/-- A loop, which ends when its body is stopped. -/
def forEach (body : α → EStateM ε σ PUnit) : List α → EStateM ε σ PUnit
  | [] => pure ⟨⟩
  | value :: rest => do
    body value
    forEach body rest

/-- The first value of a loop. -/
theorem forEach_cons_apply (body : α → EStateM ε σ PUnit) (value : α) (rest : List α)
    (state : σ) :
    forEach body (value :: rest) state =
      match body value state with
      | .ok _ after => forEach body rest after
      | .error ending after => .error ending after := by
  rw [forEach, bind_apply]
  cases body value state <;> rfl

/-- A property that the body has for its state, and each round that comes to its end hands on to
the next one, shows in what the loop leaves.

Proof: by induction on the values. -/
theorem leaves_forEach {Before After : σ → Prop} {body : α → EStateM ε σ PUnit}
    (ends : ∀ state, Before state → After state)
    (left : ∀ value state, Before state → After (leaves (body value) state))
    (handedOn : ∀ value state after, Before state → body value state = .ok ⟨⟩ after → Before after)
    (values : List α) {state : σ} (before : Before state) :
    After (leaves (forEach body values) state) := by
  induction values generalizing state with
  | nil => exact ends state before
  | cons value rest inductionHypothesis =>
    have round := left value state before
    rw [leaves] at round
    rw [leaves, forEach_cons_apply]
    cases ran : body value state with
    | ok _ after => exact inductionHypothesis (handedOn value state after before ran)
    | error _ after =>
      rw [ran] at round
      exact round

/-! ### What a script keeps -/

/-- Whatever way the script ends, a state with the property is left with it. -/
def Keeps (Holds : σ → Prop) (script : EStateM ε σ α) : Prop :=
  ∀ state, Holds state → Holds (leaves script state)

variable {Holds : σ → Prop}

/-- Returning a value keeps everything. -/
theorem Keeps.pure (value : α) : Keeps Holds (Pure.pure value : EStateM ε σ α) :=
  fun _ holds => holds

/-- Stopping keeps everything. -/
theorem Keeps.throw (ending : ε) : Keeps Holds (throw ending : EStateM ε σ α) :=
  fun _ holds => holds

/-- A change keeps what it preserves. -/
theorem Keeps.modify {change : σ → σ} (preserved : ∀ state, Holds state → Holds (change state)) :
    Keeps Holds (modify change : EStateM ε σ PUnit) :=
  preserved

/-- Two steps keep what both of them keep. -/
theorem Keeps.bind {script : EStateM ε σ α} {next : α → EStateM ε σ β}
    (first : Keeps Holds script) (second : ∀ value, Keeps Holds (next value)) :
    Keeps Holds (script >>= next) := by
  intro state holds
  have kept := first state holds
  unfold leaves at kept ⊢
  rw [bind_apply]
  cases ran : script state with
  | ok value after =>
    rw [ran] at kept
    exact second value after kept
  | error ending after =>
    rw [ran] at kept
    exact kept

/-- What a first step leaves in any case, and a second one keeps, is left by both. -/
theorem Keeps.after {script : EStateM ε σ α} {next : α → EStateM ε σ β} {state : σ}
    (kept : ∀ value, Keeps Holds (next value)) (left : Holds (leaves script state)) :
    Holds (leaves (script >>= next) state) := by
  rw [leaves_bind]
  rw [leaves] at left
  cases ran : script state with
  | ok value after =>
    rw [ran] at left
    exact kept value after left
  | error ending after =>
    rw [ran] at left
    exact left

/-- A choice keeps what both branches keep. -/
theorem Keeps.ite {condition : Prop} [Decidable condition] {yes no : EStateM ε σ α}
    (first : Keeps Holds yes) (second : Keeps Holds no) :
    Keeps Holds (if condition then yes else no) := by
  split
  · exact first
  · exact second

/-- A demand keeps everything. -/
theorem Keeps.demand (condition : Prop) [Decidable condition] (ending : ε) :
    Keeps Holds (demand condition ending : EStateM ε σ PUnit) :=
  Keeps.ite (Keeps.pure _) (Keeps.throw _)

/-- A loop keeps what its body keeps. -/
theorem Keeps.forEach {body : α → EStateM ε σ PUnit} {values : List α}
    (kept : ∀ value ∈ values, Keeps Holds (body value)) : Keeps Holds (forEach body values) := by
  induction values with
  | nil => exact Keeps.pure _
  | cons value rest inductionHypothesis =>
    exact (kept value List.mem_cons_self).bind fun _ =>
      inductionHypothesis fun other member => kept other (List.mem_cons_of_mem value member)

/-! ### Cases -/

/-- A case with its three scripts. -/
structure Case (ε σ : Type) where
  setUp : EStateM ε σ PUnit
  test : EStateM ε σ PUnit
  tearDown : EStateM ε σ PUnit

/-- Everything before the case is taken down. -/
def Case.body (case : Case ε σ) : EStateM ε σ PUnit := do
  case.setUp
  case.test

/-- The state after the whole case. -/
def Case.leaves (case : Case ε σ) (state : σ) : σ :=
  Scripts.leaves case.tearDown (Scripts.leaves case.body state)

end AvocadoMisc.Library.Scripts
