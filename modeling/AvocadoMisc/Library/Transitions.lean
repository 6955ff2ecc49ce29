/-!
# Machines, runs and invariants

A machine is a partial step function on states and labels. The label carries
every choice that is not the program's own: which party moves next, and what a
call outside the program answers. A step that is not enabled has no successor.

`Reachable step allowed initial` collects the states of the runs whose every
step is allowed in the state before it. An assumption about the environment,
or the condition under which a defect stays away, is such an `allowed`; leaving
it out gives every run. The induction over a run is stated once, as
`Reachable.invariant`; the executable `replay` connects one concrete run to it.
-/

namespace AvocadoMisc.Library.Transitions

universe u v
variable {σ : Type u} {α : Type v}

/-- States reached from an initial one by steps that are allowed where they are
taken. -/
inductive Reachable (step : σ → α → Option σ) (allowed : σ → α → Prop) (initial : σ → Prop) :
    σ → Prop where
  | start (state : σ) (begins : initial state) : Reachable step allowed initial state
  | next (before : σ) (label : α) (after : σ) (reached : Reachable step allowed initial before)
      (meets : allowed before label) (taken : step before label = some after) :
      Reachable step allowed initial after

/-- No assumption about the steps of a run. -/
def Unrestricted : σ → α → Prop := fun _ _ => True

/-- A property of the initial states that allowed steps preserve holds in every
state of every such run. The step may use that its first state is reachable. -/
theorem Reachable.invariant {step : σ → α → Option σ} {allowed : σ → α → Prop}
    {initial : σ → Prop} (Holds : σ → Prop) (base : ∀ state, initial state → Holds state)
    (preserved : ∀ before label after, Reachable step allowed initial before → Holds before →
      allowed before label → step before label = some after → Holds after)
    {state : σ} (reached : Reachable step allowed initial state) : Holds state := by
  induction reached with
  | start state begins => exact base state begins
  | next before label after earlier meets taken inductionHypothesis =>
    exact preserved before label after earlier inductionHypothesis meets taken

/-- Runs under a stronger assumption are among the runs under a weaker one. -/
theorem Reachable.weaken {step : σ → α → Option σ} {allowed permitted : σ → α → Prop}
    {initial : σ → Prop} (weaker : ∀ state label, allowed state label → permitted state label)
    {state : σ} (reached : Reachable step allowed initial state) :
    Reachable step permitted initial state := by
  induction reached with
  | start state begins => exact .start state begins
  | next before label after _ meets taken inductionHypothesis =>
    exact .next before label after inductionHypothesis (weaker before label meets) taken

/-- Execute labels in order. Each step must be allowed and enabled. -/
def replay (step : σ → α → Option σ) (allowed : σ → α → Prop)
    [∀ state label, Decidable (allowed state label)] : List α → σ → Option σ
  | [], state => some state
  | label :: rest, state =>
    if allowed state label then (step state label).bind (replay step allowed rest) else none

/-- A completed replay from a reachable state ends in a reachable state. -/
theorem replay_reachable (step : σ → α → Option σ) (allowed : σ → α → Prop)
    [∀ state label, Decidable (allowed state label)] (initial : σ → Prop)
    (labels : List α) (before after : σ) (reached : Reachable step allowed initial before)
    (completed : replay step allowed labels before = some after) :
    Reachable step allowed initial after := by
  induction labels generalizing before with
  | nil => exact Option.some.inj completed ▸ reached
  | cons label rest inductionHypothesis =>
    by_cases meets : allowed before label
    · simp only [replay, meets, ↓reduceIte, Option.bind_eq_some_iff] at completed
      obtain ⟨middle, taken, remaining⟩ := completed
      exact inductionHypothesis middle (.next before label middle reached meets taken) remaining
    · simp [replay, meets] at completed

/-- A replay whose last state passes a test exhibits a reachable state that
passes it. This is how a single schedule refutes an invariant. -/
theorem replay_exhibits (step : σ → α → Option σ) (allowed : σ → α → Prop)
    [∀ state label, Decidable (allowed state label)] (initial : σ → Prop)
    (labels : List α) (before : σ) (test : σ → Bool) (begins : initial before)
    (passed : (replay step allowed labels before).any test = true) :
    ∃ after, Reachable step allowed initial after ∧ test after = true := by
  cases completed : replay step allowed labels before with
  | none => simp [completed] at passed
  | some after =>
    have holds : test after = true := by simpa [completed] using passed
    exact ⟨after, replay_reachable step allowed initial labels before after
      (.start before begins) completed, holds⟩

/-- One step of a run with the states before and after it. -/
structure Event (σ : Type u) (α : Type v) where
  before : σ
  label : α
  after : σ

/-- The steps of one run, in order. -/
inductive Trace (step : σ → α → Option σ) (allowed : σ → α → Prop) :
    σ → List (Event σ α) → Prop where
  | nil (state : σ) : Trace step allowed state []
  | cons (before : σ) (label : α) (after : σ) (rest : List (Event σ α))
      (meets : allowed before label) (taken : step before label = some after)
      (further : Trace step allowed after rest) :
      Trace step allowed before (⟨before, label, after⟩ :: rest)

/-- When the steps that are not bad keep the good states and do what they should, and a bad one
does not, every step of a run does what it should exactly when none is bad. The property is one
of the step, not of its last state alone.

The induction carries goodness. A bad step ends it, and there the property
already fails. -/
theorem Trace.every_iff {step : σ → α → Option σ} {allowed : σ → α → Prop}
    {Good : σ → Prop} {Holds : Event σ α → Prop} {Bad : σ → α → Prop}
    (kept : ∀ before label after, Good before → allowed before label →
      step before label = some after → ¬ Bad before label →
      Good after ∧ Holds ⟨before, label, after⟩)
    (broken : ∀ before label after, Good before → allowed before label →
      step before label = some after → Bad before label → ¬ Holds ⟨before, label, after⟩)
    {state : σ} {events : List (Event σ α)} (trace : Trace step allowed state events)
    (good : Good state) :
    (∀ event ∈ events, Holds event) ↔ ∀ event ∈ events, ¬ Bad event.before event.label := by
  induction trace with
  | nil state => simp
  | cons before label after rest meets taken further inductionHypothesis =>
    simp only [List.forall_mem_cons]
    by_cases bad : Bad before label
    · have fails := broken before label after good meets taken bad
      simp [fails, bad]
    · obtain ⟨remains, holds⟩ := kept before label after good meets taken bad
      simp [holds, bad, inductionHypothesis remains]

/-- When only bad steps leave the good states, and each of them breaks a property
that good states have, the property holds after every step of a run exactly when
no step of it is bad. -/
theorem Trace.holds_iff {step : σ → α → Option σ} {allowed : σ → α → Prop}
    {Good Holds : σ → Prop} {Bad : σ → α → Prop} (sound : ∀ state, Good state → Holds state)
    (kept : ∀ before label after, Good before → allowed before label →
      step before label = some after → ¬ Bad before label → Good after)
    (broken : ∀ before label after, Good before → allowed before label →
      step before label = some after → Bad before label → ¬ Holds after)
    {state : σ} {events : List (Event σ α)} (trace : Trace step allowed state events)
    (good : Good state) :
    (∀ event ∈ events, Holds event.after) ↔ ∀ event ∈ events, ¬ Bad event.before event.label :=
  trace.every_iff (fun before label after good meets taken fine =>
    have remains := kept before label after good meets taken fine
    ⟨remains, sound after remains⟩) broken good

/-- The state at the end of a run. -/
def lastState : σ → List (Event σ α) → σ
  | state, [] => state
  | _, event :: rest => lastState event.after rest

/-- What steps preserve holds before every step of a run. -/
theorem Trace.before_of {step : σ → α → Option σ} {allowed : σ → α → Prop} {Holds : σ → Prop}
    (preserved : ∀ before label after, Holds before → step before label = some after → Holds after)
    {state : σ} {events : List (Event σ α)} (trace : Trace step allowed state events)
    (holds : Holds state) : ∀ event ∈ events, Holds event.before := by
  induction trace with
  | nil state => simp
  | cons before label after rest meets taken further inductionHypothesis =>
    rw [List.forall_mem_cons]
    exact ⟨holds, inductionHypothesis (preserved before label after holds taken)⟩

/-- What is brought about by some steps, and never goes away, holds at the end of a run exactly when
it held at first or there was such a step. -/
theorem Trace.last_iff {step : σ → α → Option σ} {allowed : σ → α → Prop} {Holds : σ → Prop}
    {Brings : σ → α → Prop}
    (brought : ∀ before label after, step before label = some after →
      (Holds after ↔ Holds before ∨ Brings before label))
    {state : σ} {events : List (Event σ α)} (trace : Trace step allowed state events) :
    Holds (lastState state events) ↔
      Holds state ∨ ∃ event ∈ events, Brings event.before event.label := by
  induction trace with
  | nil state => simp [lastState]
  | cons before label after rest meets taken further inductionHypothesis =>
    rw [lastState, inductionHypothesis, brought before label after taken, or_assoc]
    simp

/-- Execute labels in order and record the steps. -/
def record (step : σ → α → Option σ) (allowed : σ → α → Prop)
    [∀ state label, Decidable (allowed state label)] : List α → σ → Option (List (Event σ α))
  | [], _ => some []
  | label :: rest, state =>
    if allowed state label then
      (step state label).bind fun after =>
        (record step allowed rest after).map fun events => ⟨state, label, after⟩ :: events
    else none

/-- A completed recording is a trace. -/
theorem record_trace (step : σ → α → Option σ) (allowed : σ → α → Prop)
    [∀ state label, Decidable (allowed state label)] (labels : List α) (state : σ)
    (events : List (Event σ α)) (completed : record step allowed labels state = some events) :
    Trace step allowed state events := by
  induction labels generalizing state events with
  | nil => exact Option.some.inj completed ▸ .nil state
  | cons label rest inductionHypothesis =>
    by_cases meets : allowed state label
    · simp only [record, meets, ↓reduceIte, Option.bind_eq_some_iff,
        Option.map_eq_some_iff] at completed
      obtain ⟨after, taken, further, recorded, rfl⟩ := completed
      exact .cons state label after further meets taken
        (inductionHypothesis after further recorded)
    · simp [record, meets] at completed

end AvocadoMisc.Library.Transitions
