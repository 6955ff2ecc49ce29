import Mathlib.Logic.Basic

/-!
# Refinement of a total model by a partial program

The program's step may have no result: it blocks, loops or faults. The model's
step always has one. Both answer every operation with an output. A relation
between their states that is kept by legal operations, and under which the
program completes with the model's output, gives the same for every sequence of
operations: the program completes and no output tells the two apart.
-/

namespace AvocadoMisc.Library.Refinement

universe u v w x
variable {σ : Type u} {τ : Type v} {α : Type w} {ω : Type x}

/-- The outputs of a program for a sequence of operations, and its last state. -/
def outputs (step : σ → α → Option (ω × σ)) : List α → σ → Option (List ω × σ)
  | [], state => some ([], state)
  | operation :: rest, state =>
    (step state operation).bind fun (output, middle) =>
      (outputs step rest middle).map fun (further, after) => (output :: further, after)

/-- The outputs of a model. -/
def modelOutputs (model : τ → α → ω × τ) : List α → τ → List ω
  | [], _ => []
  | operation :: rest, state =>
    (model state operation).1 :: modelOutputs model rest (model state operation).2

/-- Every operation of the sequence is legal in the model state it meets. -/
def LegalRun (model : τ → α → ω × τ) (legal : τ → α → Prop) : List α → τ → Prop
  | [], _ => True
  | operation :: rest, state =>
    legal state operation ∧ LegalRun model legal rest (model state operation).2

/-- Related states complete every legal operation with equal outputs, in related
states. -/
def Refines (step : σ → α → Option (ω × σ)) (model : τ → α → ω × τ) (legal : τ → α → Prop)
    (Related : σ → τ → Prop) : Prop :=
  ∀ state abstract operation, Related state abstract → legal abstract operation →
    ∃ after, step state operation = some ((model abstract operation).1, after) ∧
      Related after (model abstract operation).2

/-- One operation at a time carries over to sequences, by induction on them. -/
theorem Refines.outputs_eq {step : σ → α → Option (ω × σ)} {model : τ → α → ω × τ}
    {legal : τ → α → Prop} {Related : σ → τ → Prop} (refines : Refines step model legal Related)
    (operations : List α) (state : σ) (abstract : τ) (related : Related state abstract)
    (permitted : LegalRun model legal operations abstract) :
    ∃ after, outputs step operations state =
      some (modelOutputs model operations abstract, after) := by
  induction operations generalizing state abstract with
  | nil => exact ⟨state, rfl⟩
  | cons operation rest inductionHypothesis =>
    obtain ⟨middle, completed, kept⟩ :=
      refines state abstract operation related permitted.1
    obtain ⟨after, further⟩ := inductionHypothesis middle _ kept permitted.2
    exact ⟨after, by simp only [outputs, modelOutputs, completed, Option.bind_some, further,
      Option.map_some]⟩

end AvocadoMisc.Library.Refinement
