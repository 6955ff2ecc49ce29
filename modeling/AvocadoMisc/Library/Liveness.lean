import AvocadoMisc.Library.Transitions

/-!
# Runs without end and fairness

A run of a machine may go on for ever. It is fair when no party that can move from some
time on is passed over for good. Some parties only poll: the steps of an idler may repeat
while others still work, and nothing then decreases.

`Endless.not_fair` is the rule by which a system with an idler ends under fairness. Every
step that is not the idler's does some work that is left, and the idler's steps leave the
work and the busy parties as they are. So the others stop at last; then, by fairness,
nobody is busy, and now the idler's own rank falls.
-/

namespace AvocadoMisc.Library.Transitions

universe u v w
variable {σ : Type u} {α : Type v} {ι : Type w}

/-- A run without end. -/
structure Endless (step : σ → α → Option σ) (allowed : σ → α → Prop) where
  state : Nat → σ
  label : Nat → α
  meets : ∀ n, allowed (state n) (label n)
  taken : ∀ n, step (state n) (label n) = some (state (n + 1))

/-- A party can take an allowed step. -/
def Able (step : σ → α → Option σ) (allowed : σ → α → Prop) (party : α → ι) (state : σ)
    (who : ι) : Prop :=
  ∃ label, party label = who ∧ allowed state label ∧ (step state label).isSome = true

variable {step : σ → α → Option σ} {allowed : σ → α → Prop} {party : α → ι}

/-- Who can move from some time on does move again. -/
def Endless.Fair (run : Endless step allowed) (party : α → ι) : Prop :=
  ∀ who start, (∀ n, start ≤ n → Able step allowed party (run.state n) who) →
    ∃ n, start ≤ n ∧ party (run.label n) = who

/-- A run that starts in a reachable state stays among them. -/
theorem Endless.reachable (run : Endless step allowed) {initial : σ → Prop}
    (starts : Reachable step allowed initial (run.state 0)) (n : Nat) :
    Reachable step allowed initial (run.state n) := by
  induction n with
  | zero => exact starts
  | succ n inductionHypothesis =>
    exact .next (run.state n) (run.label n) _ inductionHypothesis (run.meets n) (run.taken n)

/-- What steps preserve holds all the time. -/
theorem Endless.always (run : Endless step allowed) {Holds : σ → Prop}
    (preserved : ∀ before label after, Holds before → step before label = some after → Holds after)
    (holds : Holds (run.state 0)) (n : Nat) : Holds (run.state n) := by
  induction n with
  | zero => exact holds
  | succ n inductionHypothesis =>
    exact preserved _ (run.label n) _ inductionHypothesis (run.taken n)

/-- A run can be continued. -/
theorem Reachable.append {initial : σ → Prop} {middle after : σ}
    (first : Reachable step allowed initial middle)
    (further : Reachable step allowed (fun state => state = middle) after) :
    Reachable step allowed initial after := by
  induction further with
  | start state begins => exact begins ▸ first
  | next before label after _ meets taken inductionHypothesis =>
    exact .next before label after inductionHypothesis meets taken

/-- A rank cannot fall for ever. -/
theorem Endless.not_falls (run : Endless step allowed) (rank : σ → Nat) (start : Nat) :
    ¬ ∀ n, start ≤ n → rank (run.state (n + 1)) < rank (run.state n) := by
  intro falls
  have below (k : Nat) : rank (run.state (start + k)) + k ≤ rank (run.state start) := by
    induction k with
    | zero => exact Nat.le_refl _
    | succ k inductionHypothesis =>
      have next := falls (start + k) (Nat.le_add_right start k)
      rw [← Nat.add_assoc start k 1]
      omega
  have deep := below (rank (run.state start) + 1)
  omega

/-- A rank has a least value in a run. -/
theorem Endless.exists_least (run : Endless step allowed) (rank : σ → Nat) :
    ∃ start, ∀ n, rank (run.state start) ≤ rank (run.state n) := by
  have below (bound : Nat) : ∀ n, rank (run.state n) ≤ bound →
      ∃ start, ∀ other, rank (run.state start) ≤ rank (run.state other) := by
    induction bound with
    | zero => exact fun n least => ⟨n, fun other => Nat.le_trans least (Nat.zero_le _)⟩
    | succ bound inductionHypothesis =>
      intro n within
      by_cases lower : ∃ other, rank (run.state other) ≤ bound
      · obtain ⟨other, lower⟩ := lower
        exact inductionHypothesis other lower
      · exact ⟨n, fun other => Nat.le_trans within
          (Nat.lt_of_not_le fun least => lower ⟨other, least⟩)⟩
  exact below _ 0 (Nat.le_refl _)

/-- So one that never rises is constant at last. -/
theorem Endless.settles (run : Endless step allowed) (rank : σ → Nat)
    (never : ∀ n, rank (run.state (n + 1)) ≤ rank (run.state n)) :
    ∃ start, ∀ n, start ≤ n → rank (run.state (n + 1)) = rank (run.state n) := by
  obtain ⟨start, least⟩ := run.exists_least rank
  have below (k : Nat) : rank (run.state (start + k)) ≤ rank (run.state start) := by
    induction k with
    | zero => exact Nat.le_refl _
    | succ k inductionHypothesis => exact Nat.le_trans (never (start + k)) inductionHypothesis
  refine ⟨start, fun n after => Nat.le_antisymm (never n) ?_⟩
  have reached := below (n - start)
  rw [Nat.add_sub_cancel' after] at reached
  exact Nat.le_trans reached (least (n + 1))

/-- The rule for systems with an idler, a party that can take steps forever. Steps bring the work
down or are the idler's; when nobody else is busy, the idler's steps bring `rest` down. So no
endless run is fair. -/
theorem Endless.not_fair (run : Endless step allowed) (idler : ι) (busy : σ → ι → Prop)
    (work rest : σ → Nat)
    (able : ∀ n who, busy (run.state n) who →
      who ≠ idler ∧ Able step allowed party (run.state n) who)
    (steps : ∀ n, work (run.state (n + 1)) < work (run.state n) ∨
      work (run.state (n + 1)) = work (run.state n) ∧ party (run.label n) = idler ∧
        (∀ who, busy (run.state (n + 1)) who ↔ busy (run.state n) who) ∧
        ((∀ who, ¬ busy (run.state n) who) → rest (run.state (n + 1)) < rest (run.state n))) :
    ¬ run.Fair party := by
  intro fair
  obtain ⟨start, constant⟩ := run.settles work fun n => by
    rcases steps n with lower | ⟨same, _⟩
    · exact Nat.le_of_lt lower
    · exact Nat.le_of_eq same
  have idles (n : Nat) (after : start ≤ n) := (steps n).resolve_left fun lower =>
    absurd (constant n after) (Nat.ne_of_lt lower)
  have stays (who : ι) (k : Nat) :
      busy (run.state (start + k)) who ↔ busy (run.state start) who := by
    induction k with
    | zero => exact Iff.rfl
    | succ k inductionHypothesis =>
      exact ((idles (start + k) (Nat.le_add_right start k)).2.2.1 who).trans inductionHypothesis
  have since (who : ι) (n : Nat) (after : start ≤ n) :
      busy (run.state n) who ↔ busy (run.state start) who := by
    have same := stays who (n - start)
    rwa [Nat.add_sub_cancel' after] at same
  by_cases someone : ∃ who, busy (run.state start) who
  · obtain ⟨who, works⟩ := someone
    obtain ⟨n, after, moves⟩ := fair who start fun n after =>
      (able n who ((since who n after).mpr works)).2
    exact (able start who works).1 (moves.symm.trans (idles n after).2.1)
  · exact run.not_falls rest start fun n after =>
      (idles n after).2.2.2 fun who works => someone ⟨who, (since who n after).mp works⟩

end AvocadoMisc.Library.Transitions
