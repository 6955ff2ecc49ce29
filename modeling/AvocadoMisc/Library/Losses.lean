import AvocadoMisc.Library.Handoff

/-!
# Nodes that get lost

A queue can refuse a node, and a server can fail to put one back. The node is then out
of reach, and its worker waits in vain until the system is stopping. The invariant of
the hand-off still holds when such a node stays in a hand of its own, which no server
uses: it posts nothing there.
-/

namespace AvocadoMisc.Library.Handoff.Ledger

open Places

variable {ν W I S Q : Type*} {done : Q} {l : Ledger ν W I S Q}

/-- The invariant depends on what is inside and on the queue `done`, not on where else the
nodes are. -/
theorem Sound.rearrange (sound : l.Sound done) {contents : Q → List ν} {hand : I → Option ν}
    (placed : Placed contents hand)
    (inside : ∀ node, Within contents hand node ↔ l.Inside node)
    (listed : ∀ node ∈ l.contents done, node ∈ contents done) :
    Sound done { l with contents := contents, hand := hand } where
  placed := placed
  attached node within := sound.attached node ((inside node).mp within)
  complete node w owned := (sound.complete node w owned).imp_right (inside node).mpr
  distinct := sound.distinct
  stands w := (sound.stands w).carry rfl id (Or.inl rfl)
    (fun node owned => ⟨owned, rfl, (inside node).mp, listed node⟩)
    (fun node within key => ⟨(inside node).mp within, key⟩)

/-- A worker's node is lost before it is on a queue. A free hand keeps it. -/
def mislay [DecidableEq W] [DecidableEq I] (w : W) (node : ν) (keeper : I)
    (l : Ledger ν W I S Q) : Ledger ν W I S Q :=
  { l with
    phase := Function.update l.phase w (.waiting node)
    hand := Function.update l.hand keeper (some node) }

/-- A server's node is lost. A free hand keeps it. -/
def forfeit [DecidableEq I] (i : I) (node : ν) (keeper : I) (l : Ledger ν W I S Q) :
    Ledger ν W I S Q :=
  { l with hand := Function.update (Function.update l.hand i none) keeper (some node) }

/-- To the worker it is as if the node had reached some queue. -/
theorem Sound.mislay [DecidableEq W] [DecidableEq I] [DecidableEq Q] (sound : l.Sound done)
    (w : W) (node : ν) (keeper : I) (filling : l.phase w = .filling node)
    (free : l.hand keeper = none) (q : Q) (request : q ≠ done) :
    (l.mislay w node keeper).Sound done := by
  have stands := sound.stands w
  rw [filling] at stands
  have outside : ¬ l.Inside node := stands.2.2.2.2
  refine (sound.submit w node q filling).rearrange (sound.placed.hold keeper outside) ?_ ?_
  · intro other
    exact (within_hold free).trans within_append.symm
  · intro other listed
    simpa only [Ledger.submit, Function.update_of_ne request.symm] using listed

/-- A server's node changes hands. -/
theorem Sound.forfeit [DecidableEq I] (sound : l.Sound done) (i : I) (node : ν) (keeper : I)
    (held : l.hand i = some node) (free : l.hand keeper = none) :
    (l.forfeit i node keeper).Sound done := by
  have others (other : ν) : Within l.contents (Function.update l.hand i none) other ↔
      l.Inside other ∧ other ≠ node := within_drop sound.placed held
  have empty : Function.update l.hand i none keeper = none := by
    by_cases same : keeper = i
    · subst same
      exact Function.update_self _ _ _
    · rwa [Function.update_of_ne same]
  refine sound.rearrange ?_ ?_ fun _ => id
  · exact (sound.placed.drop i).hold keeper fun within => ((others node).mp within).2 rfl
  · intro other
    rw [within_hold empty, others]
    constructor
    · rintro (⟨inside, _⟩ | rfl)
      · exact inside
      · exact Or.inr ⟨i, held⟩
    · intro inside
      by_cases same : other = node
      · exact Or.inr same
      · exact Or.inl ⟨inside, same⟩

end AvocadoMisc.Library.Handoff.Ledger
