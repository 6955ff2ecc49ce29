import Mathlib.Logic.Relation
import AvocadoMisc.Library.Places

/-!
# Handing nodes to servers and back

Workers hand nodes to servers through queues. A worker allocates a node, keys it with
its own semaphore, puts it on a queue and waits. A server takes the first node of a
queue into its hand and later puts it on the queue `done` and posts the semaphore that
the node is keyed with. The worker then removes the node from there and frees it.

A semaphore belongs to a slot. Slots are reused when a worker is out, but live workers
have different ones. A worker stops waiting early only once the system is stopping;
its node may then still be on its way, and may post a semaphore that a later worker
owns. That worker does not start to serve any more, which is why no worker ever takes
the post of another one's node for its own.

`Step` is one step of any party, and `Sound` the invariant. It says where the nodes are
and ties each semaphore to the place of one node.
-/

namespace AvocadoMisc.Library.Handoff

open Places

variable {ν W I S Q : Type*}

/-- Where a worker is. It owns a node from `filling` to `collecting`, and the node is on its way
while the worker is `waiting`. -/
inductive Phase (ν : Type*) where
  | absent
  | fresh
  | looping
  | active
  | filling (node : ν)
  | waiting (node : ν)
  | collecting (node : ν)
  | leaving
  | out

/-- A live worker owns its slot. -/
def Phase.live : Phase ν → Bool
  | .absent | .out => false
  | _ => true

/-- A serving worker may allocate a node or has one. -/
def Phase.serving : Phase ν → Bool
  | .active | .filling _ | .waiting _ | .collecting _ => true
  | _ => false

/-- The phases between which a worker moves alone. It stops waiting without its node only
when the system is stopping, and starts to serve only when it is not. -/
def Phase.Shift (stopping : Bool) : Phase ν → Phase ν → Prop
  | .fresh, .leaving => True
  | .looping, .active => stopping = false
  | .active, .looping => True
  | .waiting _, .looping => stopping = true
  | .collecting _, .looping => stopping = true
  | .looping, .leaving => True
  | .leaving, .out => True
  | _, _ => False

/-! ### The ledger and its invariant -/

/-- Where all nodes and parties are. `key` is the semaphore that a node posts, `owner` the
worker that allocated it and did not free it. -/
structure Ledger (ν W I S Q : Type*) where
  contents : Q → List ν
  hand : I → Option ν
  phase : W → Phase ν
  slot : W → S
  semaphore : S → Nat
  key : ν → Option S
  owner : ν → Option W
  stopping : Bool

namespace Ledger

/-- A node is on a queue or in a hand. -/
def Inside (l : Ledger ν W I S Q) (node : ν) : Prop := Within l.contents l.hand node

/-- At most the given node of those inside posts a worker's semaphore. -/
def Alone (l : Ledger ν W I S Q) (w : W) (mine : Option ν) : Prop :=
  ∀ node, l.Inside node → l.key node = some (l.slot w) → mine = some node

/-- What a worker in the given phase knows of a node of its own that is inside. -/
def Waits (l : Ledger ν W I S Q) (node : ν) : Phase ν → Prop
  | .waiting mine | .collecting mine => mine = node
  | .looping | .leaving | .out => l.stopping = true
  | _ => False

/-- What holds of a worker in the given phase: the value of its semaphore, its node, and
that no other node inside posts the semaphore while it serves. -/
def Stands (done : Q) (l : Ledger ν W I S Q) (w : W) : Phase ν → Prop
  | .looping => l.stopping = true ∨ l.semaphore (l.slot w) = 0
  | .active => l.semaphore (l.slot w) = 0 ∧ l.Alone w none
  | .filling node => l.semaphore (l.slot w) = 0 ∧ l.Alone w none ∧
      l.owner node = some w ∧ l.key node = some (l.slot w) ∧ ¬ l.Inside node
  | .waiting node =>
      (l.semaphore (l.slot w) = 0 ∨ l.semaphore (l.slot w) = 1 ∧ node ∈ l.contents done) ∧
        l.Alone w (some node) ∧ l.owner node = some w
  | .collecting node => l.semaphore (l.slot w) = 0 ∧ l.Alone w (some node) ∧
      l.owner node = some w ∧ node ∈ l.contents done
  | _ => True

/-- The invariant. A node inside has an owner that waits for it, unless the system is
stopping, and an owned node is being filled or is inside. -/
structure Sound (done : Q) (l : Ledger ν W I S Q) : Prop where
  placed : Placed l.contents l.hand
  attached : ∀ node, l.Inside node → ∃ w, l.owner node = some w ∧
    l.key node = some (l.slot w) ∧ l.Waits node (l.phase w)
  complete : ∀ node w, l.owner node = some w → l.phase w = .filling node ∨ l.Inside node
  distinct : ∀ v w, (l.phase v).live = true → (l.phase w).live = true →
    l.slot v = l.slot w → v = w
  stands : ∀ w, l.Stands done w (l.phase w)

/-- A node that nobody owns is not inside. -/
theorem Sound.outside {done : Q} {l : Ledger ν W I S Q} (sound : l.Sound done) {node : ν}
    (free : l.owner node = none) : ¬ l.Inside node := by
  intro inside
  obtain ⟨w, owned, _⟩ := sound.attached node inside
  simp [free] at owned

/-- The node that a worker waits for or collects is inside, owned by the worker and keyed
with its semaphore. -/
theorem Sound.pending {done : Q} {l : Ledger ν W I S Q} (sound : l.Sound done) {w : W} {node : ν}
    (place : l.phase w = .waiting node ∨ l.phase w = .collecting node) :
    l.owner node = some w ∧ l.Inside node ∧ l.key node = some (l.slot w) := by
  have stands := sound.stands w
  have own : l.owner node = some w := by
    rcases place with place | place
    · rw [place] at stands; exact stands.2.2
    · rw [place] at stands; exact stands.2.2.1
  have inside : l.Inside node := by
    refine (sound.complete node w own).resolve_left fun filling => ?_
    rcases place with place | place <;> simp [place] at filling
  obtain ⟨v, owned, key, _⟩ := sound.attached node inside
  obtain rfl := Option.some.inj (owned.symm.trans own)
  exact ⟨own, inside, key⟩

/-- A serving worker owns every node inside that posts its semaphore, and waits for it. -/
theorem Sound.aims {done : Q} {l : Ledger ν W I S Q} (sound : l.Sound done) {w : W} {node : ν}
    (serves : (l.phase w).serving = true) (inside : l.Inside node)
    (key : l.key node = some (l.slot w)) :
    l.owner node = some w ∧ (l.phase w = .waiting node ∨ l.phase w = .collecting node) := by
  have stands := sound.stands w
  have only (mine : Option ν) (alone : l.Alone w mine) : mine = some node := alone node inside key
  cases place : l.phase w with
  | active => rw [place] at stands; simpa using only _ stands.2
  | filling mine => rw [place] at stands; simpa using only _ stands.2.1
  | waiting mine =>
    rw [place] at stands
    obtain rfl := Option.some.inj (only _ stands.2.1)
    exact ⟨stands.2.2, Or.inl rfl⟩
  | collecting mine =>
    rw [place] at stands
    obtain rfl := Option.some.inj (only _ stands.2.1)
    exact ⟨stands.2.2.1, Or.inr rfl⟩
  | _ => simp [place, Phase.serving] at serves

/-- If a node inside posts the semaphore of a live worker that does not serve, the system
is stopping. -/
theorem Sound.stopping_of_idle {done : Q} {l : Ledger ν W I S Q} (sound : l.Sound done) {v : W}
    {node : ν} (live : (l.phase v).live = true) (idle : (l.phase v).serving = false)
    (inside : l.Inside node) (key : l.key node = some (l.slot v)) : l.stopping = true := by
  obtain ⟨w, _, keyed, waits⟩ := sound.attached node inside
  have shared : l.slot v = l.slot w := Option.some.inj (key.symm.trans keyed)
  by_cases same : v = w
  · subst v
    generalize l.phase w = phase at waits idle
    cases phase <;> simp_all [Waits, Phase.serving]
  · have gone : (l.phase w).live = false := by
      by_contra lives
      exact same (sound.distinct v w live (by simpa using lives) shared)
    generalize l.phase w = phase at waits gone
    cases phase <;> simp_all [Waits, Phase.live]

/-- A worker's knowledge survives a step of another party that keeps its node, adds no
node with its key, and leaves its semaphore alone, unless the worker does not serve and
the system is stopping. -/
theorem Stands.carry {done : Q} {l after : Ledger ν W I S Q} {w : W} {phase : Phase ν}
    (stands : l.Stands done w phase) (slot : after.slot w = l.slot w)
    (stopping : l.stopping = true → after.stopping = true)
    (semaphore : after.semaphore (l.slot w) = l.semaphore (l.slot w) ∨
      phase.serving = false ∧ after.stopping = true)
    (owned : ∀ node, l.owner node = some w → after.owner node = some w ∧
      after.key node = l.key node ∧ (after.Inside node → l.Inside node) ∧
      (node ∈ l.contents done → node ∈ after.contents done))
    (keyed : ∀ node, after.Inside node → after.key node = some (l.slot w) →
      l.Inside node ∧ l.key node = some (l.slot w)) :
    after.Stands done w phase := by
  have alone (mine : Option ν) (before : l.Alone w mine) : after.Alone w mine := by
    intro node inside key
    rw [slot] at key
    obtain ⟨was, had⟩ := keyed node inside key
    exact before node was had
  cases phase with
  | looping =>
    rcases semaphore with same | ⟨_, stops⟩
    · rcases stands with stops | zero
      · exact Or.inl (stopping stops)
      · exact Or.inr (by rw [slot, same, zero])
    · exact Or.inl stops
  | active =>
    obtain same := semaphore.resolve_right (by simp [Phase.serving])
    exact ⟨by rw [slot, same, stands.1], alone none stands.2⟩
  | filling node =>
    obtain same := semaphore.resolve_right (by simp [Phase.serving])
    obtain ⟨zero, clear, own, key, outside⟩ := stands
    obtain ⟨owns, keys, inside, _⟩ := owned node own
    exact ⟨by rw [slot, same, zero], alone none clear, owns, by rw [keys, key, slot],
      fun within => outside (inside within)⟩
  | waiting node =>
    obtain same := semaphore.resolve_right (by simp [Phase.serving])
    obtain ⟨posted, clear, own⟩ := stands
    obtain ⟨owns, _, _, listed⟩ := owned node own
    refine ⟨?_, alone _ clear, owns⟩
    rw [slot, same]
    exact posted.imp_right fun ⟨one, isDone⟩ => ⟨one, listed isDone⟩
  | collecting node =>
    obtain same := semaphore.resolve_right (by simp [Phase.serving])
    obtain ⟨zero, clear, own, isDone⟩ := stands
    obtain ⟨owns, _, _, listed⟩ := owned node own
    exact ⟨by rw [slot, same, zero], alone _ clear, owns, listed isDone⟩
  | absent | fresh | leaving | out => trivial

/-! ### The steps -/

section Steps

variable [DecidableEq W]

/-- A worker moves to another phase. -/
def shift (w : W) (phase : Phase ν) (l : Ledger ν W I S Q) : Ledger ν W I S Q :=
  { l with phase := Function.update l.phase w phase }

/-- The system is stopping. -/
def stop (l : Ledger ν W I S Q) : Ledger ν W I S Q := { l with stopping := true }

/-- A worker is created in a slot. -/
def create (w : W) (s : S) (l : Ledger ν W I S Q) : Ledger ν W I S Q :=
  { l with phase := Function.update l.phase w .fresh, slot := Function.update l.slot w s }

/-- A worker sets its semaphore to zero. -/
def init [DecidableEq S] (w : W) (l : Ledger ν W I S Q) : Ledger ν W I S Q :=
  { l with
    phase := Function.update l.phase w .looping
    semaphore := Function.update l.semaphore (l.slot w) 0 }

/-- A worker allocates a node and keys it with its semaphore. -/
def fill [DecidableEq ν] (w : W) (node : ν) (l : Ledger ν W I S Q) : Ledger ν W I S Q :=
  { l with
    phase := Function.update l.phase w (.filling node)
    owner := Function.update l.owner node (some w)
    key := Function.update l.key node (some (l.slot w)) }

/-- A worker puts its node at the end of a queue. -/
def submit [DecidableEq Q] (w : W) (node : ν) (q : Q) (l : Ledger ν W I S Q) :
    Ledger ν W I S Q :=
  { l with
    phase := Function.update l.phase w (.waiting node)
    contents := Function.update l.contents q (l.contents q ++ [node]) }

/-- A server takes the first node of a queue, if there is one. -/
def take [DecidableEq I] [DecidableEq Q] (i : I) (q : Q) (l : Ledger ν W I S Q) :
    Ledger ν W I S Q :=
  { l with
    hand := Function.update l.hand i (l.contents q).head?
    contents := Function.update l.contents q (l.contents q).tail }

/-- Post a semaphore, if there is one. -/
def post [DecidableEq S] (key : Option S) (semaphore : S → Nat) : S → Nat :=
  match key with
  | some s => Function.update semaphore s (semaphore s + 1)
  | none => semaphore

/-- A server puts a node on the queue `done` and usually posts its semaphore. -/
def giveBack [DecidableEq I] [DecidableEq S] [DecidableEq Q] (done : Q) (i : I) (node : ν)
    (posted : Bool) (l : Ledger ν W I S Q) : Ledger ν W I S Q :=
  { l with
    hand := Function.update l.hand i none
    contents := Function.update l.contents done (l.contents done ++ [node])
    semaphore := if posted then post (l.key node) l.semaphore else l.semaphore }

/-- A waiting worker finds its semaphore posted. -/
def notice [DecidableEq S] (w : W) (node : ν) (l : Ledger ν W I S Q) : Ledger ν W I S Q :=
  { l with
    phase := Function.update l.phase w (.collecting node)
    semaphore := Function.update l.semaphore (l.slot w) (l.semaphore (l.slot w) - 1) }

/-- A worker removes its node from the queue `done` and frees it. -/
def retire [DecidableEq ν] [DecidableEq Q] (done : Q) (w : W) (node : ν)
    (l : Ledger ν W I S Q) : Ledger ν W I S Q :=
  { l with
    phase := Function.update l.phase w .looping
    contents := Function.update l.contents done ((l.contents done).erase node)
    owner := Function.update l.owner node none }

variable {done : Q} {l : Ledger ν W I S Q}

/-- Live workers stay in different slots when one worker moves and is live only if it
was. -/
theorem Sound.distinct_update (sound : l.Sound done) {w : W} {phase : Phase ν}
    (lives : phase.live = true → (l.phase w).live = true) (u v : W)
    (uLive : (Function.update l.phase w phase u).live = true)
    (vLive : (Function.update l.phase w phase v).live = true)
    (shared : l.slot u = l.slot v) : u = v := by
  have before (x : W) (live : (Function.update l.phase w phase x).live = true) :
      (l.phase x).live = true := by
    by_cases same : x = w
    · subst x
      exact lives (by simpa using live)
    · simpa only [Function.update_of_ne same] using live
  exact sound.distinct u v (before u uLive) (before v vLive) shared

omit [DecidableEq W] in
/-- Nothing is known of a worker that is not live. -/
theorem stands_of_not_live {w : W} {phase : Phase ν} (gone : phase.live = false) :
    l.Stands done w phase := by
  cases phase <;> trivial

/-- Moving alone keeps the invariant. A worker that starts to serve does so while the
system is not stopping, and then no node inside posts its semaphore: one that did would
have an owner that waits for it in the same slot. -/
theorem Sound.shift (sound : l.Sound done) (w : W) (phase : Phase ν)
    (moves : Phase.Shift l.stopping (l.phase w) phase) : (l.shift w phase).Sound done where
  placed := sound.placed
  attached node inside := by
    obtain ⟨v, owned, key, waits⟩ := sound.attached node inside
    refine ⟨v, owned, key, ?_⟩
    by_cases same : v = w
    · subst v
      simp only [Ledger.shift, Function.update_self]
      generalize l.phase w = before at moves waits
      cases before <;> cases phase <;> simp_all [Phase.Shift, Waits]
    · simp only [Ledger.shift, Function.update_of_ne same]
      exact waits
  complete node v owned := by
    refine (sound.complete node v owned).imp_left fun filling => ?_
    by_cases same : v = w
    · subst v
      rw [filling] at moves
      exact absurd moves id
    · simpa [Ledger.shift, same] using filling
  distinct := by
    refine sound.distinct_update fun live => ?_
    generalize l.phase w = before at moves
    cases before <;> cases phase <;> simp_all [Phase.Shift, Phase.live]
  stands v := by
    by_cases same : v = w
    · subst v
      simp only [Ledger.shift, Function.update_self]
      have stands := sound.stands w
      cases before : l.phase w <;> cases phase <;> rw [before] at moves stands <;>
        first
        | exact absurd moves id
        | trivial
        | exact Or.inl moves
        | exact Or.inr stands.1
        | skip
      case looping.active =>
        have running : l.stopping = false := moves
        refine ⟨stands.resolve_left (by simp [running]), ?_⟩
        intro node inside key
        have stopping := sound.stopping_of_idle (by rw [before]; rfl) (by rw [before]; rfl)
          inside key
        simp [running] at stopping
    · have stands := sound.stands v
      simp only [Ledger.shift, Function.update_of_ne same]
      exact stands

omit [DecidableEq W] in
/-- So does stopping. -/
theorem Sound.stop (sound : l.Sound done) : l.stop.Sound done where
  placed := sound.placed
  attached node inside := by
    obtain ⟨w, owned, key, waits⟩ := sound.attached node inside
    refine ⟨w, owned, key, ?_⟩
    simp only [Ledger.stop]
    generalize l.phase w = phase at waits
    cases phase <;> simp_all [Waits]
  complete := sound.complete
  distinct := sound.distinct
  stands w := (sound.stands w).carry rfl (fun _ => rfl) (Or.inl rfl)
    (fun _ owned => ⟨owned, rfl, id, id⟩) (fun _ inside key => ⟨inside, key⟩)

/-- A worker created in a slot that no live worker has. It has no node yet, so what remains to be
shown is that the slots of live workers stay apart. -/
theorem Sound.create (sound : l.Sound done) (w : W) (s : S) (absent : l.phase w = .absent)
    (free : ∀ v, (l.phase v).live = true → l.slot v ≠ s) : (l.create w s).Sound done where
  placed := sound.placed
  attached node inside := by
    obtain ⟨v, owned, key, waits⟩ := sound.attached node inside
    have differs : v ≠ w := by
      rintro rfl
      simp [absent, Waits] at waits
    refine ⟨v, owned, ?_, ?_⟩
    · simpa only [Ledger.create, Function.update_of_ne differs] using key
    · simp only [Ledger.create, Function.update_of_ne differs]
      exact waits
  complete node v owned := by
    refine (sound.complete node v owned).imp_left fun filling => ?_
    have differs : v ≠ w := by
      rintro rfl
      simp [absent] at filling
    simpa only [Ledger.create, Function.update_of_ne differs] using filling
  distinct u v uLive vLive shared := by
    by_cases isU : u = w <;> by_cases isV : v = w
    · exact isU.trans isV.symm
    · simp only [Ledger.create, isU, Function.update_self, Function.update_of_ne isV]
        at vLive shared
      exact absurd shared.symm (free v vLive)
    · simp only [Ledger.create, isV, Function.update_self, Function.update_of_ne isU]
        at uLive shared
      exact absurd shared (free u uLive)
    · simp only [Ledger.create, Function.update_of_ne isU, Function.update_of_ne isV]
        at uLive vLive shared
      exact sound.distinct u v uLive vLive shared
  stands v := by
    by_cases same : v = w
    · subst v
      simp only [Ledger.create, Function.update_self]
      trivial
    · have stands := sound.stands v
      simp only [Ledger.create, Function.update_of_ne same]
      exact stands.carry (Function.update_of_ne same s l.slot) id (Or.inl rfl)
        (fun _ owned => ⟨owned, rfl, id, id⟩) (fun _ inside key => ⟨inside, key⟩)

/-- A fresh worker initialises its semaphore. Nobody else's is touched, because no two live workers
have one slot. -/
theorem Sound.init [DecidableEq S] (sound : l.Sound done) (w : W) (fresh : l.phase w = .fresh) :
    (l.init w).Sound done where
  placed := sound.placed
  attached node inside := by
    obtain ⟨v, owned, key, waits⟩ := sound.attached node inside
    have differs : v ≠ w := by
      rintro rfl
      simp [fresh, Waits] at waits
    refine ⟨v, owned, key, ?_⟩
    simp only [Ledger.init, Function.update_of_ne differs]
    exact waits
  complete node v owned := by
    refine (sound.complete node v owned).imp_left fun filling => ?_
    have differs : v ≠ w := by
      rintro rfl
      simp [fresh] at filling
    simpa only [Ledger.init, Function.update_of_ne differs] using filling
  distinct := sound.distinct_update fun _ => by rw [fresh]; rfl
  stands v := by
    by_cases same : v = w
    · subst v
      simp only [Ledger.init, Function.update_self]
      exact Or.inr (Function.update_self _ _ _)
    · simp only [Ledger.init, Function.update_of_ne same]
      by_cases live : (l.phase v).live = true
      · have apart : l.slot v ≠ l.slot w := fun shared =>
          same (sound.distinct v w live (by rw [fresh]; rfl) shared)
        exact (sound.stands v).carry rfl id (Or.inl (Function.update_of_ne apart _ _))
          (fun _ owned => ⟨owned, rfl, id, id⟩) (fun _ inside key => ⟨inside, key⟩)
      · exact stands_of_not_live (by simpa using live)

/-- An active worker allocates a node that nobody owns. So no other worker, no queue and no server
has it, and it has one place afterwards. -/
theorem Sound.fill [DecidableEq ν] (sound : l.Sound done) (w : W) (node : ν)
    (active : l.phase w = .active) (free : l.owner node = none) :
    (l.fill w node).Sound done where
  placed := sound.placed
  attached other inside := by
    obtain ⟨v, owned, key, waits⟩ := sound.attached other inside
    have notNode : other ≠ node := by
      rintro rfl
      simp [free] at owned
    have differs : v ≠ w := by
      rintro rfl
      simp [active, Waits] at waits
    refine ⟨v, ?_, ?_, ?_⟩
    · simpa only [Ledger.fill, Function.update_of_ne notNode] using owned
    · simpa only [Ledger.fill, Function.update_of_ne notNode] using key
    · simp only [Ledger.fill, Function.update_of_ne differs]
      exact waits
  complete other v owned := by
    by_cases isNode : other = node
    · subst other
      obtain rfl : w = v := by simpa [Ledger.fill] using owned
      exact Or.inl (Function.update_self _ _ _)
    · simp only [Ledger.fill, Function.update_of_ne isNode] at owned
      refine (sound.complete other v owned).imp_left fun filling => ?_
      have differs : v ≠ w := by
        rintro rfl
        simp [active] at filling
      simpa only [Ledger.fill, Function.update_of_ne differs] using filling
  distinct := sound.distinct_update fun _ => by rw [active]; rfl
  stands v := by
    have outside := sound.outside free
    have keyed (s : S) (other : ν) (inside : l.Inside other)
        (key : Function.update l.key node (some (l.slot w)) other = some s) :
        l.Inside other ∧ l.key other = some s := by
      have notNode : other ≠ node := by
        rintro rfl
        exact outside inside
      exact ⟨inside, by simpa only [Function.update_of_ne notNode] using key⟩
    by_cases same : v = w
    · subst v
      simp only [Ledger.fill, Function.update_self]
      have stands := sound.stands w
      rw [active] at stands
      refine ⟨stands.1, ?_, Function.update_self _ _ _, Function.update_self _ _ _, outside⟩
      intro other inside key
      exact stands.2 other inside (keyed _ other inside key).2
    · simp only [Ledger.fill, Function.update_of_ne same]
      refine (sound.stands v).carry rfl id (Or.inl rfl) ?_ (keyed (l.slot v))
      intro other owned
      have notNode : other ≠ node := by
        rintro rfl
        simp [free] at owned
      exact ⟨by simpa only [Function.update_of_ne notNode] using owned,
        by simp only [Function.update_of_ne notNode], id, id⟩

/-- A worker submits the node that it filled. The node goes from the worker into one queue, and the
worker waits for it from then on. -/
theorem Sound.submit [DecidableEq Q] (sound : l.Sound done) (w : W) (node : ν) (q : Q)
    (filling : l.phase w = .filling node) : (l.submit w node q).Sound done := by
  have stands := sound.stands w
  rw [filling] at stands
  obtain ⟨zero, clear, own, key, outside⟩ := stands
  have inside (other : ν) : (l.submit w node q).Inside other ↔ l.Inside other ∨ other = node :=
    within_append
  have live : (l.phase w).live = true := by rw [filling]; rfl
  constructor
  case placed => exact sound.placed.append q outside
  case attached =>
    intro other within
    rcases (inside other).mp within with before | rfl
    · obtain ⟨v, owned, keyed, waits⟩ := sound.attached other before
      have differs : v ≠ w := by
        rintro rfl
        simp [filling, Waits] at waits
      refine ⟨v, owned, keyed, ?_⟩
      simp only [Ledger.submit, Function.update_of_ne differs]
      exact waits
    · refine ⟨w, own, key, ?_⟩
      simp only [Ledger.submit, Function.update_self]
      rfl
  case complete =>
    intro other v owned
    rw [inside]
    rcases sound.complete other v owned with fills | before
    · by_cases same : v = w
      · subst v
        rw [filling] at fills
        exact Or.inr (Or.inr (Phase.filling.inj fills).symm)
      · exact Or.inl (by simpa only [Ledger.submit, Function.update_of_ne same] using fills)
    · exact Or.inr (Or.inl before)
  case distinct => exact sound.distinct_update fun _ => live
  case stands =>
    intro v
    by_cases same : v = w
    · subst v
      simp only [Ledger.submit, Function.update_self]
      refine ⟨Or.inl zero, ?_, own⟩
      intro other within keyed
      rcases (inside other).mp within with before | rfl
      · exact absurd (clear other before keyed) (by simp)
      · rfl
    · simp only [Ledger.submit, Function.update_of_ne same]
      by_cases lives : (l.phase v).live = true
      · refine (sound.stands v).carry rfl id (Or.inl rfl) ?_ ?_
        · intro other owned
          refine ⟨owned, rfl, fun within => ((inside other).mp within).resolve_right ?_,
            fun listed => mem_append_iff.mpr (Or.inl listed)⟩
          rintro rfl
          exact same (Option.some.inj (owned.symm.trans own))
        · intro other within keyed
          refine ⟨((inside other).mp within).resolve_right ?_, keyed⟩
          rintro rfl
          exact same (sound.distinct v w lives live (Option.some.inj (keyed.symm.trans key)))
      · exact stands_of_not_live (by simpa using lives)

omit [DecidableEq W] in
/-- A server with an empty hand takes from a queue other than `done`. The node goes from the queue
into the hand in one step, so it has one place before and after. -/
theorem Sound.take [DecidableEq ν] [DecidableEq I] [DecidableEq Q] (sound : l.Sound done) (i : I)
    (q : Q) (free : l.hand i = none) (request : q ≠ done) : (l.take i q).Sound done := by
  cases split : l.contents q with
  | nil =>
    have unchanged : l.take i q = l := by
      unfold Ledger.take
      rw [split, List.head?_nil, List.tail_nil, ← free, ← split, Function.update_eq_self,
        Function.update_eq_self]
    rw [unchanged]
    exact sound
  | cons node rest =>
    have listed : node ∈ l.contents q := by simp [split]
    have taken : l.take i q =
        { l with
          contents := Function.update l.contents q ((l.contents q).erase node)
          hand := Function.update l.hand i (some node) } := by
      simp [Ledger.take, split]
    have inside (other : ν) : (l.take i q).Inside other ↔ l.Inside other := by
      rw [taken]
      show Within _ _ other ↔ _
      rw [within_hold free, within_erase sound.placed listed]
      constructor
      · rintro (⟨before, _⟩ | rfl)
        · exact before
        · exact Or.inl ⟨q, listed⟩
      · intro before
        by_cases same : other = node
        · exact Or.inr same
        · exact Or.inl ⟨before, same⟩
    have kept : (l.take i q).contents done = l.contents done :=
      Function.update_of_ne request.symm _ _
    constructor
    case placed =>
      rw [taken]
      refine (sound.placed.erase q listed).hold i ?_
      intro within
      exact ((within_erase sound.placed listed).mp within).2 rfl
    case attached => exact fun other within => sound.attached other ((inside other).mp within)
    case complete =>
      exact fun other v owned => (sound.complete other v owned).imp_right (inside other).mpr
    case distinct => exact sound.distinct
    case stands =>
      intro v
      exact (sound.stands v).carry rfl id (Or.inl rfl)
        (fun other owned => ⟨owned, rfl, (inside other).mp, fun listed => kept ▸ listed⟩)
        (fun other within key => ⟨(inside other).mp within, key⟩)

omit [DecidableEq W] in
/-- A server gives a node back. Its post raises the semaphore of the node's owner, or,
when the owner stopped waiting, one of a slot in which nobody serves. -/
theorem Sound.giveBack [DecidableEq I] [DecidableEq S] [DecidableEq Q] (sound : l.Sound done)
    (i : I) (node : ν) (posted : Bool) (held : l.hand i = some node) :
    (l.giveBack done i node posted).Sound done := by
  have before : l.Inside node := Or.inr ⟨i, held⟩
  obtain ⟨w, own, key, waits⟩ := sound.attached node before
  have absent (other : ν) (same : other = node) : other ∉ l.contents done :=
    same ▸ sound.placed.handApart i done node held
  have inside (other : ν) : (l.giveBack done i node posted).Inside other ↔ l.Inside other := by
    show Within _ _ other ↔ _
    refine within_append.trans ?_
    show Within l.contents (Function.update l.hand i none) other ∨ _ ↔ _
    rw [within_drop sound.placed held]
    constructor
    · rintro (⟨within, _⟩ | rfl)
      · exact within
      · exact before
    · intro within
      by_cases same : other = node
      · exact Or.inr same
      · exact Or.inl ⟨within, same⟩
  have elsewhere (v : W) (differs : l.slot v ≠ l.slot w) :
      (l.giveBack done i node posted).semaphore (l.slot v) = l.semaphore (l.slot v) := by
    simp only [Ledger.giveBack, key, post]
    split
    · exact Function.update_of_ne differs _ _
    · rfl
  have listed (other : ν) (isDone : other ∈ l.contents done) :
      other ∈ (l.giveBack done i node posted).contents done := mem_append_iff.mpr (Or.inl isDone)
  have others (v : W) (semaphore :
      (l.giveBack done i node posted).semaphore (l.slot v) = l.semaphore (l.slot v) ∨
        (l.phase v).serving = false ∧ l.stopping = true) :
      (l.giveBack done i node posted).Stands done v (l.phase v) :=
    (sound.stands v).carry rfl id semaphore
      (fun other owned => ⟨owned, rfl, (inside other).mp, listed other⟩)
      (fun other within keyed => ⟨(inside other).mp within, keyed⟩)
  constructor
  case placed =>
    refine (sound.placed.drop i).append done ?_
    intro within
    exact ((within_drop sound.placed held).mp within).2 rfl
  case attached => exact fun other within => sound.attached other ((inside other).mp within)
  case complete =>
    exact fun other v owned => (sound.complete other v owned).imp_right (inside other).mpr
  case distinct => exact sound.distinct
  case stands =>
    intro v
    change (l.giveBack done i node posted).Stands done v (l.phase v)
    by_cases shared : l.slot v = l.slot w
    · by_cases serves : (l.phase v).serving = true
      · have stands := sound.stands v
        obtain ⟨owns, place | place⟩ := sound.aims serves before (by rw [key, shared])
        · rw [place] at stands ⊢
          obtain ⟨zero | ⟨_, isDone⟩, alone, _⟩ := stands
          · refine ⟨?_, fun other within keyed => alone other ((inside other).mp within) keyed,
              owns⟩
            cases posted with
            | false => exact Or.inl zero
            | true =>
              refine Or.inr ⟨?_, mem_append_iff.mpr (Or.inr ⟨rfl, rfl⟩)⟩
              simp [Ledger.giveBack, key, post, shared, ← zero]
          · exact absurd isDone (absent node rfl)
        · rw [place] at stands
          exact absurd stands.2.2.2 (absent node rfl)
      · by_cases live : (l.phase v).live = true
        · have stopping := sound.stopping_of_idle live (by simpa using serves) before
            (by rw [key, shared])
          exact others v (Or.inr ⟨by simpa using serves, stopping⟩)
        · exact stands_of_not_live (by simpa using live)
    · exact others v (Or.inl (elsewhere v shared))

/-- A waiting worker finds its semaphore posted. Only its own node can have posted it, so
that node is on the queue `done`. -/
theorem Sound.notice [DecidableEq S] (sound : l.Sound done) (w : W) (node : ν)
    (waiting : l.phase w = .waiting node) (posted : l.semaphore (l.slot w) ≠ 0) :
    (l.notice w node).Sound done where
  placed := sound.placed
  attached other inside := by
    obtain ⟨v, owned, key, waits⟩ := sound.attached other inside
    refine ⟨v, owned, key, ?_⟩
    by_cases same : v = w
    · subst v
      rw [waiting] at waits
      simp only [Ledger.notice, Function.update_self]
      exact waits
    · simp only [Ledger.notice, Function.update_of_ne same]
      exact waits
  complete other v owned := by
    refine (sound.complete other v owned).imp_left fun filling => ?_
    have differs : v ≠ w := by
      rintro rfl
      simp [waiting] at filling
    simpa only [Ledger.notice, Function.update_of_ne differs] using filling
  distinct := sound.distinct_update fun _ => by rw [waiting]; rfl
  stands v := by
    by_cases same : v = w
    · subst v
      simp only [Ledger.notice, Function.update_self]
      have stands := sound.stands w
      rw [waiting] at stands
      obtain ⟨one, isDone⟩ := stands.1.resolve_left posted
      exact ⟨by simp [one], stands.2.1, stands.2.2, isDone⟩
    · simp only [Ledger.notice, Function.update_of_ne same]
      by_cases live : (l.phase v).live = true
      · have apart : l.slot v ≠ l.slot w := fun shared =>
          same (sound.distinct v w live (by rw [waiting]; rfl) shared)
        exact (sound.stands v).carry rfl id (Or.inl (Function.update_of_ne apart _ _))
          (fun _ owned => ⟨owned, rfl, id, id⟩) (fun _ inside key => ⟨inside, key⟩)
      · exact stands_of_not_live (by simpa using live)

/-- A worker collects its node and frees it. The node has no place and no owner any more, and may be
allocated again. -/
theorem Sound.retire [DecidableEq ν] [DecidableEq Q] (sound : l.Sound done) (w : W) (node : ν)
    (collecting : l.phase w = .collecting node) : (l.retire done w node).Sound done := by
  have stands := sound.stands w
  rw [collecting] at stands
  obtain ⟨zero, _, own, isDone⟩ := stands
  have inside (other : ν) : (l.retire done w node).Inside other ↔
      l.Inside other ∧ other ≠ node := within_erase sound.placed isDone
  have kept (other : ν) (v : W) (differs : v ≠ w) (owned : l.owner other = some v) :
      other ≠ node := by
    rintro rfl
    exact differs (Option.some.inj (owned.symm.trans own))
  constructor
  case placed => exact sound.placed.erase done isDone
  case attached =>
    intro other within
    obtain ⟨before, notNode⟩ := (inside other).mp within
    obtain ⟨v, owned, key, waits⟩ := sound.attached other before
    have differs : v ≠ w := by
      rintro rfl
      rw [collecting] at waits
      exact notNode waits.symm
    refine ⟨v, ?_, key, ?_⟩
    · simpa only [Ledger.retire, Function.update_of_ne notNode] using owned
    · simp only [Ledger.retire, Function.update_of_ne differs]
      exact waits
  case complete =>
    intro other v owned
    have notNode : other ≠ node := by
      rintro rfl
      simp [Ledger.retire] at owned
    simp only [Ledger.retire, Function.update_of_ne notNode] at owned
    rw [inside]
    rcases sound.complete other v owned with filling | before
    · have differs : v ≠ w := by
        rintro rfl
        simp [collecting] at filling
      exact Or.inl (by simpa only [Ledger.retire, Function.update_of_ne differs] using filling)
    · exact Or.inr ⟨before, notNode⟩
  case distinct => exact sound.distinct_update fun _ => by rw [collecting]; rfl
  case stands =>
    intro v
    by_cases same : v = w
    · subst v
      simp only [Ledger.retire, Function.update_self]
      exact Or.inr zero
    · simp only [Ledger.retire, Function.update_of_ne same]
      refine (sound.stands v).carry rfl id (Or.inl rfl) ?_ ?_
      · intro other owned
        have notNode := kept other v same owned
        exact ⟨by simpa only [Function.update_of_ne notNode] using owned, rfl,
          fun within => ((inside other).mp within).1,
          fun listed => (mem_erase_iff sound.placed isDone).mpr ⟨listed, notNode⟩⟩
      · exact fun other within key => ⟨((inside other).mp within).1, key⟩

end Steps

section Runs

variable [DecidableEq ν] [DecidableEq W] [DecidableEq I] [DecidableEq S] [DecidableEq Q]

/-- One step of any party, with what must hold for it. Programs are shown to take such steps only,
and inherit what these keep. -/
inductive Step (done : Q) (l : Ledger ν W I S Q) : Ledger ν W I S Q → Prop where
  | shift (w : W) (phase : Phase ν) (moves : Phase.Shift l.stopping (l.phase w) phase) :
      Step done l (l.shift w phase)
  | stop : Step done l l.stop
  | create (w : W) (s : S) (absent : l.phase w = .absent)
      (free : ∀ v, (l.phase v).live = true → l.slot v ≠ s) : Step done l (l.create w s)
  | init (w : W) (fresh : l.phase w = .fresh) : Step done l (l.init w)
  | fill (w : W) (node : ν) (active : l.phase w = .active) (free : l.owner node = none) :
      Step done l (l.fill w node)
  | submit (w : W) (node : ν) (q : Q) (filling : l.phase w = .filling node) :
      Step done l (l.submit w node q)
  | take (i : I) (q : Q) (free : l.hand i = none) (request : q ≠ done) : Step done l (l.take i q)
  | giveBack (i : I) (node : ν) (posted : Bool) (held : l.hand i = some node) :
      Step done l (l.giveBack done i node posted)
  | notice (w : W) (node : ν) (waiting : l.phase w = .waiting node)
      (posted : l.semaphore (l.slot w) ≠ 0) : Step done l (l.notice w node)
  | retire (w : W) (node : ν) (collecting : l.phase w = .collecting node) :
      Step done l (l.retire done w node)

/-- A system that is stopping does not start again. -/
theorem Step.stopping {done : Q} {l after : Ledger ν W I S Q} (taken : Step done l after)
    (stops : l.stopping = true) : after.stopping = true := by
  cases taken with
  | stop => rfl
  | _ => exact stops

/-- Every step keeps the invariant. -/
theorem Sound.step {done : Q} {l after : Ledger ν W I S Q} (sound : l.Sound done)
    (taken : Step done l after) : after.Sound done := by
  cases taken with
  | shift w phase moves => exact sound.shift w phase moves
  | stop => exact sound.stop
  | create w s absent free => exact sound.create w s absent free
  | init w fresh => exact sound.init w fresh
  | fill w node active free => exact sound.fill w node active free
  | submit w node q filling => exact sound.submit w node q filling
  | take i q free request => exact sound.take i q free request
  | giveBack i node posted held => exact sound.giveBack i node posted held
  | notice w node waiting posted => exact sound.notice w node waiting posted
  | retire w node collecting => exact sound.retire w node collecting

/-- So do finitely many. -/
theorem Sound.steps {done : Q} {l after : Ledger ν W I S Q} (sound : l.Sound done)
    (taken : Relation.ReflTransGen (Step done) l after) : after.Sound done := by
  induction taken with
  | refl => exact sound
  | tail _ taken inductionHypothesis => exact inductionHypothesis.step taken

/-- Nor do finitely many steps start it. -/
theorem stopping_of_steps {done : Q} {l after : Ledger ν W I S Q}
    (taken : Relation.ReflTransGen (Step done) l after) (stops : l.stopping = true) :
    after.stopping = true := by
  induction taken with
  | refl => exact stops
  | tail _ taken inductionHypothesis => exact taken.stopping inductionHypothesis

end Runs

/-- Nothing was handed over yet. -/
theorem sound_of_empty {done : Q} {l : Ledger ν W I S Q} (contents : ∀ q, l.contents q = [])
    (hand : ∀ i, l.hand i = none) (phase : ∀ w, l.phase w = .absent)
    (owner : ∀ node, l.owner node = none) : l.Sound done where
  placed := by constructor <;> simp [contents, hand]
  attached node inside := by
    rcases inside with ⟨q, listed⟩ | ⟨i, held⟩
    · simp [contents] at listed
    · simp [hand] at held
  complete node w owned := by simp [owner] at owned
  distinct v w live := by simp [phase, Phase.live] at live
  stands w := by rw [phase]; trivial

end Ledger

end AvocadoMisc.Library.Handoff
