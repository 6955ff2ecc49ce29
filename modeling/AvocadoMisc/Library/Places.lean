import Mathlib.Data.List.Nodup
import Mathlib.Logic.Function.Basic

/-!
# Queues and hands

Nodes are on queues or in hands. `Placed` says that every node is in one place only. The
four moves of a node, onto a queue, off a queue, into a hand and out of it, keep this,
and each says which nodes are within afterwards.
-/

namespace AvocadoMisc.Library.Places

variable {ν I Q : Type*} {contents : Q → List ν} {hand : I → Option ν} {node : ν}

/-- A node is on a queue or in a hand. -/
def Within (contents : Q → List ν) (hand : I → Option ν) (node : ν) : Prop :=
  (∃ q, node ∈ contents q) ∨ ∃ i, hand i = some node

/-- Every node is in one place only. -/
structure Placed (contents : Q → List ν) (hand : I → Option ν) : Prop where
  nodup : ∀ q, (contents q).Nodup
  apart : ∀ q r node, node ∈ contents q → node ∈ contents r → q = r
  handApart : ∀ i q node, hand i = some node → node ∉ contents q
  handInj : ∀ i j node, hand i = some node → hand j = some node → i = j

/-- Appending a node to a queue. -/
theorem mem_append_iff [DecidableEq Q] {q r : Q} {other : ν} :
    other ∈ Function.update contents q (contents q ++ [node]) r ↔
      other ∈ contents r ∨ r = q ∧ other = node := by
  by_cases same : r = q
  · subst r; simp
  · simp [same]

/-- The appended node is within afterwards, and nothing else is new. -/
theorem within_append [DecidableEq Q] {q : Q} {other : ν} :
    Within (Function.update contents q (contents q ++ [node])) hand other ↔
      Within contents hand other ∨ other = node := by
  unfold Within
  simp only [mem_append_iff]
  constructor
  · rintro (⟨r, listed | ⟨_, same⟩⟩ | held)
    · exact Or.inl (Or.inl ⟨r, listed⟩)
    · exact Or.inr same
    · exact Or.inl (Or.inr held)
  · rintro ((⟨r, listed⟩ | held) | same)
    · exact Or.inl ⟨r, Or.inl listed⟩
    · exact Or.inr held
    · exact Or.inl ⟨q, Or.inr ⟨rfl, same⟩⟩

/-- A node from outside can be appended. -/
theorem Placed.append [DecidableEq Q] (placed : Placed contents hand) (q : Q)
    (outside : ¬ Within contents hand node) :
    Placed (Function.update contents q (contents q ++ [node])) hand where
  nodup r := by
    by_cases same : r = q
    · subst r
      simp only [Function.update_self]
      refine List.Nodup.append (placed.nodup q) (List.nodup_singleton node) ?_
      simpa using fun listed => outside (Or.inl ⟨q, listed⟩)
    · simpa only [Function.update_of_ne same] using placed.nodup r
  apart r s other inR inS := by
    rcases mem_append_iff.mp inR with oldR | ⟨isQ, isNode⟩ <;>
      rcases mem_append_iff.mp inS with oldS | ⟨isQ', isNode'⟩
    · exact placed.apart r s other oldR oldS
    · exact absurd (Or.inl ⟨r, isNode' ▸ oldR⟩) outside
    · exact absurd (Or.inl ⟨s, isNode ▸ oldS⟩) outside
    · exact isQ.trans isQ'.symm
  handApart i r other held listed := by
    rcases mem_append_iff.mp listed with old | ⟨_, isNode⟩
    · exact placed.handApart i r other held old
    · exact outside (Or.inr ⟨i, isNode ▸ held⟩)
  handInj := placed.handInj

/-- Taking a node into a hand. -/
theorem hold_iff [DecidableEq I] {i j : I} {other : ν} :
    Function.update hand i (some node) j = some other ↔
      j = i ∧ other = node ∨ j ≠ i ∧ hand j = some other := by
  by_cases same : j = i
  · subst j; simp [eq_comm]
  · simp [same]

/-- A free hand adds the node it takes. -/
theorem within_hold [DecidableEq I] {i : I} (free : hand i = none) {other : ν} :
    Within contents (Function.update hand i (some node)) other ↔
      Within contents hand other ∨ other = node := by
  unfold Within
  simp only [hold_iff]
  constructor
  · rintro (listed | ⟨j, ⟨_, same⟩ | ⟨_, held⟩⟩)
    · exact Or.inl (Or.inl listed)
    · exact Or.inr same
    · exact Or.inl (Or.inr ⟨j, held⟩)
  · rintro ((listed | ⟨j, held⟩) | same)
    · exact Or.inl listed
    · refine Or.inr ⟨j, Or.inr ⟨?_, held⟩⟩
      rintro rfl
      simp [free] at held
    · exact Or.inr ⟨i, Or.inl ⟨rfl, same⟩⟩

/-- A hand can take a node from outside. -/
theorem Placed.hold [DecidableEq I] (placed : Placed contents hand) (i : I)
    (outside : ¬ Within contents hand node) :
    Placed contents (Function.update hand i (some node)) where
  nodup := placed.nodup
  apart := placed.apart
  handApart j q other held listed := by
    rcases hold_iff.mp held with ⟨_, same⟩ | ⟨_, before⟩
    · exact outside (Or.inl ⟨q, same ▸ listed⟩)
    · exact placed.handApart j q other before listed
  handInj j k other heldJ heldK := by
    rcases hold_iff.mp heldJ with ⟨isI, same⟩ | ⟨_, beforeJ⟩ <;>
      rcases hold_iff.mp heldK with ⟨isI', same'⟩ | ⟨_, beforeK⟩
    · exact isI.trans isI'.symm
    · exact absurd (Or.inr ⟨k, same ▸ beforeK⟩) outside
    · exact absurd (Or.inr ⟨j, same' ▸ beforeJ⟩) outside
    · exact placed.handInj j k other beforeJ beforeK

/-- Emptying a hand. -/
theorem drop_iff [DecidableEq I] {i j : I} {other : ν} :
    Function.update hand i none j = some other ↔ j ≠ i ∧ hand j = some other := by
  by_cases same : j = i
  · subst j; simp
  · simp [same]

/-- An emptied hand removes the node it held, which is nowhere else. -/
theorem within_drop [DecidableEq I] (placed : Placed contents hand) {i : I}
    (held : hand i = some node) {other : ν} :
    Within contents (Function.update hand i none) other ↔
      Within contents hand other ∧ other ≠ node := by
  unfold Within
  simp only [drop_iff]
  constructor
  · rintro (⟨q, listed⟩ | ⟨j, differs, also⟩)
    · refine ⟨Or.inl ⟨q, listed⟩, ?_⟩
      rintro rfl
      exact placed.handApart i q other held listed
    · refine ⟨Or.inr ⟨j, also⟩, ?_⟩
      rintro rfl
      exact differs (placed.handInj j i other also held)
  · rintro ⟨listed | ⟨j, also⟩, differs⟩
    · exact Or.inl listed
    · refine Or.inr ⟨j, ?_, also⟩
      rintro rfl
      exact differs (Option.some.inj (also.symm.trans held))

/-- Any hand can be emptied. -/
theorem Placed.drop [DecidableEq I] (placed : Placed contents hand) (i : I) :
    Placed contents (Function.update hand i none) where
  nodup := placed.nodup
  apart := placed.apart
  handApart j q other held := placed.handApart j q other (drop_iff.mp held).2
  handInj j k other heldJ heldK :=
    placed.handInj j k other (drop_iff.mp heldJ).2 (drop_iff.mp heldK).2

/-- Removing a node from a queue. -/
theorem mem_erase_iff [DecidableEq ν] [DecidableEq Q] (placed : Placed contents hand) {q r : Q}
    (listed : node ∈ contents q) {other : ν} :
    other ∈ Function.update contents q ((contents q).erase node) r ↔
      other ∈ contents r ∧ other ≠ node := by
  by_cases same : r = q
  · subst r
    simp only [Function.update_self, (placed.nodup q).mem_erase_iff, and_comm]
  · simp only [Function.update_of_ne same, iff_self_and]
    rintro inside rfl
    exact same (placed.apart r q other inside listed)

/-- A removed node is gone, because it was on no other queue and in no hand. -/
theorem within_erase [DecidableEq ν] [DecidableEq Q] (placed : Placed contents hand) {q : Q}
    (listed : node ∈ contents q) {other : ν} :
    Within (Function.update contents q ((contents q).erase node)) hand other ↔
      Within contents hand other ∧ other ≠ node := by
  unfold Within
  simp only [mem_erase_iff placed listed]
  constructor
  · rintro (⟨r, inside, differs⟩ | ⟨i, held⟩)
    · exact ⟨Or.inl ⟨r, inside⟩, differs⟩
    · refine ⟨Or.inr ⟨i, held⟩, ?_⟩
      rintro rfl
      exact placed.handApart i q other held listed
  · rintro ⟨⟨r, inside⟩ | held, differs⟩
    · exact Or.inl ⟨r, inside, differs⟩
    · exact Or.inr held

/-- Any listed node can be removed. -/
theorem Placed.erase [DecidableEq ν] [DecidableEq Q] (placed : Placed contents hand) (q : Q)
    (listed : node ∈ contents q) :
    Placed (Function.update contents q ((contents q).erase node)) hand where
  nodup r := by
    by_cases same : r = q
    · subst r
      simpa only [Function.update_self] using (placed.nodup q).erase node
    · simpa only [Function.update_of_ne same] using placed.nodup r
  apart r s other inR inS := placed.apart r s other ((mem_erase_iff placed listed).mp inR).1
    ((mem_erase_iff placed listed).mp inS).1
  handApart i r other held inside :=
    placed.handApart i r other held ((mem_erase_iff placed listed).mp inside).1
  handInj := placed.handInj

end AvocadoMisc.Library.Places
