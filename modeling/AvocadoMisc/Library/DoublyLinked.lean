import Mathlib.Data.List.Nodup

/-!
# Doubly linked lists in a heap of link fields

Every node has a `next` and a `prev` field, kept as two maps from node addresses
to optional addresses. `Linked links contents` says that the fields of the listed
nodes are exactly those of a doubly linked list in that order: at any position,
`prev` is the node before and `next` the node after. Fields of other nodes are
not constrained, so unrelated lists in one heap do not interfere.

The laws for adding at the end, taking the head and removing from the middle
assume only the values of the changed fields. They do not fix the order in which
a program assigns them. `walk` follows `next` from a head and recovers the
contents, so a represented list is determined by the heap.
-/

namespace AvocadoMisc.Library.DoublyLinked

universe u
variable {ν : Type u}

/-- The two link fields of every node. -/
structure Links (ν : Type u) where
  next : ν → Option ν
  prev : ν → Option ν

/-- The listed nodes form a doubly linked list in this order. -/
def Linked (links : Links ν) (contents : List ν) : Prop :=
  ∀ front node back, contents = front ++ node :: back →
    links.prev node = front.getLast? ∧ links.next node = back.head?

/-- No node, no constraint. -/
theorem linked_nil (links : Links ν) : Linked links [] := by
  intro front node back split
  simp at split

/-- Only the fields of the listed nodes matter. -/
theorem Linked.congr {links changed : Links ν} {contents : List ν} (linked : Linked links contents)
    (samePrev : ∀ node ∈ contents, changed.prev node = links.prev node)
    (sameNext : ∀ node ∈ contents, changed.next node = links.next node) :
    Linked changed contents := by
  intro front node back split
  have member : node ∈ contents := by simp [split]
  rw [samePrev node member, sameNext node member]
  exact linked front node back split

/-- The first node has no predecessor. -/
theorem Linked.head_prev {links : Links ν} {contents : List ν} (linked : Linked links contents)
    (head : ν) (first : contents.head? = some head) : links.prev head = none := by
  obtain ⟨rest, rfl⟩ := List.head?_eq_some_iff.mp first
  exact (linked [] head rest rfl).1

/-- The last node has no successor. -/
theorem Linked.last_next {links : Links ν} {contents : List ν} (linked : Linked links contents)
    (last : ν) (final : contents.getLast? = some last) : links.next last = none := by
  obtain ⟨front, rfl⟩ := List.getLast?_eq_some_iff.mp final
  exact (linked front last [] rfl).2

/-- Between listed nodes the two fields are inverse to each other. Both say that
the second node stands right after the first. -/
theorem Linked.inverse {links : Links ν} {contents : List ν} (linked : Linked links contents)
    (left right : ν) (leftMember : left ∈ contents) (rightMember : right ∈ contents) :
    links.next left = some right ↔ links.prev right = some left := by
  constructor
  · intro follows
    obtain ⟨front, back, split⟩ := List.append_of_mem leftMember
    have after : back.head? = some right := (linked front left back split).2.symm.trans follows
    obtain ⟨rest, rfl⟩ := List.head?_eq_some_iff.mp after
    have resplit : contents = (front ++ [left]) ++ right :: rest := by simp [split]
    simpa using (linked (front ++ [left]) right rest resplit).1
  · intro precedes
    obtain ⟨front, back, split⟩ := List.append_of_mem rightMember
    have before : front.getLast? = some left :=
      (linked front right back split).1.symm.trans precedes
    obtain ⟨rest, rfl⟩ := List.getLast?_eq_some_iff.mp before
    have resplit : contents = rest ++ left :: right :: back := by simp [split]
    simpa using (linked rest left (right :: back) resplit).2

/-- A successor of a listed node is listed. -/
theorem Linked.next_mem {links : Links ν} {contents : List ν} (linked : Linked links contents)
    (node after : ν) (member : node ∈ contents) (follows : links.next node = some after) :
    after ∈ contents := by
  obtain ⟨front, back, split⟩ := List.append_of_mem member
  have first : back.head? = some after := (linked front node back split).2.symm.trans follows
  have inBack : after ∈ back := List.mem_of_head? first
  simp [split, inBack]

/-- A predecessor of a listed node is listed. -/
theorem Linked.prev_mem {links : Links ν} {contents : List ν} (linked : Linked links contents)
    (node before : ν) (member : node ∈ contents) (precedes : links.prev node = some before) :
    before ∈ contents := by
  obtain ⟨front, back, split⟩ := List.append_of_mem member
  have last : front.getLast? = some before := (linked front node back split).1.symm.trans precedes
  have inFront : before ∈ front := List.mem_of_getLast? last
  simp [split, inFront]

/-- Linking a new node behind the last one appends it.

A position of the longer list is either the new node itself or a position of the
old list. There only the old last node, which distinctness singles out, has a new
successor. -/
theorem Linked.append {links changed : Links ν} {contents : List ν} {node : ν}
    (linked : Linked links contents) (distinct : contents.Nodup)
    (newPrev : changed.prev node = contents.getLast?) (newNext : changed.next node = none)
    (oldPrev : ∀ other ∈ contents, changed.prev other = links.prev other)
    (lastNext : ∀ last, contents.getLast? = some last → changed.next last = some node)
    (oldNext : ∀ other ∈ contents, contents.getLast? ≠ some other →
      changed.next other = links.next other) :
    Linked changed (contents ++ [node]) := by
  intro front here back split
  rcases List.eq_nil_or_concat back with rfl | ⟨middle, last, rfl⟩
  · obtain ⟨rfl, same⟩ := List.append_inj' split rfl
    obtain rfl : node = here := by simpa using same
    exact ⟨newPrev, newNext⟩
  · have shorter : contents ++ [node] = (front ++ here :: middle) ++ [last] := by simp [split]
    obtain ⟨inner, same⟩ := List.append_inj' shorter rfl
    obtain rfl : node = last := by simpa using same
    have member : here ∈ contents := by simp [inner]
    obtain ⟨before, after⟩ := linked front here middle inner
    refine ⟨(oldPrev here member).trans before, ?_⟩
    cases middle with
    | nil =>
      have final : contents.getLast? = some here := by simp [inner]
      simpa using lastNext here final
    | cons follower rest =>
      have notLast : contents.getLast? ≠ some here := by
        intro final
        have inRest : here ∈ follower :: rest := by
          apply List.mem_of_getLast?
          simpa [inner] using final
        rw [inner] at distinct
        exact (List.nodup_cons.mp (List.nodup_append.mp distinct).2.1).1 inRest
      rw [oldNext here member notLast, after]
      simp

/-- Removing a listed node and joining its neighbours leaves the other nodes
linked in their order. The head and the last node are the cases with no
predecessor and no successor. -/
theorem Linked.remove {links changed : Links ν} {front back : List ν} {node : ν}
    (linked : Linked links (front ++ node :: back)) (distinct : (front ++ node :: back).Nodup)
    (joinNext : ∀ before, front.getLast? = some before → changed.next before = back.head?)
    (joinPrev : ∀ after, back.head? = some after → changed.prev after = front.getLast?)
    (oldNext : ∀ other ∈ front ++ back, front.getLast? ≠ some other →
      changed.next other = links.next other)
    (oldPrev : ∀ other ∈ front ++ back, back.head? ≠ some other →
      changed.prev other = links.prev other) :
    Linked changed (front ++ back) := by
  intro ahead here behind split
  have member : here ∈ front ++ back := by simp [split]
  have unique : (front ++ back).Nodup := by
    have sublist : (front ++ back).Sublist (front ++ node :: back) :=
      List.Sublist.append_left (List.sublist_cons_self node back) front
    exact distinct.sublist sublist
  rcases List.append_eq_append_iff.mp split with ⟨between, rfl, rfl⟩ | ⟨between, rfl, rest⟩
  · -- The position lies in the part behind the removed node.
    obtain ⟨before, after⟩ := linked (front ++ node :: between) here behind (by simp)
    have notLast : front.getLast? ≠ some here := by
      intro final
      have inFront : here ∈ front := List.mem_of_getLast? final
      exact List.disjoint_of_nodup_append unique inFront (by simp)
    refine ⟨?_, (oldNext here member notLast).trans after⟩
    cases between with
    | nil => simpa using joinPrev here (by simp)
    | cons first others =>
      have notFirst : (first :: others ++ here :: behind).head? ≠ some here := by
        intro head
        obtain rfl : first = here := by simpa using head
        have inner : (first :: others ++ first :: behind).Nodup := (List.nodup_append.mp unique).2.1
        simp at inner
      rw [oldPrev here member notFirst, before]
      simp
  · -- The position lies in the part ahead of the removed node.
    cases between with
    | nil =>
      obtain rfl : back = here :: behind := by simpa using rest.symm
      obtain ⟨before, after⟩ := linked (ahead ++ [node]) here behind (by simp)
      have notLast : (ahead ++ []).getLast? ≠ some here := by
        intro final
        have inFront : here ∈ ahead := by simpa using List.mem_of_getLast? final
        exact List.disjoint_of_nodup_append (by simpa using unique) inFront List.mem_cons_self
      refine ⟨by simpa using joinPrev here rfl, ?_⟩
      rw [oldNext here member notLast, after]
    | cons first others =>
      obtain ⟨rfl, rfl⟩ : here = first ∧ behind = others ++ back := by simpa using rest
      obtain ⟨before, after⟩ := linked ahead here (others ++ node :: back) (by simp)
      have notFirst : back.head? ≠ some here := by
        intro head
        have inBack : here ∈ back := List.mem_of_head? head
        exact List.disjoint_of_nodup_append unique (by simp) inBack
      refine ⟨(oldPrev here member notFirst).trans before, ?_⟩
      cases others with
      | nil => simpa using joinNext here (by simp)
      | cons follower remaining =>
        have notLast : (ahead ++ here :: follower :: remaining).getLast? ≠ some here := by
          intro final
          have inRest : here ∈ follower :: remaining := by
            apply List.mem_of_getLast?
            simpa using final
          have inner : (here :: follower :: remaining).Nodup :=
            (List.nodup_append.mp (List.nodup_append.mp unique).1).2.1
          exact (List.nodup_cons.mp inner).1 inRest
        rw [oldNext here member notLast, after]
        simp

/-- Follow `next` from an optional first node, for at most `fuel` nodes. -/
def walk (next : ν → Option ν) : Nat → Option ν → List ν
  | 0, _ => []
  | _ + 1, none => []
  | fuel + 1, some node => node :: walk next fuel (next node)

/-- With enough fuel the walk from the head lists a represented list. -/
theorem Linked.walk_eq {links : Links ν} {contents : List ν} (linked : Linked links contents)
    (fuel : Nat) (enough : contents.length ≤ fuel) :
    walk links.next fuel contents.head? = contents := by
  have suffix (back : List ν) : ∀ front fuel, contents = front ++ back → back.length ≤ fuel →
      walk links.next fuel back.head? = back := by
    induction back with
    | nil =>
      intro front fuel _ _
      cases fuel <;> rfl
    | cons node rest inductionHypothesis =>
      intro front fuel split bound
      obtain ⟨remaining, rfl⟩ : ∃ remaining, fuel = remaining + 1 :=
        Nat.exists_eq_succ_of_ne_zero (by simp only [List.length_cons] at bound; omega)
      have follows : links.next node = rest.head? := (linked front node rest split).2
      have further : walk links.next remaining rest.head? = rest :=
        inductionHypothesis (front ++ [node]) remaining (by simp [split])
          (by simpa using bound)
      simp only [List.head?_cons, walk, follows, further]
  exact suffix contents [] fuel rfl enough

end AvocadoMisc.Library.DoublyLinked
