import Mathlib.Order.Basic
import AvocadoMisc.CpuDieTopology.Consistency

/-!
# The CPUs for the performance test

The performance test pins a workload twice: to CPUs of one die, and to CPUs of two dies. It takes
the two dies with the most online CPUs, needs eight on each, and chooses the lowest numbers: up to
sixteen on the first die, then eight on each of the two. It shows the first and the ninth CPU of
the second choice, which are there because that choice always has sixteen.
-/

namespace AvocadoMisc.CpuDieTopology.CpuSets

open Library.Groups Consistency

/-- The CPUs with the die that they count for: die ids below zero do not count. -/
def onNumberedDie (system : System) (cpu : Nat) : Option (Int × Nat) :=
  match dieId system cpu with
  | some die => if die ≥ 0 then some (die, cpu) else none
  | none => none

/-- `die_groups`. -/
def numberedGroups (system : System) : List (Int × List Nat) :=
  group (system.onlineCpus.filterMap (onNumberedDie system))

/-- `sorted_dies`. -/
def sortedDies (system : System) : List (Int × List Nat) :=
  (numberedGroups system).mergeSort fun first second =>
    decide (second.2.length ≤ first.2.length)

/-- `sorted` of some CPUs. -/
def sorted (cpus : List Nat) : List Nat :=
  cpus.mergeSort fun first second => decide (first ≤ second)

/-- `_select_test_cpu_sets`: the CPUs of the fullest die, and eight of each of the two fullest.
There is no result where the source returns `None`: for fewer than two dies or for small ones. -/
def selectTestCpuSets (system : System) : Option (List Nat × List Nat) :=
  if (numberedGroups system).length < 2 then none
  else
    match sortedDies system with
    | (_, die0Cpus) :: (_, die1Cpus) :: _ =>
      if die0Cpus.length < 8 ∨ die1Cpus.length < 8 then none
      else
        let numSameDie := min 16 die0Cpus.length
        let numFromDie0 := min 8 die0Cpus.length
        let numFromDie1 := min 8 die1Cpus.length
        some ((sorted die0Cpus).take numSameDie,
          sorted ((sorted die0Cpus).take numFromDie0 ++ (sorted die1Cpus).take numFromDie1))
    | _ => none

/-- `[cross_die_cpus[0], cross_die_cpus[8]]`. There is no result where an index is too high. -/
def shownCpus (crossDieCpus : List Nat) : Option (Nat × Nat) := do
  let first ← crossDieCpus[0]?
  let ninth ← crossDieCpus[8]?
  some (first, ninth)

/-! ### What is chosen -/

/-- The online CPUs of a die. -/
def cpusOn (system : System) (die : Int) : List Nat :=
  system.onlineCpus.filter fun cpu => dieId system cpu = some die

/-- The `n` lowest of some numbers, in order. -/
structure Lowest (n : Nat) (cpus chosen : List Nat) : Prop where
  count : chosen.length = n
  ascending : chosen.Pairwise (· < ·)
  among : ∀ cpu ∈ chosen, cpu ∈ cpus
  lowest : ∀ cpu ∈ chosen, ∀ other ∈ cpus, other < cpu → other ∈ chosen

/-- The two dies that are chosen, and their CPUs: the dies have the most CPUs, of one the lowest
sixteen are taken at most, and of both together the lowest eight of each, in order. -/
structure Selected (system : System) (sameDieCpus crossDieCpus : List Nat) (die0 die1 : Int) :
    Prop where
  numbered : 0 ≤ die0 ∧ 0 ≤ die1
  different : die0 ≠ die1
  enough : 8 ≤ (cpusOn system die1).length
  fullest : (cpusOn system die1).length ≤ (cpusOn system die0).length
  others : ∀ die, 0 ≤ die → die ≠ die0 → (cpusOn system die).length ≤ (cpusOn system die1).length
  sameDie : Lowest (min 16 (cpusOn system die0).length) (cpusOn system die0) sameDieCpus
  halves : ∃ half0 half1, Lowest 8 (cpusOn system die0) half0 ∧
    Lowest 8 (cpusOn system die1) half1 ∧ crossDieCpus.Perm (half0 ++ half1)
  ascending : crossDieCpus.Pairwise (· < ·)
  shown : ∃ first ninth, shownCpus crossDieCpus = some (first, ninth)

/-- The groups are the numbered dies with all their online CPUs, in the order in which these are
listed. A die without an online CPU has no group. -/
theorem mem_numberedGroups_iff {system : System} {die : Int} {cpus : List Nat} :
    (die, cpus) ∈ numberedGroups system ↔ 0 ≤ die ∧ cpus = cpusOn system die ∧ cpus ≠ [] := by
  have added : addedFor die (system.onlineCpus.filterMap (onNumberedDie system)) =
      if 0 ≤ die then cpusOn system die else [] := by
    have given (cpu : Nat) : ((onNumberedDie system cpu).bind fun found =>
        if found.1 = die then some found.2 else none) =
        if 0 ≤ die ∧ dieId system cpu = some die then some cpu else none := by
      unfold onNumberedDie
      cases read : dieId system cpu with
      | none => simp
      | some number =>
        by_cases here : number = die
        · subst here
          by_cases counts : 0 ≤ number <;> simp [counts]
        · by_cases counts : 0 ≤ number <;> simp [counts, here]
    rw [addedFor_filterMap, funext given]
    by_cases numbered : 0 ≤ die
    · rw [if_pos numbered, cpusOn, ← List.filterMap_eq_filter]
      refine List.filterMap_congr fun cpu _ => ?_
      by_cases here : dieId system cpu = some die <;> simp [numbered, here, Option.guard]
    · simp [numbered]
  rw [numberedGroups, mem_group_iff, added]
  by_cases numbered : 0 ≤ die
  · simp [numbered]
  · simp [numbered]

/-- The CPUs are sorted. -/
theorem sorted_pairwise (cpus : List Nat) : (sorted cpus).Pairwise (· ≤ ·) := by
  have transitive : ∀ first second third : Nat, decide (first ≤ second) = true →
      decide (second ≤ third) = true → decide (first ≤ third) = true := by
    simp only [decide_eq_true_eq]
    exact fun _ _ _ => le_trans
  have total : ∀ first second : Nat,
      (decide (first ≤ second) || decide (second ≤ first)) = true := by
    simp only [Bool.or_eq_true, decide_eq_true_eq]
    exact le_total
  exact (List.pairwise_mergeSort transitive total cpus).imp of_decide_eq_true

/-- Different CPUs are in strict order. -/
theorem sorted_ascending {cpus : List Nat} (distinct : cpus.Nodup) :
    (sorted cpus).Pairwise (· < ·) := by
  have alsoDistinct : (sorted cpus).Nodup := (List.mergeSort_perm cpus _).nodup_iff.mpr distinct
  exact (sorted_pairwise cpus).imp₂ (fun _ _ inOrder differ => lt_of_le_of_ne inOrder differ)
    alsoDistinct

/-- The front of the sorted CPUs has the lowest ones. -/
theorem lowest_take {cpus : List Nat} (distinct : cpus.Nodup) {n : Nat} (enough : n ≤ cpus.length) :
    Lowest n cpus ((sorted cpus).take n) := by
  have ascending := sorted_ascending distinct
  have member (cpu : Nat) : cpu ∈ sorted cpus ↔ cpu ∈ cpus := List.mem_mergeSort
  have length : (sorted cpus).length = cpus.length := List.length_mergeSort cpus
  refine ⟨by simp [length, enough], ascending.sublist (List.take_sublist n _), ?_, ?_⟩
  · exact fun cpu inFront => (member cpu).mp (List.mem_of_mem_take inFront)
  · intro cpu inFront other inCpus lower
    have whole := (member other).mpr inCpus
    rw [← List.take_append_drop n (sorted cpus)] at ascending whole
    rcases List.mem_append.mp whole with front | back
    · exact front
    · exact absurd ((List.pairwise_append.mp ascending).2.2 cpu inFront other back) lower.asymm

/-- The CPUs of a die are different. -/
theorem cpusOn_nodup (system : System) (die : Int) : (cpusOn system die).Nodup :=
  system.distinct.filter _

/-- A group comes before one with fewer CPUs. -/
theorem sortedDies_pairwise (system : System) :
    (sortedDies system).Pairwise fun first second => second.2.length ≤ first.2.length := by
  have transitive : ∀ first second third : Int × List Nat,
      decide (second.2.length ≤ first.2.length) = true →
      decide (third.2.length ≤ second.2.length) = true →
      decide (third.2.length ≤ first.2.length) = true := by
    simp only [decide_eq_true_eq]
    exact fun _ _ _ fewer fewest => fewest.trans fewer
  have total : ∀ first second : Int × List Nat, (decide (second.2.length ≤ first.2.length) ||
      decide (first.2.length ≤ second.2.length)) = true := by
    simp only [Bool.or_eq_true, decide_eq_true_eq]
    exact fun first second => le_total _ _
  exact (List.pairwise_mergeSort transitive total _).imp of_decide_eq_true

/-- The sorted groups are the groups. -/
theorem mem_sortedDies_iff {system : System} {die : Int} {cpus : List Nat} :
    (die, cpus) ∈ sortedDies system ↔ 0 ≤ die ∧ cpus = cpusOn system die ∧ cpus ≠ [] :=
  List.mem_mergeSort.trans mem_numberedGroups_iff

/-- Each die is sorted once. -/
theorem nodup_keys_sortedDies (system : System) : ((sortedDies system).map Prod.fst).Nodup :=
  ((List.mergeSort_perm _ _).map Prod.fst).nodup_iff.mpr (nodup_keys_group _)

/-- A die with an online CPU has a group. -/
theorem group_of_length_pos {system : System} {die : Int} (numbered : 0 ≤ die)
    (something : 0 < (cpusOn system die).length) :
    (die, cpusOn system die) ∈ sortedDies system :=
  mem_sortedDies_iff.mpr ⟨numbered, rfl, List.ne_nil_of_length_pos something⟩

/-- What the first two of the sorted groups are. -/
structure Leading (system : System) (die0 die1 : Int) (cpus0 cpus1 : List Nat) : Prop where
  numbered : 0 ≤ die0 ∧ 0 ≤ die1
  different : die0 ≠ die1
  first : cpus0 = cpusOn system die0
  second : cpus1 = cpusOn system die1
  fullest : cpus1.length ≤ cpus0.length
  others : ∀ die, 0 ≤ die → die ≠ die0 → (cpusOn system die).length ≤ cpus1.length

/-- No other die has more CPUs than the first two groups. The sort is by the number of CPUs from the
highest on, so it puts the fullest dies in front. -/
theorem leading_of_sortedDies {system : System} {die0 die1 : Int} {cpus0 cpus1 : List Nat}
    {others : List (Int × List Nat)}
    (dies : sortedDies system = (die0, cpus0) :: (die1, cpus1) :: others) :
    Leading system die0 die1 cpus0 cpus1 := by
  have distinct := nodup_keys_sortedDies system
  have inOrder := sortedDies_pairwise system
  have member (die : Int) (cpus : List Nat) :
      (die, cpus) ∈ (die0, cpus0) :: (die1, cpus1) :: others ↔
        0 ≤ die ∧ cpus = cpusOn system die ∧ cpus ≠ [] := by
    rw [← dies]
    exact mem_sortedDies_iff
  rw [dies] at distinct inOrder
  have first := (member die0 cpus0).mp (by simp)
  have second := (member die1 cpus1).mp (by simp)
  have afterFirst := List.pairwise_cons.mp inOrder
  have afterSecond := List.pairwise_cons.mp afterFirst.2
  refine ⟨⟨first.1, second.1⟩, ?_, first.2.1, second.2.1,
    afterFirst.1 (die1, cpus1) (by simp), ?_⟩
  · rintro rfl
    simp at distinct
  · intro die numbered elsewhere
    by_cases nothing : cpusOn system die = []
    · simp [nothing]
    · have present := (member die _).mpr ⟨numbered, rfl, nothing⟩
      simp only [List.mem_cons, Prod.mk.injEq, elsewhere, false_and, false_or] at present
      rcases present with ⟨rfl, same⟩ | later
      · rw [same]
      · exact afterSecond.1 _ later

/-- With fewer than two groups no two dies have CPUs. -/
theorem not_two_dies {system : System} (few : (sortedDies system).length < 2) {die other : Int}
    (numbered : 0 ≤ die ∧ 0 ≤ other) (different : die ≠ other)
    (first : 0 < (cpusOn system die).length) : ¬0 < (cpusOn system other).length := by
  intro second
  have both := And.intro (group_of_length_pos numbered.1 first)
    (group_of_length_pos numbered.2 second)
  cases dies : sortedDies system with
  | nil => simp [dies] at both
  | cons entry rest =>
    have alone : rest = [] := by
      rw [dies, List.length_cons] at few
      exact List.eq_nil_of_length_eq_zero (by omega)
    rw [dies, alone, List.mem_singleton, List.mem_singleton] at both
    exact different (congrArg Prod.fst (both.1.trans both.2.symm))

/-- The sixteen CPUs of the second choice are different, since no CPU is on two dies. -/
theorem halves_nodup {system : System} {die0 die1 : Int} (different : die0 ≠ die1)
    {half0 half1 : List Nat} (lowest0 : Lowest 8 (cpusOn system die0) half0)
    (lowest1 : Lowest 8 (cpusOn system die1) half1) : (half0 ++ half1).Nodup := by
  refine List.nodup_append.mpr ⟨lowest0.ascending.imp ne_of_lt, lowest1.ascending.imp ne_of_lt, ?_⟩
  rintro cpu inFirst other inSecond rfl
  have onFirst := lowest0.among cpu inFirst
  have onSecond := lowest1.among cpu inSecond
  simp only [cpusOn, List.mem_filter, decide_eq_true_eq] at onFirst onSecond
  exact different (Option.some.inj (onFirst.2.symm.trans onSecond.2))

/-- Sixteen CPUs have a ninth. -/
theorem exists_shown {cpus : List Nat} (sixteen : cpus.length = 16) :
    ∃ first ninth, shownCpus cpus = some (first, ninth) := by
  have first : cpus[0]? = some cpus[0] := List.getElem?_eq_getElem (by omega)
  have ninth : cpus[8]? = some cpus[8] := List.getElem?_eq_getElem (by omega)
  exact ⟨cpus[0], cpus[8], by rw [shownCpus, first, ninth]; rfl⟩

/-- The chosen CPUs are on one die and on two dies, eight on each, the lowest ones of the two
dies with the most online CPUs. Nothing is chosen only when no two dies have eight CPUs.

Every system is covered, also one without any die. What the test then measures is not part of the
model.

Proof: the dies are sorted by the number of their CPUs, which keeps the order of equal ones, so the
first two are the fullest. -/
theorem selectTestCpuSets_selects (system : System) :
    match selectTestCpuSets system with
    | some (sameDieCpus, crossDieCpus) =>
      ∃ die0 die1, Selected system sameDieCpus crossDieCpus die0 die1
    | none => ∀ die other, 0 ≤ die → 0 ≤ other → die ≠ other →
      8 ≤ (cpusOn system die).length → ¬8 ≤ (cpusOn system other).length := by
  have length : (sortedDies system).length = (numberedGroups system).length :=
    List.length_mergeSort _
  rw [selectTestCpuSets, ← length]
  by_cases few : (sortedDies system).length < 2
  · rw [if_pos few]
    intro die other numbered alsoNumbered different enough alsoEnough
    exact not_two_dies few ⟨numbered, alsoNumbered⟩ different (by omega) (by omega)
  · rw [if_neg few]
    match dies : sortedDies system with
    | [] | [_] => simp [dies] at few
    | (die0, cpus0) :: (die1, cpus1) :: others =>
      have leading := leading_of_sortedDies dies
      by_cases short : cpus0.length < 8 ∨ cpus1.length < 8
      · simp only [if_pos short]
        intro die other numbered alsoNumbered different enough alsoEnough
        have secondShort : cpus1.length < 8 := by
          have := leading.fullest
          omega
        by_cases isFirst : die = die0
        · have := leading.others other alsoNumbered (isFirst ▸ different.symm)
          omega
        · have := leading.others die numbered isFirst
          omega
      · simp only [if_neg short]
        obtain ⟨enough0, enough1⟩ : 8 ≤ cpus0.length ∧ 8 ≤ cpus1.length := by omega
        obtain ⟨numbered, different, rfl, rfl, fullest, rest⟩ := leading
        rw [Nat.min_eq_left enough0, Nat.min_eq_left enough1]
        have half0 := lowest_take (cpusOn_nodup system die0) enough0
        have half1 := lowest_take (cpusOn_nodup system die1) enough1
        have perm : (sorted ((sorted (cpusOn system die0)).take 8 ++
            (sorted (cpusOn system die1)).take 8)).Perm _ := List.mergeSort_perm _ _
        refine ⟨die0, die1, numbered, different, enough1, fullest, rest,
          lowest_take (cpusOn_nodup system die0) (Nat.min_le_right _ _),
          ⟨_, _, half0, half1, perm⟩, sorted_ascending (halves_nodup different half0 half1), ?_⟩
        apply exists_shown
        rw [perm.length_eq, List.length_append, half0.count, half1.count]

end AvocadoMisc.CpuDieTopology.CpuSets
