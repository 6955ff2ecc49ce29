import Mathlib.Data.List.Nodup
import AvocadoMisc.Library.Ranges
import AvocadoMisc.Library.Parts
import AvocadoMisc.MemHotplug.Restore

/-!
# Which nodes the test visits

The kernel prints the nodes that have normal memory as a list of ranges, and
`test_hotplug_per_numa_node` splits that list at commas and at hyphens. So it visits the two ends of
each range and leaves out what is between them.
-/

namespace AvocadoMisc.MemHotplug.NodeLists

open Library.Text Library.Ranges Restore

/-! ### What the kernel prints -/

/-- A range of more than one node is printed with a hyphen. -/
def rangeText (range : Range) : List Char :=
  if range.first = range.last then decimal range.first
  else decimal range.first ++ '-' :: decimal range.last

/-- The ranges, separated by commas, with newlines at the end. -/
def hasNormalMemory (nodes : RangeList) (newlines : Nat) : List Char :=
  [','].intercalate (nodes.ranges.map rangeText) ++ List.replicate newlines '\n'

/-- The nodes are visited that the list denotes, each of them once, in any order. -/
def VisitsOnce (nodes : RangeList) (visited : List (List Char)) : Prop :=
  visited.Nodup ∧ ∀ node, node ∈ visited ↔ ∃ n, nodes.Denotes n ∧ node = decimal n

/-- There is a node, and no range has more than two of them. -/
def Short (nodes : RangeList) : Prop :=
  nodes.ranges ≠ [] ∧ ∀ range ∈ nodes.ranges, range.last ≤ range.first + 1

/-! ### The pieces -/

/-- The ends of a range. -/
def ends (range : Range) : List Nat :=
  if range.first = range.last then [range.first] else [range.first, range.last]

/-- The characters of the pattern. -/
def separates (c : Char) : Bool := c = ',' || c = '-'

/-- A digit does not separate. -/
theorem separates_digit {n : Nat} : ∀ c ∈ decimal n, separates c = false := by
  intro c member
  have digit := decimal_digits n c member
  have noComma : c ≠ ',' := by
    rintro rfl
    exact absurd digit (by decide)
  have noHyphen : c ≠ '-' := by
    rintro rfl
    exact absurd digit (by decide)
  simp [separates, noComma, noHyphen]

/-- The pieces between separators, without their newlines. -/
theorem splitNodes_eq (nodes : List Char) :
    splitNodes nodes = (nodes.splitOnP separates).map stripNewline := rfl

/-- Newlines behind a number are stripped. -/
theorem stripNewline_decimal (n newlines : Nat) :
    stripNewline (decimal n ++ List.replicate newlines '\n') = decimal n := by
  have isWord : IsWord (fun c => decide (c = '\n')) (decimal n) := by
    refine ⟨(decimal_isWord n).nonempty, fun c member => decide_eq_false ?_⟩
    rintro rfl
    exact absurd (decimal_digits n '\n' member) (by decide)
  have blank : Blank (fun c => decide (c = '\n')) (List.replicate newlines '\n') := by
    intro c member
    exact decide_eq_true (List.eq_of_mem_replicate member)
  rw [stripNewline, isWord.dropWhile]
  exact isWord.rstrip blank

/-- A number in front of a separator is the first piece. -/
theorem splitNodes_number (n : Nat) {separator : Char} (rest : List Char)
    (between : separates separator = true) :
    splitNodes (decimal n ++ separator :: rest) = decimal n :: splitNodes rest := by
  have stripped := stripNewline_decimal n 0
  rw [List.replicate_zero, List.append_nil] at stripped
  rw [splitNodes_eq, List.splitOnP_append_cons _ _ between,
    List.splitOnP_eq_singleton separates_digit, splitNodes_eq, List.singleton_append,
    List.map_cons, stripped]

/-- A number in front of newlines is the last piece. -/
theorem splitNodes_last (n newlines : Nat) :
    splitNodes (decimal n ++ List.replicate newlines '\n') = [decimal n] := by
  rw [splitNodes_eq, List.splitOnP_eq_singleton, List.map_singleton, stripNewline_decimal]
  intro c member
  rcases List.mem_append.mp member with inNumber | inNewlines
  · exact separates_digit c inNumber
  · rw [List.eq_of_mem_replicate inNewlines]
    decide

/-- A range in front of newlines leaves its ends. -/
theorem splitNodes_range_last (range : Range) (newlines : Nat) :
    splitNodes (rangeText range ++ List.replicate newlines '\n') = (ends range).map decimal := by
  unfold rangeText ends
  split
  · exact splitNodes_last range.first newlines
  · rw [List.append_assoc, List.cons_append, splitNodes_number _ _ (by decide), splitNodes_last]
    rfl

/-- So does a range in front of a comma. -/
theorem splitNodes_range (range : Range) (rest : List Char) :
    splitNodes (rangeText range ++ ',' :: rest) = (ends range).map decimal ++ splitNodes rest := by
  unfold rangeText ends
  split
  · exact splitNodes_number range.first rest (by decide)
  · rw [List.append_assoc, List.cons_append, splitNodes_number _ _ (by decide),
      splitNodes_number _ _ (by decide)]
    rfl

/-- The ends of all ranges are visited. -/
theorem splitNodes_ranges {ranges : List Range} (nonempty : ranges ≠ []) (newlines : Nat) :
    splitNodes ([','].intercalate (ranges.map rangeText) ++ List.replicate newlines '\n') =
      (ranges.flatMap ends).map decimal := by
  induction ranges with
  | nil => exact absurd rfl nonempty
  | cons range rest inductionHypothesis =>
    cases rest with
    | nil => simpa using splitNodes_range_last range newlines
    | cons second others =>
      have further := inductionHypothesis (List.cons_ne_nil second others)
      rw [List.map_cons, List.map_cons, List.intercalate_cons_cons, List.append_assoc,
        List.append_assoc, List.singleton_append, splitNodes_range, ← List.map_cons, further,
        ← List.map_append]
      rfl

/-! ### The law -/

/-- The ends lie in the range. -/
theorem contains_of_mem_ends {range : Range} {n : Nat} (member : n ∈ ends range) :
    range.Contains n := by
  have ordered := range.ordered
  unfold ends at member
  split at member
  · obtain rfl : n = range.first := by simpa using member
    exact ⟨le_refl _, ordered⟩
  · rcases List.mem_pair.mp member with rfl | rfl
    · exact ⟨le_refl _, ordered⟩
    · exact ⟨ordered, le_refl _⟩

/-- No end is visited twice. -/
theorem ends_nodup (nodes : RangeList) : (nodes.ranges.flatMap ends).Nodup := by
  rw [List.nodup_flatMap]
  constructor
  · intro range _
    unfold ends
    split
    · exact List.nodup_singleton _
    · next differ => exact List.nodup_cons.mpr ⟨by simpa using differ, List.nodup_singleton _⟩
  · apply nodes.separated.imp
    intro earlier later gap n inEarlier inLater
    have high : n ≤ earlier.last := (contains_of_mem_ends inEarlier).2
    have low : later.first ≤ n := (contains_of_mem_ends inLater).1
    omega

/-- The ends are all there is to a range exactly when it has at most two nodes. -/
theorem forall_contains_mem_ends_iff (range : Range) :
    (∀ n, range.Contains n → n ∈ ends range) ↔ range.last ≤ range.first + 1 := by
  have ordered := range.ordered
  constructor
  · intro all
    by_contra long
    have inside : range.Contains (range.first + 1) := ⟨by omega, by omega⟩
    have member := all _ inside
    rw [ends, if_neg (by omega), List.mem_pair] at member
    omega
  · rintro short n ⟨low, high⟩
    unfold ends
    split
    · exact List.mem_singleton.mpr (by omega)
    · exact List.mem_pair.mpr (by omega)

/-- The ends are nodes of the list. -/
theorem denotes_of_mem_ends {nodes : RangeList} {n : Nat}
    (visited : n ∈ nodes.ranges.flatMap ends) : nodes.Denotes n := by
  obtain ⟨range, inList, isEnd⟩ := List.mem_flatMap.mp visited
  exact ⟨range, inList, contains_of_mem_ends isEnd⟩

/-- They are all the nodes exactly when no range has more than two. -/
theorem forall_denotes_mem_ends_iff (nodes : RangeList) :
    (∀ n, nodes.Denotes n → n ∈ nodes.ranges.flatMap ends) ↔
      ∀ range ∈ nodes.ranges, range.last ≤ range.first + 1 := by
  constructor
  · intro all range inList
    rw [← forall_contains_mem_ends_iff]
    intro n inside
    obtain ⟨around, inListToo, isEnd⟩ := List.mem_flatMap.mp (all n ⟨range, inList, inside⟩)
    have same := nodes.range_unique inList inListToo inside (contains_of_mem_ends isEnd)
    exact same ▸ isEnd
  · rintro short n ⟨range, inList, inside⟩
    have isEnd := (forall_contains_mem_ends_iff range).mpr (short range inList) n inside
    exact List.mem_flatMap.mpr ⟨range, inList, isEnd⟩

/-- An empty list still has one piece, which is no node. -/
theorem not_visitsOnce_of_empty {nodes : RangeList} (empty : nodes.ranges = []) (newlines : Nat) :
    ¬ VisitsOnce nodes (splitNodes (hasNormalMemory nodes newlines)) := by
  rintro ⟨_, denoted⟩
  have pieces : splitNodes (hasNormalMemory nodes newlines) ≠ [] := by
    simp [splitNodes, List.splitOnP_ne_nil]
  obtain ⟨node, member⟩ := List.exists_mem_of_ne_nil _ pieces
  obtain ⟨n, ⟨range, inList, _⟩, _⟩ := (denoted node).mp member
  rw [empty] at inList
  cases inList

/-- The nodes of a list are visited once each exactly when there are some and no range has more
than two of them.

The list is any that the kernel prints, with any number of newlines behind it.

Proof: of each range its two ends are visited, and a single node is its own end. -/
theorem visitsOnce_iff (nodes : RangeList) (newlines : Nat) :
    VisitsOnce nodes (splitNodes (hasNormalMemory nodes newlines)) ↔ Short nodes := by
  by_cases empty : nodes.ranges = []
  · exact iff_of_false (not_visitsOnce_of_empty empty newlines) fun short => short.1 empty
  · rw [hasNormalMemory, splitNodes_ranges empty, Short, ← forall_denotes_mem_ends_iff]
    constructor
    · rintro ⟨_, denoted⟩
      refine ⟨empty, fun n inside => ?_⟩
      obtain ⟨other, visited, same⟩ :=
        List.mem_map.mp ((denoted (decimal n)).mpr ⟨n, inside, rfl⟩)
      exact decimal_injective same ▸ visited
    · rintro ⟨_, all⟩
      refine ⟨(ends_nodup nodes).map (fun _ _ => decimal_injective), fun node => ?_⟩
      constructor
      · intro member
        obtain ⟨n, visited, rfl⟩ := List.mem_map.mp member
        exact ⟨n, denotes_of_mem_ends visited, rfl⟩
      · rintro ⟨n, inside, rfl⟩
        exact List.mem_map_of_mem (all n inside)

/-- The nodes `0-3,8`. -/
def fiveNodes : RangeList where
  ranges := [⟨0, 3, by decide⟩, ⟨7, 7, by decide⟩]
  separated := by decide

/-- Nodes 1 and 2 are not visited. -/
theorem not_visitsOnce_fiveNodes :
    ¬ VisitsOnce fiveNodes (splitNodes (hasNormalMemory fiveNodes 1)) := by
  have visited : splitNodes (hasNormalMemory fiveNodes 1) = [['0'], ['3'], ['7']] := by
    decide +kernel
  rintro ⟨_, denoted⟩
  have inside : fiveNodes.Denotes 1 :=
    ⟨⟨0, 3, by decide⟩, List.mem_cons_self, by decide, by decide⟩
  have member := (denoted (decimal 1)).mpr ⟨1, inside, rfl⟩
  rw [visited] at member
  exact absurd member (by decide)

end AvocadoMisc.MemHotplug.NodeLists
