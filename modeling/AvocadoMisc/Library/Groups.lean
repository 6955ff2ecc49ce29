import Mathlib.Data.List.Induction
import Mathlib.Data.List.Nodup

/-!
# Values grouped by a key

A dictionary whose values are lists, in the order in which its keys came. A value is added to the
list of its key, and a new key comes last with a list of its own.

What a dictionary has for a key after some additions are the values that were added for the key,
in order.
-/

namespace AvocadoMisc.Library.Groups

universe u v
variable {κ : Type u} {α : Type v} [DecidableEq κ]

/-- Add a value to the list of a key. -/
def add (key : κ) (value : α) : List (κ × List α) → List (κ × List α)
  | [] => [(key, [value])]
  | (other, values) :: rest =>
    if other = key then (other, values ++ [value]) :: rest
    else (other, values) :: add key value rest

/-- The dictionary after some additions. -/
def group (pairs : List (κ × α)) : List (κ × List α) :=
  pairs.foldl (fun groups pair => add pair.1 pair.2 groups) []

/-- The values that were added for a key. -/
def addedFor (key : κ) (pairs : List (κ × α)) : List α :=
  (pairs.filter fun pair => pair.1 = key).map Prod.snd

/-- A list that is on record unless it is empty. -/
def recorded : List α → Option (List α)
  | [] => none
  | value :: others => some (value :: others)

/-- The values for a key among those that some items give. -/
theorem addedFor_filterMap {γ : Type*} (pair : γ → Option (κ × α)) (items : List γ) (key : κ) :
    addedFor key (items.filterMap pair) = items.filterMap fun item =>
      (pair item).bind fun found => if found.1 = key then some found.2 else none := by
  induction items with
  | nil => rfl
  | cons item rest inductionHypothesis =>
    cases given : pair item with
    | none => simpa [addedFor, List.filterMap_cons, given] using inductionHypothesis
    | some found =>
      by_cases here : found.1 = key <;>
        simpa [addedFor, List.filterMap_cons, given, here] using inductionHypothesis

/-- Only the list of the key changes. It gets the value at its end, and a key that is new gets a
list with this value alone. -/
theorem lookup_add [BEq κ] [LawfulBEq κ] (key other : κ) (value : α) (groups : List (κ × List α)) :
    (add key value groups).lookup other =
      if other = key then some ((groups.lookup key).getD [] ++ [value])
      else groups.lookup other := by
  induction groups with
  | nil =>
    by_cases same : other = key
    · simp [add, same]
    · have differs : (other == key) = false := by simpa using same
      simp [add, same, List.lookup_cons, differs]
  | cons entry rest inductionHypothesis =>
    obtain ⟨present, values⟩ := entry
    by_cases here : present = key
    · subst here
      by_cases same : other = present
      · simp [add, same]
      · have differs : (other == present) = false := by simpa using same
        simp [add, same, List.lookup_cons, differs]
    · have further : (key == present) = false := by simpa using Ne.symm here
      rw [add, if_neg here, List.lookup_cons, List.lookup_cons, List.lookup_cons, further,
        inductionHypothesis]
      by_cases same : other = present
      · subst same
        simp [here]
      · have differs : (other == present) = false := by simpa using same
        simp [differs]

/-- The entries are the old ones, but for the one with one value more, whose earlier values are
those of an old entry or none. -/
theorem mem_add {key other : κ} {value : α} {values : List α} {groups : List (κ × List α)}
    (member : (other, values) ∈ add key value groups) :
    (other, values) ∈ groups ∨ other = key ∧ ∃ earlier, values = earlier ++ [value] ∧
      (earlier = [] ∨ (key, earlier) ∈ groups) := by
  induction groups with
  | nil =>
    obtain ⟨rfl, rfl⟩ : other = key ∧ values = [value] := by simpa [add] using member
    exact Or.inr ⟨rfl, [], rfl, Or.inl rfl⟩
  | cons entry rest inductionHypothesis =>
    obtain ⟨present, listed⟩ := entry
    unfold add at member
    split at member
    case isTrue here =>
      subst here
      rcases List.mem_cons.mp member with first | later
      · obtain ⟨rfl, rfl⟩ := Prod.mk.inj first
        exact Or.inr ⟨rfl, listed, rfl, Or.inr (by simp)⟩
      · exact Or.inl (List.mem_cons_of_mem _ later)
    case isFalse =>
      rcases List.mem_cons.mp member with first | later
      · exact Or.inl (by rw [first]; simp)
      · rcases inductionHypothesis later with old | ⟨same, earlier, split, before⟩
        · exact Or.inl (List.mem_cons_of_mem _ old)
        · exact Or.inr ⟨same, earlier, split, before.imp_right (List.mem_cons_of_mem _)⟩

/-- The dictionary has the values that were added for a key. -/
theorem lookup_group [BEq κ] [LawfulBEq κ] (pairs : List (κ × α)) (key : κ) :
    (group pairs).lookup key = recorded (addedFor key pairs) := by
  induction pairs using List.reverseRecOn with
  | nil => rfl
  | append_singleton earlier pair inductionHypothesis =>
    obtain ⟨other, value⟩ := pair
    rw [group, List.foldl_append, List.foldl_cons, List.foldl_nil, ← group, lookup_add, addedFor,
      List.filter_append, List.map_append, ← addedFor]
    by_cases same : key = other
    · subst same
      rw [if_pos rfl, inductionHypothesis]
      cases addedFor key earlier <;> simp [recorded]
    · rw [if_neg same, inductionHypothesis]
      simp [Ne.symm same]

/-- An entry of the dictionary has some values, and all were added for its key. -/
theorem mem_group {pairs : List (κ × α)} {key : κ} {values : List α}
    (member : (key, values) ∈ group pairs) :
    values ≠ [] ∧ ∀ value ∈ values, (key, value) ∈ pairs := by
  induction pairs using List.reverseRecOn generalizing values with
  | nil => simp [group] at member
  | append_singleton earlier pair inductionHypothesis =>
    rw [group, List.foldl_append, List.foldl_cons, List.foldl_nil, ← group] at member
    rcases mem_add member with old | ⟨same, before, rfl, listed⟩
    · obtain ⟨something, added⟩ := inductionHypothesis old
      exact ⟨something, fun value inside => List.mem_append_left _ (added value inside)⟩
    · refine ⟨by simp, fun value inside => ?_⟩
      rcases List.mem_append.mp inside with inBefore | last
      · rcases listed with nothing | present
        · rw [nothing] at inBefore
          cases inBefore
        · exact List.mem_append_left _ ((inductionHypothesis (same ▸ present)).2 value inBefore)
      · rw [List.mem_singleton.mp last, same]
        simp

/-- No key comes twice. -/
theorem nodup_keys_add (key : κ) (value : α) {groups : List (κ × List α)}
    (distinct : (groups.map Prod.fst).Nodup) :
    ((add key value groups).map Prod.fst).Nodup := by
  have keys : (add key value groups).map Prod.fst = groups.map Prod.fst ∨
      key ∉ groups.map Prod.fst ∧
        (add key value groups).map Prod.fst = groups.map Prod.fst ++ [key] := by
    clear distinct
    induction groups with
    | nil => exact Or.inr ⟨by simp, rfl⟩
    | cons entry rest inductionHypothesis =>
      obtain ⟨present, values⟩ := entry
      unfold add
      split
      case isTrue => exact Or.inl rfl
      case isFalse here =>
        rcases inductionHypothesis with same | ⟨absent, last⟩
        · exact Or.inl (by simp [same])
        · exact Or.inr ⟨by simpa [Ne.symm here] using absent, by simp [last]⟩
  rcases keys with same | ⟨absent, last⟩
  · rwa [same]
  · rw [last, ← List.concat_eq_append]
    exact List.Nodup.concat absent distinct

/-- Each key has one entry. -/
theorem nodup_keys_group (pairs : List (κ × α)) : ((group pairs).map Prod.fst).Nodup := by
  induction pairs using List.reverseRecOn with
  | nil => exact List.nodup_nil
  | append_singleton earlier pair inductionHypothesis =>
    rw [group, List.foldl_append, List.foldl_cons, List.foldl_nil, ← group]
    exact nodup_keys_add pair.1 pair.2 inductionHypothesis

/-- The entries of the dictionary are the keys with all values that were added for them. -/
theorem mem_group_iff {pairs : List (κ × α)} {key : κ} {values : List α} :
    (key, values) ∈ group pairs ↔ values = addedFor key pairs ∧ values ≠ [] := by
  have found : (group pairs).lookup key = recorded (addedFor key pairs) := lookup_group pairs key
  constructor
  · intro member
    have value : (group pairs).lookup key = some values := by
      obtain ⟨front, back, split⟩ := List.append_of_mem member
      have distinct := nodup_keys_group pairs
      rw [split, List.map_append, List.map_cons, List.nodup_append] at distinct
      refine List.lookup_eq_some_iff.mpr ⟨front, back, split, fun pair inFront => ?_⟩
      have differs := distinct.2.2 pair.1 (List.mem_map_of_mem inFront) key List.mem_cons_self
      simpa using Ne.symm differs
    rw [value] at found
    cases added : addedFor key pairs with
    | nil => simp [added, recorded] at found
    | cons first others =>
      have same : values = first :: others := by simpa [added, recorded] using found
      exact ⟨same, by simp [same]⟩
  · rintro ⟨rfl, something⟩
    obtain ⟨first, others, added⟩ := List.exists_cons_of_ne_nil something
    rw [added] at found ⊢
    obtain ⟨front, back, split, -⟩ := List.lookup_eq_some_iff.mp found
    simp [split]

end AvocadoMisc.Library.Groups
