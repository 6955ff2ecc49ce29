import Mathlib.Data.List.Basic
import Mathlib.Data.List.Induction
import Mathlib.Logic.Function.Basic

/-!
# Values that a key determines

Entries have a key and a value. The values factor through the keys when entries with one key have
one value. A walk that keeps the first value of each key finds every entry that differs from it,
so it finds none exactly when the values factor.
-/

namespace AvocadoMisc.Library.Factoring

universe u v w
variable {α : Type u} {κ : Type v} {β : Type w} (key : α → κ) (value : α → β)

/-- A key is related to at most one value, the one that a function gives. -/
def Factors (related : κ → β → Prop) : Prop :=
  ∃ determined : κ → β, ∀ k v, related k v → v = determined k

/-- It is enough to compare the values of a key with each other. -/
theorem factors_iff [Nonempty β] (related : κ → β → Prop) :
    Factors related ↔ ∀ k v other, related k v → related k other → v = other := by
  constructor
  · rintro ⟨determined, agrees⟩ k v other first second
    rw [agrees k v first, agrees k other second]
  · intro agree
    have chosen (k : κ) : ∃ determined, ∀ v, related k v → v = determined := by
      by_cases some_value : ∃ v, related k v
      · obtain ⟨value, first⟩ := some_value
        exact ⟨value, fun v second => agree k v value second first⟩
      · exact ⟨Classical.arbitrary β, fun v relates => absurd ⟨v, relates⟩ some_value⟩
    choose determined agrees using chosen
    exact ⟨determined, agrees⟩

/-- The values that entries give to their keys. -/
def Given (entries : List α) (k : κ) (v : β) : Prop :=
  ∃ entry ∈ entries, key entry = k ∧ value entry = v

variable [DecidableEq κ]

/-- The value of the first entry with a key. -/
def firstValue (entries : List α) (k : κ) : Option β :=
  (entries.find? fun entry => key entry = k).map value

/-- A later entry counts only for a key that has no value yet. -/
theorem firstValue_append (entries : List α) (entry : α) (k : κ) :
    firstValue key value (entries ++ [entry]) k =
      (firstValue key value entries k).or (if key entry = k then some (value entry) else none) := by
  by_cases here : key entry = k <;>
    cases found : entries.find? (fun other => key other = k) <;>
      simp [firstValue, List.find?_append, found, here]

/-- A key of an entry has a value. -/
theorem exists_firstValue {entries : List α} {entry : α} (member : entry ∈ entries) :
    ∃ first ∈ entries, key first = key entry ∧
      firstValue key value entries (key entry) = some (value first) := by
  cases found : entries.find? (fun other => key other = key entry) with
  | none => simpa using List.find?_eq_none.mp found entry member
  | some first =>
    exact ⟨first, List.mem_of_find?_eq_some found, by simpa using List.find?_some found,
      by simp [firstValue, found]⟩

variable [DecidableEq β]

/-- The value that an entry should have, if it has another one. -/
def expected (values : κ → Option β) (entry : α) : Option β :=
  (values (key entry)).filter (· ≠ value entry)

/-- Note the value of a new key, or an entry that differs from the value noted for its key. -/
def note (noted : (κ → Option β) × List (α × β)) (entry : α) : (κ → Option β) × List (α × β) :=
  match noted.1 (key entry) with
  | none => (Function.update noted.1 (key entry) (some (value entry)), noted.2)
  | some first =>
    if first ≠ value entry then (noted.1, noted.2 ++ [(entry, first)]) else noted

/-- The entries that differ from the first one with their key, each with the value expected. -/
def misfits (entries : List α) : List (α × β) :=
  entries.filterMap fun entry =>
    (expected key value (firstValue key value entries) entry).map fun first => (entry, first)

/-- What is expected of an entry does not change with later ones. -/
theorem expected_append {entries : List α} {entry : α} (member : entry ∈ entries) (later : α) :
    expected key value (firstValue key value (entries ++ [later])) entry =
      expected key value (firstValue key value entries) entry := by
  obtain ⟨first, -, -, found⟩ := exists_firstValue key value member
  rw [expected, expected, firstValue_append, found, Option.some_or]

/-- The misfits so far stay. -/
theorem misfits_append (entries : List α) (later : α) :
    misfits key value (entries ++ [later]) = misfits key value entries ++
      ((expected key value (firstValue key value (entries ++ [later])) later).map
        fun first => (later, first)).toList := by
  have before : entries.filterMap (fun entry =>
      (expected key value (firstValue key value (entries ++ [later])) entry).map
        fun first => (entry, first)) = misfits key value entries :=
    List.filterMap_congr fun entry member => by
      rw [expected_append key value member later]
  rw [misfits, List.filterMap_append, before]
  cases found : expected key value (firstValue key value (entries ++ [later])) later <;>
    simp [found]

/-- The walk ends with the first values and the misfits. The induction is on the entries from the
right, so that it adds one entry to what the walk has noted. -/
theorem foldl_note (entries : List α) :
    entries.foldl (note key value) (fun _ => none, []) =
      (firstValue key value entries, misfits key value entries) := by
  induction entries using List.reverseRecOn with
  | nil => rfl
  | append_singleton earlier later inductionHypothesis =>
    rw [List.foldl_append, inductionHypothesis, List.foldl_cons, List.foldl_nil, misfits_append,
      expected, firstValue_append, if_pos rfl]
    cases found : firstValue key value earlier (key later) with
    | none =>
      have first : firstValue key value (earlier ++ [later]) =
          Function.update (firstValue key value earlier) (key later) (some (value later)) := by
        funext k
        rw [firstValue_append, Function.update_apply]
        by_cases here : key later = k
        · subst here
          simp [found]
        · simp [here, Ne.symm here]
      simp [note, found, first]
    | some first =>
      have same : firstValue key value (earlier ++ [later]) = firstValue key value earlier := by
        funext k
        rw [firstValue_append]
        by_cases here : key later = k
        · subst here
          simp [found]
        · simp [here]
      by_cases fits : first = value later <;> simp [note, found, same, fits, Option.filter]

/-- An entry is a misfit when the first entry with its key has another value. -/
theorem mem_misfits_iff {entries : List α} {entry : α} {first : β} :
    (entry, first) ∈ misfits key value entries ↔ entry ∈ entries ∧
      firstValue key value entries (key entry) = some first ∧ first ≠ value entry := by
  simp [misfits, expected, Option.filter_eq_some_iff]

/-- There are no misfits exactly when the values factor through the keys. So a single walk that
remembers first values decides a statement about all pairs of entries. -/
theorem misfits_eq_nil_iff [Nonempty β] (entries : List α) :
    misfits key value entries = [] ↔ Factors (Given key value entries) := by
  rw [factors_iff, List.eq_nil_iff_forall_not_mem]
  constructor
  · rintro none k v w ⟨first, inFirst, rfl, rfl⟩ ⟨second, inSecond, same, rfl⟩
    have fits (entry : α) (member : entry ∈ entries) :
        firstValue key value entries (key entry) = some (value entry) := by
      obtain ⟨other, -, -, found⟩ := exists_firstValue key value member
      have agrees : value other = value entry := by
        by_contra differs
        exact none (entry, value other)
          ((mem_misfits_iff key value).mpr ⟨member, found, differs⟩)
      rw [found, agrees]
    have both := fits first inFirst
    rw [← same, fits second inSecond] at both
    exact (Option.some.inj both).symm
  · rintro agree ⟨entry, first⟩ misfit
    obtain ⟨member, found, differs⟩ := (mem_misfits_iff key value).mp misfit
    obtain ⟨other, inOther, same, value⟩ := exists_firstValue key value member
    rw [found] at value
    exact differs ((Option.some.inj value).trans
      (agree _ _ _ ⟨other, inOther, same, rfl⟩ ⟨entry, member, rfl, rfl⟩))

end AvocadoMisc.Library.Factoring
