import AvocadoMisc.Vpd.Parsers

/-!
# What `parse_lsvpd_block` keeps of a field

A key that is printed with one value has that value in the dictionary, and a key that is printed
with several has their list. A line without a value writes `None` over what was there before, and
a value after it makes a list with the `None` in front. The key `missing_fields` is used for the
list of keys without a value.
-/

namespace AvocadoMisc.Vpd.Fields

open Parsers

/-- The values printed for a key, in order. -/
def valuesOf (block : List Text) (key : Text) : List Text :=
  (entries block).filterMap fun entry => if entry.1 = key then entry.2 else none

/-- The record of values: the only one, or their list. -/
def recordOf : List Text → Value
  | [] => .single none
  | [value] => .single (some value)
  | value :: second :: others => .repeated (some value) (second :: others)

/-- What `parse_lsvpd_block` promises: all values of a key, and a list of the keys without one. -/
structure Lossless (block : List Text) : Prop where
  values : ∀ key, valuesOf block key ≠ [] →
    parseLsvpdBlock block key = some (recordOf (valuesOf block key))
  missing : ∀ key others, valueless block = key :: others →
    parseLsvpdBlock block missingFields = some (.repeated (some key) others)

/-- No key is printed with a value and without one. When a line is without a value, the key of the
list is not printed with values, unless these are the list itself. -/
structure Unmixed (block : List Text) : Prop where
  fields : ∀ key, key ≠ missingFields → key ∈ valueless block → valuesOf block key = []
  reserved : valueless block ≠ [] → valuesOf block missingFields = [] ∨
    valuesOf block missingFields = valueless block ∧ 1 < (valueless block).length

/-- One more value. -/
theorem recordOf_concat {values : List Text} (something : values ≠ []) (value : Text) :
    recordOf (values ++ [value]) = (recordOf values).append value := by
  match values with
  | [_] => rfl
  | _ :: _ :: _ => rfl

/-- What is first in the record of some values. -/
theorem recordOf_first {values : List Text} (something : values ≠ []) :
    ∃ value, (recordOf values).first = some value := by
  match values with
  | [value] => exact ⟨value, rfl⟩
  | value :: _ :: _ => exact ⟨value, rfl⟩

/-- The record of some values is a list when they are several. -/
theorem recordOf_eq_repeated_iff {values others : List Text} {key : Text} :
    recordOf values = .repeated (some key) others ↔
      values = key :: others ∧ 1 < (key :: others).length := by
  match values with
  | [] => simp [recordOf]
  | [_] => simp [recordOf]
  | _ :: _ :: _ => simp [recordOf]; grind

/-- A key that is never without a value has its values on record.

Proof: by induction on the entries, from the last one. -/
theorem data_put {listed : List (Text × Option Text)} {key : Text}
    (complete : (key, none) ∉ listed) {values : List Text}
    (printed : (listed.filterMap fun entry => if entry.1 = key then entry.2 else none) = values) :
    (listed.foldl Fields.put ⟨fun _ => none, []⟩).data key =
      if values = [] then none else some (recordOf values) := by
  induction listed using List.reverseRecOn generalizing values with
  | nil =>
    obtain rfl : [] = values := printed
    rfl
  | append_singleton earlier entry inductionHypothesis =>
    have before := inductionHypothesis (fun member => complete (List.mem_append_left _ member)) rfl
    rw [List.filterMap_append] at printed
    rw [List.foldl_append, List.foldl_cons, List.foldl_nil]
    generalize earlier.foldl Fields.put ⟨fun _ => none, []⟩ = fields at before
    generalize (earlier.filterMap fun entry => if entry.1 = key then entry.2 else none) = older
      at before printed
    obtain ⟨other, text⟩ := entry
    by_cases same : other = key
    · subst same
      cases text with
      | none => exact absurd (by simp) complete
      | some value =>
        obtain rfl : older ++ [value] = values := by simpa using printed
        by_cases nothing : older = []
        · simp [Fields.put, before, nothing, recordOf]
        · simp [Fields.put, before, nothing, recordOf_concat nothing value]
    · obtain rfl : older = values := by simpa [same] using printed
      rw [← before]
      cases text <;> simp [Fields.put, Ne.symm same]

/-- What the dictionary has for a key, before the list of keys without a value is put in. -/
theorem data_fields {block : List Text} {key : Text} (something : valuesOf block key ≠ []) :
    (block.foldl Fields.line ⟨fun _ => none, []⟩).data key = some (recordOf (valuesOf block key)) ↔
      key ∉ valueless block := by
  rw [foldl_fields, mem_valueless]
  constructor
  · intro recorded missing
    have first := first_put (entries block) key
    obtain ⟨value, isFirst⟩ := recordOf_first something
    rw [recorded, if_pos missing, Option.map_some, isFirst] at first
    cases first
  · intro complete
    rw [data_put complete rfl, ← valuesOf, if_neg something]

/-- The dictionary of a block with lines that have no value. -/
theorem parseLsvpdBlock_of_missing {block : List Text} {key : Text} {others : List Text}
    (some_missing : valueless block = key :: others) :
    parseLsvpdBlock block =
      Function.update (block.foldl Fields.line ⟨fun _ => none, []⟩).data missingFields
        (some (.repeated (some key) others)) := by
  have listed := missingValues_put (entries block)
  rw [← foldl_fields, ← valueless, some_missing] at listed
  simp only [parseLsvpdBlock, listed]

/-- The dictionary of a block without such lines. -/
theorem parseLsvpdBlock_of_complete {block : List Text} (complete : valueless block = []) :
    parseLsvpdBlock block = (block.foldl Fields.line ⟨fun _ => none, []⟩).data := by
  have listed := missingValues_put (entries block)
  rw [← foldl_fields, ← valueless, complete] at listed
  simp only [parseLsvpdBlock, listed]

/-- The values of a key are on record exactly when the key is never without one, or when it is the
key for the list and its values are the list. -/
theorem recorded_iff {block : List Text} {key : Text} (something : valuesOf block key ≠ []) :
    parseLsvpdBlock block key = some (recordOf (valuesOf block key)) ↔
      if key = missingFields ∧ valueless block ≠ [] then
        valuesOf block key = valueless block ∧ 1 < (valueless block).length
      else key ∉ valueless block := by
  cases missing : valueless block with
  | nil =>
    rw [parseLsvpdBlock_of_complete missing, data_fields something, missing]
    simp
  | cons first others =>
    rw [parseLsvpdBlock_of_missing missing]
    by_cases reserved : key = missingFields
    · subst reserved
      rw [Function.update_self, Option.some.injEq, eq_comm, recordOf_eq_repeated_iff]
      simp
    · rw [Function.update_of_ne reserved, data_fields something, missing]
      simp [reserved]

/-- No value of a block is lost exactly when it is unmixed.

A block is any list of lines. The order of the keys in the dictionary is not looked at.

Proof: a line acts on the record of its own key only. A line without a value writes `None` over it,
and one with a value makes a list behind that. -/
theorem lossless_iff_unmixed (block : List Text) : Lossless block ↔ Unmixed block := by
  constructor
  · intro lossless
    constructor
    case fields =>
      intro key field missing
      by_contra something
      have recorded := (recorded_iff something).mp (lossless.values key something)
      rw [if_neg fun reserved => field reserved.1] at recorded
      exact recorded missing
    case reserved =>
      intro some_missing
      by_cases something : valuesOf block missingFields = []
      · exact Or.inl something
      · have recorded := (recorded_iff something).mp (lossless.values missingFields something)
        rw [if_pos ⟨rfl, some_missing⟩] at recorded
        exact Or.inr recorded
  · intro unmixed
    constructor
    case values =>
      intro key something
      rw [recorded_iff something]
      split
      case isTrue reserved =>
        obtain ⟨rfl, some_missing⟩ := reserved
        exact (unmixed.reserved some_missing).resolve_left something
      case isFalse free =>
        intro missing
        have some_missing : valueless block ≠ [] := List.ne_nil_of_mem missing
        have field : key ≠ missingFields := fun reserved => free ⟨reserved, some_missing⟩
        exact something (unmixed.fields key field missing)
    case missing =>
      intro key others some_missing
      rw [parseLsvpdBlock_of_missing some_missing, Function.update_self]

/-- The lines `*A v` and `*A`. -/
def valueThenEmpty : List Text := [['*', 'A', ' ', 'v'], ['*', 'A']]

/-- The value of the first line is lost. -/
theorem value_lost : parseLsvpdBlock valueThenEmpty ['A'] = some (.single none) ∧
    ¬ ∀ block, Lossless block := by
  have lost : parseLsvpdBlock valueThenEmpty ['A'] = some (.single none) := by rfl
  refine ⟨lost, fun all => ?_⟩
  have values : valuesOf valueThenEmpty ['A'] = [['v']] := by decide
  have kept := (all valueThenEmpty).values ['A'] (by rw [values]; simp)
  rw [lost, values] at kept
  cases kept

end AvocadoMisc.Vpd.Fields
