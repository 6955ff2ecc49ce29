import Mathlib.Data.List.Induction
import Mathlib.Logic.Function.Basic

/-!
# Writes in order

A store has a value for every key, and a list of writes is carried out from the left. What the
store has for a key after that is the value of the last write about it, or what it had before.
-/

namespace AvocadoMisc.Library.Writes

universe u v
variable {κ : Type u} {ν : Type v} [DecidableEq κ]

/-- Carry out writes from the left. -/
def writeAll (store : κ → ν) (writes : List (κ × ν)) : κ → ν :=
  writes.foldl (fun stored write => Function.update stored write.1 write.2) store

/-- The writes about a key, in order. -/
def valuesOf (key : κ) (writes : List (κ × ν)) : List ν :=
  (writes.filter (·.1 = key)).map Prod.snd

/-- One list of writes after another. -/
theorem writeAll_append (store : κ → ν) (first second : List (κ × ν)) :
    writeAll store (first ++ second) = writeAll (writeAll store first) second :=
  List.foldl_append

/-- The writes about a key in two lists. -/
theorem valuesOf_append (key : κ) (first second : List (κ × ν)) :
    valuesOf key (first ++ second) = valuesOf key first ++ valuesOf key second := by
  simp [valuesOf]

/-- A key has a write about it exactly when there are values for it. -/
theorem mem_valuesOf {key : κ} {value : ν} {writes : List (κ × ν)} :
    value ∈ valuesOf key writes ↔ (key, value) ∈ writes := by
  simp [valuesOf]

/-- When different entries write about different keys, there is one value for each of them. -/
theorem valuesOf_of_distinct {ε : Type*} {entries : List ε} {key : ε → κ}
    (distinct : (entries.map key).Nodup) (value : ε → ν) {entry : ε} (member : entry ∈ entries) :
    valuesOf (key entry) (entries.map fun other => (key other, value other)) = [value entry] := by
  induction entries with
  | nil => cases member
  | cons first rest inductionHypothesis =>
    obtain ⟨fresh, distinctRest⟩ := List.nodup_cons.mp distinct
    rcases List.mem_cons.mp member with rfl | inRest
    · have others : valuesOf (key entry) (rest.map fun other => (key other, value other)) = [] := by
        rw [valuesOf, List.filter_map, List.map_map, List.map_eq_nil_iff, List.filter_eq_nil_iff]
        intro other inRest same
        exact fresh (List.mem_map.mpr ⟨other, inRest, by simpa using same⟩)
      simpa [valuesOf] using others
    · have differs : key first ≠ key entry := fun same =>
        fresh (List.mem_map.mpr ⟨entry, inRest, same.symm⟩)
      simpa [valuesOf, differs] using inductionHypothesis distinctRest inRest

/-- The last write about a key counts.

Proof: by induction on the writes, from the last one. -/
theorem writeAll_apply (store : κ → ν) (writes : List (κ × ν)) (key : κ) :
    writeAll store writes key = (valuesOf key writes).getLastD (store key) := by
  induction writes using List.reverseRecOn with
  | nil => rfl
  | append_singleton writes last inductionHypothesis =>
    rw [writeAll_append, valuesOf_append]
    by_cases same : last.1 = key
    · subst same
      simp [writeAll, valuesOf]
    · have other : valuesOf key [last] = [] := by simp [valuesOf, same]
      rw [other, List.append_nil, ← inductionHypothesis]
      exact Function.update_of_ne (Ne.symm same) _ _

end AvocadoMisc.Library.Writes
