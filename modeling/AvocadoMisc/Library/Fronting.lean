import Mathlib.Data.List.Perm.Basic

/-!
# Bringing an element to the front

`toFront i values` is what taking the element at position `i` out of a list and inserting it at
the front leaves. Columns of one table can be treated separately, as long as each of them is
treated in the same way. A column that is left alone is treated in the same way if its elements
up to the position are equal.
-/

namespace AvocadoMisc.Library.Fronting

universe u v
variable {α : Type u} {β : Type v}

/-- Take the element at a position out, and put it in front. -/
def toFront (i : Nat) (values : List α) : List α := values[i]?.toList ++ values.eraseIdx i

/-- The element is the first one. -/
theorem toFront_eq_cons {i : Nat} {values : List α} {value : α} (found : values[i]? = some value) :
    toFront i values = value :: values.eraseIdx i := by
  simp [toFront, found]

/-- The others move up by one until its old position. -/
theorem getElem?_toFront {i : Nat} {values : List α} (inside : i < values.length) (j : Nat) :
    (toFront i values)[j]? =
      if j = 0 then values[i]? else if j ≤ i then values[j - 1]? else values[j]? := by
  rw [toFront_eq_cons (List.getElem?_eq_getElem inside)]
  cases j with
  | zero => simp [inside]
  | succ j =>
    rw [List.getElem?_cons_succ, List.getElem?_eraseIdx]
    simp only [Nat.succ_ne_zero, ↓reduceIte, Nat.succ_le_iff, Nat.add_sub_cancel]

/-- The elements are the same. -/
theorem toFront_perm (i : Nat) (values : List α) : (toFront i values).Perm values := by
  by_cases inside : i < values.length
  · rw [toFront_eq_cons (List.getElem?_eq_getElem inside)]
    exact List.getElem_cons_eraseIdx_perm inside
  · have outside : values.length ≤ i := Nat.not_lt.mp inside
    simp [toFront, List.getElem?_eq_none outside, List.eraseIdx_of_length_le outside]

/-- Their number is the same. -/
theorem length_toFront (i : Nat) (values : List α) : (toFront i values).length = values.length :=
  (toFront_perm i values).length_eq

/-- Columns of one length are treated separately. -/
theorem toFront_zip {i : Nat} {first : List α} {second : List β}
    (aligned : first.length = second.length) (inside : i < first.length) :
    toFront i (first.zip second) = (toFront i first).zip (toFront i second) := by
  refine List.ext_getElem? fun j => ?_
  have both : i < (first.zip second).length := by
    rw [List.length_zip]
    omega
  have insideSecond : i < second.length := aligned ▸ inside
  simp only [List.zip] at both ⊢
  simp only [getElem?_toFront both, getElem?_toFront inside, getElem?_toFront insideSecond,
    List.getElem?_zipWith]
  by_cases front : j = 0
  · simp only [front, ↓reduceIte]
  · by_cases before : j ≤ i
    · simp only [front, before, ↓reduceIte]
    · simp only [front, before, ↓reduceIte]

end AvocadoMisc.Library.Fronting
