import Mathlib.Data.Nat.ModEq
import Mathlib.Data.List.Range
import Mathlib.Tactic.Ring

/-!
# Counting loops on machine words

`for (x = start; x < stop; x++)` on unsigned words of one width. The increment
never wraps, because a value below `stop` has a successor, but `stop` itself is
often a sum that has wrapped. Then the loop runs shorter than meant, or not at all.

The second part is about numbering by a product. `x * stride` on words tells the
members of a window of consecutive words apart exactly as long as the window is
no longer than the modulus divided by its common divisor with the stride.

The third part cuts an interval into equal pieces.
-/

namespace AvocadoMisc.Library.WordLoops

universe u
variable {w : Nat}

/-! ### The loop -/

/-- A word below another one has a successor that does not wrap. -/
theorem toNat_succ {value stop : BitVec w} (below : value < stop) :
    (value + 1).toNat = value.toNat + 1 := by
  have less : value.toNat < stop.toNat := BitVec.lt_def.mp below
  have room : value.toNat + 1 < 2 ^ w := Nat.lt_of_le_of_lt less stop.isLt
  have wide : 1 < 2 ^ w := by omega
  have one : (1 : BitVec w).toNat = 1 := Nat.mod_eq_of_lt wide
  rw [BitVec.toNat_add, one, Nat.mod_eq_of_lt room]

/-- The values of the loop variable, in order. -/
def loopFrom (start stop : BitVec w) : List (BitVec w) :=
  if start < stop then start :: loopFrom (start + 1) stop else []
termination_by stop.toNat - start.toNat
decreasing_by
  rename_i below
  have less : start.toNat < stop.toNat := BitVec.lt_def.mp below
  rw [toNat_succ below]
  omega

/-- As numbers the values are consecutive, from `start` up to below `stop`. -/
theorem loopFrom_toNat (start stop : BitVec w) :
    (loopFrom start stop).map BitVec.toNat =
      List.range' start.toNat (stop.toNat - start.toNat) := by
  fun_induction loopFrom start stop with
  | case1 start below inductionHypothesis =>
    have less : start.toNat < stop.toNat := BitVec.lt_def.mp below
    rw [toNat_succ below] at inductionHypothesis
    rw [List.map_cons, inductionHypothesis,
      show stop.toNat - start.toNat = stop.toNat - (start.toNat + 1) + 1 by omega,
      List.range'_succ]
  | case2 start ended =>
    have reached : stop.toNat ≤ start.toNat := Nat.le_of_not_lt fun less => ended (by
      exact BitVec.lt_def.mpr less)
    simp [Nat.sub_eq_zero_of_le reached]

/-- A loop that starts at its end does nothing. -/
theorem loopFrom_eq_nil {start stop : BitVec w} (reached : stop.toNat ≤ start.toNat) :
    loopFrom start stop = [] := by
  have none := loopFrom_toNat start stop
  rw [Nat.sub_eq_zero_of_le reached] at none
  exact List.map_eq_nil_iff.mp none

/-- The loop visits the words from `start` to below `stop` and no others. -/
theorem mem_loopFrom {start stop value : BitVec w} :
    value ∈ loopFrom start stop ↔ start.toNat ≤ value.toNat ∧ value.toNat < stop.toNat := by
  have mapped : value ∈ loopFrom start stop ↔
      value.toNat ∈ (loopFrom start stop).map BitVec.toNat := by
    constructor
    · exact List.mem_map_of_mem
    · intro inside
      obtain ⟨other, member, same⟩ := List.mem_map.mp inside
      exact BitVec.eq_of_toNat_eq same ▸ member
  rw [mapped, loopFrom_toNat, List.mem_range'_1]
  omega

/-! ### Numbering by a product -/

/-- Equal products of two members of a window have equal remainders. -/
theorem product_eq_iff (start stride : BitVec w) (i j : Nat) :
    (start + BitVec.ofNat w i) * stride = (start + BitVec.ofNat w j) * stride ↔
      i ≡ j [MOD 2 ^ w / Nat.gcd (2 ^ w) stride.toNat] := by
  have expand (k : Nat) : ((start + BitVec.ofNat w k) * stride).toNat =
      ((start.toNat + k) * stride.toNat) % 2 ^ w := by
    simp [BitVec.toNat_mul, BitVec.toNat_add, Nat.mod_mul_mod]
  rw [← BitVec.toNat_inj, expand, expand]
  constructor
  · intro same
    have cancelled := Nat.ModEq.cancel_right_div_gcd (Nat.two_pow_pos w) (show
      (start.toNat + i) * stride.toNat ≡ (start.toNat + j) * stride.toNat [MOD 2 ^ w] from same)
    exact Nat.ModEq.add_left_cancel' start.toNat cancelled
  · intro same
    obtain ⟨quotient, factor⟩ := Nat.gcd_dvd_right (2 ^ w) stride.toNat
    have scaled := (same.add_left start.toNat).mul_right' (Nat.gcd (2 ^ w) stride.toNat)
    rw [Nat.div_mul_cancel (Nat.gcd_dvd_left (2 ^ w) stride.toNat)] at scaled
    have product := scaled.mul_right quotient
    rwa [Nat.mul_assoc, Nat.mul_assoc, ← factor] at product

/-- A short window is numbered without repetition. -/
theorem product_injective {start stride : BitVec w} {length : Nat}
    (short : length * Nat.gcd (2 ^ w) stride.toNat ≤ 2 ^ w) {i j : Nat} (first : i < length)
    (second : j < length)
    (same : (start + BitVec.ofNat w i) * stride = (start + BitVec.ofNat w j) * stride) :
    i = j := by
  have positive : 0 < Nat.gcd (2 ^ w) stride.toNat :=
    Nat.gcd_pos_of_pos_left stride.toNat (Nat.two_pow_pos w)
  have within : length ≤ 2 ^ w / Nat.gcd (2 ^ w) stride.toNat :=
    (Nat.le_div_iff_mul_le positive).mpr short
  exact ((product_eq_iff start stride i j).mp same).eq_of_lt_of_lt
    (Nat.lt_of_lt_of_le first within) (Nat.lt_of_lt_of_le second within)

/-- A longer window repeats the number of its first member. -/
theorem product_repeats (start : BitVec w) {stride : BitVec w} {length : Nat}
    (long : 2 ^ w < length * Nat.gcd (2 ^ w) stride.toNat) :
    ∃ i, 0 < i ∧ i < length ∧
      (start + BitVec.ofNat w i) * stride = (start + BitVec.ofNat w 0) * stride := by
  have positive : 0 < Nat.gcd (2 ^ w) stride.toNat :=
    Nat.gcd_pos_of_pos_left stride.toNat (Nat.two_pow_pos w)
  refine ⟨2 ^ w / Nat.gcd (2 ^ w) stride.toNat, ?_, ?_, ?_⟩
  · exact Nat.div_pos (Nat.le_of_dvd (Nat.two_pow_pos w) (Nat.gcd_dvd_left _ _)) positive
  · exact (Nat.div_lt_iff_lt_mul positive).mpr long
  · exact (product_eq_iff start stride _ 0).mpr (by simp [Nat.ModEq])

/-! ### Equal pieces -/

/-- Consecutive pieces of one width make up an interval. -/
theorem flatMap_pieces (start count width : Nat) :
    (List.range' start count).flatMap (fun piece => List.range' (piece * width) width) =
      List.range' (start * width) (count * width) := by
  induction count generalizing start with
  | zero => simp
  | succ count inductionHypothesis =>
    rw [List.range'_succ, List.flatMap_cons, inductionHypothesis, Nat.add_one_mul start,
      List.range'_append_1]
    congr 1
    ring

end AvocadoMisc.Library.WordLoops
