import Mathlib.Data.Rat.Floor
import Mathlib.Tactic.Linarith
import Mathlib.Tactic.NormNum
import AvocadoMisc.MemHotplug.Restore

/-!
# How many blocks a share has

`get_hotpluggable_blocks` takes a share of the hot-pluggable blocks, in percent. It divides by 100
and rounds up when the product is odd, where it would have to look at the remainder modulo 100.
-/

namespace AvocadoMisc.MemHotplug.Share

open Restore

/-- The hot-pluggable blocks, in the order in which they are listed. -/
def hotPluggable (listing : List Entry) : List Nat :=
  (listing.filter Entry.hotPluggable).map Entry.block

/-- The share rounded up. -/
def share (number : Nat) (ratio : Int) : Int := ⌈(number * ratio : ℚ) / 100⌉

/-- A selection has the first blocks, as many as the share says, and one at least where there are
blocks and a share of them. -/
structure Selects (listing : List Entry) (ratio : Int) (selected : List Nat) : Prop where
  inFront : selected <+: hotPluggable listing
  exact : (selected.length : Int) = share (hotPluggable listing).length ratio
  some : 0 < (hotPluggable listing).length → 0 < ratio → selected ≠ []

variable {listing : List Entry} {ratio : Int}

/-- The share in whole numbers. -/
theorem share_eq (number : Nat) (ratio : Int) :
    share number ratio = (number * ratio + 99) / 100 := by
  have remainder : ((number : Int) * ratio + 99) % 100 < 100 := Int.emod_lt_of_pos _ (by norm_num)
  have nonneg : 0 ≤ ((number : Int) * ratio + 99) % 100 := Int.emod_nonneg _ (by norm_num)
  have whole := Int.mul_ediv_add_emod ((number : Int) * ratio + 99) 100
  rw [share, Int.ceil_eq_iff]
  have cast : (100 : ℚ) * (((number : Int) * ratio + 99) / 100 : Int) +
      (((number : Int) * ratio + 99) % 100 : Int) = number * ratio + 99 := by
    exact_mod_cast whole
  have less : ((((number : Int) * ratio + 99) % 100 : Int) : ℚ) ≤ 99 := by
    exact_mod_cast Int.le_of_lt_add_one remainder
  have atLeast : (0 : ℚ) ≤ (((number : Int) * ratio + 99) % 100 : Int) := by exact_mod_cast nonneg
  constructor
  · rw [lt_div_iff₀ (by norm_num)]
    linarith
  · rw [div_le_iff₀ (by norm_num)]
    linarith

/-- The number of chunks is the share when the product is odd or a multiple of 100, and otherwise
it is one less. -/
theorem chunks_eq_share_iff (number : Nat) (ratio : Int) :
    chunks (number * ratio) = share number ratio ↔
      number * ratio % 2 = 1 ∨ number * ratio % 100 = 0 := by
  rw [share_eq, chunks]
  split <;> omega

/-- A share of at most everything is not negative, and there are as many blocks. -/
theorem chunks_bounds (number : Nat) (low : 0 ≤ ratio) (high : ratio ≤ 100) :
    0 ≤ chunks (number * ratio) ∧ chunks (number * ratio) ≤ number := by
  have product : 0 ≤ (number : Int) * ratio := mul_nonneg (Int.natCast_nonneg _) low
  have most : (number : Int) * ratio ≤ number * 100 :=
    mul_le_mul_of_nonneg_left high (Int.natCast_nonneg _)
  rw [chunks]
  split <;> omega

/-- The selection is the first blocks, as many as there are chunks. -/
theorem getHotpluggableBlocks_eq (low : 0 ≤ ratio) (high : ratio ≤ 100) :
    getHotpluggableBlocks listing ratio =
      (hotPluggable listing).take
        (chunks ((hotPluggable listing).length * ratio)).toNat := by
  have bounds := chunks_bounds (hotPluggable listing).length low high
  have sliced : getHotpluggableBlocks listing ratio =
      slice (hotPluggable listing) (chunks ((hotPluggable listing).length * ratio)) := rfl
  rw [sliced, slice, if_neg (not_lt_of_ge bounds.1)]

/-- The law holds exactly when the product of number and share is odd or a multiple of 100.

The listing is any, and the share is a percentage from 0 to 100.

Proof: an even product is rounded down and an odd one up. The former is right only when nothing is
left over, and the latter always is, since something is left over then. -/
theorem selects_share_iff (listing : List Entry) (ratio : Int) (low : 0 ≤ ratio)
    (high : ratio ≤ 100) :
    Selects listing ratio (getHotpluggableBlocks listing ratio) ↔
      (hotPluggable listing).length * ratio % 2 = 1 ∨
        (hotPluggable listing).length * ratio % 100 = 0 := by
  have bounds := chunks_bounds (hotPluggable listing).length low high
  have length : ((getHotpluggableBlocks listing ratio).length : Int) =
      chunks ((hotPluggable listing).length * ratio) := by
    rw [getHotpluggableBlocks_eq low high, List.length_take]
    omega
  rw [← chunks_eq_share_iff]
  constructor
  · intro selects
    rw [← length]
    exact selects.exact
  · intro same
    refine ⟨?_, length.trans same, ?_⟩
    · rw [getHotpluggableBlocks_eq low high]
      exact List.take_prefix _ _
    · intro blocks positive nothing
      have product : 0 < ((hotPluggable listing).length : Int) * ratio :=
        mul_pos (by omega) positive
      rw [nothing, same, share_eq] at length
      simp only [List.length_nil] at length
      omega

/-- Half of two blocks. -/
theorem selects_share_iff_half :
    Selects [⟨7, true⟩, ⟨8, true⟩] 50 (getHotpluggableBlocks [⟨7, true⟩, ⟨8, true⟩] 50) := by
  apply (selects_share_iff [⟨7, true⟩, ⟨8, true⟩] 50 (by decide) (by decide)).mpr
  right
  decide

/-- Of two blocks at a share of five percent none is selected. -/
theorem not_selects_share :
    ¬ Selects [⟨7, true⟩, ⟨8, true⟩] 5 (getHotpluggableBlocks [⟨7, true⟩, ⟨8, true⟩] 5) := by
  intro selects
  apply selects.some (by decide) (by decide)
  decide

end AvocadoMisc.MemHotplug.Share
