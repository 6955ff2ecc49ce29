import Mathlib.Algebra.Order.Ring.Int
import Mathlib.Algebra.Ring.Int.Parity
import Mathlib.Data.Int.GCD
import Mathlib.Tactic.Linarith

/-!
# Namespaces of one size in a region

`multiple_namespaces_region` of `ndctl.py` fills a region with namespaces. Without a size from the
user there are as many as the region has label slots, and their size follows. With one their
number follows from the size, and the label slots are forgotten.
-/

namespace AvocadoMisc.Ndctl.Namespaces

/-! ### The test -/

/-- What the two alignment files hold, where they exist. -/
structure Alignments where
  sizeAlign : Option Nat
  mapAlign : Option Nat
  sizePositive : ∀ align ∈ sizeAlign, 0 < align
  mapPositive : ∀ align ∈ mapAlign, 0 < align

/-- What ndctl says about a region: its size in bytes, and the number of its label slots. -/
structure Region where
  size : Nat
  slotCount : Nat
  hasSlots : 0 < slotCount

/-- A call that changes the namespaces of the region. -/
inductive Call where
  | disableNamespace
  | destroyNamespace
  | createNamespace (size : Int)
deriving DecidableEq

/-- How the method ends. -/
inductive Outcome where
  | cancelled (message : String)
  | skipped
  | finished
deriving DecidableEq

/-- The calls of a run and its end. -/
structure Run where
  calls : List Call
  outcome : Outcome
deriving DecidableEq

/-- `lcm`. -/
def lcm (one two : Int) : Int := Int.fdiv |one * two| (Int.gcd one two)

/-- `get_size_alignval`. -/
def getSizeAlignval (alignments : Alignments) : Except String Int :=
  let sizeAlign := alignments.sizeAlign.getD 1
  match alignments.mapAlign with
  | none => .error "Cannot determine the mapping alignment size"
  | some mapAlign => .ok (lcm sizeAlign mapAlign)

/-- The end of the method: the skipped region, or the loop over the slots. -/
def createNamespaces (sizeAlign slotCount namespaceSize : Int) : Run :=
  if namespaceSize ≤ sizeAlign then ⟨[.disableNamespace, .destroyNamespace], .skipped⟩
  else
    ⟨[.disableNamespace, .destroyNamespace] ++
      List.replicate slotCount.toNat (.createNamespace namespaceSize), .finished⟩

/-- `multiple_namespaces_region`. A size of zero counts as none, and then the region is divided into
its slots; a size that is not aligned cancels the test. -/
def multipleNamespacesRegion (alignments : Alignments) (region : Region) (size : Option Int) :
    Run :=
  match getSizeAlignval alignments with
  | .error message => ⟨[], .cancelled message⟩
  | .ok sizeAlign =>
    match size.filter (· ≠ 0) with
    | none =>
      let namespaceSize := Int.fdiv region.size region.slotCount
      createNamespaces sizeAlign region.slotCount (Int.fdiv namespaceSize sizeAlign * sizeAlign)
    | some namespaceSize =>
      if Int.fmod namespaceSize sizeAlign ≠ 0 then
        ⟨[.disableNamespace, .destroyNamespace], .cancelled "Size value not %d aligned %d \n"⟩
      else createNamespaces sizeAlign (Int.fdiv region.size namespaceSize) namespaceSize

/-- The size that is asked for, when the call creates a namespace. -/
def Call.created : Call → Option Int
  | .createNamespace size => some size
  | _ => none

/-- The sizes of the namespaces that a run creates. -/
def Run.created (run : Run) : List Int := run.calls.filterMap Call.created

/-! ### The law -/

section Law

variable (alignments : Alignments) (region : Region)

/-- A run creates nothing, or namespaces of one aligned size that fit the region and its label
slots. -/
def Partitions (run : Run) : Prop :=
  run.created = [] ∨ ∃ (count : Nat) (size : Int), run.created = List.replicate count size ∧
    (∀ align ∈ alignments.sizeAlign, (align : Int) ∣ size) ∧
    (∀ align ∈ alignments.mapAlign, (align : Int) ∣ size) ∧
    count * size ≤ region.size ∧ count ≤ region.slotCount

/-- A size of the user that is aligned and not skipped is so large that the label slots suffice
for the namespaces that fit the region. -/
def SlotsSuffice (size : Option Int) : Prop :=
  ∀ wanted ∈ size, ∀ mapAlign ∈ alignments.mapAlign,
    (∀ align ∈ alignments.sizeAlign, (align : Int) ∣ wanted) → (mapAlign : Int) ∣ wanted →
    (Nat.lcm (alignments.sizeAlign.getD 1) mapAlign : Int) < wanted →
    (region.size : Int) / wanted ≤ region.slotCount

end Law

variable {alignments : Alignments} {region : Region}

/-- The least common multiple of two alignments. -/
theorem lcm_eq (one two : Nat) : lcm one two = Nat.lcm one two := by
  have product : |(one : Int) * two| = ((one * two : Nat) : Int) := by
    rw [← Nat.cast_mul]
    exact abs_of_nonneg (Int.natCast_nonneg _)
  rw [lcm, product, Int.gcd_natCast_natCast, Int.fdiv_eq_ediv_of_nonneg _ (Int.natCast_nonneg _),
    ← Int.natCast_ediv, Nat.lcm_eq_mul_div]

/-- A skipped region gets no namespaces, another one as many as there are slots. -/
theorem created_createNamespaces (sizeAlign slotCount namespaceSize : Int) :
    (createNamespaces sizeAlign slotCount namespaceSize).created =
      if namespaceSize ≤ sizeAlign then []
      else List.replicate slotCount.toNat namespaceSize := by
  unfold createNamespaces
  split
  · rfl
  · have disable : Call.created .disableNamespace = none := rfl
    have destroy : Call.created .destroyNamespace = none := rfl
    have create : Call.created (.createNamespace namespaceSize) = some namespaceSize := rfl
    rw [Run.created, List.cons_append, List.cons_append, List.nil_append,
      List.filterMap_cons_none disable, List.filterMap_cons_none destroy,
      List.filterMap_replicate_of_some create]

/-- The multiples of the least common multiple are the multiples of both alignments. -/
theorem lcm_dvd_iff (mapAlign : Nat) (size : Int) :
    (Nat.lcm (alignments.sizeAlign.getD 1) mapAlign : Int) ∣ size ↔
      (∀ align ∈ alignments.sizeAlign, (align : Int) ∣ size) ∧ (mapAlign : Int) ∣ size := by
  rw [Int.natCast_dvd, Nat.lcm_dvd_iff, ← Int.natCast_dvd, ← Int.natCast_dvd]
  apply and_congr_left
  intro _
  cases alignments.sizeAlign with
  | none => simp
  | some align => simp

section Aligned

variable {mapAlign : Nat} (known : alignments.mapAlign = some mapAlign)
include known

/-- The value the sizes are aligned to. -/
theorem getSizeAlignval_eq :
    getSizeAlignval alignments =
      .ok (Nat.lcm (alignments.sizeAlign.getD 1) mapAlign : Int) := by
  rw [getSizeAlignval, known]
  exact congrArg Except.ok (lcm_eq _ _)

/-- Namespaces of an aligned size in a number that fits the region satisfy the law exactly when
they fit the slots, or are skipped, or there are none. -/
theorem partitions_createNamespaces_iff {slotCount namespaceSize : Int}
    (aligned : (Nat.lcm (alignments.sizeAlign.getD 1) mapAlign : Int) ∣ namespaceSize)
    (fits : slotCount.toNat * namespaceSize ≤ region.size) :
    Partitions alignments region
        (createNamespaces (Nat.lcm (alignments.sizeAlign.getD 1) mapAlign) slotCount
          namespaceSize) ↔
      ((Nat.lcm (alignments.sizeAlign.getD 1) mapAlign : Int) < namespaceSize →
        slotCount ≤ region.slotCount) := by
  obtain ⟨sizeAligned, mapAligned⟩ := (lcm_dvd_iff mapAlign namespaceSize).mp aligned
  rw [Partitions, created_createNamespaces]
  by_cases small : namespaceSize ≤ (Nat.lcm (alignments.sizeAlign.getD 1) mapAlign : Int)
  · simp [small]
  · rw [if_neg small]
    constructor
    · rintro (nothing | ⟨count, size, same, _, _, _, inSlots⟩) _
      · rw [List.replicate_eq_nil_iff] at nothing
        omega
      · have length := congrArg List.length same
        rw [List.length_replicate, List.length_replicate] at length
        omega
    · intro within
      have inSlots : slotCount ≤ region.slotCount := within (Int.lt_of_not_ge small)
      refine Or.inr ⟨_, _, rfl, sizeAligned, ?_, fits, by omega⟩
      intro align present
      rw [known, Option.mem_some_iff] at present
      exact present ▸ mapAligned

end Aligned

/-- As many namespaces as there are slots, each with an aligned part of its share, fit. -/
theorem shares_le (sizeAlign : Nat) :
    (region.slotCount : Int) *
      ((region.size : Int) / region.slotCount / sizeAlign * sizeAlign) ≤ region.size := by
  have whole : (region.size / region.slotCount / sizeAlign * sizeAlign) ≤
      region.size / region.slotCount := Nat.div_mul_le_self _ _
  have slots : region.slotCount * (region.size / region.slotCount) ≤ region.size :=
    Nat.mul_div_le _ _
  have both := (Nat.mul_le_mul_left region.slotCount whole).trans slots
  exact_mod_cast both

/-- As many namespaces as fit do fit. -/
theorem count_mul_le {size : Int} (nonzero : size ≠ 0) :
    ((Int.fdiv region.size size).toNat : Int) * size ≤ region.size := by
  rcases Int.lt_or_gt_of_ne nonzero with negative | positive
  · have below : ((Int.fdiv region.size size).toNat : Int) * size ≤ 0 :=
      mul_nonpos_of_nonneg_of_nonpos (Int.natCast_nonneg _) negative.le
    exact below.trans (Int.natCast_nonneg _)
  · rw [Int.fdiv_eq_ediv_of_nonneg _ positive.le,
      Int.toNat_of_nonneg (Int.ediv_nonneg (Int.natCast_nonneg _) positive.le)]
    exact Int.ediv_mul_le _ nonzero

/-- Nothing is asked of the slots when no size is wanted. -/
theorem slotsSuffice_unwanted {size : Option Int} (unwanted : size.filter (· ≠ 0) = none) :
    SlotsSuffice alignments region size := by
  intro asked given _ _ _ _ large
  rw [Option.filter_eq_none_iff] at unwanted
  have zero : asked = 0 := by simpa using unwanted asked given
  omega

section Aligned

variable {mapAlign : Nat} (known : alignments.mapAlign = some mapAlign)
include known

/-- The shares of the slots are a partition. -/
theorem partitions_shares :
    Partitions alignments region (createNamespaces
      (Nat.lcm (alignments.sizeAlign.getD 1) mapAlign) region.slotCount
      (Int.fdiv (Int.fdiv region.size region.slotCount)
          (Nat.lcm (alignments.sizeAlign.getD 1) mapAlign) *
        (Nat.lcm (alignments.sizeAlign.getD 1) mapAlign))) := by
  have fdivs : Int.fdiv (Int.fdiv region.size region.slotCount)
      (Nat.lcm (alignments.sizeAlign.getD 1) mapAlign) =
      (region.size : Int) / region.slotCount /
        (Nat.lcm (alignments.sizeAlign.getD 1) mapAlign : Nat) := by
    rw [Int.fdiv_eq_ediv_of_nonneg _ (Int.natCast_nonneg _),
      Int.fdiv_eq_ediv_of_nonneg _ (Int.natCast_nonneg _)]
  rw [fdivs, partitions_createNamespaces_iff known (Dvd.intro_left _ rfl)
    (by rw [Int.toNat_natCast]; exact shares_le _)]
  exact fun _ => le_refl _

/-- What is asked of the slots for an aligned size. -/
theorem slotsSuffice_aligned {asked : Int}
    (aligned : (Nat.lcm (alignments.sizeAlign.getD 1) mapAlign : Int) ∣ asked) :
    SlotsSuffice alignments region (some asked) ↔
      ((Nat.lcm (alignments.sizeAlign.getD 1) mapAlign : Int) < asked →
        Int.fdiv region.size asked ≤ region.slotCount) := by
  obtain ⟨sizeAligned, mapAligned⟩ := (lcm_dvd_iff mapAlign asked).mp aligned
  constructor
  · intro suffice large
    rw [Int.fdiv_eq_ediv_of_nonneg _ (by omega)]
    exact suffice asked rfl mapAlign known sizeAligned mapAligned large
  · intro within wanted given align present _ _ large
    cases given
    cases known.symm.trans present
    rw [← Int.fdiv_eq_ediv_of_nonneg _ (by omega)]
    exact within large

/-- Nothing is asked of them for a size that is not aligned. -/
theorem slotsSuffice_unaligned {asked : Int}
    (unaligned : ¬ (Nat.lcm (alignments.sizeAlign.getD 1) mapAlign : Int) ∣ asked) :
    SlotsSuffice alignments region (some asked) := by
  intro wanted given align present sizeAligned mapAligned _
  cases given
  cases known.symm.trans present
  exact absurd ((lcm_dvd_iff mapAlign asked).mpr ⟨sizeAligned, mapAligned⟩) unaligned

end Aligned

/-- The namespaces are of one aligned size and fit the region and its slots exactly when the
slots suffice for the size the user wants.

The region may have any size and any number of slots, and the alignments may be unknown. The
commands that create the namespaces succeed.

Proof: without a size the region is cut into as many parts as there are slots. With one the number
of parts is a quotient that is not compared with the slots. -/
theorem multipleNamespacesRegion_iff (alignments : Alignments) (region : Region)
    (size : Option Int) :
    Partitions alignments region (multipleNamespacesRegion alignments region size) ↔
      SlotsSuffice alignments region size := by
  unfold multipleNamespacesRegion
  cases known : alignments.mapAlign with
  | none =>
    have cancelled : getSizeAlignval alignments =
        .error "Cannot determine the mapping alignment size" := by
      rw [getSizeAlignval, known]
    simp [cancelled, Partitions, Run.created, SlotsSuffice, known]
  | some mapAlign =>
    rw [getSizeAlignval_eq known]
    cases wanted : size.filter (· ≠ 0) with
    | none => exact iff_of_true (partitions_shares known) (slotsSuffice_unwanted wanted)
    | some asked =>
      obtain ⟨rfl, nonzero⟩ := Option.filter_eq_some_iff.mp wanted
      dsimp only
      by_cases aligned : (Nat.lcm (alignments.sizeAlign.getD 1) mapAlign : Int) ∣ asked
      · rw [if_neg (not_not.mpr (Int.fmod_eq_zero_of_dvd aligned)),
          slotsSuffice_aligned known aligned]
        exact partitions_createNamespaces_iff known aligned (count_mul_le (by simpa using nonzero))
      · have unaligned : Int.fmod asked (Nat.lcm (alignments.sizeAlign.getD 1) mapAlign) ≠ 0 :=
          fun zero => aligned (Int.dvd_of_fmod_eq_zero zero)
        rw [if_pos unaligned]
        exact iff_of_true (Or.inl rfl) (slotsSuffice_unaligned known aligned)

/-- A region of four gibibytes with three label slots. -/
def narrow : Region := { size := 4294967296, slotCount := 3, hasSlots := by decide }

/-- Sizes are multiples of 16 mebibytes. -/
def coarse : Alignments where
  sizeAlign := some 16777216
  mapAlign := some 2097152
  sizePositive := by simp
  mapPositive := by simp

/-- There are four namespaces of one gibibyte, for three label slots. -/
theorem not_partitions_narrow :
    ¬ Partitions coarse narrow
      (multipleNamespacesRegion coarse narrow (some 1073741824)) := by
  have four : (multipleNamespacesRegion coarse narrow (some 1073741824)).created =
      List.replicate 4 1073741824 := by
    decide +kernel
  rintro (nothing | ⟨count, size, same, _, _, _, inSlots⟩)
  · rw [four] at nothing
    cases nothing
  · rw [four] at same
    have length := congrArg List.length same
    rw [List.length_replicate, List.length_replicate] at length
    have three : narrow.slotCount = 3 := rfl
    omega

end AvocadoMisc.Ndctl.Namespaces
