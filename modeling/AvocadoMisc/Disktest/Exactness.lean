import AvocadoMisc.Disktest.Blocks

/-!
# Exactness of the checker

`write_block` and `verify_block` walk a block with the same two nested loops, over the sectors
and over the patterns of a sector. Together they visit each pattern of eight bytes once, and a
pattern is two words. So the fields that `verify_block` counts are the words of the block that
differ from the ones that `write_block` would have put there.
-/

namespace AvocadoMisc.Disktest.Exactness

open Library.SparseFile Library.WordLoops Blocks

/-- A word of a block differs from the one that `write_block` puts there. -/
def differs (g : Geometry) (signature block : Word) (memory content : Nat → Byte) (word : Nat) :
    Bool :=
  loadWord content (4 * word) ≠ loadWord (fillBlock g signature block memory) (4 * word)

/-- The number of such words of a block. -/
def differing (g : Geometry) (signature block : Word) (memory content : Nat → Byte) : Nat :=
  (List.range (g.blocksize.toNat / 4)).countP (differs g signature block memory content)

/-- What `verify_block` promises for the content that it reads: the number of words that differ,
which an `int` can hold, and zero exactly for the content that `write_block` would have written. -/
structure Exact (g : Geometry) (signature block : Word) (memory : Nat → Byte) (file : File Byte) :
    Prop where
  counted : verifyBlock g signature file block =
    some (differing g signature block memory (file.read (offset g block)))
  fits : differing g signature block memory (file.read (offset g block)) < 2 ^ 31
  clean : verifyBlock g signature file block = some 0 ↔ ∀ i, i < g.blocksize.toNat →
    file.read (offset g block) i = fillBlock g signature block memory i

variable {g : Geometry} {signature block : Word} {memory content : Nat → Byte}

/-- The loops visit the patterns of a block one after the other. -/
theorem slots_map_index (g : Geometry) :
    (slots g).map slotIndex = List.range (g.sectorsPerBlock.toNat * patternPerSector) := by
  have sector (secOffset : Nat) :
      ((List.range patternPerSector).map fun i => (secOffset, i)).map slotIndex =
        List.range' (secOffset * patternPerSector) patternPerSector := by
    rw [List.map_map, List.range'_eq_map_range]
    rfl
  calc (slots g).map slotIndex
      = (List.range g.sectorsPerBlock.toNat).flatMap fun secOffset =>
          List.range' (secOffset * patternPerSector) patternPerSector := by
        rw [slots, List.map_flatMap]
        simp only [sector]
    _ = List.range (g.sectorsPerBlock.toNat * patternPerSector) := by
        rw [List.range_eq_range', List.range_eq_range', flatMap_pieces, Nat.zero_mul]

/-- A sum over pairs of neighbours. -/
theorem sum_pairs (value : Nat → Nat) (count : Nat) :
    ((List.range count).map fun k => value (2 * k) + value (2 * k + 1)).sum =
      ((List.range (2 * count)).map value).sum := by
  induction count with
  | zero => rfl
  | succ count inductionHypothesis =>
    rw [List.range_succ, List.map_append, List.sum_append, inductionHypothesis, Nat.mul_succ,
      List.range_succ, List.range_succ]
    simp

/-- Counting as a sum. -/
theorem countP_eq_sum (test : Nat → Bool) (list : List Nat) :
    list.countP test = (list.map fun k => if test k then 1 else 0).sum := by
  induction list with
  | nil => rfl
  | cons k rest inductionHypothesis =>
    rw [List.countP_cons, inductionHypothesis, List.map_cons, List.sum_cons, Nat.add_comm]

/-- The wrong fields of a visited pattern are the two words of it that differ. -/
theorem fieldErrors_words {slot : Nat × Nat} (inside : slot ∈ slots g) :
    fieldErrors (expected g signature block slot) (load content (slotIndex slot)) =
      (if differs g signature block memory content (2 * slotIndex slot) then 1 else 0) +
        (if differs g signature block memory content (2 * slotIndex slot + 1) then 1 else 0) := by
  have first : 4 * (2 * slotIndex slot) = 8 * slotIndex slot := by omega
  have second : 4 * (2 * slotIndex slot + 1) = 8 * slotIndex slot + 4 := by omega
  simp only [differs, decide_eq_true_eq]
  rw [← @load_fillBlock g signature block memory slot inside, first, second]
  rfl

/-- The errors of a block are its differing words. -/
theorem blockErrors_eq_differing (whole : WholeSectors g) :
    blockErrors g signature block content = differing g signature block memory content := by
  let wrong : Nat → Nat := fun word =>
    if differs g signature block memory content word then 1 else 0
  have words : g.blocksize.toNat / 4 = 2 * (g.sectorsPerBlock.toNat * patternPerSector) := by
    rw [whole, patternPerSector]
    omega
  calc blockErrors g signature block content
      = ((slots g).map fun slot =>
          wrong (2 * slotIndex slot) + wrong (2 * slotIndex slot + 1)).sum :=
        congrArg List.sum (List.map_congr_left fun slot inside => fieldErrors_words inside)
    _ = (((slots g).map slotIndex).map fun index =>
          wrong (2 * index) + wrong (2 * index + 1)).sum := by
        rw [List.map_map]
        rfl
    _ = ((List.range (g.blocksize.toNat / 4)).map wrong).sum := by
        rw [slots_map_index, sum_pairs, words]
    _ = differing g signature block memory content := (countP_eq_sum _ _).symm

/-- The content differs in no word exactly when it is the one that `write_block` puts there. -/
theorem differing_eq_zero (whole : WholeSectors g) :
    differing g signature block memory content = 0 ↔
      ∀ i, i < g.blocksize.toNat → content i = fillBlock g signature block memory i := by
  rw [← blockErrors_eq_differing whole, blockErrors_eq_zero_iff whole]
  constructor
  · intro canonicalContent i inside
    rw [canonicalContent i inside, fillBlock_canonical whole inside]
  · intro same i inside
    rw [same i inside, fillBlock_canonical whole inside]

/-- `verify_block` counts exactly the differing words, for every block size that is a multiple of
the sector size, every block and every content.

The whole block lies in the file. A read that ends early is not covered. -/
theorem verifyBlock_exact {options : Options} (set : geometry options = some g)
    (multiple : 512 ∣ options.blocksize.toNat) (signature block : Word) (memory : Nat → Byte)
    (file : File Byte) (inside : offset g block + g.blocksize.toNat ≤ file.size) :
    Exact g signature block memory file := by
  have whole := wholeSectors_of_geometry set multiple
  have errors : blockErrors g signature block (file.read (offset g block)) =
      differing g signature block memory (file.read (offset g block)) :=
    blockErrors_eq_differing whole
  have counted : verifyBlock g signature file block =
      some (differing g signature block memory (file.read (offset g block))) := by
    rw [verifyBlock, if_pos inside, errors]
  refine ⟨counted, ?_, ?_⟩
  · have small : g.sectorsPerBlock.toNat ≤ 2 ^ 23 := by
      have bound := g.blocksize.isLt
      rw [whole] at bound
      omega
    rw [← errors]
    exact blockErrors_lt small
  · rw [counted, Option.some.injEq]
    exact differing_eq_zero whole

/-- The default block size, with a file of one block. -/
theorem verifyBlock_exact_default :
    ∃ g, geometry (sized 1 0 4096) = some g ∧
      Exact g 7 0 (fun _ => 0) (File.empty.write 0 4096 fun _ => 1) := by
  have set : geometry (sized 1 0 4096) = some ⟨4096, 0, 256, 8⟩ := by rfl
  exact ⟨_, set, verifyBlock_exact set (by decide) 7 0 (fun _ => 0) _
    (File.end_le_write File.empty (fun _ => 1) (by decide))⟩

end AvocadoMisc.Disktest.Exactness
