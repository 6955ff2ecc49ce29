import AvocadoMisc.Library.Scanning
import AvocadoMisc.Library.Sections
import AvocadoMisc.Vpd.Parsers

/-!
# The blocks that `extract_spyre_block` keeps

The output of `lsvpd` is cut before each line with `*FC`. A block is wanted under an address when
the address is the last word of its first address line and one of its locations is among the
codes. The dictionary has exactly the wanted blocks, the last one where several are wanted under
one address.
-/

namespace AvocadoMisc.Vpd.Extraction

open Library.Scanning Library.Sections Parsers
open Library.Text (charLines contains)

/-- The line starts a block. -/
def startsBlock (line : Text) : Bool := contains "*FC".toList line

/-- A line with an address: its last word has a colon and a dot. -/
structure AddressLine (line : Text) : Prop where
  marked : contains "*AX".toList line = true
  colon : ':' ∈ lastWord line
  dot : '.' ∈ lastWord line

/-- The last word of the first address line of a block. -/
def FirstAddress (address : Text) (block : List Text) : Prop :=
  ∃ before line after, block = before ++ line :: after ∧ AddressLine line ∧
    lastWord line = address ∧ ∀ other ∈ before, ¬AddressLine other

/-- A block that belongs into the dictionary under an address: one of its locations is among the
codes, and its first address line has the address. -/
structure Wanted (locationCodes : List Text) (address : Text) (block : List Text) : Prop where
  location : ∃ line ∈ block, contains "*YL".toList line = true ∧ lastWord line ∈ locationCodes
  address : FirstAddress address block

/-- A line with an address is one for the code. -/
theorem namesAddress_iff {line : Text} : namesAddress line = true ↔ AddressLine line := by
  simp only [namesAddress, Bool.and_eq_true, List.contains_iff_mem]
  constructor
  · rintro ⟨⟨marked, colon⟩, dot⟩
    exact ⟨marked, colon, dot⟩
  · rintro ⟨marked, colon, dot⟩
    exact ⟨⟨marked, colon⟩, dot⟩

/-- The address of a block for the code is its first one. -/
theorem addressOf_eq_some_iff {address : Text} {block : List Text} :
    addressOf block = some address ↔ FirstAddress address block := by
  rw [addressOf, List.findSome?_eq_some_iff]
  constructor
  · rintro ⟨before, line, after, split, here, earlier⟩
    by_cases names : namesAddress line = true
    · rw [if_pos names, Option.some.injEq] at here
      refine ⟨before, line, after, split, namesAddress_iff.mp names, here, ?_⟩
      intro other member isAddress
      have none := earlier other member
      rw [if_pos (namesAddress_iff.mpr isAddress)] at none
      cases none
    · rw [if_neg names] at here
      cases here
  · rintro ⟨before, line, after, split, isAddress, here, earlier⟩
    refine ⟨before, line, after, split, ?_, fun other member => ?_⟩
    · rw [if_pos (namesAddress_iff.mpr isAddress), here]
    · exact if_neg (mt namesAddress_iff.mp (earlier other member))

/-- The blocks that the dictionary takes under an address are the wanted ones. -/
theorem wanted_iff {locationCodes : List Text} {address : Text} {block : List Text} :
    (block.any (located locationCodes) && decide (addressOf block = some address)) = true ↔
      Wanted locationCodes address block := by
  simp only [Bool.and_eq_true, decide_eq_true_eq, addressOf_eq_some_iff, List.any_eq_true,
    located, List.contains_iff_mem]
  constructor
  · rintro ⟨location, address⟩
    exact ⟨location, address⟩
  · rintro ⟨location, address⟩
    exact ⟨location, address⟩

/-- The loop over the lines collects a block like the cutting loop. -/
theorem blocksFrom_eq (lines current : List Text) :
    blocksFrom current lines = cutFrom startsBlock current lines := by
  induction lines generalizing current with
  | nil => rfl
  | cons line rest inductionHypothesis =>
    rw [blocksFrom, cutFrom, inductionHypothesis, inductionHypothesis]
    rfl

/-- The blocks of the output are its lines, cut before each line with `*FC`. -/
theorem blocks_cut (lsvpdOut : Text) :
    CutBefore startsBlock (charLines lsvpdOut) (blocks lsvpdOut) := by
  rw [blocks, blocksFrom_eq]
  exact cutBefore_cuts startsBlock (charLines lsvpdOut)

/-- `extract_spyre_block` returns exactly the wanted blocks of the output, each with all its lines
under its first address. Where two are wanted under one address it is the last one, and the final
block is among them. -/
theorem extractSpyreBlock_exact (lsvpdOut : Text) (locationCodes : List Text) :
    ∃ pieces, CutBefore startsBlock (charLines lsvpdOut) pieces ∧
      (∀ others, CutBefore startsBlock (charLines lsvpdOut) others → others = pieces) ∧
      ∀ address block, (extractSpyreBlock lsvpdOut locationCodes).lookup address = some block ↔
        LastWith (Wanted locationCodes address) pieces block := by
  have cuts := blocks_cut lsvpdOut
  refine ⟨blocks lsvpdOut, cuts, fun others alsoCuts => ?_, fun address block => ?_⟩
  · rw [alsoCuts.eq_cutBefore, cuts.eq_cutBefore]
  · rw [lookup_extractSpyreBlock, ownBlocks, getLast?_filter_eq_some_iff]
    simp only [wanted_iff]

end AvocadoMisc.Vpd.Extraction
