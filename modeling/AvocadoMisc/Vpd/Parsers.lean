import AvocadoMisc.Library.Text
import Mathlib.Data.List.Infix
import Mathlib.Data.List.Induction
import Mathlib.Logic.Function.Basic

/-!
# Reading vital product data

Three parsers of the lsvpd test. `extract_spyre_block` splits the output of `lsvpd` before each
line with `*FC` and keeps the blocks that name a PCI address and one of the wanted location codes,
under that address. `parse_lsvpd_block` makes a dictionary of the fields of a block: a field
without a value gives `None`, and a repeated field a list. `parse_lscfg_output` makes a dictionary
of the output of `lscfg`, where at least two dots stand between a name and its value.

Each parser is a loop with a state. Behind each one stands what its result says about the text: the
blocks of the output, the entries of a block, and the two sides of a dotted line.
-/

namespace AvocadoMisc.Vpd.Parsers

open Library.Text

/-- A text. -/
abbrev Text := List Char

/-- `line.split()[-1]`. It is only asked of lines that are not blank. -/
def lastWord (line : Text) : Text := (words charSpace line).getLastD []

/-- A line with one of the marks `*AX` and `*YL` has a last word: `split` does not come back
empty. -/
theorem words_of_contains {mark line : Text} (found : contains mark line = true)
    (star : '*' ∈ mark) : words charSpace line ≠ [] := by
  have inside : mark <:+: line := of_decide_eq_true found
  exact words_ne_nil (inside.subset star) (by decide)

/-! ### Blocks of `lsvpd` -/

/-- The state of `extract_spyre_block`. The dictionary has its latest entry first, and no address
is the empty text. -/
structure Scan where
  spyreBlocks : List (Text × List Text)
  currentBlock : List Text
  address : Text

/-- A line with one of the location codes. -/
def located (locationCodes : List Text) (line : Text) : Bool :=
  contains "*YL".toList line && locationCodes.contains (lastWord line)

/-- A line with a PCI address. -/
def namesAddress (line : Text) : Bool :=
  contains "*AX".toList line && (lastWord line).contains ':' && (lastWord line).contains '.'

/-- `process_block`. -/
def Scan.processBlock (locationCodes : List Text) (scan : Scan) : List (Text × List Text) :=
  if scan.currentBlock = [] ∨ scan.address = [] then scan.spyreBlocks
  else if scan.currentBlock.any (located locationCodes) then
    (scan.address, scan.currentBlock) :: scan.spyreBlocks
  else scan.spyreBlocks

/-- A line joins the current block. The first address in the block counts. -/
def Scan.extend (scan : Scan) (line : Text) : Scan :=
  { scan with
    currentBlock := scan.currentBlock ++ [line]
    address := if scan.address = [] ∧ namesAddress line then lastWord line else scan.address }

/-- One line. With `*FC` it starts a block. -/
def Scan.line (locationCodes : List Text) (scan : Scan) (line : Text) : Scan :=
  if contains "*FC".toList line then
    (⟨scan.processBlock locationCodes, [], []⟩ : Scan).extend line
  else scan.extend line

/-- `extract_spyre_block`. -/
def extractSpyreBlock (lsvpdOut : Text) (locationCodes : List Text) : List (Text × List Text) :=
  ((charLines lsvpdOut).foldl (Scan.line locationCodes) ⟨[], [], []⟩).processBlock locationCodes

/-- The lines cut before each line with `*FC`. -/
def blocksFrom : List Text → List Text → List (List Text)
  | current, [] => [current]
  | current, line :: rest =>
    if contains "*FC".toList line then current :: blocksFrom [line] rest
    else blocksFrom (current ++ [line]) rest

/-- The blocks of the output. The first one is what stands before any `*FC`. -/
def blocks (lsvpdOut : Text) : List (List Text) := blocksFrom [] (charLines lsvpdOut)

/-- The address of a block is the first one in it. -/
def addressOf (block : List Text) : Option Text :=
  block.findSome? fun line => if namesAddress line then some (lastWord line) else none

/-- The entry of a block, if it has an address and a location code. -/
def keyed (locationCodes : List Text) (block : List Text) : Option (Text × List Text) :=
  if block.any (located locationCodes) then (addressOf block).map (·, block) else none

/-- The blocks with a location code under an address, in the order of the output. -/
def ownBlocks (lsvpdOut : Text) (locationCodes : List Text) (address : Text) :
    List (List Text) :=
  (blocks lsvpdOut).filter fun block =>
    block.any (located locationCodes) && decide (addressOf block = some address)

/-- An address is not empty. -/
theorem addressOf_ne_nil {block : List Text} {address : Text}
    (found : addressOf block = some address) : address ≠ [] := by
  obtain ⟨line, _, named⟩ := List.exists_of_findSome?_eq_some found
  cases names : namesAddress line with
  | false => simp [names] at named
  | true =>
    rw [if_pos names] at named
    cases Option.some.inj named
    simp only [namesAddress, Bool.and_eq_true, List.contains_iff_mem] at names
    exact List.ne_nil_of_mem names.2

/-- The address belongs to the current block. -/
def Scan.Addressed (scan : Scan) : Prop := scan.address = (addressOf scan.currentBlock).getD []

/-- What `process_block` adds to the dictionary. -/
theorem processBlock_eq (locationCodes : List Text) {scan : Scan} (known : scan.Addressed) :
    scan.processBlock locationCodes =
      (keyed locationCodes scan.currentBlock).toList ++ scan.spyreBlocks := by
  unfold Scan.Addressed at known
  unfold Scan.processBlock keyed
  cases found : addressOf scan.currentBlock with
  | none => simp [known, found]
  | some address =>
    have filled : scan.address = address := by simp [known, found]
    have nonempty := addressOf_ne_nil found
    have some_line : scan.currentBlock ≠ [] := by
      rintro empty
      simp [empty, addressOf] at found
    cases wanted : scan.currentBlock.any (located locationCodes) <;>
      simp [filled, nonempty, some_line]

/-- A line that joins keeps the address with the block. -/
theorem Scan.Addressed.extend {scan : Scan} (known : scan.Addressed) (line : Text) :
    (scan.extend line).Addressed := by
  have appended : addressOf (scan.currentBlock ++ [line]) = (addressOf scan.currentBlock).or
      (if namesAddress line then some (lastWord line) else none) := by
    rw [addressOf, List.findSome?_append]
    simp [addressOf]
  unfold Scan.Addressed at known
  simp only [Scan.Addressed, Scan.extend, appended, known]
  cases found : addressOf scan.currentBlock with
  | none => cases namesAddress line <;> simp
  | some address => simp [addressOf_ne_nil found]

/-- The loop: the dictionary gets the blocks that the lines close.

Proof: by induction on the lines that are left. A line with `*FC` closes the current block. -/
theorem foldl_line (locationCodes : List Text) (rest : List Text) (scan : Scan)
    (known : scan.Addressed) :
    (rest.foldl (Scan.line locationCodes) scan).processBlock locationCodes =
      ((blocksFrom scan.currentBlock rest).filterMap (keyed locationCodes)).reverse ++
        scan.spyreBlocks := by
  induction rest generalizing scan with
  | nil =>
    rw [List.foldl_nil, processBlock_eq locationCodes known, blocksFrom]
    cases kept : keyed locationCodes scan.currentBlock <;> simp [kept]
  | cons line rest inductionHypothesis =>
    rw [List.foldl_cons, blocksFrom, Scan.line]
    split
    · have fresh : (⟨scan.processBlock locationCodes, [], []⟩ : Scan).Addressed := rfl
      rw [inductionHypothesis _ (fresh.extend line)]
      simp only [Scan.extend, List.nil_append, processBlock_eq locationCodes known]
      cases kept : keyed locationCodes scan.currentBlock <;> simp [kept]
    · exact inductionHypothesis _ (known.extend line)

/-- The dictionary has the entries of the blocks, the last one first. -/
theorem extractSpyreBlock_eq (lsvpdOut : Text) (locationCodes : List Text) :
    extractSpyreBlock lsvpdOut locationCodes =
      ((blocks lsvpdOut).filterMap (keyed locationCodes)).reverse := by
  rw [extractSpyreBlock, foldl_line locationCodes _ ⟨[], [], []⟩ rfl, List.append_nil]
  rfl

/-- Of several blocks under one address the dictionary has the last one. -/
theorem lookup_extractSpyreBlock (lsvpdOut : Text) (locationCodes : List Text) (address : Text) :
    (extractSpyreBlock lsvpdOut locationCodes).lookup address =
      (ownBlocks lsvpdOut locationCodes address).getLast? := by
  rw [extractSpyreBlock_eq, ownBlocks]
  induction blocks lsvpdOut using List.reverseRecOn with
  | nil => rfl
  | append_singleton earlier block inductionHypothesis =>
    rw [List.filterMap_append, List.reverse_append, List.filter_append]
    cases wanted : block.any (located locationCodes) with
    | false => simpa [keyed, wanted] using inductionHypothesis
    | true =>
      cases found : addressOf block with
      | none => simpa [keyed, wanted, found] using inductionHypothesis
      | some other =>
        by_cases same : other = address
        · simp [keyed, wanted, found, same]
        · have different : (address == other) = false := by simpa using Ne.symm same
          simpa [keyed, wanted, found, same, List.lookup_cons, different] using inductionHypothesis

/-! ### Fields of a block -/

/-- A value of the dictionary: one text or `None`, or a list. The first one of a list may be
`None`, the others were appended as texts. -/
inductive Value where
  | single (text : Option Text)
  | repeated (first : Option Text) (others : List Text)

/-- A further value for a key. -/
def Value.append : Value → Text → Value
  | .single text, value => .repeated text [value]
  | .repeated first others, value => .repeated first (others ++ [value])

/-- The value, or the first one of a list. -/
def Value.first : Value → Option Text
  | .single text => text
  | .repeated first _ => first

/-- What `', '.join` joins: the texts of a list, or the characters of a text. It raises a
`TypeError` where there is a `None`. -/
def Value.joined : Value → Option (List Text)
  | .single none => none
  | .single (some text) => some (text.map ([·]))
  | .repeated none _ => none
  | .repeated (some first) others => some (first :: others)

/-- The entry on a line: a key, and a value where one follows. -/
def entryOf (line : Text) : Option (Text × Option Text) :=
  let stripped := strip charSpace line
  if stripped.head? = some '*' then
    match cut charSpace 1 stripped with
    | [] => none
    | [key] => some (key.dropWhile (· = '*'), none)
    | key :: value :: _ => some (key.dropWhile (· = '*'), some (strip charSpace value))
  else none

/-- The state of `parse_lsvpd_block`. -/
structure Fields where
  data : Text → Option Value
  missingValues : List Text

/-- Put an entry. -/
def Fields.put (fields : Fields) : Text × Option Text → Fields
  | (key, none) =>
    ⟨Function.update fields.data key (some (.single none)), fields.missingValues ++ [key]⟩
  | (key, some value) =>
    { fields with
      data := Function.update fields.data key
        (match fields.data key with
        | none => some (.single (some value))
        | some present => some (present.append value)) }

/-- One line. -/
def Fields.line (fields : Fields) (line : Text) : Fields :=
  match entryOf line with
  | none => fields
  | some entry => fields.put entry

/-- The key for the list of keys without a value. -/
def missingFields : Text := "missing_fields".toList

/-- `parse_lsvpd_block`. -/
def parseLsvpdBlock (block : List Text) : Text → Option Value :=
  let fields := block.foldl Fields.line ⟨fun _ => none, []⟩
  match fields.missingValues with
  | [] => fields.data
  | key :: others =>
    Function.update fields.data missingFields (some (.repeated (some key) others))

/-- The entries of a block. -/
def entries (block : List Text) : List (Text × Option Text) := block.filterMap entryOf

/-- The keys without a value, in order. -/
def valueless (block : List Text) : List Text :=
  (entries block).filterMap fun entry => if entry.2 = none then some entry.1 else none

/-- The first value of a key. -/
def firstValue (block : List Text) (key : Text) : Option Text :=
  (entries block).findSome? fun entry => if entry.1 = key then entry.2 else none

/-- What the dictionary has first for a key: `None` as soon as the key was without a value once,
else the first value.

Proof: by induction on the entries, from the last one. A value does not change what is first, and
a missing value makes it `None`. -/
theorem first_put (listed : List (Text × Option Text)) (key : Text) :
    ((listed.foldl Fields.put ⟨fun _ => none, []⟩).data key).map Value.first =
      if (key, none) ∈ listed then some none
      else (listed.findSome? fun entry => if entry.1 = key then entry.2 else none).map some := by
  induction listed using List.reverseRecOn with
  | nil => rfl
  | append_singleton earlier entry inductionHypothesis =>
    rw [List.foldl_append, List.foldl_cons, List.foldl_nil, List.findSome?_append]
    generalize earlier.foldl Fields.put ⟨fun _ => none, []⟩ = fields at inductionHypothesis
    obtain ⟨other, text⟩ := entry
    by_cases same : other = key
    · subst same
      cases text with
      | none => simp [Fields.put, Value.first]
      | some value =>
        have kept (present : Value) : (present.append value).first = present.first := by
          cases present <;> rfl
        by_cases gap : (other, none) ∈ earlier
        · simp only [gap, if_true] at inductionHypothesis
          obtain ⟨present, found, first⟩ := Option.map_eq_some_iff.mp inductionHypothesis
          simp [Fields.put, found, kept, first, gap]
        · simp only [gap, if_false] at inductionHypothesis
          cases found : fields.data other with
          | none =>
            have nothing := inductionHypothesis
            rw [found, Option.map_none, eq_comm, Option.map_eq_none_iff] at nothing
            simp [Fields.put, found, nothing, gap, Value.first]
          | some present =>
            rw [found, Option.map_some, eq_comm, Option.map_eq_some_iff] at inductionHypothesis
            obtain ⟨shown, before, first⟩ := inductionHypothesis
            simp [Fields.put, found, before, gap, kept, ← first]
    · have unchanged : (fields.put (other, text)).data key = fields.data key := by
        cases text <;> simp [Fields.put, Ne.symm same]
      rw [unchanged, inductionHypothesis]
      simp [same, Ne.symm same]

/-- The list of keys without a value. -/
theorem missingValues_put (listed : List (Text × Option Text)) :
    (listed.foldl Fields.put ⟨fun _ => none, []⟩).missingValues =
      listed.filterMap fun entry => if entry.2 = none then some entry.1 else none := by
  induction listed using List.reverseRecOn with
  | nil => rfl
  | append_singleton earlier entry inductionHypothesis =>
    rw [List.foldl_append, List.filterMap_append, ← inductionHypothesis]
    obtain ⟨key, text⟩ := entry
    cases text <;> simp [Fields.put]

/-- The lines of a block are its entries. -/
theorem foldl_fields (block : List Text) (fields : Fields) :
    block.foldl Fields.line fields = (entries block).foldl Fields.put fields := by
  rw [entries, List.foldl_filterMap]
  congr 1
  funext fields line
  unfold Fields.line
  cases entryOf line <;> rfl

theorem mem_valueless {block : List Text} {key : Text} :
    key ∈ valueless block ↔ (key, none) ∈ entries block := by
  simp [valueless]

/-- What stands first in the dictionary for a key of the output. -/
theorem first_parseLsvpdBlock (block : List Text) {key : Text} (field : key ≠ missingFields) :
    (parseLsvpdBlock block key).map Value.first =
      if key ∈ valueless block then some none else (firstValue block key).map some := by
  simp only [parseLsvpdBlock, foldl_fields, mem_valueless]
  refine Eq.trans ?_ (first_put (entries block) key)
  generalize (entries block).foldl Fields.put ⟨fun _ => none, []⟩ = fields
  cases fields.missingValues with
  | nil => rfl
  | cons missing others => simp [Function.update_of_ne field]

/-- The keys without a value, as they are reported. -/
theorem missing_parseLsvpdBlock {block : List Text} (some_missing : valueless block ≠ []) :
    (parseLsvpdBlock block missingFields).bind Value.joined = some (valueless block) := by
  have listed := missingValues_put (entries block)
  obtain ⟨key, others, started⟩ := List.exists_cons_of_ne_nil some_missing
  rw [valueless] at started
  simp only [parseLsvpdBlock, foldl_fields, listed, started, valueless]
  simp [Value.joined]

/-- Without such keys, only a field of that very name is reported. -/
theorem named_parseLsvpdBlock {block : List Text} (complete : valueless block = []) :
    (parseLsvpdBlock block missingFields).map Value.first =
      (firstValue block missingFields).map some := by
  have listed := missingValues_put (entries block)
  rw [← valueless, complete] at listed
  have absent : (missingFields, none) ∉ entries block := by
    rw [← mem_valueless, complete]
    simp
  have found := first_put (entries block) missingFields
  rw [if_neg absent] at found
  simp only [parseLsvpdBlock, foldl_fields, listed]
  exact found

/-! ### Output of `lscfg` -/

/-- The state of `parse_lscfg_output`. No current key is the empty text. -/
structure Lscfg where
  data : Text → Option Text
  currentKey : Text

/-- The loop over the characters of a line. A dot is kept back until it is known that another one
does not follow. The second of two dots begins the value. -/
def splitDots : Nat → Text → Text × Text
  | _, [] => ([], [])
  | dotCount, c :: rest =>
    if c = '.' then if dotCount + 1 ≥ 2 then ([], rest) else splitDots (dotCount + 1) rest
    else
      (List.replicate dotCount '.' ++ c :: (splitDots 0 rest).1, (splitDots 0 rest).2)

/-- The key of a name: what stands in the parentheses at its end, if there are any. -/
def shortKey (name : Text) : Text :=
  if name.getLast? = some ')' ∧ '(' ∈ name then
    ((name.reverse.takeWhile (· ≠ '(')).reverse).dropLast
  else name

/-- One line. A line that begins with a point has the value of the key before it; any other line has
a key, and behind points perhaps its value. -/
def Lscfg.line (state : Lscfg) (line : Text) : Lscfg :=
  let stripped := strip charSpace line
  if stripped = [] then state
  else if stripped.head? = some '.' then
    let value := stripped.dropWhile (· = '.')
    if state.currentKey ≠ [] ∧ value ≠ [] then
      ⟨Function.update state.data state.currentKey (some value), []⟩
    else state
  else
    let key := strip charSpace (splitDots 0 stripped).1
    let value := (splitDots 0 stripped).2.dropWhile (· = '.')
    if key = [] then state
    else if value ≠ [] then ⟨Function.update state.data (shortKey key) (some value), []⟩
    else ⟨state.data, shortKey key⟩

/-- `parse_lscfg_output`. -/
def parseLscfgOutput (lscfgOut : Text) : Text → Option Text :=
  ((charLines lscfgOut).foldl Lscfg.line ⟨fun _ => none, []⟩).data

/-- A name without two dots in a row, and with no dot at its end, ends where the dots behind it
begin, however many they are. From the third character behind it on, the text is the value.

Proof: by induction on the name. A dot that is kept back is put before the next character. -/
theorem splitDots_name (name tail : Text) (dotCount : Nat) (few : dotCount ≤ 1)
    (undotted : ¬ ['.', '.'] <:+: List.replicate dotCount '.' ++ name ++ ['.'])
    (dots : ∀ c ∈ tail.take 2, c = '.') :
    splitDots dotCount (name ++ tail) =
      (if name = [] then [] else List.replicate dotCount '.' ++ name, tail.drop 2) := by
  induction name generalizing dotCount with
  | nil =>
    have none : dotCount = 0 := by
      by_contra positive
      have one : dotCount = 1 := by omega
      exact undotted (by simp [one])
    match tail with
    | [] => simp [splitDots]
    | [c] =>
      obtain rfl : c = '.' := dots c (by simp)
      simp [splitDots, none]
    | c :: d :: rest =>
      obtain rfl : c = '.' := dots c (by simp)
      obtain rfl : d = '.' := dots d (by simp)
      simp [splitDots, none]
  | cons c name inductionHypothesis =>
    by_cases dot : c = '.'
    · subst dot
      have none : dotCount = 0 := by
        by_contra positive
        have one : dotCount = 1 := by omega
        exact undotted ⟨[], name ++ ['.'], by simp [one]⟩
      subst none
      have more : name ≠ [] := by
        rintro rfl
        exact undotted (by simp)
      have further := inductionHypothesis 1 (Nat.le_refl 1) (by simpa using undotted)
      simpa [splitDots, more] using further
    · have shorter : ¬ ['.', '.'] <:+: List.replicate 0 '.' ++ name ++ ['.'] := by
        intro inside
        refine undotted (inside.trans ⟨List.replicate dotCount '.' ++ [c], [], by simp⟩)
      have further := inductionHypothesis 0 (Nat.zero_le 1) shorter
      by_cases last : name = []
      · subst last
        rw [List.nil_append] at further
        simp [splitDots, dot, further]
      · simp [splitDots, dot, further]

end AvocadoMisc.Vpd.Parsers
