import AvocadoMisc.Library.Text

/-!
# RAID creation over a growing list of drives

`basictest` of `arcconf_raid_oper.py` goes through the numbers of the drives, and from the second
one on it creates a RAID of each level for the drives so far. It keeps them in two forms, as a part
of the command and as a list, and before each creation it initialises the drives of the list.

The list is extended with a text, which adds its characters one by one. And there is no level for
some of the numbers of drives, so the variable for the levels is not there.
-/

namespace AvocadoMisc.Arcconf.RaidCreation

open Library.Text

/-- A character string. -/
abbrev Text := List Char

/-- What is run. The controller, the channel, the logical drive and the file system are the same in
every command. -/
inductive Command where
  | getconfig
  | initializeDrive (device : Text)
  | create (raid : String) (drives : Text)
  | listDrives
  | makeFs
  | delete
  deriving DecidableEq

/-- The levels for a number of drives. For the others `raid_level` is not assigned. -/
def raidLevel : Nat → Option (List String)
  | 2 => some ["0", "1"]
  | 3 => some ["1E"]
  | 4 => some ["10", "5", "6"]
  | 6 => some ["50"]
  | 8 => some ["60"]
  | _ => none

/-- `raid_exec`, where every command succeeds. The level is a text, so `raid == 0` is false, and
the drive is a byte string, so it is not `""`. -/
def raidExec (dskData : Text) (pair : List Text) (raid : String) : List Command :=
  pair.map .initializeDrive ++ [.create raid dskData, .listDrives, .makeFs, .delete]

/-- `raid_create`. There is no result where it raises an `UnboundLocalError`. -/
def raidCreate (diskData : Text) (cnt : Nat) (pair : List Text) : Option (List Command) :=
  (raidLevel cnt).map fun levels => levels.flatMap (raidExec diskData pair)

/-- The commands of a run, and whether it ends with an exception. -/
structure Run where
  commands : List Command
  raised : Bool

/-- A run after some more commands. -/
def Run.after (earlier : List Command) (run : Run) : Run :=
  { run with commands := earlier ++ run.commands }

/-- The loop of `basictest`. The drives of a turn are added to those of the turns before, and from
the second turn on the drives so far are made into a RAID. -/
def basictestLoop (channelNo diskVal : Text) (diskPair : List Text) (loopCount : Nat) :
    List Text → Run
  | [] => ⟨[], false⟩
  | val :: rest =>
    let val := strip charSpace val
    let diskVal := diskVal ++ (' ' :: (channelNo ++ ' ' :: val))
    let diskPair := diskPair ++ val.map fun c => [c]
    let loopCount := loopCount + 1
    if loopCount > 1 then
      match raidCreate diskVal loopCount diskPair with
      | none => ⟨[], true⟩
      | some commands => (basictestLoop channelNo diskVal diskPair loopCount rest).after commands
    else basictestLoop channelNo diskVal diskPair loopCount rest

/-- `basictest`. -/
def basictest (channelNo : Text) (diskNo : List Text) : Run :=
  (basictestLoop channelNo [] [] 0 diskNo).after [.getconfig]

/-! ### What is asked of a run -/

/-- The numbers of the drives: at least two, and all different. A number is a word. -/
structure Drives where
  numbers : List Text
  several : 2 ≤ numbers.length
  distinct : numbers.Nodup
  isWord : ∀ number ∈ numbers, IsWord charSpace number

/-- How drives are written in a command. -/
def written (channelNo : Text) (numbers : List Text) : Text :=
  numbers.flatMap fun number => ' ' :: (channelNo ++ ' ' :: number)

/-- Every creation over the first drives comes after exactly these were initialised, each once,
since the creation before it. -/
def Prepared (channelNo : Text) (numbers : List Text) : List Text → List Command → Prop
  | _, [] => True
  | since, .initializeDrive device :: rest => Prepared channelNo numbers (since ++ [device]) rest
  | since, .create _ drives :: rest =>
    (∀ k, drives = written channelNo (numbers.take k) → since.Perm (numbers.take k)) ∧
      Prepared channelNo numbers [] rest
  | since, .getconfig :: rest => Prepared channelNo numbers since rest
  | since, .listDrives :: rest => Prepared channelNo numbers since rest
  | since, .makeFs :: rest => Prepared channelNo numbers since rest
  | since, .delete :: rest => Prepared channelNo numbers since rest

/-- The run comes to its end without an exception, and every creation is prepared by the
initialisation of its own drives. -/
def Proper (channelNo : Text) (drives : Drives) : Prop :=
  (basictest channelNo drives.numbers).raised = false ∧
    Prepared channelNo drives.numbers [] (basictest channelNo drives.numbers).commands

/-! ### The drives of a creation -/

/-- The characters of the numbers. -/
def characters (numbers : List Text) : List Text :=
  numbers.flatMap fun number => number.map fun c => [c]

/-- The numbers are their characters exactly when each has one character. -/
theorem characters_perm_iff (numbers : List Text) :
    (characters numbers).Perm numbers ↔ ∀ number ∈ numbers, number.length = 1 := by
  constructor
  · intro same number member
    obtain ⟨whole, _, inWhole⟩ := List.mem_flatMap.mp (same.symm.subset member)
    obtain ⟨c, _, rfl⟩ := List.mem_map.mp inWhole
    rfl
  · intro single
    have same : characters numbers = numbers := by
      rw [characters]
      conv_rhs => rw [← List.flatMap_singleton' numbers]
      refine List.flatMap_congr fun number member => ?_
      obtain ⟨c, rfl⟩ := List.length_eq_one_iff.mp (single number member)
      rfl
    rw [same]

/-- More drives make a longer command. -/
theorem length_written_take_lt (channelNo : Text) {numbers : List Text} {k l : Nat} (less : k < l)
    (inside : k < numbers.length) :
    (written channelNo (numbers.take k)).length < (written channelNo (numbers.take l)).length := by
  have parts : numbers.take l = numbers.take k ++ (numbers.take l).drop k := by
    conv_lhs => rw [← List.take_append_drop k (numbers.take l)]
    rw [List.take_take, min_eq_left (Nat.le_of_lt less)]
  have more : (numbers.take l).drop k ≠ [] := by
    intro empty
    have length := congrArg List.length empty
    simp only [List.length_drop, List.length_take, List.length_nil] at length
    omega
  obtain ⟨first, rest, remaining⟩ := List.exists_cons_of_ne_nil more
  rw [parts, remaining, written, written, List.flatMap_append, List.flatMap_cons]
  simp only [List.length_append, List.length_cons]
  omega

/-- The command says which of the first drives are meant. -/
theorem take_eq_of_written {channelNo : Text} {numbers : List Text} {k l : Nat}
    (same : written channelNo (numbers.take k) = written channelNo (numbers.take l)) :
    numbers.take k = numbers.take l := by
  wlog less : k ≤ l generalizing k l
  · exact (this same.symm (Nat.le_of_not_le less)).symm
  rcases Nat.lt_or_eq_of_le less with shorter | rfl
  · by_cases inside : k < numbers.length
    · have lengths := length_written_take_lt channelNo shorter inside
      rw [same] at lengths
      exact absurd lengths (Nat.lt_irrefl _)
    · rw [List.take_of_length_le (by omega), List.take_of_length_le (by omega)]
  · rfl

/-! ### The loop -/

/-- Commands that initialise drives. -/
theorem prepared_initialize (channelNo : Text) (numbers since devices : List Text)
    (rest : List Command) :
    Prepared channelNo numbers since (devices.map .initializeDrive ++ rest) ↔
      Prepared channelNo numbers (since ++ devices) rest := by
  induction devices generalizing since with
  | nil => simp
  | cons device devices inductionHypothesis =>
    simp [Prepared, inductionHypothesis]

/-- The creations of all levels for the first drives. -/
theorem prepared_levels (channelNo : Text) (numbers : List Text) (k : Nat) (pair : List Text)
    {levels : List String} (some_level : levels ≠ []) (rest : List Command) :
    Prepared channelNo numbers []
        (levels.flatMap (raidExec (written channelNo (numbers.take k)) pair) ++ rest) ↔
      pair.Perm (numbers.take k) ∧ Prepared channelNo numbers [] rest := by
  have one : ∀ raid (remaining : List Command), Prepared channelNo numbers []
      (raidExec (written channelNo (numbers.take k)) pair raid ++ remaining) ↔
        pair.Perm (numbers.take k) ∧ Prepared channelNo numbers [] remaining := by
    intro raid remaining
    rw [raidExec, List.append_assoc, prepared_initialize]
    simp only [List.nil_append, List.cons_append, Prepared]
    refine and_congr_left fun _ => ⟨fun all => all k rfl, fun good l same => ?_⟩
    rw [← take_eq_of_written same]
    exact good
  induction levels with
  | nil => exact absurd rfl some_level
  | cons raid levels inductionHypothesis =>
    rw [List.flatMap_cons, List.append_assoc, one]
    cases levels with
    | nil => simp
    | cons second others =>
      have further := inductionHypothesis (List.cons_ne_nil second others)
      simp only [further, ← and_assoc, and_self]

/-- There is a level for every number of drives that has levels. -/
theorem raidLevel_ne_nil {cnt : Nat} {levels : List String}
    (leveled : raidLevel cnt = some levels) : levels ≠ [] := by
  unfold raidLevel at leveled
  split at leveled <;> cases leveled <;> decide

/-- What holds above a number holds of the next one and above it. -/
theorem forall_above_iff (n : Nat) {Holds : Nat → Prop} :
    (∀ cnt, n < cnt → Holds cnt) ↔ Holds (n + 1) ∧ ∀ cnt, n + 1 < cnt → Holds cnt := by
  constructor
  · exact fun all => ⟨all (n + 1) n.lt_succ_self, fun cnt above => all cnt (by omega)⟩
  · rintro ⟨next, above⟩ cnt larger
    rcases Nat.lt_or_eq_of_le (Nat.succ_le_of_lt larger) with further | rfl
    · exact above cnt further
    · exact next

/-- The loop after the first drives, when there are levels for all numbers of drives that follow:
it comes to its end, and every creation is prepared exactly when the characters of the drives are
the drives.

Proof: by induction on the drives that follow. -/
theorem basictestLoop_spec (channelNo : Text) {earlier later : List Text}
    (isWord : ∀ number ∈ later, IsWord charSpace number)
    (leveled : ∀ cnt, earlier.length < cnt → 1 < cnt → cnt ≤ (earlier ++ later).length →
      raidLevel cnt ≠ none) :
    (basictestLoop channelNo (written channelNo earlier) (characters earlier) earlier.length
        later).raised = false ∧
      (Prepared channelNo (earlier ++ later) [] (basictestLoop channelNo
          (written channelNo earlier) (characters earlier) earlier.length later).commands ↔
        ∀ cnt, earlier.length < cnt → 1 < cnt → cnt ≤ (earlier ++ later).length →
          (characters ((earlier ++ later).take cnt)).Perm ((earlier ++ later).take cnt)) := by
  induction later generalizing earlier with
  | nil =>
    refine ⟨rfl, iff_of_true trivial fun cnt longer _ within => ?_⟩
    rw [List.append_nil] at within
    omega
  | cons val rest inductionHypothesis =>
    have here : strip charSpace val = val := (isWord val List.mem_cons_self).strip
    have whole : earlier ++ val :: rest = earlier ++ [val] ++ rest := by simp
    have diskVal : written channelNo earlier ++ (' ' :: (channelNo ++ ' ' :: val)) =
        written channelNo (earlier ++ [val]) := by simp [written]
    have diskPair : characters earlier ++ val.map (fun c => [c]) =
        characters (earlier ++ [val]) := by simp [characters]
    have loopCount : earlier.length + 1 = (earlier ++ [val]).length := by simp
    have first : (earlier ++ val :: rest).take (earlier.length + 1) = earlier ++ [val] := by
      rw [whole, loopCount, List.take_left]
    obtain ⟨finishes, prepared⟩ := @inductionHypothesis (earlier ++ [val])
      (fun number member => isWord number (List.mem_cons_of_mem val member))
      (fun cnt longer => by
        rw [← whole]
        exact leveled cnt (by simp at longer; omega))
    rw [← whole] at prepared
    unfold basictestLoop
    simp only [here, diskVal, diskPair, loopCount]
    split
    case isTrue several =>
      obtain ⟨levels, leveledHere⟩ := Option.ne_none_iff_exists'.mp
        (leveled (earlier ++ [val]).length (by simp) several (by simp))
      rw [raidCreate, leveledHere, Option.map_some]
      refine ⟨finishes, ?_⟩
      have creations := prepared_levels channelNo (earlier ++ val :: rest) (earlier ++ [val]).length
        (characters (earlier ++ [val])) (raidLevel_ne_nil leveledHere)
        (basictestLoop channelNo (written channelNo (earlier ++ [val]))
          (characters (earlier ++ [val])) (earlier ++ [val]).length rest).commands
      rw [← loopCount, first, loopCount] at creations
      refine creations.trans ?_
      rw [prepared, forall_above_iff earlier.length, first, loopCount]
      exact and_congr_left fun _ => ⟨fun now _ _ => now, fun now => now several (by simp)⟩
    case isFalse single =>
      refine ⟨finishes, prepared.trans ?_⟩
      rw [forall_above_iff earlier.length, loopCount]
      exact ⟨fun later => ⟨fun two => absurd two single, later⟩, And.right⟩

/-- A loop that comes to its end has met levels for all numbers of drives. -/
theorem leveled_of_finishes {channelNo diskVal : Text} {diskPair later : List Text}
    {loopCount : Nat}
    (finishes : (basictestLoop channelNo diskVal diskPair loopCount later).raised = false) :
    ∀ cnt, loopCount < cnt → 1 < cnt → cnt ≤ loopCount + later.length → raidLevel cnt ≠ none := by
  induction later generalizing diskVal diskPair loopCount with
  | nil =>
    intro cnt longer _ within
    rw [List.length_nil] at within
    omega
  | cons val rest inductionHypothesis =>
    unfold basictestLoop at finishes
    dsimp only at finishes
    intro cnt longer two within
    rw [List.length_cons] at within
    split at finishes
    case isTrue =>
      split at finishes
      case h_1 => cases finishes
      case h_2 commands created =>
        rcases Nat.lt_or_eq_of_le (show loopCount + 1 ≤ cnt from longer) with further | rfl
        · exact inductionHypothesis finishes cnt further two (by omega)
        · rintro none
          rw [raidCreate, none] at created
          cases created
    case isFalse single => exact inductionHypothesis finishes cnt (by omega) two (by omega)

/-! ### The result -/

/-- There are levels for every number of drives up to this one exactly when there are at most
four. -/
theorem leveled_iff (n : Nat) : (∀ cnt, 1 < cnt → cnt ≤ n → raidLevel cnt ≠ none) ↔ n ≤ 4 := by
  constructor
  · intro leveled
    by_contra more
    exact leveled 5 (by decide) (by omega) rfl
  · intro few cnt two within
    have cases : cnt = 2 ∨ cnt = 3 ∨ cnt = 4 := by omega
    rcases cases with rfl | rfl | rfl <;> decide

/-- The run comes to its end with every creation prepared exactly when there are at most four
drives, and each has a number of one digit.

The numbers of the drives are any texts. Every command is taken to succeed.

Proof: a text of one character extends a list by itself and a longer one by its characters, and from
the fifth drive on there are no levels. -/
theorem raidCreation_proper_iff (channelNo : Text) (drives : Drives) :
    Proper channelNo drives ↔
      drives.numbers.length ≤ 4 ∧ ∀ number ∈ drives.numbers, number.length = 1 := by
  have several := drives.several
  have spec (few : drives.numbers.length ≤ 4) :=
    @basictestLoop_spec channelNo [] drives.numbers drives.isWord
      fun cnt _ two within => (leveled_iff _).mpr few cnt two within
  constructor
  · rintro ⟨finishes, prepared⟩
    have few : drives.numbers.length ≤ 4 := by
      rw [← leveled_iff]
      intro cnt two within
      exact leveled_of_finishes finishes cnt (by omega) two (by omega)
    refine ⟨few, (characters_perm_iff _).mp ?_⟩
    have last := (spec few).2.mp prepared drives.numbers.length
      (by rw [List.length_nil]; omega) (by omega) (by simp)
    simpa using last
  · rintro ⟨few, single⟩
    refine ⟨(spec few).1, (spec few).2.mpr fun cnt _ _ _ => ?_⟩
    exact (characters_perm_iff _).mpr fun number member =>
      single number (List.mem_of_mem_take member)

/-- Two drives, of which one has a number of two digits. -/
def twoDrives : Drives where
  numbers := [['7'], ['1', '2']]
  several := by decide
  distinct := by decide
  isWord number member := by
    simp only [List.mem_cons, List.not_mem_nil, or_false] at member
    rcases member with rfl | rfl <;> exact isWord_of_check (by decide) (by decide)

/-- Drives 1 and 2 are initialised, and not drive 12. -/
theorem raidCreation_not_proper : ¬ Proper ['0'] twoDrives := by
  rw [raidCreation_proper_iff]
  rintro ⟨-, single⟩
  exact absurd (single ['1', '2'] (by decide)) (by decide)

end AvocadoMisc.Arcconf.RaidCreation
