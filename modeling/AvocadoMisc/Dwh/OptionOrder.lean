import Mathlib.Data.List.Nodup
import Mathlib.Data.List.Perm.Basic
import AvocadoMisc.Library.Commuting
import AvocadoMisc.Dwh.SizeParsing
import AvocadoMisc.Dwh.VerifySettings

/-!
# The order of dwh's options

`ParseArgs` takes the options in the order in which `getopt_long` delivers them, sets a global
variable for each, and has `VerifySettings` check the result. `--minthreads` also sets
`maxthreads` when that is still zero, which is meant for a command line without `--maxthreads`.

A number that cannot be read ends the program with an exception, so there is no ending then. The
texts that are printed on the way are left out.
-/

namespace AvocadoMisc.Dwh.OptionOrder

open SizeParsing VerifySettings Library.Commuting

/-- The settings with the flags that only `ParseArgs` sets. -/
structure Globals extends Settings where
  verboseFlag : Bool
  sigmaskThreads : Bool
  deriving DecidableEq

/-- The global variables before the command line is read. -/
def initialGlobals : Globals where
  toSettings := defaults 0 0 0 ""
  verboseFlag := false
  sigmaskThreads := true

/-- The long options that set a flag. -/
inductive Flag where
  | verbose | brief | shortthreads | longthreads | sigmaskthread | sigmasktask

/-- The options that take an argument. -/
inductive Code where
  | iothreads | maxmem | minthreads | iotimeout | time | maxthreads | maxfilesize | maxiosize
  deriving DecidableEq

/-- An option and its argument. -/
structure ValueOption where
  code : Code
  optarg : List Char
  deriving DecidableEq

/-- What `getopt_long` delivers. -/
inductive Delivered where
  | flag (flag : Flag)
  | help
  | value (option : ValueOption)
  | unknown

/-- `getopt_long` sets a flag. -/
def setFlag (globals : Globals) : Flag → Globals
  | .verbose => { globals with verboseFlag := true }
  | .brief => { globals with verboseFlag := false }
  | .shortthreads => { globals with shortThreads := true }
  | .longthreads => { globals with shortThreads := false }
  | .sigmaskthread => { globals with sigmaskThreads := true }
  | .sigmasktask => { globals with sigmaskThreads := false }

/-- The size in an argument, which can always be read. -/
def sizeArgument (optarg : List Char) : Option (BitVec 64) := some (memsztoull (some optarg))

/-- The assignments of an option, unless its argument cannot be read. -/
def assignment (option : ValueOption) : Option (Globals → Globals) :=
  match option.code with
  | .iothreads => (strtoui option.optarg).map fun number globals =>
    { globals with iothreads := number }
  | .maxmem => (sizeArgument option.optarg).map fun size globals => { globals with maxMem := size }
  | .minthreads => (strtoui option.optarg).map fun number globals =>
    { globals with
      minthreads := number
      maxthreads := if globals.maxthreads = 0 then number else globals.maxthreads }
  | .iotimeout => (strtoui option.optarg).map fun number globals =>
    { globals with ioTimeout := number.setWidth 64 }
  | .time => (strtoui option.optarg).map fun number globals =>
    { globals with maxruntime := number }
  | .maxthreads => (strtoui option.optarg).map fun number globals =>
    { globals with maxthreads := number }
  | .maxfilesize => (sizeArgument option.optarg).map fun size globals =>
    { globals with maxFileSize := size }
  | .maxiosize => (sizeArgument option.optarg).map fun size globals =>
    { globals with maxIOSize := size }

/-- The loop over the options: the global variables after it, and whether it came to the end. -/
def readOptions : List Delivered → Globals → Option (Globals × Bool)
  | [], globals => some (globals, true)
  | .flag flag :: rest, globals => readOptions rest (setFlag globals flag)
  | .help :: _, globals => some (globals, false)
  | .value option :: rest, globals =>
    match assignment option with
    | none => none
    | some assign => readOptions rest (assign globals)
  | .unknown :: _, globals => some (globals, false)

/-- The global variables and what `ParseArgs` returns. -/
structure Ending where
  globals : Globals
  accepted : Bool
  deriving DecidableEq

/-- The first other argument is the file. -/
def nameFile (operands : List String) (globals : Globals) : Globals :=
  match operands with
  | [] => globals
  | first :: _ => { globals with ioFilename := first }

/-- What follows the loop: the file is named and the settings are verified. -/
def finish (operands : List String) (globals : Globals) : Ending :=
  let globals := nameFile operands globals
  match verifySettings globals.toSettings with
  | .error _ => { globals, accepted := false }
  | .ok settings => { globals := { globals with toSettings := settings }, accepted := true }

/-- `ParseArgs`. -/
def parseArgs (options : List Delivered) (operands : List String) : Option Ending :=
  match readOptions options initialGlobals with
  | none => none
  | some (globals, false) => some { globals, accepted := false }
  | some (globals, true) => some (finish operands globals)

/-- The two options that set `maxthreads`. -/
def setsMaxthreads (option : ValueOption) : Bool :=
  option.code == .minthreads || option.code == .maxthreads

/-- One option, when no argument before it was unreadable. -/
def step (globals : Option Globals) (option : ValueOption) : Option Globals :=
  globals.bind fun globals => (assignment option).map fun assign => assign globals

/-- The global variables after options with arguments. -/
def run (options : List ValueOption) : Option Globals := options.foldl step (some initialGlobals)

/-- In one order `--maxthreads` has the value zero after `--minthreads` has set another one, and in
the other order the zero is replaced. -/
structure Conflict (first second : List ValueOption) : Prop where
  readable : ∀ option ∈ first, (assignment option).isSome
  exchanged : ∃ least most : ValueOption, least.code = .minthreads ∧ most.code = .maxthreads ∧
    strtoui most.optarg = some 0 ∧ strtoui least.optarg ≠ some 0 ∧
    ([least, most].Sublist first ∧ [most, least].Sublist second ∨
      [most, least].Sublist first ∧ [least, most].Sublist second)

/-- An unreadable argument is not forgotten. -/
theorem foldl_none (options : List ValueOption) : options.foldl step none = none := by
  induction options with
  | nil => rfl
  | cons option rest inductionHypothesis => exact inductionHypothesis

/-- The loop over options with arguments comes to the end. -/
theorem readOptions_values (options : List ValueOption) (globals : Globals) :
    readOptions (options.map .value) globals =
      (options.foldl step (some globals)).map fun globals => (globals, true) := by
  induction options generalizing globals with
  | nil => rfl
  | cons option rest inductionHypothesis =>
    rw [List.map_cons, readOptions, List.foldl_cons]
    cases read : assignment option with
    | none =>
      have unreadable : step (some globals) option = none := by simp [step, read]
      rw [unreadable, foldl_none]
      rfl
    | some assign =>
      have next : step (some globals) option = some (assign globals) := by simp [step, read]
      rw [next]
      exact inductionHypothesis _

/-- `ParseArgs` for options with arguments. -/
theorem parseArgs_values (options : List ValueOption) (operands : List String) :
    parseArgs (options.map .value) operands = (run options).map (finish operands) := by
  rw [parseArgs, readOptions_values, run]
  cases options.foldl step (some initialGlobals) <;> rfl

/-- Options of different kinds may be exchanged, unless both set `maxthreads`. -/
theorem assignment_commute {a b : ValueOption} {assignA assignB : Globals → Globals}
    (readA : assignment a = some assignA) (readB : assignment b = some assignB)
    (different : a.code ≠ b.code) (plain : setsMaxthreads a = false) (globals : Globals) :
    assignB (assignA globals) = assignA (assignB globals) := by
  obtain ⟨codeA, argA⟩ := a
  obtain ⟨codeB, argB⟩ := b
  cases codeA
  case minthreads | maxthreads => simp [setsMaxthreads] at plain
  all_goals cases codeB <;>
    first
    | exact absurd rfl different
    | simp only [assignment, Option.map_eq_some_iff] at readA readB
      obtain ⟨valueA, -, rfl⟩ := readA
      obtain ⟨valueB, -, rfl⟩ := readB
      rfl

/-- The steps of such options may be exchanged. -/
theorem commutes_of_plain {a b : ValueOption} (different : a.code ≠ b.code)
    (plain : setsMaxthreads a = false) : Commutes step a b := by
  intro state
  cases state with
  | none => rfl
  | some globals =>
    cases readA : assignment a with
    | none => cases readB : assignment b <;> simp [step, readA, readB]
    | some assignA =>
      cases readB : assignment b with
      | none => simp [step, readA, readB]
      | some assignB =>
        simp [step, readA, readB, assignment_commute readA readB different plain globals]

/-- Of distinct kinds, two options may be exchanged unless both set `maxthreads`. -/
theorem commutes_of_distinct {options : List ValueOption}
    (distinct : (options.map (·.code)).Nodup) :
    ∀ a ∈ options, ∀ b ∈ options, setsMaxthreads a = false → a = b ∨ Commutes step a b := by
  intro a aIn b bIn plain
  by_cases same : a.code = b.code
  · exact .inl (List.inj_on_of_nodup_map distinct aIn bIn same)
  · exact .inr (commutes_of_plain same plain)

/-- The orders of two elements. -/
theorem perm_pair {α : Type*} {a b : α} {list : List α} (perm : [a, b].Perm list) :
    list = [a, b] ∨ list = [b, a] := by
  have two : list.length = 2 := perm.length_eq.symm
  obtain ⟨c, d, rfl⟩ := List.length_eq_two.mp two
  have first : c = a ∨ c = b := by simpa using perm.mem_iff.mpr (List.mem_cons_self : c ∈ [c, d])
  rcases first with rfl | rfl
  · have rest := List.singleton_perm_singleton.mp ((List.perm_cons c).mp perm)
    exact .inl (by rw [rest])
  · have swapped : [c, a].Perm [c, d] := (List.Perm.swap a c []).trans perm
    have rest := List.singleton_perm_singleton.mp ((List.perm_cons c).mp swapped)
    exact .inr (by rw [rest])

/-- Options of distinct kinds that all set `maxthreads` are none, one, or both, and in the last case
they come in one of two orders. -/
theorem threads_cases {options : List ValueOption} (distinct : (options.map (·.code)).Nodup)
    (kinds : ∀ option ∈ options, option.code = .minthreads ∨ option.code = .maxthreads) :
    options.length < 2 ∨ ∃ least most : ValueOption, least.code = .minthreads ∧
      most.code = .maxthreads ∧ (options = [least, most] ∨ options = [most, least]) := by
  match options with
  | [] => exact .inl (by decide)
  | [_] => exact .inl (by simp)
  | [a, b] =>
    have different : a.code ≠ b.code := by simpa using distinct
    right
    rcases kinds a (by simp), kinds b (by simp) with ⟨first | first, second | second⟩
    · exact absurd (first.trans second.symm) different
    · exact ⟨a, b, first, second, .inl rfl⟩
    · exact ⟨b, a, second, first, .inr rfl⟩
    · exact absurd (first.trans second.symm) different
  | a :: b :: c :: rest =>
    exfalso
    have apart : a.code ≠ b.code ∧ a.code ≠ c.code ∧ b.code ≠ c.code := by
      simp only [List.map_cons, List.nodup_cons, List.mem_cons, not_or] at distinct
      exact ⟨distinct.1.1, distinct.1.2.1, distinct.2.1.1⟩
    have first := kinds a (by simp)
    have second := kinds b (by simp)
    have third := kinds c (by simp)
    grind

/-- The kinds of the options that set `maxthreads`. -/
theorem kinds_of_filter {options : List ValueOption} :
    ∀ option ∈ options.filter setsMaxthreads,
      option.code = .minthreads ∨ option.code = .maxthreads := by
  intro option member
  simpa [setsMaxthreads] using (List.mem_filter.mp member).2

/-- Options of distinct kinds that set `maxthreads` and come one after the other are all. -/
theorem filter_eq_of_sublist {options : List ValueOption} {a b : ValueOption}
    (distinct : (options.map (·.code)).Nodup) (setsA : setsMaxthreads a = true)
    (setsB : setsMaxthreads b = true) (inOrder : [a, b].Sublist options) :
    options.filter setsMaxthreads = [a, b] := by
  have kept : [a, b].filter setsMaxthreads = [a, b] := by simp [setsA, setsB]
  have below : [a, b].Sublist (options.filter setsMaxthreads) :=
    kept ▸ inOrder.filter setsMaxthreads
  have few : (options.filter setsMaxthreads).length ≤ 2 := by
    rcases threads_cases (distinct.sublist (List.filter_sublist.map _)) kinds_of_filter with
      few | ⟨least, most, -, -, pair | pair⟩
    · exact Nat.le_of_lt few
    · rw [pair]; rfl
    · rw [pair]; rfl
  exact (below.eq_of_length_le few).symm

/-- Permuted options give the two thread counts in the same order, or both in the other order. -/
theorem filter_cases {first second : List ValueOption} (perm : first.Perm second)
    (distinct : (first.map (·.code)).Nodup) :
    first.filter setsMaxthreads = second.filter setsMaxthreads ∨
      ∃ least most : ValueOption, least.code = .minthreads ∧ most.code = .maxthreads ∧
        (first.filter setsMaxthreads = [least, most] ∧
          second.filter setsMaxthreads = [most, least] ∨
        first.filter setsMaxthreads = [most, least] ∧
          second.filter setsMaxthreads = [least, most]) := by
  have permuted : (first.filter setsMaxthreads).Perm (second.filter setsMaxthreads) :=
    perm.filter _
  have distinctHere : ((first.filter setsMaxthreads).map (·.code)).Nodup :=
    distinct.sublist (List.filter_sublist.map _)
  rcases threads_cases distinctHere kinds_of_filter with
    few | ⟨least, most, isLeast, isMost, pair⟩
  · left
    cases here : first.filter setsMaxthreads with
    | nil =>
      rw [here] at permuted
      exact permuted.nil_eq
    | cons option rest =>
      have alone : rest = [] := by
        rw [here, List.length_cons] at few
        exact List.length_eq_zero_iff.mp (by omega)
      rw [here, alone] at permuted
      rw [alone]
      exact (List.perm_singleton.mp permuted.symm).symm
  · rcases pair with here | here <;> rw [here] at permuted ⊢
    · rcases perm_pair permuted with there | there
      · exact .inl there.symm
      · exact .inr ⟨least, most, isLeast, isMost, .inl ⟨rfl, there⟩⟩
    · rcases perm_pair permuted with there | there
      · exact .inl there.symm
      · exact .inr ⟨least, most, isLeast, isMost, .inr ⟨rfl, there⟩⟩

/-- An unreadable argument leaves no ending. -/
theorem foldl_unreadable {options : List ValueOption} {option : ValueOption}
    (member : option ∈ options) (unreadable : assignment option = none)
    (state : Option Globals) : options.foldl step state = none := by
  obtain ⟨before, after, rfl⟩ := List.append_of_mem member
  have here (state : Option Globals) : step state option = none := by
    cases state <;> simp [step, unreadable]
  rw [List.foldl_append, List.foldl_cons, here, foldl_none]

/-- The other options leave `maxthreads` alone. -/
theorem assignment_maxthreads {option : ValueOption} {assign : Globals → Globals}
    (read : assignment option = some assign) (plain : setsMaxthreads option = false)
    (globals : Globals) : (assign globals).maxthreads = globals.maxthreads := by
  obtain ⟨code, optarg⟩ := option
  cases code
  case minthreads | maxthreads => simp [setsMaxthreads] at plain
  all_goals
    simp only [assignment, Option.map_eq_some_iff] at read
    obtain ⟨value, -, rfl⟩ := read
    rfl

/-- Readable ones among them are all taken. -/
theorem foldl_plain {options : List ValueOption}
    (plain : ∀ option ∈ options, setsMaxthreads option = false)
    (readable : ∀ option ∈ options, (assignment option).isSome) (globals : Globals) :
    ∃ after, options.foldl step (some globals) = some after ∧
      after.maxthreads = globals.maxthreads := by
  induction options generalizing globals with
  | nil => exact ⟨globals, rfl, rfl⟩
  | cons option rest inductionHypothesis =>
    obtain ⟨assign, read⟩ := Option.isSome_iff_exists.mp (readable option (by simp))
    have next : step (some globals) option = some (assign globals) := by simp [step, read]
    obtain ⟨after, ends, kept⟩ := inductionHypothesis
      (fun other member => plain other (List.mem_cons_of_mem option member))
      (fun other member => readable other (List.mem_cons_of_mem option member)) (assign globals)
    refine ⟨after, ?_, ?_⟩
    · rw [List.foldl_cons, next, ends]
    · rw [kept, assignment_maxthreads read (plain option (by simp))]

/-- The global variables after the two thread counts. -/
def threadCounts (minthreads maxthreads : BitVec 32) : Globals :=
  { initialGlobals with minthreads, maxthreads }

section Pair

variable {least most : ValueOption} {minthreads maxthreads : BitVec 32}

/-- With `--minthreads` first, both counts are as given. -/
theorem foldl_least_most (isLeast : least.code = .minthreads) (isMost : most.code = .maxthreads)
    (readLeast : strtoui least.optarg = some minthreads)
    (readMost : strtoui most.optarg = some maxthreads) :
    [least, most].foldl step (some initialGlobals) = some (threadCounts minthreads maxthreads) := by
  simp only [List.foldl_cons, List.foldl_nil, step, assignment, isLeast, isMost, readLeast,
    readMost, Option.bind_some, Option.map_some]
  rfl

/-- With `--maxthreads` first, a zero is replaced. -/
theorem foldl_most_least (isLeast : least.code = .minthreads) (isMost : most.code = .maxthreads)
    (readLeast : strtoui least.optarg = some minthreads)
    (readMost : strtoui most.optarg = some maxthreads) :
    [most, least].foldl step (some initialGlobals) =
      some (threadCounts minthreads (if maxthreads = 0 then minthreads else maxthreads)) := by
  simp only [List.foldl_cons, List.foldl_nil, step, assignment, isLeast, isMost, readLeast,
    readMost, Option.bind_some, Option.map_some]
  rfl

end Pair

/-- A readable thread count is a number. -/
theorem exists_count {option : ValueOption}
    (kind : option.code = .minthreads ∨ option.code = .maxthreads)
    (readable : (assignment option).isSome) : ∃ count, strtoui option.optarg = some count := by
  rcases kind with isLeast | isMost
  · simp only [assignment, isLeast, Option.isSome_map] at readable
    exact Option.isSome_iff_exists.mp readable
  · simp only [assignment, isMost, Option.isSome_map] at readable
    exact Option.isSome_iff_exists.mp readable

/-- `finish` leaves `maxthreads` alone. -/
theorem finish_maxthreads (operands : List String) (globals : Globals) :
    (finish operands globals).globals.maxthreads = globals.maxthreads := by
  have named : (nameFile operands globals).maxthreads = globals.maxthreads := by
    cases operands <;> rfl
  simp only [finish]
  cases verified : verifySettings (nameFile operands globals).toSettings with
  | error refusal => exact named
  | ok settings =>
    have kept := (verifySettings_ok verified).2
    exact (congrArg Settings.maxthreads kept).trans named

/-- The options that do not set `maxthreads` do not. -/
theorem plain_of_filter {options : List ValueOption} :
    ∀ option ∈ options.filter fun option => !setsMaxthreads option,
      setsMaxthreads option = false := by
  intro option member
  simpa using (List.mem_filter.mp member).2

section Orders

variable {first second : List ValueOption} {least most : ValueOption}

/-- When the two counts are given in different orders and there is no conflict, the global
variables are the same. -/
theorem run_eq_of_harmless (perm : first.Perm second) (distinct : (first.map (·.code)).Nodup)
    (isLeast : least.code = .minthreads) (isMost : most.code = .maxthreads)
    (leastFirst : first.filter setsMaxthreads = [least, most])
    (mostFirst : second.filter setsMaxthreads = [most, least])
    (harmless : ¬((∀ option ∈ first, (assignment option).isSome) ∧
      strtoui most.optarg = some 0 ∧ strtoui least.optarg ≠ some 0)) :
    run first = run second := by
  by_cases readable : ∀ option ∈ first, (assignment option).isSome
  · have ofFilter : ∀ option ∈ [least, most], (assignment option).isSome := by
      intro option member
      exact readable option (List.mem_of_mem_filter (leastFirst ▸ member))
    obtain ⟨minthreads, readLeast⟩ := exists_count (.inl isLeast) (ofFilter least (by simp))
    obtain ⟨maxthreads, readMost⟩ := exists_count (.inr isMost) (ofFilter most (by simp))
    have sameCounts : (if maxthreads = 0 then minthreads else maxthreads) = maxthreads := by
      by_cases zero : maxthreads = 0
      · have zeroToo : minthreads = 0 := by
          by_contra other
          exact harmless ⟨readable, zero ▸ readMost, by simpa [readLeast] using other⟩
        rw [if_pos zero, zeroToo, zero]
      · exact if_neg zero
    rw [run, run, foldl_filter_of_perm (List.Perm.refl first) (commutes_of_distinct distinct),
      foldl_filter_of_perm perm (commutes_of_distinct distinct), leastFirst, mostFirst,
      foldl_least_most isLeast isMost readLeast readMost,
      foldl_most_least isLeast isMost readLeast readMost, sameCounts]
  · push Not at readable
    obtain ⟨option, member, unreadable⟩ := readable
    have none : assignment option = none := by simpa using unreadable
    rw [run, run, foldl_unreadable member none, foldl_unreadable (perm.mem_iff.mp member) none]

/-- When they conflict, the endings differ in `maxthreads`: the zero stays where `--maxthreads` came
last, and is replaced where it came first. -/
theorem parseArgs_ne_of_conflict (perm : first.Perm second)
    (distinct : (first.map (·.code)).Nodup)
    (isLeast : least.code = .minthreads) (isMost : most.code = .maxthreads)
    (leastFirst : first.filter setsMaxthreads = [least, most])
    (mostFirst : second.filter setsMaxthreads = [most, least])
    (readable : ∀ option ∈ first, (assignment option).isSome)
    (zero : strtoui most.optarg = some 0) (nonzero : strtoui least.optarg ≠ some 0)
    (operands : List String) :
    parseArgs (first.map .value) operands ≠ parseArgs (second.map .value) operands := by
  have leastIn : least ∈ first.filter setsMaxthreads := by simp [leastFirst]
  obtain ⟨minthreads, readLeast⟩ := exists_count (.inl isLeast)
    (readable least (List.mem_of_mem_filter leastIn))
  have plainReadable : ∀ option ∈ first.filter fun option => !setsMaxthreads option,
      (assignment option).isSome := fun option member =>
    readable option (List.mem_of_mem_filter member)
  obtain ⟨after, ends, kept⟩ := foldl_plain plain_of_filter plainReadable
    (threadCounts minthreads 0)
  obtain ⟨other, otherEnds, otherKept⟩ := foldl_plain plain_of_filter plainReadable
    (threadCounts minthreads (if (0 : BitVec 32) = 0 then minthreads else 0))
  have runFirst : run first = some after := by
    rw [run, foldl_filter_of_perm (List.Perm.refl first) (commutes_of_distinct distinct),
      leastFirst, foldl_least_most isLeast isMost readLeast zero, ends]
  have runSecond : run second = some other := by
    rw [run, foldl_filter_of_perm perm (commutes_of_distinct distinct), mostFirst,
      foldl_most_least isLeast isMost readLeast zero, otherEnds]
  intro same
  rw [parseArgs_values, parseArgs_values, runFirst, runSecond, Option.map_some, Option.map_some]
    at same
  have counts := congrArg (fun ending : Ending => ending.globals.maxthreads)
    (Option.some.inj same)
  simp only [finish_maxthreads, kept, otherKept] at counts
  have zeroCount : minthreads = 0 := counts.symm
  exact nonzero (zeroCount ▸ readLeast)

/-- Two orders of the same options end alike exactly when they do not conflict.

Each option is given once, with any argument, and any operands are behind the options. An argument
that cannot be read ends the program in both orders.

Proof: the assignments of two options commute unless they are `--minthreads` and `--maxthreads`, and
of these two only a zero for the second makes a difference. -/
theorem parseArgs_eq_iff (perm : first.Perm second) (distinct : (first.map (·.code)).Nodup)
    (operands : List String) :
    parseArgs (first.map .value) operands = parseArgs (second.map .value) operands ↔
      ¬Conflict first second := by
  have distinctToo : (second.map (·.code)).Nodup := (perm.map _).nodup_iff.mp distinct
  have readableToo (readable : ∀ option ∈ first, (assignment option).isSome) :
      ∀ option ∈ second, (assignment option).isSome := fun option member =>
    readable option (perm.mem_iff.mpr member)
  constructor
  · rintro same ⟨readable, least, most, isLeast, isMost, zero, nonzero, orders⟩
    have setsLeast : setsMaxthreads least = true := by simp [setsMaxthreads, isLeast]
    have setsMost : setsMaxthreads most = true := by simp [setsMaxthreads, isMost]
    rcases orders with ⟨here, there⟩ | ⟨here, there⟩
    · exact parseArgs_ne_of_conflict perm distinct isLeast isMost
        (filter_eq_of_sublist distinct setsLeast setsMost here)
        (filter_eq_of_sublist distinctToo setsMost setsLeast there)
        readable zero nonzero operands same
    · exact parseArgs_ne_of_conflict perm.symm distinctToo isLeast isMost
        (filter_eq_of_sublist distinctToo setsLeast setsMost there)
        (filter_eq_of_sublist distinct setsMost setsLeast here)
        (readableToo readable) zero nonzero operands same.symm
  · intro harmless
    rw [parseArgs_values, parseArgs_values]
    congr 1
    rcases filter_cases perm distinct with sameOrder | ⟨least, most, isLeast, isMost, orders⟩
    · exact foldl_eq_of_perm perm (commutes_of_distinct distinct) sameOrder _
    · rcases orders with ⟨here, there⟩ | ⟨here, there⟩
      · refine run_eq_of_harmless perm distinct isLeast isMost here there ?_
        rintro ⟨readable, zero, nonzero⟩
        exact harmless ⟨readable, least, most, isLeast, isMost, zero, nonzero,
          .inl ⟨here ▸ List.filter_sublist, there ▸ List.filter_sublist⟩⟩
      · refine (run_eq_of_harmless perm.symm distinctToo isLeast isMost there here ?_).symm
        rintro ⟨readable, zero, nonzero⟩
        exact harmless ⟨fun option member => readable option (perm.mem_iff.mp member),
          least, most, isLeast, isMost, zero, nonzero,
          .inr ⟨here ▸ List.filter_sublist, there ▸ List.filter_sublist⟩⟩

end Orders

/-- The option `-n 5`. -/
def fiveThreads : ValueOption := { code := .minthreads, optarg := ['5'] }

/-- The option `-x 0`. -/
def noMaximum : ValueOption := { code := .maxthreads, optarg := ['0'] }

/-- The orders of `-n 5` and `-x 0` end alike only if they do not conflict. -/
theorem orders_of_five :
    parseArgs ([fiveThreads, noMaximum].map .value) ["file"] =
        parseArgs ([noMaximum, fiveThreads].map .value) ["file"] ↔
      ¬Conflict [fiveThreads, noMaximum] [noMaximum, fiveThreads] :=
  parseArgs_eq_iff (List.Perm.swap _ _ _) (by decide) ["file"]

/-- `-n 5 -x 0` is refused and `-x 0 -n 5` is accepted. -/
theorem order_decides :
    (parseArgs ([fiveThreads, noMaximum].map .value) ["file"]).map (·.accepted) = some false ∧
      (parseArgs ([noMaximum, fiveThreads].map .value) ["file"]).map (·.accepted) = some true ∧
      ¬ ∀ (first second : List ValueOption) (operands : List String), first.Perm second →
        (first.map (·.code)).Nodup →
        parseArgs (first.map .value) operands = parseArgs (second.map .value) operands := by
  have refused :
      (parseArgs ([fiveThreads, noMaximum].map .value) ["file"]).map (·.accepted) =
        some false := by decide
  have accepted :
      (parseArgs ([noMaximum, fiveThreads].map .value) ["file"]).map (·.accepted) =
        some true := by decide
  refine ⟨refused, accepted, fun all => ?_⟩
  rw [all _ _ _ (List.Perm.swap _ _ _) (by decide), accepted] at refused
  cases refused

end AvocadoMisc.Dwh.OptionOrder
