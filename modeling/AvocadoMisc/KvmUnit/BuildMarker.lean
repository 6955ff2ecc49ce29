import AvocadoMisc.Library.Text
import AvocadoMisc.Library.Transitions

/-!
# The build marker of the KVM unit tests

`setUp` clones and builds the tests in a directory that later runs share. A file there says
how the last build ended. While it says success the build is skipped, whatever options the
run configures with. Otherwise `configure` and `make` are run, and the file is written: an
exception leaves it at failed, and an interrupt, which no handler catches, at what it held
or at the first characters of what was being written.

The model adds a record that the program does not have: the command that configured the
build of which the tree is the completed result.
-/

namespace AvocadoMisc.KvmUnit.BuildMarker

open Library.Text Library.Transitions

/-- How a call ends: it completes, raises an `Exception`, or is broken off by something that
is none. -/
inductive Outcome where
  | completes
  | raises
  | interrupted
  deriving DecidableEq

/-- The shared directory: whether it is there, the content of `.kvm_build_status` if there is
one, and the record. -/
structure Directory where
  present : Bool
  status : Option (List Char)
  built : Option String

/-- Writing a file of one line. A write that does not complete has not opened the file, or
has left some first characters of the text. -/
structure Writing where
  outcome : Outcome
  left : Option Nat

/-- A build command. One that does not complete may have changed the tree. -/
structure Building where
  outcome : Outcome
  changes : Bool

/-- One run: its options, and how what it calls ends. `preparation` is everything before the
clone, and `reading` stands for the change of directory and the test and reading of the
file. -/
structure Run where
  configureArgs : String
  preparation : Outcome
  clone : Outcome
  /-- The directory is there after a clone that does not complete. -/
  cloned : Bool
  reading : Outcome
  configure : Building
  make : Building
  success : Writing
  failed : Writing

/-- Whether `setUp` gets past the build step. -/
inductive Ending where
  | past
  | stopped
  deriving DecidableEq

/-- The two texts of the file. -/
def successText : List Char := "success".toList

def failedText : List Char := "failed".toList

/-- `configure_cmd`. -/
def configureCmd (configureArgs : String) : String := "./configure " ++ configureArgs

/-- The file says that the build succeeded, with white space around it or none. -/
def Marked (directory : Directory) : Prop :=
  ∃ text, directory.status = some text ∧ strip charSpace text = successText

instance (directory : Directory) : Decidable (Marked directory) :=
  match status : directory.status with
  | none => .isFalse fun ⟨_, same, _⟩ => by simp [status] at same
  | some text =>
    if success : strip charSpace text = successText then .isTrue ⟨text, status, success⟩
    else .isFalse fun ⟨_, same, also⟩ =>
      success (Option.some.inj (status.symm.trans same) ▸ also)

/-- The file after a write. -/
def Writing.leaves (writing : Writing) (text : List Char) (directory : Directory) : Directory :=
  match writing.outcome, writing.left with
  | .completes, _ => { directory with status := some text }
  | _, some count => { directory with status := some (text.take count) }
  | _, none => directory

/-- The tree after a build command that did not complete. -/
def Building.spoils (building : Building) (directory : Directory) : Directory :=
  if building.changes then { directory with built := none } else directory

/-- The handler of the build: it writes that the build failed, and raises. -/
def handle (run : Run) (directory : Directory) : Directory × Ending :=
  (run.failed.leaves failedText directory, .stopped)

/-- The build, when it is required. An exception in it is handled, which writes the marker of a
failure; an interruption is not, and leaves the directory as it is then. -/
def rebuild (run : Run) (directory : Directory) : Directory × Ending :=
  match run.configure.outcome with
  | .interrupted => (run.configure.spoils directory, .stopped)
  | .raises => handle run (run.configure.spoils directory)
  | .completes =>
    -- The configured tree is nobody's result before it is made.
    let directory := { directory with built := none }
    match run.make.outcome with
    | .interrupted => (directory, .stopped)
    | .raises => handle run directory
    | .completes =>
      let directory := { directory with built := some (configureCmd run.configureArgs) }
      match run.success.outcome with
      | .interrupted => (run.success.leaves successText directory, .stopped)
      | .raises => handle run (run.success.leaves successText directory)
      | .completes => (run.success.leaves successText directory, .past)

/-- The clone, when the directory is not there. The repository has no status file. -/
def getRepo (run : Run) (directory : Directory) : Directory × Outcome :=
  if directory.present then (directory, .completes)
  else
    match run.clone with
    | .completes => (⟨true, none, none⟩, .completes)
    | outcome => (⟨run.cloned, none, none⟩, outcome)

/-- `setUp` up to the build step. -/
def setUp (run : Run) (directory : Directory) : Directory × Ending :=
  if run.preparation ≠ .completes then (directory, .stopped)
  else
    match getRepo run directory with
    | (directory, .completes) =>
      if run.reading ≠ .completes then (directory, .stopped)
      else if Marked directory then (directory, .past)
      else rebuild run directory
    | (directory, _) => (directory, .stopped)

/-- A run as a step of the directory. -/
def next (directory : Directory) (run : Run) : Option Directory := some (setUp run directory).1

/-- A run that gets past the build step has a tree built with its options. -/
def Honest (event : Event Directory Run) : Prop :=
  (setUp event.label event.before).2 = .past →
    event.after.built = some (configureCmd event.label.configureArgs)

/-- The run comes to the build step, and there the file says success for a build with other
options. -/
def Stale (directory : Directory) (run : Run) : Prop :=
  run.preparation = .completes ∧ directory.present = true ∧ run.reading = .completes ∧
    Marked directory ∧ directory.built ≠ some (configureCmd run.configureArgs)

/-- A marker belongs to a completed build. -/
def Sound (directory : Directory) : Prop := Marked directory → directory.built ≠ none

/-- The beginning of the text for a failure is not that for success: it is shorter. -/
theorem failed_not_success (count : Nat) :
    strip charSpace (failedText.take count) ≠ successText := by
  intro same
  have shorter : (strip charSpace (failedText.take count)).length ≤ failedText.length :=
    calc (strip charSpace (failedText.take count)).length
        ≤ ((failedText.take count).dropWhile charSpace).length :=
          (List.rdropWhile_prefix charSpace _).length_le
      _ ≤ (failedText.take count).length := (List.dropWhile_suffix charSpace).length_le
      _ ≤ failedText.length := (List.take_prefix count failedText).length_le
  rw [same] at shorter
  exact absurd shorter (by decide)

/-- What a file says after it was written. -/
theorem marked_text (directory : Directory) (text : List Char) :
    Marked { directory with status := some text } ↔ strip charSpace text = successText :=
  ⟨fun ⟨_, same, success⟩ => Option.some.inj same ▸ success, fun success => ⟨text, rfl, success⟩⟩

/-- The handler leaves a marker only where one was. -/
theorem handle_sound (run : Run) {directory : Directory} (sound : Sound directory) :
    Sound (handle run directory).1 := by
  have written (count : Nat) :
      Sound { directory with status := some (failedText.take count) } := fun marked =>
    absurd ((marked_text directory _).mp marked) (failed_not_success count)
  have whole := written failedText.length
  rw [List.take_length] at whole
  simp only [handle, Writing.leaves]
  cases run.failed.outcome <;> cases run.failed.left <;>
    first
    | exact sound
    | exact whole
    | exact written _

/-- A build command that does not complete leaves no marker where none was. -/
theorem spoils_unmarked (building : Building) {directory : Directory}
    (unmarked : ¬ Marked directory) : ¬ Marked (building.spoils directory) := by
  unfold Building.spoils
  split
  · exact unmarked
  · exact unmarked

/-- Writing the marker does not touch the record. -/
theorem leaves_built (writing : Writing) (text : List Char) (directory : Directory) :
    (writing.leaves text directory).built = directory.built := by
  unfold Writing.leaves
  cases writing.outcome <;> cases writing.left <;> rfl

/-- A required build leaves a sound directory, and when it gets past the build step one that
was built with the options of the run. -/
theorem rebuild_sound (run : Run) {directory : Directory} (unmarked : ¬ Marked directory) :
    Sound (rebuild run directory).1 ∧
      ((rebuild run directory).2 = .past →
        (rebuild run directory).1.built = some (configureCmd run.configureArgs)) := by
  have spoilt : Sound (run.configure.spoils directory) := fun marked =>
    absurd marked (spoils_unmarked run.configure unmarked)
  have unmade : Sound { directory with built := none } := fun marked => absurd marked unmarked
  have made : (run.success.leaves successText
      { directory with built := some (configureCmd run.configureArgs) }).built =
        some (configureCmd run.configureArgs) := leaves_built ..
  have complete : Sound (run.success.leaves successText
      { directory with built := some (configureCmd run.configureArgs) }) := fun _ => by
    rw [made]
    exact Option.some_ne_none _
  unfold rebuild
  cases run.configure.outcome with
  | interrupted => exact ⟨spoilt, fun past => by cases past⟩
  | raises => exact ⟨handle_sound run spoilt, fun past => by cases past⟩
  | completes =>
    dsimp only
    cases run.make.outcome with
    | interrupted => exact ⟨unmade, fun past => by cases past⟩
    | raises => exact ⟨handle_sound run unmade, fun past => by cases past⟩
    | completes =>
      cases run.success.outcome with
      | interrupted => exact ⟨complete, fun past => by cases past⟩
      | raises => exact ⟨handle_sound run complete, fun past => by cases past⟩
      | completes => exact ⟨complete, fun _ => made⟩

/-- A directory that is there is not cloned. -/
theorem getRepo_present (run : Run) {directory : Directory} (present : directory.present = true) :
    getRepo run directory = (directory, .completes) := if_pos present

/-- A clone leaves no marker. -/
theorem getRepo_absent (run : Run) {directory : Directory} (absent : directory.present = false) :
    ∃ present, (getRepo run directory).1 = ⟨present, none, none⟩ := by
  rw [getRepo, if_neg (by simp [absent])]
  cases run.clone <;> exact ⟨_, rfl⟩

/-- What a run does with the directory it has: it stops, or it comes to the build step. -/
theorem setUp_of_getRepo {run : Run} {directory : Directory}
    (prepared : run.preparation = .completes) :
    setUp run directory = ((getRepo run directory).1, .stopped) ∨
      (run.reading = .completes ∧ setUp run directory =
        if Marked (getRepo run directory).1 then ((getRepo run directory).1, .past)
        else rebuild run (getRepo run directory).1) := by
  rw [setUp, if_neg (fun other => other prepared)]
  cases getRepo run directory with
  | mk cloned ending =>
    cases ending with
    | completes =>
      by_cases read : run.reading = .completes
      · exact .inr ⟨read, if_neg fun other => other read⟩
      · exact .inl (if_pos read)
    | raises => exact .inl rfl
    | interrupted => exact .inl rfl

/-- A run that comes to a marker skips the build. -/
theorem setUp_skips {run : Run} {directory : Directory} (prepared : run.preparation = .completes)
    (present : directory.present = true) (read : run.reading = .completes)
    (marked : Marked directory) : setUp run directory = (directory, .past) := by
  rw [setUp, if_neg (fun other => other prepared), getRepo_present run present]
  dsimp only
  rw [if_neg (fun other => other read), if_pos marked]

/-- What a run does: it stops with the directory as it was or as the clone left it, it skips
the build, or it builds. -/
theorem setUp_cases (run : Run) (directory : Directory) :
    ((setUp run directory).2 = .stopped ∧
      ((setUp run directory).1 = directory ∨ ¬ Marked (setUp run directory).1)) ∨
    (run.preparation = .completes ∧ directory.present = true ∧ run.reading = .completes ∧
      Marked directory ∧ setUp run directory = (directory, .past)) ∨
    ∃ cloned, ¬ Marked cloned ∧ setUp run directory = rebuild run cloned := by
  by_cases prepared : run.preparation = .completes
  · by_cases present : directory.present = true
    · have cloned := @setUp_of_getRepo run directory prepared
      rw [getRepo_present run present] at cloned
      rcases cloned with stopped | ⟨read, same⟩
      · rw [stopped]
        exact .inl ⟨rfl, .inl rfl⟩
      · by_cases marked : Marked directory
        · rw [if_pos marked] at same
          exact .inr (.inl ⟨prepared, present, read, marked, same⟩)
        · rw [if_neg marked] at same
          exact .inr (.inr ⟨directory, marked, same⟩)
    · have cloned := @setUp_of_getRepo run directory prepared
      obtain ⟨there, fresh⟩ := getRepo_absent run (Bool.not_eq_true _ ▸ present)
      have unmarked : ¬ Marked ⟨there, none, none⟩ := fun ⟨_, same, _⟩ => by cases same
      rw [fresh, if_neg unmarked] at cloned
      rcases cloned with stopped | ⟨-, same⟩
      · rw [stopped]
        exact .inl ⟨rfl, .inr unmarked⟩
      · exact .inr (.inr ⟨_, unmarked, same⟩)
  · have stopped : setUp run directory = (directory, .stopped) := if_pos prepared
    rw [stopped]
    exact .inl ⟨rfl, .inl rfl⟩

/-- From a directory without a success marker, in every sequence of runs each run that gets
past the build step has a tree built with its own options exactly when no run comes to the
build step while the file says success for a build with other options. -/
theorem marker_honest_iff {start : Directory} (unmarked : ¬ Marked start)
    {events : List (Event Directory Run)} (runs : Trace next Unrestricted start events) :
    (∀ event ∈ events, Honest event) ↔
      ∀ event ∈ events, ¬ Stale event.before event.label := by
  have first : Sound start := fun marked => absurd marked unmarked
  refine runs.every_iff ?_ ?_ first
  · intro before run after sound _ taken fine
    obtain rfl := Option.some.inj taken
    rcases setUp_cases run before with
      ⟨stopped, same | unmarked⟩ | ⟨prepared, present, read, marked, same⟩ | ⟨cloned, free, same⟩
    · exact ⟨by rw [same]; exact sound, fun past => absurd (stopped.symm.trans past) (by decide)⟩
    · exact ⟨fun marked => absurd marked unmarked,
        fun past => absurd (stopped.symm.trans past) (by decide)⟩
    · have current : before.built = some (configureCmd run.configureArgs) :=
        not_not.mp fun differs => fine ⟨prepared, present, read, marked, differs⟩
      exact ⟨by rw [same]; exact sound, fun _ => by simp only [same]; exact current⟩
    · obtain ⟨soundAfter, built⟩ := rebuild_sound run free
      refine ⟨by rw [same]; exact soundAfter, fun past => ?_⟩
      dsimp only at past ⊢
      rw [same] at past ⊢
      exact built past
  · rintro before run after sound - taken ⟨prepared, present, read, marked, differs⟩ honest
    obtain rfl := Option.some.inj taken
    have skipped := setUp_skips prepared present read marked
    have built := honest (by simp only [skipped])
    simp only [skipped] at built
    exact differs built

/-- No directory. -/
def nothing : Directory := ⟨false, none, none⟩

/-- A run in which every call completes. -/
def smoothRun (configureArgs : String) : Run where
  configureArgs := configureArgs
  preparation := .completes
  clone := .completes
  cloned := true
  reading := .completes
  configure := ⟨.completes, true⟩
  make := ⟨.completes, true⟩
  success := ⟨.completes, none⟩
  failed := ⟨.completes, none⟩

/-- The directory after a build. -/
def builtWith (configureArgs : String) : Directory :=
  ⟨true, some successText, some (configureCmd configureArgs)⟩

/-- Two runs in order, from no directory. -/
def twoRuns (first second : String) : List (Event Directory Run) :=
  [⟨nothing, smoothRun first, builtWith first⟩,
    ⟨builtWith first, smoothRun second, builtWith first⟩]

/-- The second run skips the build, whatever its options are. -/
theorem twoRuns_trace (first second : String) :
    Trace next Unrestricted nothing (twoRuns first second) := by
  have built : next nothing (smoothRun first) = some (builtWith first) := by
    have unmarked : ¬ Marked ⟨true, none, none⟩ := fun ⟨_, same, _⟩ => by cases same
    simp [next, setUp, smoothRun, getRepo, nothing, unmarked, rebuild, Writing.leaves, builtWith]
  have skipped : next (builtWith first) (smoothRun second) = some (builtWith first) := by
    have marked : Marked (builtWith first) := ⟨successText, rfl, by decide⟩
    have same : setUp (smoothRun second) (builtWith first) = (builtWith first, .past) :=
      setUp_skips rfl rfl rfl marked
    rw [next, same]
  exact .cons _ _ _ _ trivial built (.cons _ _ _ _ trivial skipped (.nil _))

/-- Two runs with the same options are honest. -/
theorem marker_honest_same :
    ¬ Marked nothing ∧ ∀ event ∈ twoRuns "" "", Honest event := by
  have unmarked : ¬ Marked nothing := fun ⟨_, same, _⟩ => by cases same
  refine ⟨unmarked, (marker_honest_iff unmarked (twoRuns_trace "" "")).mpr ?_⟩
  intro event member
  rcases List.mem_cons.mp member with rfl | rest
  · rintro ⟨-, present, -⟩
    cases present
  · rw [List.mem_singleton.mp rest]
    rintro ⟨-, -, -, -, differs⟩
    exact differs rfl

/-- A run for another architecture skips the build and uses the tree of the first. -/
theorem marker_honest_fails :
    ¬ ∀ start, ¬ Marked start → ∀ events, Trace next Unrestricted start events →
      ∀ event ∈ events, Honest event := by
  intro always
  have unmarked : ¬ Marked nothing := fun ⟨_, same, _⟩ => by cases same
  have honest := always nothing unmarked _ (twoRuns_trace "" "--arch=arm64")
    ⟨builtWith "", smoothRun "--arch=arm64", builtWith ""⟩ (by simp [twoRuns])
  have past : (setUp (smoothRun "--arch=arm64") (builtWith "")).2 = .past := by decide
  exact absurd (honest past) (by decide)

end AvocadoMisc.KvmUnit.BuildMarker
