import AvocadoMisc.Library.Transitions
import Mathlib.Algebra.Order.Field.Rat
import Mathlib.Logic.Function.Basic

/-!
# The cache of the LTP build

`setUp` builds LTP in a cache directory: the sources below `src`, the installation below `bin`,
and after `make install` a marker with the time. A later `setUp` reuses the directory when
`_is_cache_valid` accepts it. A rebuild, forced or because the cache is not valid for the run,
works in the same directory. It does not remove the marker first, so a rebuild that stops half
way leaves the marker of the build before it.

A run that reuses the cache for a test between two hosts also writes: it puts the name of the peer
and its password into `tst_net.sh` of the sources.

The model keeps two records that the program does not have. `log` lists every write below the
directory with the run that made it, and `completed` lists the runs whose `make install`
completed here.
-/

namespace AvocadoMisc.Ltp.BuildCache

open Library.Transitions

/-! ### The directory -/

/-- A place below the cache directory: in the sources, the directory `bin`, or in `bin`. -/
inductive Path where
  | source (name : String)
  | bin
  | installed (name : String)
deriving DecidableEq

/-- The file `.ltp_build_marker`: not there, not a number, or the time it holds. -/
inductive Marker where
  | absent
  | unreadable
  | stamp (time : ℚ)

/-- A write below the directory. `building` tells a build from a run that reuses the cache. -/
structure Write where
  run : Nat
  building : Bool
  path : Path
deriving DecidableEq

/-- The cache directory, with the number of runs so far and the two records. -/
structure Cache where
  present : Path → Bool
  marker : Marker
  runs : Nat
  log : List Write
  completed : List Nat

/-- What a step leaves at a path. -/
structure Change where
  path : Path
  present : Bool
deriving DecidableEq

/-- Write one path. -/
def Cache.apply (building : Bool) (cache : Cache) (change : Change) : Cache :=
  { cache with
    present := Function.update cache.present change.path change.present
    log := ⟨cache.runs, building, change.path⟩ :: cache.log }

/-! ### One run -/

/-- The steps of `setUp`, in the order of the source. `prerequisites` is everything before the
cache is looked at, `runner` the check that follows the marker. -/
inductive Stage where
  | prerequisites
  | cacheDir
  | clearDmesg
  | fetch
  | extract
  | sourceTree
  | kirkSubmodule
  | autotools
  | makeBin
  | peer
  | services
  | configure
  | make
  | install
  | runner
deriving DecidableEq

/-- What `_create_cache_marker` comes to: the time is written, the file does not open, or the
write breaks off and leaves some of the text. -/
inductive Marking where
  | written (time : ℚ)
  | notOpened
  | brokenOff (left : Marker)

/-- The parameters of a run, and the answers of what it calls: the steps that raise or cancel,
and the files that each step leaves behind. -/
structure Setup where
  enableCache : Bool
  forceRebuild : Bool
  useKirk : Bool
  /-- `two_host_configuration` is set and the arguments ask for network tests. -/
  twoHostNetwork : Bool
  cacheMaxAgeDays : ℚ
  now : ℚ
  stops : Stage → Bool
  changes : Stage → List Change
  marking : Marking

/-- The program that runs the tests. -/
def Setup.runner (setup : Setup) : Path :=
  .installed (if setup.useKirk then "kirk" else "runltp")

/-- `_is_cache_valid`. A marker that cannot be read or is not a number makes the cache invalid. -/
def isCacheValid (setup : Setup) (cache : Cache) : Bool :=
  match cache.marker with
  | .absent => false
  | .unreadable => false
  | .stamp time =>
    cache.present .bin && cache.present setup.runner &&
      !decide (setup.cacheMaxAgeDays < (setup.now - time) / (24 * 3600))

/-- The two files that the preparation of the peer writes. -/
def tstNet : List Path :=
  [.source "ltp-master/testcases/lib/tst_net.sh",
    .source "ltp-master/testcases/lib/tst_net_copy.sh"]

/-- Where a step writes. Extraction, the submodule and the build steps work in the sources, and
`make install` in the sources and in `bin`. -/
def Stage.writesAt : Stage → Path → Bool
  | .extract, .source _ | .kirkSubmodule, .source _ | .autotools, .source _ => true
  | .configure, .source _ | .make, .source _ => true
  | .install, _ => true
  | .peer, path => decide (path ∈ tstNet)
  | _, _ => false

/-- The changes of a step. `os.makedirs` makes `bin` when it is not there. -/
def Setup.changesOf (setup : Setup) (cache : Cache) : Stage → List Change
  | .makeBin => if cache.present .bin || setup.stops .makeBin then [] else [⟨.bin, true⟩]
  | stage => (setup.changes stage).filter fun change => stage.writesAt change.path

/-- One step. Without the cache the run works in `/tmp/ltp` and in its own directory. -/
def Setup.carryOut (setup : Setup) (building : Bool) (cache : Cache) (stage : Stage) : Cache :=
  if setup.enableCache then (setup.changesOf cache stage).foldl (Cache.apply building) cache
  else cache

/-- Whether the run ends at a step. The source tree and the runner are looked up in the
directory. -/
def Setup.blocked (setup : Setup) (cache : Cache) : Stage → Bool
  | .sourceTree =>
    if setup.enableCache then !cache.present (.source "ltp-master") else setup.stops .sourceTree
  | .runner =>
    if setup.enableCache then !cache.present setup.runner else setup.stops .runner
  | stage => setup.stops stage

/-- How a run ends. -/
inductive Ending where
  | ready
  | stopped (stage : Stage)
deriving DecidableEq

/-- Steps in order, up to the first that does not get through. -/
def Setup.perform (setup : Setup) (building : Bool) : List Stage → Cache → Cache × Ending
  | [], cache => (cache, .ready)
  | stage :: rest, cache =>
    if setup.blocked (setup.carryOut building cache stage) stage then
      (setup.carryOut building cache stage, .stopped stage)
    else setup.perform building rest (setup.carryOut building cache stage)

/-- The steps of a run that reuses the cache. -/
def Setup.reuseStages (setup : Setup) : List Stage :=
  (if setup.twoHostNetwork then [.peer] else []) ++ [.services]

/-- The steps of a build, up to `make install`. -/
def Setup.buildStages (setup : Setup) : List Stage :=
  List.flatten
    [if setup.enableCache then [.cacheDir] else [],
      [.clearDmesg, .fetch, .extract, .sourceTree],
      if setup.useKirk then [.kirkSubmodule] else [],
      [.autotools, .makeBin],
      if setup.twoHostNetwork then [.peer] else [],
      [.services, .configure, .make, .install]]

/-- The directory after a run that reuses it. -/
def Setup.reuse (setup : Setup) (cache : Cache) : Cache × Ending :=
  setup.perform false setup.reuseStages cache

/-- The directory after the steps of a build. -/
def Setup.build (setup : Setup) (cache : Cache) : Cache × Ending :=
  setup.perform true setup.buildStages cache

/-- The record of a completed `make install`. -/
def Cache.complete (cache : Cache) : Cache :=
  { cache with completed := cache.runs :: cache.completed }

/-- `_create_cache_marker`. -/
def Cache.mark (cache : Cache) : Marking → Cache
  | .written time => { cache with marker := .stamp time }
  | .notOpened => cache
  | .brokenOff left => { cache with marker := left }

/-- The test on which `setUp` reuses the cache. -/
def Setup.usesCache (setup : Setup) (cache : Cache) : Bool :=
  setup.enableCache && !setup.forceRebuild && isCacheValid setup cache

/-- `setUp` from the packages on. -/
def setUp (setup : Setup) (cache : Cache) : Cache × Ending :=
  if setup.stops .prerequisites then (cache, .stopped .prerequisites)
  else if setup.usesCache cache then setup.reuse cache
  else
    match setup.build cache with
    | (built, .stopped stage) => (built, .stopped stage)
    | (built, .ready) =>
      setup.perform true [.runner]
        (if setup.enableCache then built.complete.mark setup.marking else built)

/-- The directory after a run. The next run has the next number. -/
def Cache.after (cache : Cache) (setup : Setup) : Cache :=
  { (setUp setup cache).1 with runs := cache.runs + 1 }

/-- A run as a step of the directory. -/
def next (cache : Cache) (setup : Setup) : Option Cache := some (cache.after setup)

/-! ### What is to hold -/

/-- The writes that may spoil a build: those of other builds, or every write. -/
inductive Reading where
  | builds
  | everyWrite
deriving DecidableEq

/-- Whether a write counts. -/
def Reading.counts : Reading → Write → Bool
  | .builds, write => write.building
  | .everyWrite, _ => true

/-- The files are those of a build whose `make install` completed: no write is later. -/
def Clean (reading : Reading) (cache : Cache) : Prop :=
  ∃ build ∈ cache.completed, ∀ write ∈ cache.log, reading.counts write = true → write.run ≤ build

/-- The cache is valid for a run only when it is clean, whichever run it is. -/
def Sound (reading : Reading) (cache : Cache) : Prop :=
  ∀ setup, isCacheValid setup cache = true → Clean reading cache

/-- A cache directory before the first run: there is no marker. -/
structure Initial (cache : Cache) : Prop where
  marker : cache.marker = .absent
  log : cache.log = []
  completed : cache.completed = []

/-- A readable marker, `bin` and a runner. -/
structure Cache.Usable (cache : Cache) : Prop where
  marker : ∃ time, cache.marker = .stamp time
  bin : cache.present .bin = true
  runner : cache.present (.installed "kirk") = true ∨ cache.present (.installed "runltp") = true

/-- The run gets past the packages and builds in the cache directory. -/
def Setup.Builds (setup : Setup) (cache : Cache) : Prop :=
  setup.stops .prerequisites = false ∧ setup.enableCache = true ∧ setup.usesCache cache = false

/-- The run gets past the packages and reuses the cache. -/
def Setup.Reuses (setup : Setup) (cache : Cache) : Prop :=
  setup.stops .prerequisites = false ∧ setup.usesCache cache = true

theorem Setup.Builds.not_reuses {setup : Setup} {cache : Cache} (builds : setup.Builds cache) :
    ¬ setup.Reuses cache :=
  fun reuses => Bool.false_ne_true (builds.2.2.symm.trans reuses.2)

/-- A run that does no harm. If it builds in the cache directory, it completes `make install`, or
stops before it writes, or what it leaves lacks a readable marker, `bin` or a runner. Where every
write counts, a run that reuses the cache does not write. -/
structure Harmless (reading : Reading) (cache : Cache) (setup : Setup) : Prop where
  build : setup.Builds cache → (setup.build cache).2 = .ready ∨
    (setup.build cache).1.log = cache.log ∨ ¬ (setup.build cache).1.Usable
  reuse : reading = .everyWrite → setup.Reuses cache → (setup.reuse cache).1.log = cache.log

/-- The cache is valid for some run exactly when it is usable: the run may allow any age. -/
theorem usable_iff (cache : Cache) :
    cache.Usable ↔ ∃ setup, isCacheValid setup cache = true := by
  constructor
  · rintro ⟨⟨time, marker⟩, bin, runner⟩
    have accepts : ∀ useKirk : Bool,
        cache.present (.installed (if useKirk then "kirk" else "runltp")) = true →
        ∃ setup, isCacheValid setup cache = true := by
      intro useKirk installed
      refine ⟨⟨true, false, useKirk, false, 0, time, fun _ => false, fun _ => [], .notOpened⟩, ?_⟩
      simp [isCacheValid, marker, bin, Setup.runner, installed]
    cases runner with
    | inl kirk => exact accepts true kirk
    | inr runltp => exact accepts false runltp
  · rintro ⟨setup, valid⟩
    cases marker : cache.marker with
    | absent => simp [isCacheValid, marker] at valid
    | unreadable => simp [isCacheValid, marker] at valid
    | stamp time =>
      simp only [isCacheValid, marker, Bool.and_eq_true] at valid
      obtain ⟨⟨bin, runner⟩, _⟩ := valid
      refine ⟨⟨time, marker⟩, bin, ?_⟩
      cases kirk : setup.useKirk with
      | true => exact .inl (by simpa [Setup.runner, kirk] using runner)
      | false => exact .inr (by simpa [Setup.runner, kirk] using runner)

/-- Soundness without the settings. -/
theorem sound_iff (reading : Reading) (cache : Cache) :
    Sound reading cache ↔ (cache.Usable → Clean reading cache) := by
  rw [usable_iff]
  exact ⟨fun sound ⟨setup, valid⟩ => sound setup valid,
    fun clean setup valid => clean ⟨setup, valid⟩⟩

/-! ### What steps do -/

/-- A run has worked on the directory: it has only added its own writes to the record, and without
a write no file has come or gone. -/
structure Extends (building : Bool) (before after : Cache) : Prop where
  marker : after.marker = before.marker
  runs : after.runs = before.runs
  completed : after.completed = before.completed
  log : ∃ added, after.log = added ++ before.log ∧
    ∀ write ∈ added, write.run = before.runs ∧ write.building = building
  idle : after.log = before.log → after.present = before.present

theorem Extends.refl (building : Bool) (cache : Cache) : Extends building cache cache where
  marker := rfl
  runs := rfl
  completed := rfl
  log := ⟨[], rfl, by simp⟩
  idle _ := rfl

theorem Extends.trans {building : Bool} {first second third : Cache}
    (earlier : Extends building first second) (later : Extends building second third) :
    Extends building first third where
  marker := later.marker.trans earlier.marker
  runs := later.runs.trans earlier.runs
  completed := later.completed.trans earlier.completed
  log := by
    obtain ⟨added, extended, own⟩ := earlier.log
    obtain ⟨more, further, alsoOwn⟩ := later.log
    refine ⟨more ++ added, by rw [further, extended, List.append_assoc], ?_⟩
    intro write member
    cases List.mem_append.mp member with
    | inl recent => exact earlier.runs ▸ alsoOwn write recent
    | inr before => exact own write before
  idle := by
    intro same
    obtain ⟨added, extended, _⟩ := earlier.log
    obtain ⟨more, further, _⟩ := later.log
    -- The two additions cancel, so neither part has written.
    have nothing : more ++ added = [] := by
      have appended : (more ++ added) ++ first.log = [] ++ first.log := by
        rw [List.append_assoc, ← extended, ← further, same, List.nil_append]
      exact List.append_cancel_right appended
    obtain ⟨none, noneBefore⟩ := List.append_eq_nil_iff.mp nothing
    rw [later.idle (by rw [further, none, List.nil_append]),
      earlier.idle (by rw [extended, noneBefore, List.nil_append])]

theorem apply_extends (building : Bool) (cache : Cache) (change : Change) :
    Extends building cache (cache.apply building change) where
  marker := rfl
  runs := rfl
  completed := rfl
  log := ⟨[⟨cache.runs, building, change.path⟩], rfl, by simp⟩
  idle same := absurd same (by simp [Cache.apply])

theorem foldl_extends (building : Bool) (changes : List Change) (cache : Cache) :
    Extends building cache (changes.foldl (Cache.apply building) cache) := by
  induction changes generalizing cache with
  | nil => exact .refl building cache
  | cons change rest inductionHypothesis =>
    exact (apply_extends building cache change).trans (inductionHypothesis _)

theorem carryOut_extends (setup : Setup) (building : Bool) (cache : Cache) (stage : Stage) :
    Extends building cache (setup.carryOut building cache stage) := by
  unfold Setup.carryOut
  split
  · exact foldl_extends building _ cache
  · exact .refl building cache

/-- The steps of a run extend the record, wherever the run ends. -/
theorem perform_extends (setup : Setup) (building : Bool) (stages : List Stage) (cache : Cache) :
    Extends building cache (setup.perform building stages cache).1 := by
  induction stages generalizing cache with
  | nil => exact .refl building cache
  | cons stage rest inductionHypothesis =>
    have worked := carryOut_extends setup building cache stage
    unfold Setup.perform
    split
    · exact worked
    · exact worked.trans (inductionHypothesis _)

/-- A path that no change is at stays. -/
theorem foldl_present (building : Bool) (path : Path) (changes : List Change) (cache : Cache)
    (elsewhere : ∀ change ∈ changes, change.path ≠ path) :
    (changes.foldl (Cache.apply building) cache).present path = cache.present path := by
  induction changes generalizing cache with
  | nil => rfl
  | cons change rest inductionHypothesis =>
    rw [List.foldl_cons, inductionHypothesis _ fun other member =>
      elsewhere other (List.mem_cons_of_mem _ member)]
    exact Function.update_of_ne (elsewhere change List.mem_cons_self).symm _ _

/-- Outside the cache no step writes in it. -/
theorem perform_disabled (setup : Setup) (disabled : setup.enableCache = false) (building : Bool)
    (stages : List Stage) (cache : Cache) :
    (setup.perform building stages cache).1 = cache := by
  have idle (stage : Stage) : setup.carryOut building cache stage = cache := by
    simp [Setup.carryOut, disabled]
  induction stages with
  | nil => rfl
  | cons stage rest inductionHypothesis =>
    unfold Setup.perform
    rw [idle]
    split
    · rfl
    · exact inductionHypothesis

/-- A run that reuses the cache writes nothing but `tst_net.sh` and its copy, so any other file is
in the cache afterwards exactly if it was there before. -/
theorem reuse_present (setup : Setup) (cache : Cache) (path : Path) (other : path ∉ tstNet) :
    (setup.reuse cache).1.present path = cache.present path := by
  have stays (stage : Stage) (member : stage ∈ setup.reuseStages) (current : Cache) :
      (setup.carryOut false current stage).present path = current.present path := by
    have elsewhere : ∀ change ∈ setup.changesOf current stage, change.path ≠ path := by
      have known : stage = .peer ∨ stage = .services := by
        cases network : setup.twoHostNetwork <;>
          simp_all [Setup.reuseStages]
      rintro change changed rfl
      rcases known with rfl | rfl
      · exact other (of_decide_eq_true (List.mem_filter.mp changed).2)
      · exact absurd (List.mem_filter.mp changed).2 (by simp [Stage.writesAt])
    unfold Setup.carryOut
    split
    · exact foldl_present false path _ current elsewhere
    · rfl
  unfold Setup.reuse
  generalize setup.reuseStages = stages at stays
  induction stages generalizing cache with
  | nil => rfl
  | cons stage rest inductionHypothesis =>
    have first := stays stage List.mem_cons_self cache
    unfold Setup.perform
    split
    · exact first
    · rw [← first]
      exact inductionHypothesis _ fun next member => stays next (List.mem_cons_of_mem _ member)

/-! ### One run and soundness -/

/-- The records mention runs that have been. -/
structure Numbered (cache : Cache) : Prop where
  log : ∀ write ∈ cache.log, write.run < cache.runs
  completed : ∀ build ∈ cache.completed, build < cache.runs

/-- A write of this run spoils every build before it. -/
theorem not_clean_of_written {reading : Reading} {building : Bool} {before after : Cache}
    (numbered : Numbered before) (worked : Extends building before after)
    (written : after.log ≠ before.log)
    (counted : ∀ write : Write, write.building = building → reading.counts write = true) :
    ¬ Clean reading after := by
  rintro ⟨build, member, latest⟩
  obtain ⟨added, extended, own⟩ := worked.log
  cases added with
  | nil => exact written extended
  | cons write rest =>
    obtain ⟨run, kind⟩ := own write List.mem_cons_self
    have earlier : build < before.runs := numbered.completed build (worked.completed ▸ member)
    have late := latest write (extended ▸ List.mem_cons_self) (counted write kind)
    omega

/-- Without a write that counts, a clean cache stays clean. -/
theorem Extends.clean_iff {reading : Reading} {building : Bool} {before after : Cache}
    (worked : Extends building before after)
    (uncounted : after.log = before.log ∨
      ∀ write : Write, write.building = building → reading.counts write = false) :
    Clean reading after ↔ Clean reading before := by
  obtain ⟨added, extended, own⟩ := worked.log
  have logs (build : Nat) : (∀ write ∈ after.log, reading.counts write = true → write.run ≤ build) ↔
      ∀ write ∈ before.log, reading.counts write = true → write.run ≤ build := by
    cases uncounted with
    | inl same => rw [same]
    | inr never =>
      rw [extended]
      refine ⟨fun all write member => all write (List.mem_append_right _ member), ?_⟩
      intro all write member counts
      cases List.mem_append.mp member with
      | inl recent =>
        rw [never write (own write recent).2] at counts
        contradiction
      | inr old => exact all write old counts
  simp only [Clean, worked.completed, logs]

/-- Without a write the directory is as usable as before. -/
theorem Extends.usable_iff {building : Bool} {before after : Cache}
    (worked : Extends building before after) (same : after.log = before.log) :
    after.Usable ↔ before.Usable := by
  have files := worked.idle same
  constructor
  · rintro ⟨marker, bin, runner⟩
    rw [worked.marker] at marker
    rw [files] at bin runner
    exact ⟨marker, bin, runner⟩
  · rintro ⟨marker, bin, runner⟩
    rw [← worked.marker] at marker
    rw [← files] at bin runner
    exact ⟨marker, bin, runner⟩

/-- After `make install` the cache is clean: every write so far is of this run or before it. -/
theorem complete_clean {reading : Reading} {before after : Cache} (numbered : Numbered before)
    (worked : Extends true before after) : Clean reading after.complete := by
  refine ⟨after.runs, List.mem_cons_self, ?_⟩
  obtain ⟨added, extended, own⟩ := worked.log
  intro write member _
  have stamped : write.run ≤ before.runs := by
    cases List.mem_append.mp (extended ▸ member) with
    | inl recent => exact (own write recent).1.le
    | inr old => exact (numbered.log write old).le
  rwa [worked.runs]

/-- The records stay in order. -/
theorem Extends.numbered {building : Bool} {before after : Cache} (numbered : Numbered before)
    (worked : Extends building before after) :
    Numbered { after with runs := before.runs + 1 } where
  log := by
    obtain ⟨added, extended, own⟩ := worked.log
    intro write member
    cases List.mem_append.mp (extended ▸ member) with
    | inl recent => exact Nat.lt_succ_of_le (own write recent).1.le
    | inr old => exact Nat.lt_succ_of_lt (numbered.log write old)
  completed build member :=
    Nat.lt_succ_of_lt (numbered.completed build (worked.completed ▸ member))

/-- The marker is in neither record. -/
theorem mark_records (cache : Cache) (marking : Marking) :
    (cache.mark marking).log = cache.log ∧ (cache.mark marking).completed = cache.completed ∧
      (cache.mark marking).runs = cache.runs := by
  cases marking <;> exact ⟨rfl, rfl, rfl⟩

/-- The check of the runner does not write. -/
theorem runner_idle (setup : Setup) (cache : Cache) :
    (setup.perform true [.runner] cache).1 = cache := by
  have idle : setup.carryOut true cache .runner = cache := by
    have none : setup.changesOf cache .runner = [] :=
      List.filter_eq_nil_iff.mpr (by simp [Stage.writesAt])
    simp only [Setup.carryOut, none, List.foldl_nil, ite_self]
  unfold Setup.perform
  rw [idle]
  split <;> rfl

/-- What a run leaves, one case for each way through `setUp`: it changes nothing, it reuses the
cache, it builds and stops, or it builds and marks the cache as complete. -/
theorem setUp_cases (setup : Setup) (cache : Cache) :
    ((setUp setup cache).1 = cache ∧ ¬ setup.Builds cache ∧ ¬ setup.Reuses cache) ∨
    ((setUp setup cache).1 = (setup.reuse cache).1 ∧ setup.Reuses cache) ∨
    ((setUp setup cache).1 = (setup.build cache).1 ∧ (setup.build cache).2 ≠ .ready ∧
      setup.Builds cache) ∨
    ((setUp setup cache).1 = (setup.build cache).1.complete.mark setup.marking ∧
      (setup.build cache).2 = .ready ∧ setup.Builds cache) := by
  cases stopped : setup.stops .prerequisites with
  | true => exact .inl (by simp [setUp, stopped, Setup.Builds, Setup.Reuses])
  | false =>
    cases used : setup.usesCache cache with
    | true => exact .inr (.inl (by simp [setUp, stopped, used, Setup.Reuses]))
    | false =>
      cases enabled : setup.enableCache with
      | false =>
        have outside := perform_disabled setup enabled
        refine .inl ⟨?_, by simp [Setup.Builds, enabled], by simp [Setup.Reuses, used]⟩
        have same : (setup.build cache).1 = cache := outside true _ cache
        cases built : setup.build cache with
        | mk after ending =>
          rw [built] at same
          cases ending with
          | stopped stage => simpa [setUp, stopped, used, built] using same
          | ready => simpa [setUp, stopped, used, built, enabled, runner_idle] using same
      | true =>
        have builds : setup.Builds cache := ⟨stopped, enabled, used⟩
        cases built : setup.build cache with
        | mk after ending =>
          cases ending with
          | stopped stage =>
            exact .inr (.inr (.inl (by simp [setUp, stopped, used, built, builds])))
          | ready =>
            exact .inr (.inr (.inr (by
              simp [setUp, stopped, used, enabled, built, builds, runner_idle])))

/-- The records stay in order over a run. -/
theorem setUp_numbered (setup : Setup) {cache : Cache} (numbered : Numbered cache) :
    Numbered (cache.after setup) := by
  unfold Cache.after
  rcases setUp_cases setup cache with ⟨same, _⟩ | ⟨same, _⟩ | ⟨same, _⟩ | ⟨same, _⟩
  · rw [same]
    exact (Extends.refl true cache).numbered numbered
  · rw [same]
    exact (perform_extends setup false _ cache).numbered numbered
  · rw [same]
    exact (perform_extends setup true _ cache).numbered numbered
  · rw [same]
    have worked : Extends true cache (setup.build cache).1 := perform_extends setup true _ cache
    obtain ⟨log, completed, _⟩ := mark_records (setup.build cache).1.complete setup.marking
    have before := worked.numbered numbered
    refine ⟨fun write member => ?_, fun build member => ?_⟩
    · exact before.log write (log ▸ member)
    · cases List.mem_cons.mp (completed ▸ member) with
      | inl own => exact own ▸ worked.runs ▸ Nat.lt_succ_self _
      | inr earlier => exact before.completed build earlier

/-- A run that reuses the cache leaves it sound exactly when it does no harm. A write to
`tst_net.sh` leaves marker, `bin` and runners, so the cache stays usable. -/
theorem reuse_sound_iff {reading : Reading} {setup : Setup} {cache : Cache}
    (numbered : Numbered cache) (sound : Sound reading cache) (reuses : setup.Reuses cache) :
    Sound reading (setup.reuse cache).1 ↔
      (reading = .everyWrite → (setup.reuse cache).1.log = cache.log) := by
  have worked : Extends false cache (setup.reuse cache).1 := perform_extends setup false _ cache
  have valid : isCacheValid setup cache = true := by
    have used := reuses.2
    simp only [Setup.usesCache, Bool.and_eq_true] at used
    exact used.2
  have clean : Clean reading cache := sound setup valid
  cases reading with
  | builds =>
    have uncounted : ∀ write : Write, write.building = false →
        Reading.counts .builds write = false := fun _ reusing => reusing
    have remains := (worked.clean_iff (.inr uncounted)).mpr clean
    exact iff_of_true (fun _ _ => remains) (fun every => by contradiction)
  | everyWrite =>
    refine ⟨fun soundAfter _ => ?_, fun idle _ _ => ?_⟩
    · by_contra written
      have usable : (setup.reuse cache).1.Usable := by
        have bin := reuse_present setup cache .bin (by decide)
        have kirk := reuse_present setup cache (.installed "kirk") (by decide)
        have runltp := reuse_present setup cache (.installed "runltp") (by decide)
        obtain ⟨marker, binThere, runner⟩ := (usable_iff cache).mpr ⟨setup, valid⟩
        exact ⟨by rwa [worked.marker], bin ▸ binThere, by rwa [kirk, runltp]⟩
      exact not_clean_of_written numbered worked written (fun _ _ => rfl)
        ((sound_iff _ _).mp soundAfter usable)
    · exact (worked.clean_iff (.inl (idle rfl))).mpr clean

/-- A build that stops leaves a sound cache exactly when it does no harm. -/
theorem stopped_sound_iff {reading : Reading} {setup : Setup} {cache : Cache}
    (numbered : Numbered cache) (sound : Sound reading cache) :
    Sound reading (setup.build cache).1 ↔
      (setup.build cache).1.log = cache.log ∨ ¬ (setup.build cache).1.Usable := by
  have worked : Extends true cache (setup.build cache).1 := perform_extends setup true _ cache
  have counted (write : Write) (building : write.building = true) :
      reading.counts write = true := by
    cases reading with
    | builds => exact building
    | everyWrite => rfl
  rw [sound_iff] at sound ⊢
  by_cases written : (setup.build cache).1.log = cache.log
  · rw [worked.usable_iff written, worked.clean_iff (.inl written)]
    exact iff_of_true sound (.inl written)
  · have spoilt := not_clean_of_written numbered worked written counted
    simp [written, spoilt]

/-- From a sound cache, a run leads to a sound cache exactly when it does no harm. -/
theorem setUp_sound_iff {reading : Reading} {setup : Setup} {cache : Cache}
    (numbered : Numbered cache) (sound : Sound reading cache) :
    Sound reading (setUp setup cache).1 ↔ Harmless reading cache setup := by
  rcases setUp_cases setup cache with
    ⟨same, notBuilds, notReuses⟩ | ⟨same, reuses⟩ | ⟨same, stopped, builds⟩ | ⟨same, ready, builds⟩
  · rw [same]
    exact iff_of_true sound ⟨fun builds => absurd builds notBuilds,
      fun _ reuses => absurd reuses notReuses⟩
  · rw [same, reuse_sound_iff numbered sound reuses]
    have notBuilds : ¬ setup.Builds cache := fun builds => builds.not_reuses reuses
    exact ⟨fun idle => ⟨fun builds => absurd builds notBuilds, fun every _ => idle every⟩,
      fun harmless every => harmless.reuse every reuses⟩
  · rw [same, stopped_sound_iff numbered sound]
    have notReuses : ¬ setup.Reuses cache := builds.not_reuses
    exact ⟨fun spared => ⟨fun _ => .inr spared, fun _ reuses => absurd reuses notReuses⟩,
      fun harmless => (harmless.build builds).resolve_left stopped⟩
  · have worked : Extends true cache (setup.build cache).1 := perform_extends setup true _ cache
    obtain ⟨log, completed, _⟩ := mark_records (setup.build cache).1.complete setup.marking
    have clean : Clean reading (setUp setup cache).1 := by
      simpa only [same, Clean, log, completed] using complete_clean numbered worked
    have notReuses : ¬ setup.Reuses cache := builds.not_reuses
    exact iff_of_true (fun _ _ => clean) ⟨fun _ => .inl ready,
      fun _ reuses => absurd reuses notReuses⟩

/-! ### Every sequence of runs -/

/-- From a directory without a marker, after every run of a sequence a valid cache holds the files
of a build whose `make install` completed, exactly when no run does harm.

Any step of a build may fail, and may have written before. Two files are told apart by the run that
wrote them, not by their content. What others do to the directory between the runs is not covered.
-/
theorem valid_cache_clean_iff (reading : Reading) {cache : Cache} (initial : Initial cache)
    {events : List (Event Cache Setup)} (runs : Trace next Unrestricted cache events) :
    (∀ event ∈ events, Sound reading event.after) ↔
      ∀ event ∈ events, Harmless reading event.before event.label := by
  refine (@Trace.holds_iff Cache Setup next Unrestricted
    (fun state => Numbered state ∧ Sound reading state) (Sound reading)
    (fun state setup => ¬ Harmless reading state setup) (fun _ good => good.2) ?_ ?_
    cache events runs ?_).trans (by simp only [not_not])
  · rintro before setup after ⟨numbered, sound⟩ _ taken harmless
    cases Option.some.inj taken
    exact ⟨setUp_numbered setup numbered,
      (setUp_sound_iff numbered sound).mpr (not_not.mp harmless)⟩
  · rintro before setup after ⟨numbered, sound⟩ _ taken harmful soundAfter
    cases Option.some.inj taken
    exact harmful ((setUp_sound_iff numbered sound).mp soundAfter)
  · refine ⟨⟨by simp [initial.log], by simp [initial.completed]⟩, ?_⟩
    intro setup valid
    simp [isCacheValid, initial.marker] at valid

/-! ### A rebuild that stops -/

/-- No directory yet. -/
def noCache : Cache := ⟨fun _ => false, .absent, 0, [], []⟩

/-- A build that gets through: the sources, then the runner. -/
def freshBuild : Setup where
  enableCache := true
  forceRebuild := false
  useKirk := true
  twoHostNetwork := false
  cacheMaxAgeDays := 7
  now := 0
  stops _ := false
  changes
    | .extract => [⟨.source "ltp-master", true⟩]
    | .install => [⟨.installed "kirk", true⟩]
    | _ => []
  marking := .written 0

/-- The same as a forced rebuild in which `configure` fails. -/
def failingRebuild : Setup :=
  { freshBuild with forceRebuild := true, stops := fun stage => decide (stage = .configure) }

/-- The runs in order. -/
def runsOf : Cache → List Setup → List (Event Cache Setup)
  | _, [] => []
  | cache, setup :: rest =>
    ⟨cache, setup, cache.after setup⟩ :: runsOf (cache.after setup) rest

theorem runsOf_trace (cache : Cache) (setups : List Setup) :
    Trace next Unrestricted cache (runsOf cache setups) := by
  induction setups generalizing cache with
  | nil => exact .nil cache
  | cons setup rest inductionHypothesis =>
    exact .cons cache setup _ _ trivial rfl (inductionHypothesis _)

/-- After a first build the cache is valid, and the files are those of the build. -/
theorem first_build_clean :
    isCacheValid freshBuild (setUp freshBuild noCache).1 = true ∧
      ∀ event ∈ runsOf noCache [freshBuild], Sound .everyWrite event.after := by
  refine ⟨by decide +kernel, ?_⟩
  have empty : Initial noCache := ⟨rfl, rfl, rfl⟩
  refine (valid_cache_clean_iff .everyWrite empty (runsOf_trace noCache [freshBuild])).mpr ?_
  intro event member
  rw [List.mem_singleton.mp member]
  exact ⟨fun _ => .inl (by decide +kernel),
    fun _ reuses => absurd reuses.2 (by decide +kernel)⟩

/-- The records after the build and the forced rebuild. -/
theorem rebuild_records :
    ((noCache.after freshBuild).after failingRebuild).completed = [0] ∧
      ⟨1, true, .source "ltp-master"⟩ ∈ ((noCache.after freshBuild).after failingRebuild).log := by
  decide +kernel

/-- The forced rebuild has extracted its sources over the build and stops. The marker of the
build makes the cache valid. -/
theorem stale_marker_accepted :
    ¬ (∀ cache, Initial cache → ∀ events, Trace next Unrestricted cache events →
      ∀ event ∈ events, Sound .builds event.after) := by
  intro always
  have sound : Sound .builds ((noCache.after freshBuild).after failingRebuild) :=
    always noCache ⟨rfl, rfl, rfl⟩ _ (runsOf_trace noCache [freshBuild, failingRebuild]) _
      (List.mem_cons_of_mem _ List.mem_cons_self)
  obtain ⟨build, member, latest⟩ := sound freshBuild (by decide +kernel)
  obtain ⟨completed, written⟩ := rebuild_records
  rw [completed, List.mem_singleton] at member
  exact absurd (latest _ written rfl) (by simp [member])

end AvocadoMisc.Ltp.BuildCache
