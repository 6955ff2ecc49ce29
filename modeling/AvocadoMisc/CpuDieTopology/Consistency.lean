import Mathlib.Data.Finset.Card
import AvocadoMisc.Library.Factoring
import AvocadoMisc.Library.Groups
import AvocadoMisc.Library.NumberTexts

/-!
# Dies, CPU lists and packages

The topology test reads three files for each online CPU: the number of its die, the list of the
CPUs on the die, and the number of its package. One check groups the CPUs by die and looks for a
group with two different lists. Another one walks over the CPUs, keeps the package of the first
CPU of each die and reports the CPUs that differ from it.

Both are one question, whether what a CPU's file says is determined by its die. A CPU without die
id, with `-1` or with a file that cannot be read does not count.
-/

namespace AvocadoMisc.CpuDieTopology.Consistency

open Library.Factoring Library.Groups Library.NumberTexts Library.Text

/-- A text. -/
abbrev Text := List Char

/-- The files in a CPU's topology directory that the test reads. -/
inductive Filename where
  | dieId
  | dieCpusList
  | physicalPackageId
  deriving DecidableEq

/-- What there is under a path. -/
inductive Entry where
  | absent
  | unreadable
  | holds (content : Text)
  deriving DecidableEq

/-- The online CPUs and their files. -/
structure System where
  onlineCpus : List Nat
  distinct : onlineCpus.Nodup
  topology : Nat → Filename → Entry

/-- `_read_topology_file`. -/
def readTopologyFile (system : System) (cpu : Nat) (filename : Filename) : Option Text :=
  match system.topology cpu filename with
  | .absent => none
  | .unreadable => none
  | .holds content => some (strip charSpace content)

/-- `int` of a file. There is no number without a file, or where `int` raises `ValueError`. -/
def readNumber (system : System) (cpu : Nat) (filename : Filename) : Option Int :=
  (readTopologyFile system cpu filename).bind int

/-- The number of the die of a CPU. -/
def dieId (system : System) (cpu : Nat) : Option Int := readNumber system cpu .dieId

/-! ### Numbers of dies -/

/-- A die id that is reported: a number below `-1`, or a text that is no number. -/
inductive InvalidDieId where
  | number (cpu : Nat) (dieId : Int)
  | text (cpu : Nat) (dieId : Text)
  deriving DecidableEq

/-- The body of the loop over the CPUs, as far as it reports a die id. -/
def invalidDieId (system : System) (cpu : Nat) : Option InvalidDieId :=
  match readTopologyFile system cpu .dieId with
  | none => none
  | some dieIdStr =>
    match int dieIdStr with
    | none => some (.text cpu dieIdStr)
    | some dieId => if dieId < -1 then some (.number cpu dieId) else none

/-- `test_die_id_validity`: the dies of the CPUs, or the die ids that it fails with. -/
def testDieIdValidity (system : System) : Except (List InvalidDieId) (List (Nat × Int)) :=
  let invalidDieIds := system.onlineCpus.filterMap (invalidDieId system)
  if invalidDieIds ≠ [] then .error invalidDieIds
  else .ok (system.onlineCpus.filterMap fun cpu => (dieId system cpu).map fun die => (cpu, die))

/-! ### Lists of CPUs -/

/-- `die_groups`. -/
def dieGroups (system : System) : List (Int × List Nat) :=
  group (system.onlineCpus.filterMap fun cpu => (dieId system cpu).map fun die => (die, cpu))

/-- `die_cpus_lists`: the lists that are not empty. -/
def dieCpusLists (system : System) (cpus : List Nat) : List (Nat × Text) :=
  cpus.filterMap fun cpu =>
    ((readTopologyFile system cpu .dieCpusList).filter (· ≠ [])).map fun list => (cpu, list)

/-- The body of the loop over the dies. -/
def inconsistency (system : System) (entry : Int × List Nat) :
    Option (Int × List (Nat × Text)) :=
  if entry.1 = -1 then none
  else
    let lists := dieCpusLists system entry.2
    if (lists.map Prod.snd).toFinset.card > 1 then some (entry.1, lists) else none

/-- `test_die_cpumask_consistency`. It fails with the dies whose lists differ. -/
def testDieCpumaskConsistency (system : System) : Except (List (Int × List (Nat × Text))) Unit :=
  let inconsistencies := (dieGroups system).filterMap (inconsistency system)
  if inconsistencies ≠ [] then .error inconsistencies else .ok ()

/-! ### Packages -/

/-- The part of the loop's body over the CPUs that reads: a CPU with its die and its package. -/
def packageOf (system : System) (cpu : Nat) : Option (Nat × Int × Int) :=
  match dieId system cpu, readNumber system cpu .physicalPackageId with
  | some die, some package => if die = -1 then none else some (cpu, die, package)
  | _, _ => none

/-- `test_die_package_relationship`. It fails with the CPUs whose package is another one than the
package of the first CPU on their die. -/
def testDiePackageRelationship (system : System) :
    Except (List ((Nat × Int × Int) × Int)) Unit :=
  let violations := ((system.onlineCpus.filterMap (packageOf system)).foldl
    (note (fun entry => entry.2.1) (fun entry => entry.2.2)) (fun _ => none, [])).2
  if violations ≠ [] then .error violations else .ok ()

/-! ### What the checks find -/

/-- An online CPU on a numbered die. -/
def OnDie (system : System) (cpu : Nat) (die : Int) : Prop :=
  cpu ∈ system.onlineCpus ∧ dieId system cpu = some die ∧ die ≠ -1

/-- A list of CPUs that counts: it is not empty. -/
def HasList (system : System) (cpu : Nat) (list : Text) : Prop :=
  readTopologyFile system cpu .dieCpusList = some list ∧ list ≠ []

/-- The package of a CPU. -/
def HasPackage (system : System) (cpu : Nat) (package : Int) : Prop :=
  readNumber system cpu .physicalPackageId = some package

/-- The lists of the CPUs on a die. -/
def ListOn (system : System) (die : Int) (list : Text) : Prop :=
  ∃ cpu, OnDie system cpu die ∧ HasList system cpu list

/-- The packages of the CPUs on a die. -/
def PackageOn (system : System) (die package : Int) : Prop :=
  ∃ cpu, OnDie system cpu die ∧ HasPackage system cpu package

/-- The CPUs of a group. -/
theorem mem_dieGroups_iff {system : System} {die : Int} {cpus : List Nat} :
    (die, cpus) ∈ dieGroups system ↔
      cpus = system.onlineCpus.filter (fun cpu => dieId system cpu = some die) ∧ cpus ≠ [] := by
  have added : addedFor die (system.onlineCpus.filterMap
      fun cpu => (dieId system cpu).map fun die => (die, cpu)) =
      system.onlineCpus.filter fun cpu => dieId system cpu = some die := by
    rw [addedFor_filterMap, ← List.filterMap_eq_filter]
    refine List.filterMap_congr fun cpu _ => ?_
    cases read : dieId system cpu <;> simp [read, Option.guard]
  rw [dieGroups, mem_group_iff, added]

/-- The lists of a group. -/
theorem mem_dieCpusLists_iff {system : System} {cpus : List Nat} {cpu : Nat} {list : Text} :
    (cpu, list) ∈ dieCpusLists system cpus ↔ cpu ∈ cpus ∧ HasList system cpu list := by
  simp [dieCpusLists, HasList, Option.filter_eq_some_iff]

/-- A die is reported when two of its CPUs have different lists. It is reported with the lists of
all its online CPUs, whichever two of them differ. -/
theorem mem_inconsistencies_iff {system : System} {die : Int} {lists : List (Nat × Text)} :
    (die, lists) ∈ (dieGroups system).filterMap (inconsistency system) ↔
      lists = dieCpusLists system
        (system.onlineCpus.filter fun cpu => dieId system cpu = some die) ∧
      ∃ cpu list other otherList, OnDie system cpu die ∧ HasList system cpu list ∧
        OnDie system other die ∧ HasList system other otherList ∧ list ≠ otherList := by
  have differ (numbered : die ≠ -1) :
      1 < ((dieCpusLists system (system.onlineCpus.filter
        fun cpu => dieId system cpu = some die)).map Prod.snd).toFinset.card ↔
      ∃ cpu list other otherList, OnDie system cpu die ∧ HasList system cpu list ∧
        OnDie system other die ∧ HasList system other otherList ∧ list ≠ otherList := by
    simp only [Finset.one_lt_card, List.mem_toFinset, List.mem_map, Prod.exists,
      exists_eq_right, mem_dieCpusLists_iff, List.mem_filter, decide_eq_true_eq, OnDie]
    constructor
    · rintro ⟨list, ⟨cpu, ⟨online, die⟩, has⟩, otherList, ⟨other, ⟨alsoOnline, same⟩, alsoHas⟩,
        different⟩
      exact ⟨cpu, list, other, otherList, ⟨online, die, numbered⟩, has,
        ⟨alsoOnline, same, numbered⟩, alsoHas, different⟩
    · rintro ⟨cpu, list, other, otherList, ⟨online, die, -⟩, has, ⟨alsoOnline, same, -⟩, alsoHas,
        different⟩
      exact ⟨list, ⟨cpu, ⟨online, die⟩, has⟩, otherList, ⟨other, ⟨alsoOnline, same⟩, alsoHas⟩,
        different⟩
  rw [List.mem_filterMap]
  constructor
  · rintro ⟨⟨number, cpus⟩, grouped, reported⟩
    obtain ⟨rfl, -⟩ := mem_dieGroups_iff.mp grouped
    simp only [inconsistency, Option.ite_none_left_eq_some, Option.ite_none_right_eq_some,
      Option.some.injEq, Prod.mk.injEq] at reported
    obtain ⟨numbered, many, rfl, rfl⟩ := reported
    exact ⟨rfl, (differ numbered).mp many⟩
  · rintro ⟨rfl, two⟩
    obtain ⟨cpu, -, -, -, ⟨online, onDie, numbered⟩, -⟩ := id two
    refine ⟨(die, _), mem_dieGroups_iff.mpr ⟨rfl, ?_⟩, ?_⟩
    · exact List.ne_nil_of_mem (List.mem_filter.mpr ⟨online, by simpa using onDie⟩)
    · rw [inconsistency, if_neg numbered]
      exact if_pos ((differ numbered).mpr two)

/-- The packages that are compared are those of the CPUs on numbered dies. -/
theorem packageOf_eq_some_iff {system : System} {cpu : Nat} {entry : Nat × Int × Int} :
    packageOf system cpu = some entry ↔ entry.1 = cpu ∧ dieId system cpu = some entry.2.1 ∧
      HasPackage system cpu entry.2.2 ∧ entry.2.1 ≠ -1 := by
  obtain ⟨number, die, package⟩ := entry
  unfold packageOf
  split
  case h_1 ownDie ownPackage die package =>
    simp only [Option.ite_none_left_eq_some, Option.some.injEq, Prod.mk.injEq, HasPackage, die,
      package]
    constructor
    · rintro ⟨numbered, rfl, rfl, rfl⟩
      exact ⟨rfl, rfl, rfl, numbered⟩
    · rintro ⟨rfl, rfl, rfl, numbered⟩
      exact ⟨numbered, rfl, rfl, rfl⟩
  case h_2 unread =>
    refine iff_of_false (by simp) ?_
    rintro ⟨-, onDie, package, -⟩
    exact unread _ _ onDie package

/-- The CPUs whose packages are compared. -/
theorem mem_packageEntries_iff {system : System} {cpu : Nat} {die package : Int} :
    (cpu, die, package) ∈ system.onlineCpus.filterMap (packageOf system) ↔
      OnDie system cpu die ∧ HasPackage system cpu package := by
  rw [List.mem_filterMap]
  constructor
  · rintro ⟨other, online, read⟩
    obtain ⟨rfl, onDie, has, numbered⟩ := packageOf_eq_some_iff.mp read
    exact ⟨⟨online, onDie, numbered⟩, has⟩
  · rintro ⟨⟨online, onDie, numbered⟩, has⟩
    exact ⟨cpu, online, packageOf_eq_some_iff.mpr ⟨rfl, onDie, has, numbered⟩⟩

/-- The package of the first online CPU on a die that has one. -/
def FirstPackage (system : System) (die package : Int) : Prop :=
  ∃ front cpu back, system.onlineCpus = front ++ cpu :: back ∧ OnDie system cpu die ∧
    HasPackage system cpu package ∧
    ∀ earlier ∈ front, OnDie system earlier die → ∀ other, ¬HasPackage system earlier other

/-- The walk keeps the package of the first CPU on a die, in the order of the online CPUs. CPUs
without a die or a package are passed over. -/
theorem firstValue_packages_iff {system : System} {die package : Int} :
    firstValue (fun entry : Nat × Int × Int => entry.2.1) (fun entry => entry.2.2)
      (system.onlineCpus.filterMap (packageOf system)) die = some package ↔
      FirstPackage system die package := by
  rw [firstValue, List.find?_filterMap]
  simp only [Option.map_eq_some_iff, Option.bind_eq_some_iff, List.find?_eq_some_iff_append,
    Option.any_eq_true]
  constructor
  · rintro ⟨entry, ⟨cpu, ⟨⟨other, found, here⟩, front, back, split, none⟩, read⟩, rfl⟩
    obtain rfl : other = entry := Option.some.inj (found.symm.trans read)
    obtain ⟨-, onDie, has, numbered⟩ := packageOf_eq_some_iff.mp read
    have here : other.2.1 = die := by simpa using here
    rw [here] at onDie numbered
    refine ⟨front, cpu, back, split, ⟨by simp [split], onDie, numbered⟩, has, ?_⟩
    intro earlier inFront alsoOn otherPackage alsoHas
    have passed := none earlier inFront
    have compared : packageOf system earlier = some (earlier, die, otherPackage) :=
      packageOf_eq_some_iff.mpr ⟨rfl, alsoOn.2.1, alsoHas, numbered⟩
    simp [compared] at passed
  · rintro ⟨front, cpu, back, split, onDie, has, none⟩
    have read : packageOf system cpu = some (cpu, die, package) :=
      packageOf_eq_some_iff.mpr ⟨rfl, onDie.2.1, has, onDie.2.2⟩
    refine ⟨_, ⟨cpu, ⟨⟨_, read, by simp⟩, front, back, split, fun earlier inFront => ?_⟩, read⟩,
      rfl⟩
    cases found : packageOf system earlier with
    | none => simp
    | some entry =>
      obtain ⟨-, alsoOn, alsoHas, numbered⟩ := packageOf_eq_some_iff.mp found
      have elsewhere : entry.2.1 ≠ die := by
        rintro rfl
        exact none earlier inFront ⟨by simp [split, inFront], alsoOn, numbered⟩ _ alsoHas
      simpa using elsewhere

/-- No die is reported twice. -/
theorem nodup_inconsistencies (system : System) :
    (((dieGroups system).filterMap (inconsistency system)).map Prod.fst).Nodup := by
  have keys : ((dieGroups system).filterMap (inconsistency system)).map Prod.fst =
      ((dieGroups system).filter fun entry => (inconsistency system entry).isSome).map
        Prod.fst := by
    induction dieGroups system with
    | nil => rfl
    | cons entry others inductionHypothesis =>
      cases reported : inconsistency system entry with
      | none => simpa [List.filterMap_cons, reported] using inductionHypothesis
      | some found =>
        have same : found.1 = entry.1 := by
          simp only [inconsistency, Option.ite_none_left_eq_some, Option.ite_none_right_eq_some,
            Option.some.injEq] at reported
          rw [← reported.2.2]
        simpa [List.filterMap_cons, reported, same] using inductionHypothesis
  rw [keys]
  exact (List.filter_sublist.map Prod.fst).nodup (nodup_keys_group _)

/-- What the three checks answer: they pass exactly when the die ids are numbers from `-1` on and
when the lists and the packages are determined by the die. They report each die with its lists
once, and each CPU whose package is not the package of the first CPU on its die. -/
structure Exact (system : System) : Prop where
  dieIds : (∃ dies, testDieIdValidity system = .ok dies) ↔
    ∀ cpu ∈ system.onlineCpus, ∀ text, readTopologyFile system cpu .dieId = some text →
      ∃ die, int text = some die ∧ -1 ≤ die
  lists : testDieCpumaskConsistency system = .ok () ↔ Factors (ListOn system)
  reportedLists : ∀ reported, testDieCpumaskConsistency system = .error reported →
    (reported.map Prod.fst).Nodup ∧ ∀ die lists, (die, lists) ∈ reported ↔
      lists = dieCpusLists system
        (system.onlineCpus.filter fun cpu => dieId system cpu = some die) ∧
      ∃ list other, ListOn system die list ∧ ListOn system die other ∧ list ≠ other
  packages : testDiePackageRelationship system = .ok () ↔ Factors (PackageOn system)
  reportedPackages : ∀ reported, testDiePackageRelationship system = .error reported →
    ∀ cpu die package first, ((cpu, die, package), first) ∈ reported ↔
      OnDie system cpu die ∧ HasPackage system cpu package ∧
        FirstPackage system die first ∧ first ≠ package

/-- A check that fails with what it found passes when it found nothing. -/
theorem check_ok_iff {α β : Type} {found : List α} {result : β} :
    (if found ≠ [] then Except.error found else .ok result) = .ok result ↔ found = [] := by
  by_cases nothing : found = [] <;> simp [nothing]

/-- A check that fails with what it found reports that. -/
theorem check_error_iff {α β : Type} {found reported : List α} {result : β} :
    (if found ≠ [] then Except.error found else .ok result) = .error reported ↔
      found = reported ∧ found ≠ [] := by
  by_cases nothing : found = []
  · simp [nothing]
  · simp [nothing]

/-- A die id is reported unless it is a number from `-1` on. -/
theorem invalidDieId_eq_none_iff {system : System} {cpu : Nat} :
    invalidDieId system cpu = none ↔ ∀ text, readTopologyFile system cpu .dieId = some text →
      ∃ die, int text = some die ∧ -1 ≤ die := by
  unfold invalidDieId
  cases read : readTopologyFile system cpu .dieId with
  | none => simp
  | some text => cases number : int text <;> simp [number]

/-- The answers of the checks are exact on every system.

A system has any CPUs online, with any texts in their files or none. Nothing is assumed of the
numbers and lists, neither what the kernel documents of them nor that they agree.

Proof: each loop asks whether a value is determined by the die. The two are told apart by what they
keep, all the lists of a die or the first package on it. -/
theorem checks_exact (system : System) : Exact system where
  dieIds := by
    have valid : (∃ dies, testDieIdValidity system = .ok dies) ↔
        system.onlineCpus.filterMap (invalidDieId system) = [] := by
      unfold testDieIdValidity
      by_cases nothing : system.onlineCpus.filterMap (invalidDieId system) = [] <;> simp [nothing]
    rw [valid, List.filterMap_eq_nil_iff]
    simp only [invalidDieId_eq_none_iff]
  lists := by
    rw [testDieCpumaskConsistency, check_ok_iff, factors_iff, List.eq_nil_iff_forall_not_mem]
    constructor
    · rintro nothing die list other ⟨cpu, onDie, has⟩ ⟨another, alsoOn, alsoHas⟩
      by_contra different
      exact nothing _ (mem_inconsistencies_iff.mpr
        ⟨rfl, cpu, list, another, other, onDie, has, alsoOn, alsoHas, different⟩)
    · rintro agree ⟨die, lists⟩ reported
      obtain ⟨-, cpu, list, another, other, onDie, has, alsoOn, alsoHas, different⟩ :=
        mem_inconsistencies_iff.mp reported
      exact different (agree die list other ⟨cpu, onDie, has⟩ ⟨another, alsoOn, alsoHas⟩)
  reportedLists := by
    intro reported failed
    obtain ⟨rfl, -⟩ := check_error_iff.mp failed
    refine ⟨nodup_inconsistencies system, fun die lists => ?_⟩
    rw [mem_inconsistencies_iff]
    refine and_congr_right fun _ => ?_
    constructor
    · rintro ⟨cpu, list, another, other, onDie, has, alsoOn, alsoHas, different⟩
      exact ⟨list, other, ⟨cpu, onDie, has⟩, ⟨another, alsoOn, alsoHas⟩, different⟩
    · rintro ⟨list, other, ⟨cpu, onDie, has⟩, ⟨another, alsoOn, alsoHas⟩, different⟩
      exact ⟨cpu, list, another, other, onDie, has, alsoOn, alsoHas, different⟩
  packages := by
    rw [testDiePackageRelationship, check_ok_iff, foldl_note, misfits_eq_nil_iff]
    have same : Given (fun entry : Nat × Int × Int => entry.2.1) (fun entry => entry.2.2)
        (system.onlineCpus.filterMap (packageOf system)) = PackageOn system := by
      funext die package
      refine propext ⟨?_, ?_⟩
      · rintro ⟨⟨cpu, die, package⟩, member, rfl, rfl⟩
        exact ⟨cpu, mem_packageEntries_iff.mp member⟩
      · rintro ⟨cpu, onDie, has⟩
        exact ⟨(cpu, die, package), mem_packageEntries_iff.mpr ⟨onDie, has⟩, rfl, rfl⟩
    rw [same]
  reportedPackages := by
    intro reported failed cpu die package first
    obtain ⟨rfl, -⟩ := check_error_iff.mp failed
    rw [foldl_note, mem_misfits_iff, mem_packageEntries_iff, firstValue_packages_iff, and_assoc]

/-- Two CPUs of one die, each with a list of its own. -/
def splitDie : System where
  onlineCpus := [0, 1]
  distinct := by decide
  topology cpu
    | .dieId => .holds ['0', '\n']
    | .dieCpusList => .holds (if cpu = 0 then ['0'] else ['1'])
    | .physicalPackageId => .absent

/-- The lists are reported, the die ids and the packages are not. -/
example : testDieCpumaskConsistency splitDie = .error [(0, [(0, ['0']), (1, ['1'])])] ∧
    testDieIdValidity splitDie = .ok [(0, 0), (1, 0)] := by
  decide +kernel

end AvocadoMisc.CpuDieTopology.Consistency
