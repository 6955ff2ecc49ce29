import Mathlib.Algebra.Ring.Nat
import Mathlib.Data.List.Nodup
import AvocadoMisc.Xfstests.LoopImages

/-!
# The namespaces of the xfstests set-up on persistent memory

`setup_nvdimm` of `xfstests.py` takes the largest region. Two namespaces for data are made on it,
and two for the logs if the test uses log devices. These are on the second largest region, or on a
tenth of the only one.

Every size is half of the space it is for, rounded down to the alignment of the platform. The logs
are cut to the largest aligned size that XFS accepts. A legacy region keeps the namespaces it has.
-/

namespace AvocadoMisc.Xfstests.PmemNamespaces

open LoopImages (Text Stop)
open Library.Text (contains)

/-! ### Regions -/

/-- A region as `ndctl` lists it, with its size in bytes. -/
structure Region where
  dev : Text
  size : Nat
  legacy : Bool
  deriving DecidableEq

/-- The machine: what the processors are, the regions in the order of the list, and the free space
of the root file system. -/
structure System where
  cpuinfo : Text
  regions : List Region
  freespace : Nat
  distinct : (regions.map Region.dev).Nodup

/-- The characters that `get_size_alignval` strips off the end. -/
def stripped (c : Char) : Bool := ['\t', '\r', '\n', Char.ofNat 0].contains c

/-- `get_size_alignval`. -/
def System.sizeAlign (system : System) : Nat :=
  if contains "Hash".toList (system.cpuinfo.rdropWhile stripped) then 16 * 1024 * 1024
  else 2 * 1024 * 1024

/-- The variable `regions`. The largest comes first, and of two alike the one that is listed
first. -/
def System.sorted (system : System) : List Region :=
  system.regions.mergeSort fun first second => decide (second.size ≤ first.size)

/-- A size rounded down. -/
def alignDown (sizeAlign size : Nat) : Nat := size / sizeAlign * sizeAlign

/-- `get_half_region_size`. -/
def getHalfRegionSize (sizeAlign : Nat) (region : Region) : Nat :=
  alignDown sizeAlign (region.size / 2)

/-! ### The set-up -/

/-- What the set-up does to the namespaces. Those for logs are in sector mode. -/
inductive Call where
  | destroyNamespace (region : Region)
  | createSector (region : Region) (size : Nat)
  | createNamespace (region : Region) (size : Nat)
  deriving DecidableEq

/-- What is left when the maximum of a log is rounded down. -/
def logLimit : Nat := 2130706432

/-- `setup_nvdimm`, as far as it is about namespaces. With logs a single region gives a tenth to
them, and of two regions the second is for them alone; legacy regions are left as they are. -/
def setupNvdimm (system : System) (logflag : Bool) : Except Stop (List Call) :=
  match system.sorted with
  | [] => .error (.cancelled "Nvdimm test with no region support".toList)
  | region :: others =>
    let sizeAlign := system.sizeAlign
    if region.legacy then
      if others = [] then .error (.cancelled "Not supported with single legacy region".toList)
      else if logflag then (LoopImages.setupNvdimm system.freespace).map fun _ => []
      else .ok []
    else if logflag then
      match others with
      | [] =>
        let logdevSize := region.size / 10
        let devSize := region.size - logdevSize
        let devSize := alignDown sizeAlign (devSize / 2)
        let logdevSize := alignDown sizeAlign (logdevSize / 2)
        let logdevSize := min logdevSize logLimit
        .ok [.destroyNamespace region, .createSector region logdevSize,
          .createSector region logdevSize, .createNamespace region devSize,
          .createNamespace region devSize]
      | regionLdev :: _ =>
        let devSize := getHalfRegionSize sizeAlign region
        let logdevSize := getHalfRegionSize sizeAlign regionLdev
        let logdevSize := min logdevSize logLimit
        .ok [.destroyNamespace region, .destroyNamespace regionLdev,
          .createSector regionLdev logdevSize, .createSector regionLdev logdevSize,
          .createNamespace region devSize, .createNamespace region devSize]
    else
      let devSize := getHalfRegionSize sizeAlign region
      .ok [.destroyNamespace region, .createNamespace region devSize,
        .createNamespace region devSize]

/-! ### What is asked of the namespaces -/

/-- The size of a namespace for data. -/
def Call.dataSize : Call → Option Nat
  | .createNamespace _ size => some size
  | _ => none

/-- The size of a namespace for a log. -/
def Call.logSize : Call → Option Nat
  | .createSector _ size => some size
  | _ => none

/-- The size of a namespace that is made on a region. -/
def Call.sizeOn (region : Region) : Call → Option Nat
  | .destroyNamespace _ => none
  | .createSector other size | .createNamespace other size =>
    if other = region then some size else none

/-- Two namespaces of one size for data, and for logs if there are any. They are aligned, a region
has room for those on it, no log is too large, and no namespace on a large region is empty. -/
structure Sound (sizeAlign : Nat) (logflag : Bool) (calls : List Call) : Prop where
  data : ∃ devSize, calls.filterMap Call.dataSize = [devSize, devSize]
  logs : ∃ logdevSize,
    calls.filterMap Call.logSize = if logflag then [logdevSize, logdevSize] else []
  aligned : ∀ region, ∀ size ∈ calls.filterMap (Call.sizeOn region), sizeAlign ∣ size
  room : ∀ region, (calls.filterMap (Call.sizeOn region)).sum ≤ region.size
  limited : ∀ size ∈ calls.filterMap Call.logSize, size ≤ 2136997888
  positive : ∀ region, 20 * (2 * sizeAlign) ≤ region.size →
    ∀ size ∈ calls.filterMap (Call.sizeOn region), 0 < size

/-! ### Rounding -/

section Rounding

variable {sizeAlign size : Nat}

/-- A size that is rounded down is aligned. -/
theorem dvd_alignDown : sizeAlign ∣ alignDown sizeAlign size := Nat.dvd_mul_left _ _

/-- It does not grow. -/
theorem alignDown_le : alignDown sizeAlign size ≤ size := Nat.div_mul_le_self _ _

/-- From the alignment on something is left. -/
theorem alignDown_pos (positive : 0 < sizeAlign) (enough : sizeAlign ≤ size) :
    0 < alignDown sizeAlign size := Nat.mul_pos (Nat.div_pos enough positive) positive

/-- There are two alignments. -/
theorem sizeAlign_cases (system : System) :
    system.sizeAlign = 16777216 ∨ system.sizeAlign = 2097152 := by
  rw [System.sizeAlign]
  split
  · exact .inl rfl
  · exact .inr rfl

/-- An alignment is a size. -/
theorem sizeAlign_pos (system : System) : 0 < system.sizeAlign := by
  rcases sizeAlign_cases system with same | same <;> rw [same] <;> decide

/-- The limit of the logs is aligned. -/
theorem dvd_logLimit (system : System) : system.sizeAlign ∣ logLimit := by
  rcases sizeAlign_cases system with same | same <;> rw [same] <;> decide

/-- A log is aligned after it is cut, too. -/
theorem dvd_cut (system : System) :
    system.sizeAlign ∣ min (alignDown system.sizeAlign size) logLimit := by
  rcases Nat.le_total (alignDown system.sizeAlign size) logLimit with below | above
  · rw [Nat.min_eq_left below]
    exact dvd_alignDown
  · rw [Nat.min_eq_right above]
    exact dvd_logLimit system

/-- And it is not empty if it was not before. -/
theorem cut_pos (positive : 0 < sizeAlign) (enough : sizeAlign ≤ size) :
    0 < min (alignDown sizeAlign size) logLimit :=
  Nat.lt_min.mpr ⟨alignDown_pos positive enough, by decide⟩

end Rounding

/-! ### The three configurations -/

section Configurations

variable {sizeAlign devSize : Nat} {logSizes : List Nat} {region regionLdev : Region}
  {calls : List Call} {logflag : Bool}

/-- What holds of a size holds of two. -/
theorem forall_pair {Holds : Nat → Prop} {size : Nat} (holds : Holds size) :
    ∀ other ∈ [size, size], Holds other := by
  simpa using holds

/-- The sum of two. -/
theorem sum_pair (size : Nat) : [size, size].sum = 2 * size := by
  rw [List.sum_cons, List.sum_singleton, Nat.two_mul]

/-- The logs are on one region and the data on one, which may be the same. What is asked of the
namespaces is asked of the sizes. -/
theorem sound_of_sizes
    (sizes : ∀ other, calls.filterMap (Call.sizeOn other) =
      (if regionLdev = other then logSizes else []) ++
        if region = other then [devSize, devSize] else [])
    (data : calls.filterMap Call.dataSize = [devSize, devSize])
    (logs : calls.filterMap Call.logSize = logSizes)
    (count : ∃ logdevSize, logSizes = if logflag then [logdevSize, logdevSize] else [])
    (dataAligned : sizeAlign ∣ devSize) (logAligned : ∀ size ∈ logSizes, sizeAlign ∣ size)
    (below : ∀ size ∈ logSizes, size ≤ logLimit)
    (dataRoom : 2 * devSize ≤ region.size) (logRoom : logSizes.sum ≤ regionLdev.size)
    (bothRoom : regionLdev = region → 2 * devSize + logSizes.sum ≤ region.size)
    (dataPositive : 20 * (2 * sizeAlign) ≤ region.size → 0 < devSize)
    (logPositive : 20 * (2 * sizeAlign) ≤ regionLdev.size → ∀ size ∈ logSizes, 0 < size) :
    Sound sizeAlign logflag calls := by
  have of_sizeOn : ∀ other, ∀ size ∈ calls.filterMap (Call.sizeOn other),
      regionLdev = other ∧ size ∈ logSizes ∨ region = other ∧ size = devSize := by
    intro other size member
    rw [sizes, List.mem_append] at member
    rcases member with isLog | isData
    · split at isLog
      case isTrue onLdev => exact .inl ⟨onLdev, isLog⟩
      case isFalse => cases isLog
    · split at isData
      case isTrue onRegion => exact .inr ⟨onRegion, by simpa using isData⟩
      case isFalse => cases isData
  refine ⟨⟨devSize, data⟩, by rw [logs]; exact count, ?_, ?_, ?_, ?_⟩
  · intro other size member
    rcases of_sizeOn other size member with ⟨-, isLog⟩ | ⟨-, rfl⟩
    · exact logAligned size isLog
    · exact dataAligned
  · intro other
    rw [sizes, List.sum_append]
    by_cases onLdev : regionLdev = other <;> by_cases onRegion : region = other
    · have enough := bothRoom (onLdev.trans onRegion.symm)
      rw [if_pos onLdev, if_pos onRegion, sum_pair, ← onRegion, Nat.add_comm]
      exact enough
    · rw [if_pos onLdev, if_neg onRegion, ← onLdev]
      simpa using logRoom
    · rw [if_neg onLdev, if_pos onRegion, sum_pair, ← onRegion, List.sum_nil, Nat.zero_add]
      exact dataRoom
    · simp [onLdev, onRegion]
  · intro size isLog
    rw [logs] at isLog
    exact le_trans (below size isLog) (by decide)
  · intro other large size member
    rcases of_sizeOn other size member with ⟨rfl, isLog⟩ | ⟨rfl, rfl⟩
    · exact logPositive large size isLog
    · exact dataPositive large

/-- The sizes on a region when logs and data are made after some namespaces are destroyed. -/
theorem sizeOn_calls {logdevSize : Nat} (destroyed : List Call)
    (cleared : ∀ call ∈ destroyed, ∃ other, call = .destroyNamespace other) (other : Region) :
    (destroyed ++ [Call.createSector regionLdev logdevSize, .createSector regionLdev logdevSize,
      .createNamespace region devSize, .createNamespace region devSize]).filterMap
        (Call.sizeOn other) =
      (if regionLdev = other then [logdevSize, logdevSize] else []) ++
        if region = other then [devSize, devSize] else [] := by
  have nothing : destroyed.filterMap (Call.sizeOn other) = [] := by
    rw [List.filterMap_eq_nil_iff]
    intro call member
    obtain ⟨cut, rfl⟩ := cleared call member
    rfl
  rw [List.filterMap_append, nothing]
  by_cases onLdev : regionLdev = other <;> by_cases onRegion : region = other <;>
    simp [Call.sizeOn, onLdev, onRegion]

/-- Two regions of the list are different. -/
theorem ne_of_listed {system : System} {others : List Region}
    (listed : system.sorted = region :: regionLdev :: others) : regionLdev ≠ region := by
  have sortedDistinct : (system.sorted.map Region.dev).Nodup :=
    ((List.mergeSort_perm _ _).map Region.dev).nodup_iff.mpr system.distinct
  rw [listed, List.map_cons, List.map_cons, List.nodup_cons] at sortedDistinct
  rintro rfl
  exact sortedDistinct.1 List.mem_cons_self

/-- Half of a region is aligned, fits twice, and is something on a large region. -/
theorem getHalfRegionSize_spec (positive : 0 < sizeAlign) (region : Region) :
    sizeAlign ∣ getHalfRegionSize sizeAlign region ∧
      2 * getHalfRegionSize sizeAlign region ≤ region.size ∧
      (20 * (2 * sizeAlign) ≤ region.size → 0 < getHalfRegionSize sizeAlign region) := by
  refine ⟨dvd_alignDown, ?_, fun large => alignDown_pos positive (by omega)⟩
  have half : getHalfRegionSize sizeAlign region ≤ region.size / 2 := alignDown_le
  omega

end Configurations

section Sizes

variable {system : System} {region : Region}

/-- Without a device for the log, each of the two namespaces has half of the region. -/
theorem sound_halves {others : List Region} (listed : system.sorted = region :: others)
    (notLegacy : region.legacy = false) :
    ∃ calls, setupNvdimm system false = .ok calls ∧ Sound system.sizeAlign false calls := by
  obtain ⟨halfAligned, halfRoom, halfPositive⟩ :=
    getHalfRegionSize_spec (sizeAlign_pos system) region
  let devSize := getHalfRegionSize system.sizeAlign region
  let calls : List Call := [.destroyNamespace region, .createNamespace region devSize,
    .createNamespace region devSize]
  have result : setupNvdimm system false = .ok calls := by
    simp [setupNvdimm, listed, notLegacy, calls, devSize]
  have sizes : ∀ other, calls.filterMap (Call.sizeOn other) =
      (if region = other then ([] : List Nat) else []) ++
        if region = other then [devSize, devSize] else [] := by
    intro other
    by_cases onRegion : region = other <;>
      simp [calls, List.filterMap_cons, Call.sizeOn, onRegion]
  have noLog : ∀ {Holds : Nat → Prop}, ∀ size ∈ ([] : List Nat), Holds size := by simp
  exact ⟨calls, result, sound_of_sizes sizes rfl rfl ⟨0, rfl⟩ halfAligned noLog noLog halfRoom
    (Nat.zero_le _) (fun _ => halfRoom) halfPositive fun _ => noLog⟩

/-- On a single region the devices for the log share a tenth of it, and those for the data the rest.
Rounding down to the alignment only makes them smaller, so they fit. -/
theorem sound_tenth (listed : system.sorted = [region]) (notLegacy : region.legacy = false) :
    ∃ calls, setupNvdimm system true = .ok calls ∧ Sound system.sizeAlign true calls := by
  have positive := sizeAlign_pos system
  let devSize := alignDown system.sizeAlign ((region.size - region.size / 10) / 2)
  let logdevSize := min (alignDown system.sizeAlign (region.size / 10 / 2)) logLimit
  let calls : List Call := [.destroyNamespace region, .createSector region logdevSize,
    .createSector region logdevSize, .createNamespace region devSize,
    .createNamespace region devSize]
  have result : setupNvdimm system true = .ok calls := by
    simp [setupNvdimm, listed, notLegacy, calls, devSize, logdevSize]
  have devBelow : devSize ≤ (region.size - region.size / 10) / 2 := alignDown_le
  have logBelow : logdevSize ≤ region.size / 10 / 2 :=
    le_trans (Nat.min_le_left _ _) alignDown_le
  have logPositive (large : 20 * (2 * system.sizeAlign) ≤ region.size) : 0 < logdevSize :=
    cut_pos positive (by omega)
  have sizes (other : Region) : calls.filterMap (Call.sizeOn other) =
      (if region = other then [logdevSize, logdevSize] else []) ++
        if region = other then [devSize, devSize] else [] :=
    sizeOn_calls [.destroyNamespace region] (by simp) other
  exact ⟨calls, result, sound_of_sizes sizes rfl rfl ⟨logdevSize, rfl⟩ dvd_alignDown
    (forall_pair (dvd_cut system)) (forall_pair (Nat.min_le_right _ _)) (by omega)
    (by rw [sum_pair]; omega) (fun _ => by rw [sum_pair]; omega)
    (fun large => alignDown_pos positive (by omega))
    fun large => forall_pair (logPositive large)⟩

/-- On two regions each has two halves, rounded down to the alignment: one region is for the data
and the other for the log, whose size is limited. -/
theorem sound_two {regionLdev : Region} {rest : List Region}
    (listed : system.sorted = region :: regionLdev :: rest) (notLegacy : region.legacy = false) :
    ∃ calls, setupNvdimm system true = .ok calls ∧ Sound system.sizeAlign true calls := by
  have positive := sizeAlign_pos system
  obtain ⟨halfAligned, halfRoom, halfPositive⟩ := getHalfRegionSize_spec positive region
  obtain ⟨-, ldevRoom, -⟩ := getHalfRegionSize_spec positive regionLdev
  let devSize := getHalfRegionSize system.sizeAlign region
  let logdevSize := min (getHalfRegionSize system.sizeAlign regionLdev) logLimit
  let calls : List Call := [.destroyNamespace region, .destroyNamespace regionLdev,
    .createSector regionLdev logdevSize, .createSector regionLdev logdevSize,
    .createNamespace region devSize, .createNamespace region devSize]
  have result : setupNvdimm system true = .ok calls := by
    simp [setupNvdimm, listed, notLegacy, calls, devSize, logdevSize]
  have logBelow : logdevSize ≤ getHalfRegionSize system.sizeAlign regionLdev :=
    Nat.min_le_left _ _
  have logPositive (large : 20 * (2 * system.sizeAlign) ≤ regionLdev.size) : 0 < logdevSize :=
    cut_pos positive (by omega)
  have different : regionLdev ≠ region := ne_of_listed listed
  have sizes (other : Region) : calls.filterMap (Call.sizeOn other) =
      (if regionLdev = other then [logdevSize, logdevSize] else []) ++
        if region = other then [devSize, devSize] else [] :=
    sizeOn_calls [.destroyNamespace region, .destroyNamespace regionLdev] (by simp) other
  exact ⟨calls, result, sound_of_sizes sizes rfl rfl ⟨logdevSize, rfl⟩ halfAligned
    (forall_pair (dvd_cut system)) (forall_pair (Nat.min_le_right _ _)) halfRoom
    (by rw [sum_pair]; omega) (fun same => absurd same different) halfPositive
    fun large => forall_pair (logPositive large)⟩

end Sizes

/-- The set-up on a region that is not a legacy region comes to its end, and its namespaces are as
they should be, over all sizes of the regions.

Proof: the three configurations. The sizes of each are bounded through the halves and the tenth. -/
theorem namespaces_sound (system : System) (logflag : Bool) {region : Region}
    {others : List Region} (listed : system.sorted = region :: others)
    (notLegacy : region.legacy = false) :
    ∃ calls, setupNvdimm system logflag = .ok calls ∧ Sound system.sizeAlign logflag calls := by
  cases logflag with
  | false => exact sound_halves listed notLegacy
  | true =>
    cases others with
    | nil => exact sound_tenth listed notLegacy
    | cons regionLdev rest => exact sound_two listed notLegacy

/-- A machine with one region of 1 GiB. -/
def oneRegion : System where
  cpuinfo := "MMU : Radix".toList
  regions := [⟨"region0".toList, 1073741824, false⟩]
  freespace := 0
  distinct := List.nodup_singleton _

/-- Its namespaces, with logs. -/
theorem namespaces_oneRegion :
    oneRegion.sorted = [⟨"region0".toList, 1073741824, false⟩] ∧
      ∃ calls, setupNvdimm oneRegion true = .ok calls ∧ Sound oneRegion.sizeAlign true calls :=
  ⟨List.mergeSort_singleton _, namespaces_sound oneRegion true (List.mergeSort_singleton _) rfl⟩

end AvocadoMisc.Xfstests.PmemNamespaces
