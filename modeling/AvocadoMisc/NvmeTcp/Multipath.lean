import Mathlib.Data.List.Count
import Mathlib.Data.List.Infix

/-!
# The validation of the paths

`validate_multipath_paths` of the initiator test counts the paths of the subsystem that are live
and those that are optimized. Its description has four checks, and the last of them, that no path
is inaccessible, is not made.

The fields of the JSON that `nvme list-subsys` prints may be missing. A listing that cannot be read
is reported and accepted, and so is one that does not have the subsystem at all.
-/

namespace AvocadoMisc.NvmeTcp.Multipath

/-! ### The listing -/

/-- An entry of `Paths`. -/
structure ListedPath where
  Name : Option String
  State : Option String
  ANAState : Option String

/-- An entry of `Subsystems`. -/
structure ListedSubsystem where
  NQN : Option String
  Paths : Option (List ListedPath)

/-- An entry of the listing, whose subsystems may be missing. -/
structure ListedHost where
  Subsystems : Option (List ListedSubsystem)

/-- Reasons to fail. -/
inductive Failure where
  | tooFewPaths (found : Nat)
  | insufficientActive (liveCount optimizedCount : Nat)
  deriving DecidableEq

/-- The text of a failure. -/
def Failure.text : Failure → String
  | .tooFewPaths found => "Expected at least 2 paths for multipath, found " ++ toString found
  | .insufficientActive liveCount optimizedCount =>
    "Insufficient active paths: " ++ toString liveCount ++ " live, " ++ toString optimizedCount ++
      " optimized"

/-! ### The validation -/

/-- The two counters. -/
structure Counts where
  liveCount : Nat
  optimizedCount : Nat

/-- One path. -/
def Counts.path (counts : Counts) (path : ListedPath) : Counts :=
  let state := path.State.getD "unknown"
  let anaState := path.ANAState.getD "unknown"
  { liveCount := if state = "live" then counts.liveCount + 1 else counts.liveCount
    optimizedCount :=
      if anaState = "optimized" then counts.optimizedCount + 1 else counts.optimizedCount }

/-- The checks for the paths of a subsystem. -/
def validatePaths (paths : List ListedPath) : Option Failure :=
  if paths.length < 2 then some (.tooFewPaths paths.length)
  else
    let counts := paths.foldl Counts.path ⟨0, 0⟩
    if 0 < counts.optimizedCount then none
    else if 2 ≤ counts.liveCount then none
    else some (.insufficientActive counts.liveCount counts.optimizedCount)

/-- The loop over the subsystems of a host. -/
def validateSubsystems (subsystemNqn : String) : List ListedSubsystem → Option Failure
  | [] => none
  | subsys :: rest =>
    if subsys.NQN = some subsystemNqn then
      match validatePaths (subsys.Paths.getD []) with
      | some failure => some failure
      | none => validateSubsystems subsystemNqn rest
    else validateSubsystems subsystemNqn rest

/-- The loop over the hosts. -/
def validateHosts (subsystemNqn : String) : List ListedHost → Option Failure
  | [] => none
  | host :: rest =>
    match validateSubsystems subsystemNqn (host.Subsystems.getD []) with
    | some failure => some failure
    | none => validateHosts subsystemNqn rest

/-- `validate_multipath_paths`. The listing is missing when it cannot be read. -/
def validateMultipathPaths (multipathEnabled : Bool) (subsystemNqn : String)
    (listing : Option (List ListedHost)) : Option Failure :=
  if multipathEnabled then
    match listing with
    | some data => validateHosts subsystemNqn data
    | none => none
  else none

/-! ### The contract -/

/-- The paths in an entry for the subsystem. -/
def ownPaths (subsystemNqn : String) (subsys : ListedSubsystem) : Option (List ListedPath) :=
  if subsys.NQN = some subsystemNqn then some (subsys.Paths.getD []) else none

/-- The path lists in the entries for the subsystem. -/
def pathLists (subsystemNqn : String) (data : List ListedHost) : List (List ListedPath) :=
  (data.flatMap fun host => host.Subsystems.getD []).filterMap (ownPaths subsystemNqn)

/-- The path lists of the subsystem. Without an entry it has one, and no path is in it. -/
def subsystemPaths (subsystemNqn : String) (data : List ListedHost) : List (List ListedPath) :=
  match pathLists subsystemNqn data with
  | [] => [[]]
  | listed => listed

/-- A path is live. -/
def ListedPath.live (path : ListedPath) : Bool := path.State == some "live"

/-- Some path is optimized, or two are live whatever their states. -/
def Active (paths : List ListedPath) : Prop :=
  (∃ path ∈ paths, path.ANAState = some "optimized") ∨ 2 ≤ paths.countP ListedPath.live

/-- No path is inaccessible. A path that lists no state is not. -/
def Accessible (paths : List ListedPath) : Prop :=
  ∀ path ∈ paths, path.ANAState ≠ some "inaccessible"

/-- What the validation is to check: two paths at least, one of them fit for use, and none
inaccessible. -/
structure Contract (paths : List ListedPath) : Prop where
  multiple : 2 ≤ paths.length
  active : Active paths
  accessible : Accessible paths

/-! ### What is checked -/

/-- The counters after some paths.

Proof: by induction on the paths. -/
theorem foldl_path (paths : List ListedPath) (counts : Counts) :
    paths.foldl Counts.path counts =
      { liveCount := counts.liveCount + paths.countP ListedPath.live
        optimizedCount := counts.optimizedCount +
          paths.countP fun path => path.ANAState == some "optimized" } := by
  induction paths generalizing counts with
  | nil => rfl
  | cons path rest inductionHypothesis =>
    have liveField : path.State.getD "unknown" = "live" ↔ path.live = true := by
      cases path with
      | mk _ state _ => cases state <;> simp [ListedPath.live]
    have optimizedField : path.ANAState.getD "unknown" = "optimized" ↔
        (path.ANAState == some "optimized") = true := by
      cases path with
      | mk _ _ anaState => cases anaState <;> simp
    rw [List.foldl_cons, inductionHypothesis, Counts.path, List.countP_cons, List.countP_cons]
    simp only [liveField, optimizedField]
    congr 1 <;> split <;> omega

/-- Paths are accepted when they are several and active. -/
theorem validatePaths_eq_none_iff (paths : List ListedPath) :
    validatePaths paths = none ↔ 2 ≤ paths.length ∧ Active paths := by
  have optimized : 0 < (paths.countP fun path => path.ANAState == some "optimized") ↔
      ∃ path ∈ paths, path.ANAState = some "optimized" := by
    simp [List.countP_pos_iff]
  unfold validatePaths Active
  rw [foldl_path, ← optimized]
  simp only [Nat.zero_add]
  split
  case isTrue few =>
    refine ⟨nofun, fun accepted => ?_⟩
    omega
  case isFalse several =>
    have multiple : 2 ≤ paths.length := by omega
    split
    case isTrue some_optimized => exact ⟨fun _ => ⟨multiple, Or.inl some_optimized⟩, fun _ => rfl⟩
    case isFalse none_optimized =>
      split
      case isTrue live => exact ⟨fun _ => ⟨multiple, Or.inr live⟩, fun _ => rfl⟩
      case isFalse fewLive =>
        exact ⟨nofun, fun accepted => absurd accepted.2 (not_or.mpr ⟨none_optimized, fewLive⟩)⟩

/-- The loop over the subsystems accepts when it accepts all path lists. -/
theorem validateSubsystems_eq_none_iff (subsystemNqn : String)
    (subsystems : List ListedSubsystem) :
    validateSubsystems subsystemNqn subsystems = none ↔
      ∀ paths ∈ subsystems.filterMap (ownPaths subsystemNqn), validatePaths paths = none := by
  induction subsystems with
  | nil => simp [validateSubsystems]
  | cons subsys rest inductionHypothesis =>
    rw [validateSubsystems, List.filterMap_cons, ownPaths]
    by_cases own : subsys.NQN = some subsystemNqn
    · rw [if_pos own, if_pos own]
      cases valid : validatePaths (subsys.Paths.getD []) with
      | none => simpa [valid] using inductionHypothesis
      | some failure => simp [valid]
    · rw [if_neg own, if_neg own]
      exact inductionHypothesis

/-- The loop over the hosts accepts when it accepts all path lists. -/
theorem validateHosts_eq_none_iff (subsystemNqn : String) (data : List ListedHost) :
    validateHosts subsystemNqn data = none ↔
      ∀ paths ∈ pathLists subsystemNqn data, validatePaths paths = none := by
  induction data with
  | nil => simp [validateHosts, pathLists]
  | cons host rest inductionHypothesis =>
    have ofHost := validateSubsystems_eq_none_iff subsystemNqn (host.Subsystems.getD [])
    rw [pathLists, List.flatMap_cons, List.filterMap_append, ← pathLists, List.forall_mem_append,
      validateHosts]
    cases valid : validateSubsystems subsystemNqn (host.Subsystems.getD []) with
    | none =>
      have accepted := ofHost.mp valid
      exact ⟨fun others => ⟨accepted, inductionHypothesis.mp others⟩,
        fun all => inductionHypothesis.mpr all.2⟩
    | some failure =>
      refine ⟨nofun, fun all => ?_⟩
      rw [ofHost.mpr all.1] at valid
      cases valid

/-- A listing is accepted when the paths of every entry for the subsystem are several and active.
Entries for other subsystems do not count, so a listing without an entry for this one is accepted
as well. -/
theorem validateMultipathPaths_eq_none_iff (subsystemNqn : String) (data : List ListedHost) :
    validateMultipathPaths true subsystemNqn (some data) = none ↔
      ∀ paths ∈ pathLists subsystemNqn data, 2 ≤ paths.length ∧ Active paths := by
  simp only [validateMultipathPaths, if_true, validateHosts_eq_none_iff, validatePaths_eq_none_iff]

/-- A listing without an entry for the subsystem does not meet the contract: there is no path. -/
theorem not_contract_of_unlisted {subsystemNqn : String} {data : List ListedHost}
    (unlisted : pathLists subsystemNqn data = []) :
    ¬ ∀ paths ∈ subsystemPaths subsystemNqn data, Contract paths := by
  intro contract
  have none_found : [] ∈ subsystemPaths subsystemNqn data := by
    rw [subsystemPaths, unlisted]
    exact List.mem_singleton_self []
  exact absurd (contract [] none_found).multiple (by decide)

/-- With an entry the contract is about the paths in the entries. -/
theorem subsystemPaths_of_listed {subsystemNqn : String} {data : List ListedHost}
    (listed : pathLists subsystemNqn data ≠ []) :
    subsystemPaths subsystemNqn data = pathLists subsystemNqn data := by
  unfold subsystemPaths
  split
  case h_1 unlisted => exact absurd unlisted listed
  case h_2 => rfl

/-- The validation passes exactly the listings that meet the contract, if and only if the subsystem
is listed, and no path is inaccessible or the validation fails anyway. Each list of paths may have
any length, and every field of a path may be missing. Several entries for the subsystem are checked
one by one. Listings that cannot be read are not covered: they are accepted with a warning.

Proof: the validation makes two of the three checks. Where it accepts, the third one decides. Where
it refuses, the contract fails as well. -/
theorem contract_iff (subsystemNqn : String) (data : List ListedHost) :
    (validateMultipathPaths true subsystemNqn (some data) = none ↔
        ∀ paths ∈ subsystemPaths subsystemNqn data, Contract paths) ↔
      pathLists subsystemNqn data ≠ [] ∧
        ((∀ paths ∈ pathLists subsystemNqn data, Accessible paths) ∨
          ∃ paths ∈ pathLists subsystemNqn data, paths.length < 2 ∨ ¬Active paths) := by
  rw [validateMultipathPaths_eq_none_iff]
  by_cases unlisted : pathLists subsystemNqn data = []
  · have passes : ∀ paths ∈ pathLists subsystemNqn data, 2 ≤ paths.length ∧ Active paths := by
      simp [unlisted]
    exact ⟨fun exact_ => absurd (exact_.mp passes) (not_contract_of_unlisted unlisted),
      fun condition => absurd unlisted condition.1⟩
  rw [subsystemPaths_of_listed unlisted]
  constructor
  · intro exact_
    refine ⟨unlisted, ?_⟩
    by_cases accepted : ∀ paths ∈ pathLists subsystemNqn data, 2 ≤ paths.length ∧ Active paths
    · exact Or.inl fun paths member => (exact_.mp accepted paths member).accessible
    · push Not at accepted
      obtain ⟨paths, member, fails⟩ := accepted
      refine Or.inr ⟨paths, member, ?_⟩
      by_cases few : paths.length < 2
      · exact Or.inl few
      · exact Or.inr (fails (by omega))
  · rintro ⟨-, accessible | ⟨paths, member, fails⟩⟩
    · exact ⟨fun accepted paths member =>
        ⟨(accepted paths member).1, (accepted paths member).2, accessible paths member⟩,
        fun contract paths member => ⟨(contract paths member).multiple,
          (contract paths member).active⟩⟩
    · have refused : ¬(2 ≤ paths.length ∧ Active paths) := by
        rintro ⟨multiple, active⟩
        rcases fails with few | inactive
        · omega
        · exact inactive active
      exact ⟨fun accepted => absurd (accepted paths member) refused,
        fun contract => absurd ⟨(contract paths member).multiple, (contract paths member).active⟩
          refused⟩

/-- An optimized path and one that is inaccessible. -/
def oneInaccessible : List ListedHost :=
  [⟨some [⟨some "nqn", some [⟨some "nvme0", some "live", some "optimized"⟩,
    ⟨some "nvme1", some "live", some "inaccessible"⟩]⟩]⟩]

/-- A subsystem with an inaccessible path is accepted. -/
theorem inaccessible_accepted :
    validateMultipathPaths true "nqn" (some oneInaccessible) = none ∧
      ¬ ∀ subsystemNqn data, validateMultipathPaths true subsystemNqn (some data) = none ↔
        ∀ paths ∈ subsystemPaths subsystemNqn data, Contract paths := by
  have accepted : validateMultipathPaths true "nqn" (some oneInaccessible) = none := by
    decide +kernel
  refine ⟨accepted, fun all => ?_⟩
  have contract := (all "nqn" oneInaccessible).mp accepted _ List.mem_cons_self
  exact contract.accessible ⟨some "nvme1", some "live", some "inaccessible"⟩ (by simp) rfl

end AvocadoMisc.NvmeTcp.Multipath
