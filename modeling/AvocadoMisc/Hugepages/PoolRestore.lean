import Mathlib.Logic.Function.Basic

/-!
# What the huge page test leaves in the pool

`check_alloc_free_huge_page` of `hugepage_sanity.c` reads how many huge pages there are, asks for
more, maps them, and asks for the old number again. Both requests go through `setup_hugetlb_pool`,
which ends the process when a request was not met in full. The first call does so before anything
could set the old number again.

The numbers are 64 bits wide, and the sum of the old number and the requested one wraps around.
The kernel is free in how far it lets a pool grow, but it always lets it shrink.
-/

namespace AvocadoMisc.Hugepages.PoolRestore

/-- An `unsigned long`. -/
abbrev Word := BitVec 64

/-- The contents of the `nr_hugepages` files, by the page size in kB. -/
abbrev Pools := Word → Word

/-- What one call of `setup_hugetlb_pool` meets. The kernel grants a pool size from the current
one and the requested one. -/
structure Resizing where
  opensForWriting : Bool
  opensForReading : Bool
  grant : Word → Word → Word
  shrinks : ∀ current request, request ≤ current → grant current request = request
  grows : ∀ current request, current < request →
    current ≤ grant current request ∧ grant current request ≤ request

/-- The page size in the flags of `mmap`. -/
inductive PageFlag where
  | huge1GB
  | huge2MB
  | huge16MB
  deriving DecidableEq

/-- What one call of `check_alloc_free_huge_page` meets: whether the size is supported and its file
opens, the two requests, and the mappings between them. -/
structure Answers where
  supported : Bool
  opensExisting : Bool
  enlarging : Resizing
  mmap : Word → PageFlag → Bool
  munmap : Word → Bool
  restoring : Resizing

/-- Whether a function returns or ends the process. -/
inductive Outcome (α : Type) where
  | returns (value : α)
  | exits
  deriving DecidableEq

/-- `setup_hugetlb_pool`. -/
def setupHugetlbPool (resizing : Resizing) (size count : Word) (pools : Pools) :
    Pools × Outcome Unit :=
  if !resizing.opensForWriting then (pools, .exits)
  else
    let resized := Function.update pools size (resizing.grant (pools size) count)
    if !resizing.opensForReading then (resized, .exits)
    else if resized size ≠ count then (resized, .exits)
    else (resized, .returns ())

/-- `alloc_hugepage`. The length of the mapping wraps around, too. -/
def allocHugepage (answers : Answers) (size noPage : Word) : Int :=
  let total := size * noPage
  let tmpSize := 1048576 * total
  let flags : PageFlag :=
    if size = 1024 then .huge1GB else if size = 2 then .huge2MB else .huge16MB
  if !answers.mmap tmpSize flags then -1
  else if !answers.munmap tmpSize then -1
  else 0

/-- `check_alloc_free_huge_page`: the pool is enlarged, pages are allocated and freed, and the pool
is set to its old size. A call that exits does so with the pools as they are then. -/
def checkAllocFreeHugePage (answers : Answers) (size pages : Word) (pools : Pools) :
    Pools × Outcome Int :=
  if !answers.supported then (pools, .exits)
  else if !answers.opensExisting then (pools, .exits)
  else
    let exist := pools (size * 1024)
    match setupHugetlbPool answers.enlarging (size * 1024) (pages + exist) pools with
    | (enlarged, .exits) => (enlarged, .exits)
    | (enlarged, .returns ()) =>
      let flag := allocHugepage answers size pages
      match setupHugetlbPool answers.restoring (size * 1024) exist enlarged with
      | (restored, .exits) => (restored, .exits)
      | (restored, .returns ()) => (restored, .returns flag)

/-! ### One request -/

/-- The pool is set to what is granted, whatever comes after. -/
theorem setupHugetlbPool_pools (resizing : Resizing) (size count : Word) (pools : Pools) :
    (setupHugetlbPool resizing size count pools).1 =
      if resizing.opensForWriting then
        Function.update pools size (resizing.grant (pools size) count)
      else pools := by
  unfold setupHugetlbPool
  cases resizing.opensForWriting with
  | false => rfl
  | true =>
    cases resizing.opensForReading with
    | false => rfl
    | true =>
      dsimp
      split <;> rfl

/-- A request returns when it could be made, read back, and was met. -/
theorem setupHugetlbPool_returns_iff (resizing : Resizing) (size count : Word) (pools : Pools) :
    (setupHugetlbPool resizing size count pools).2 = .returns () ↔
      resizing.opensForWriting = true ∧ resizing.opensForReading = true ∧
        resizing.grant (pools size) count = count := by
  unfold setupHugetlbPool
  cases resizing.opensForWriting <;> cases resizing.opensForReading <;> simp
  split <;> simp [*]

/-! ### The whole check -/

/-- What the process leaves: the pools of the first request if that one exits, and of the second
one otherwise. -/
theorem checkAllocFreeHugePage_pools (answers : Answers) (size pages : Word) (pools : Pools) :
    (checkAllocFreeHugePage answers size pages pools).1 =
      if answers.supported && answers.opensExisting then
        let exist := pools (size * 1024)
        let enlarging := setupHugetlbPool answers.enlarging (size * 1024) (pages + exist) pools
        if enlarging.2 = .returns () then
          (setupHugetlbPool answers.restoring (size * 1024) exist enlarging.1).1
        else enlarging.1
      else pools := by
  unfold checkAllocFreeHugePage
  cases answers.supported <;> cases answers.opensExisting <;> try rfl
  dsimp
  split
  case h_1 enlarged exits => simp [exits]
  case h_2 enlarged returns =>
    simp only [returns, ↓reduceIte]
    split
    case h_1 restored exits => rw [exits]
    case h_2 restored returns => rw [returns]

/-- When the process ends, by returning or by exiting, the pools are as they were exactly in these
cases: it ends before the first request, or this request is granted no change, or it is met, it
can be read back, and the second request can be made and is granted the old size.

Unless the sum wraps around, the old size is not above the enlarged one, and then the last of
these is what the kernel always grants. -/
theorem checkAllocFreeHugePage_restores_iff (answers : Answers) (size pages : Word)
    (pools : Pools) :
    (checkAllocFreeHugePage answers size pages pools).1 = pools ↔
      answers.supported = false ∨ answers.opensExisting = false ∨
      answers.enlarging.opensForWriting = false ∨
      answers.enlarging.grant (pools (size * 1024)) (pages + pools (size * 1024)) =
        pools (size * 1024) ∨
      (answers.enlarging.grant (pools (size * 1024)) (pages + pools (size * 1024)) =
          pages + pools (size * 1024) ∧
        answers.enlarging.opensForReading = true ∧ answers.restoring.opensForWriting = true ∧
        (pools (size * 1024) ≤ pages + pools (size * 1024) ∨
          answers.restoring.grant (pages + pools (size * 1024)) (pools (size * 1024)) =
            pools (size * 1024))) := by
  rw [checkAllocFreeHugePage_pools]
  generalize size * 1024 = page
  cases supported : answers.supported
  · simp
  cases opensExisting : answers.opensExisting
  · simp
  simp only [Bool.and_self, ↓reduceIte, setupHugetlbPool_returns_iff, setupHugetlbPool_pools]
  generalize pages + pools page = request
  cases writes : answers.enlarging.opensForWriting
  · simp
  simp only [↓reduceIte, Bool.true_eq_false, false_or, true_and]
  by_cases unchanged : answers.enlarging.grant (pools page) request = pools page
  · -- a second request is made only for the size that the pool has
    have again : answers.restoring.grant (pools page) (pools page) = pools page :=
      answers.restoring.shrinks _ _ (BitVec.le_refl _)
    simp only [unchanged, Function.update_eq_self, again, ite_self, true_or]
  have enlarged : Function.update pools page (answers.enlarging.grant (pools page) request) ≠
      pools := fun same => unchanged (Function.update_eq_self_iff.mp same)
  by_cases met : answers.enlarging.grant (pools page) request = request
  · rw [met] at unchanged enlarged
    have back : request = pools page ∨ (pools page ≤ request ∨
        answers.restoring.grant request (pools page) = pools page) ↔
          answers.restoring.grant request (pools page) = pools page := by
      constructor
      · rintro (same | below | granted)
        · exact absurd same unchanged
        · exact answers.restoring.shrinks _ _ below
        · exact granted
      · exact fun granted => .inr (.inr granted)
    simp only [unchanged, false_or] at back
    simp only [met, unchanged, and_true, false_or, true_and, Function.update_self,
      Function.update_idem, back]
    cases reads : answers.enlarging.opensForReading
    · simp [enlarged]
    cases rewrites : answers.restoring.opensForWriting
    · simp [enlarged]
    · simp
  · simp only [met, unchanged, and_false, false_and, ↓reduceIte, or_self, iff_false]
    exact enlarged

/-- A kernel that lets a pool grow up to a limit. All files can be opened. -/
def limited (limit : Word) : Resizing where
  opensForWriting := true
  opensForReading := true
  grant current request :=
    if request ≤ current then request
    else if request ≤ limit then request
    else if current ≤ limit then limit else current
  shrinks _ _ below := if_pos below
  grows current request above := by
    rw [if_neg (BitVec.not_le.mpr above)]
    split
    · exact ⟨BitVec.le_of_lt above, BitVec.le_refl _⟩
    · split <;> simp_all <;> bv_omega

/-- Four pages of 2 MB are asked for where only two can be had. The process exits, and the two
pages stay in the pool. -/
theorem checkAllocFreeHugePage_keeps_two :
    (checkAllocFreeHugePage
      ⟨true, true, limited 2, fun _ _ => true, fun _ => true, limited 2⟩ 2 4 fun _ => 0).1 ≠
      fun _ => 0 := by
  intro same
  exact absurd (congrFun same 2048) (by decide)

end AvocadoMisc.Hugepages.PoolRestore
