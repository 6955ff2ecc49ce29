import Mathlib.Logic.Function.Basic
import Mathlib.Tactic.Tauto

/-!
# The wrapper around the disk test

`disktest.py` plans the chunks that `disktest` works on from the size of the device, and deletes
the test files in `tearDown`.

The plan is made in whole gigabytes, and below one gigabyte both the chunk size and the amount
that is divided by it are zero. `tearDown` iterates over `self.dir`, which is a text, so it looks
for test files in the directories that the single characters of the text denote: most of them in
the working directory, the root directory for a slash, and every subdirectory for an asterisk.

The file system is a tree of directories without symbolic links. Deleting a listed file succeeds.
Unmounting and wiping a file system, which may follow in `tearDown`, is not part of the model.
-/

namespace AvocadoMisc.Disktest.Wrapper

/-! ### The plan -/

/-- How `_init_params` ends. -/
inductive Plan where
  | zeroDivision
  | cancel
  | chunks (chunkMb noChunks : Nat)
  deriving DecidableEq

/-- `_init_params`, from the total space of the device in bytes. -/
def initParams (totalSpace : Nat) : Plan :=
  let gigabytes := totalSpace / 1073741824
  let chunkMb := gigabytes * 950
  if chunkMb = 0 then .zeroDivision
  else
    let noChunks := 1024 * gigabytes / chunkMb
    if noChunks = 0 then .cancel else .chunks chunkMb noChunks

/-- The test is cancelled, or there are chunks and all of them together fit on the device. -/
def Fits (totalSpace : Nat) : Plan → Prop
  | .zeroDivision => False
  | .cancel => True
  | .chunks chunkMb noChunks =>
    1 ≤ chunkMb ∧ 1 ≤ noChunks ∧ noChunks * chunkMb * 1048576 ≤ totalSpace

/-- From one gigabyte on there is one chunk. -/
theorem initParams_eq {totalSpace : Nat} (large : 1073741824 ≤ totalSpace) :
    initParams totalSpace = .chunks (totalSpace / 1073741824 * 950) 1 := by
  have positive : 0 < totalSpace / 1073741824 := Nat.div_pos large (by omega)
  have one : 1024 * (totalSpace / 1073741824) / (totalSpace / 1073741824 * 950) = 1 := by
    rw [Nat.div_eq_iff (by omega)]
    omega
  have some_mb : totalSpace / 1073741824 * 950 ≠ 0 := by omega
  simp only [initParams, if_neg some_mb, one]
  rfl

/-- The plan fits the devices from one gigabyte on, and on every smaller one it divides by
zero. -/
theorem initParams_fits_iff (totalSpace : Nat) :
    Fits totalSpace (initParams totalSpace) ↔ 1073741824 ≤ totalSpace := by
  by_cases large : 1073741824 ≤ totalSpace
  · rw [initParams_eq large]
    have quotient := Nat.div_mul_le_self totalSpace 1073741824
    have positive : 0 < totalSpace / 1073741824 := Nat.div_pos large (by omega)
    simp only [Fits, large, iff_true]
    omega
  · have none : totalSpace / 1073741824 = 0 := Nat.div_eq_of_lt (Nat.not_le.mp large)
    simp [initParams, none, Fits, large]

/-! ### Directories -/

/-- A name of a file or a directory. -/
abbrev Name := List Char

/-- A directory, as the names that lead to it from the root directory. -/
abbrev Path := List Name

/-- The names of the files directly under each directory. -/
abbrev Files := Path → List Name

/-- The directories, by the names below each path, and the working directory that relative names
begin in. -/
structure Directories where
  subdirectories : Path → List Name
  working : Path

/-- Follow the components of a path. -/
def Directories.follow (tree : Directories) : List Name → Path → Option Path
  | [], place => some place
  | component :: rest, place =>
    if component = [] ∨ component = ['.'] then tree.follow rest place
    else if component = ['.', '.'] then tree.follow rest place.dropLast
    else if (tree.subdirectories place).contains component then
      tree.follow rest (place ++ [component])
    else none

/-- The directory that a text denotes. -/
def Directories.resolve (tree : Directories) (text : List Char) : Option Path :=
  tree.follow (text.splitOn '/') (if text.head? = some '/' then [] else tree.working)

/-! ### Deleting the test files -/

/-- What the name of a test file begins with. -/
def testfile : Name := ['t', 'e', 's', 't', 'f', 'i', 'l', 'e', '.']

/-- Whether a name matches "testfile.*". -/
def isTestfile (name : Name) : Bool := testfile.isPrefixOf name

/-- The name that `one_disk_chunk` gives a chunk's file. -/
def chunkFile (chunk : Nat) : Name := testfile ++ Nat.toDigits 10 chunk

/-- Whether `glob` leaves a name out when the pattern does not begin with a dot. -/
def hidden (name : Name) : Bool := name.head? = some '.'

/-- The directory part of the pattern "c/testfile.*", expanded by `glob`. The wildcards list the
working directory, where a single bracket only matches itself. Of the two slashes that a slash
makes of it both are kept. -/
def dirnames (tree : Directories) (c : Char) : List (List Char) :=
  if c = '*' then (tree.subdirectories tree.working).filter fun name => !hidden name
  else if c = '?' then
    (tree.subdirectories tree.working).filter fun name => !hidden name && name.length = 1
  else if c = '[' then (tree.subdirectories tree.working).filter fun name => name = ['[']
  else if c = '/' then [['/', '/']]
  else [[c]]

/-- The directories that one character stands for. -/
def places (tree : Directories) (c : Char) : List Path :=
  (dirnames tree c).filterMap tree.resolve

/-- Delete the test files of one directory. -/
def removeTestfiles (files : Files) (place : Path) : Files :=
  Function.update files place ((files place).filter fun name => !isTestfile name)

/-- The loop of `tearDown`, over the characters of `self.dir`. -/
def removeLoop (tree : Directories) : List Char → Files → Files
  | [], files => files
  | c :: rest, files => removeLoop tree rest ((places tree c).foldl removeTestfiles files)

/-- The deletions of `tearDown`. There may be no `self.dir` yet. -/
def tearDown (tree : Directories) (dir : Option (List Char)) (files : Files) : Files :=
  removeLoop tree (dir.getD []) files

/-- The test files directly under the directory are deleted, and no other file anywhere in the tree.
-/
def RemovesExactly (tree : Directories) (dir : List Char) (before after : Files) : Prop :=
  ∀ place name, name ∈ after place ↔
    name ∈ before place ∧ ¬ (isTestfile name = true ∧ tree.resolve dir = some place)

/-! ### What is deleted -/

/-- The file of a chunk is a test file. -/
theorem chunkFile_isTestfile (chunk : Nat) : isTestfile (chunkFile chunk) = true := by
  simp [isTestfile, chunkFile, List.isPrefixOf_iff_prefix]

/-- The directories of a list lose their test files. -/
theorem mem_foldl_remove (listed : List Path) (files : Files) (place : Path) (name : Name) :
    name ∈ listed.foldl removeTestfiles files place ↔
      name ∈ files place ∧ ¬ (isTestfile name = true ∧ place ∈ listed) := by
  induction listed generalizing files with
  | nil => simp
  | cons other rest inductionHypothesis =>
    rw [List.foldl_cons, inductionHypothesis, removeTestfiles]
    by_cases same : place = other
    · subst same
      cases matched : isTestfile name <;> simp [matched]
    · simp [same]

/-- The directories that some character of a text stands for lose their test files.

Proof: by induction on the characters. -/
theorem mem_removeLoop (tree : Directories) (text : List Char) (files : Files) (place : Path)
    (name : Name) : name ∈ removeLoop tree text files place ↔
      name ∈ files place ∧ ¬ (isTestfile name = true ∧ ∃ c ∈ text, place ∈ places tree c) := by
  induction text generalizing files with
  | nil => simp [removeLoop]
  | cons c rest inductionHypothesis =>
    rw [removeLoop, inductionHypothesis, mem_foldl_remove]
    simp only [List.mem_cons, exists_eq_or_imp]
    rw [and_assoc, ← not_or, ← and_or_left]

/-- The deletions are the right ones exactly when, among the directories that have test files,
`self.dir` is the one that its single characters stand for. -/
theorem tearDown_removesExactly_iff (tree : Directories) (dir : List Char) (files : Files) :
    RemovesExactly tree dir files (tearDown tree (some dir) files) ↔
      ∀ place, (∃ name ∈ files place, isTestfile name = true) →
        (tree.resolve dir = some place ↔ ∃ c ∈ dir, place ∈ places tree c) := by
  have removed := mem_removeLoop tree dir files
  constructor
  · rintro exactly place ⟨name, member, matched⟩
    have either := (removed place name).symm.trans (exactly place name)
    simp only [member, matched, true_and] at either
    exact (not_iff_not.mp either).symm
  · intro same place name
    refine (removed place name).trans ?_
    by_cases listed : name ∈ files place ∧ isTestfile name = true
    · rw [same place ⟨name, listed⟩]
    · tauto

/-- The plan fits exactly the devices from one gigabyte on. Exactly the test files of `self.dir`
are deleted if and only if, among the directories with test files, `self.dir` is what its single
characters stand for.

The sizes and the tree are free, but a listed file that is deleted is gone, and the tree has no
links. -/
theorem wrapper_iff (totalSpace : Nat) (tree : Directories) (dir : List Char) (files : Files) :
    (Fits totalSpace (initParams totalSpace) ↔ 1073741824 ≤ totalSpace) ∧
    (RemovesExactly tree dir files (tearDown tree (some dir) files) ↔
      ∀ place, (∃ name ∈ files place, isTestfile name = true) →
        (tree.resolve dir = some place ↔ ∃ c ∈ dir, place ∈ places tree c)) :=
  ⟨initParams_fits_iff totalSpace, tearDown_removesExactly_iff tree dir files⟩

/-- A root directory with a directory "mnt", which is where the chunks are. Another test file is
in the root directory. -/
def mounted : Directories where
  subdirectories place := if place = [] then [['m', 'n', 't'], ['t', 'm', 'p']] else []
  working := [['t', 'm', 'p']]

/-- The files there. -/
def mountedFiles : Files := fun place =>
  if place = [['m', 'n', 't']] then [chunkFile 0] else if place = [] then [chunkFile 7] else []

/-- A device of one gigabyte in the decimal sense makes the plan divide by zero. With "/mnt" for
`self.dir`, the file of the chunk stays and one in the root directory is deleted. -/
theorem wrapper_fails :
    ¬ Fits 1000000000 (initParams 1000000000) ∧
    ¬ RemovesExactly mounted ['/', 'm', 'n', 't'] mountedFiles
      (tearDown mounted (some ['/', 'm', 'n', 't']) mountedFiles) := by
  constructor
  · rw [initParams_fits_iff]
    decide
  · intro exactly
    have stays := exactly [['m', 'n', 't']] (chunkFile 0)
    exact absurd (stays.mp (by decide)) (by decide)

end AvocadoMisc.Disktest.Wrapper
