import Mathlib.Algebra.Group.Nat.Defs
import Mathlib.Data.List.Chain
import AvocadoMisc.Library.AddressSpaces

/-!
# The programs of the memory API test

`memory_api.c` allocates memory and frees it, maps memory, takes away and gives back the right to
write to one half of it, marks each page with its number, lets the memory grow by one half, and
looks for the numbers. `mremap.c` lets memory grow four times to the double size. Sizes are 64 bits
wide, and the programs round them to 4 KiB, whatever the size of a page is.

On a kernel that puts pages where nothing is mapped and below half of the addresses, the programs
can only fail where no place is found, and when they succeed they leave no mapping behind that they
made with `mmap` or `mremap`. What `malloc` keeps of the freed memory stays mapped. With the second
argument `memory_api.c` writes while it may not, and then it always ends with a fault.

`mlockall` locks the pages that are mapped after it, and its answer is not looked at. A kernel that
refuses to lock more pages finds no place for them.
-/

namespace AvocadoMisc.MemoryApi.Remapping

open Library.AddressSpaces

/-- How a program ends without success: with `EXIT_FAILURE`, or by the handler of `SIGSEGV` with
255. -/
inductive Ending where
  | invalidMemsize
  | failed (call : String)
  | wrongValue
  | segv
  deriving DecidableEq

/-- `ROUND_PAGES`. -/
def roundPages (memsize : Nat) : Nat := (memsize >>> 12) <<< 12

/-- The sum or product of two sizes. -/
def wrap (size : Nat) : Nat := size % 2 ^ 64

/-- A call that may fail. -/
def call {α : Type} (name : String) : Option α → Except Ending α
  | some value => .ok value
  | none => .error (.failed name)

/-- An access that may fault. -/
def touch {α : Type} : Option α → Except Ending α
  | some value => .ok value
  | none => .error .segv

/-- The pages that the kernel takes for a length in bytes. -/
def pagesOf (pagesize length : Nat) : Nat := (length + (pagesize - 1)) / pagesize

variable (kernel : Nat → Placement Nat) (pagesize : Nat)

/-- Mark the pages. -/
def mark (mem numpages : Nat) (space : Space Nat) : Except Ending (Space Nat) :=
  (List.range numpages).foldlM (fun space i => touch (store space (mem + i) 0 i)) space

/-- Look for the marks. -/
def check (mem numpages : Nat) (space : Space Nat) : Except Ending Unit :=
  (List.range numpages).foldlM (fun _ i => do
    let value ← touch (load space (mem + i) 0)
    if value = i then pure () else throw .wrongValue) ()

/-- Map and unmap again. -/
def mapOnce (placement : Placement Nat) (name : String) (memsize : Nat) (space : Space Nat) :
    Except Ending (Space Nat) := do
  let mapping ← call name (mmap placement 0 .readWrite (pagesOf pagesize memsize) space)
  call "munmap" (munmap mapping.1 (pagesOf pagesize memsize) mapping.2)

/-- A turn of the loop of `mremap.c`. -/
def grow (memsize : Nat) (mapping : Nat × Space Nat) (i : Nat) :
    Except Ending (Nat × Space Nat) :=
  call "mremap" (mremap (kernel i) 0 mapping.1 (pagesOf pagesize (wrap (memsize * (i >>> 1))))
    (pagesOf pagesize (wrap (memsize * i))) mapping.2)

/-- `mremap.c`, from the size on. -/
def mremapTest (size : Nat) (space : Space Nat) : Except Ending (Space Nat) := do
  let memsize := roundPages size
  if memsize = 0 then throw .invalidMemsize
  else
    let mapping ← call "mmap" (mmap (kernel 0) 0 .readWrite (pagesOf pagesize memsize) space)
    let grown ← [2, 4, 8, 16].foldlM (grow kernel pagesize memsize) mapping
    let unmapped ← call "munmap"
      (munmap grown.1 (pagesOf pagesize (wrap (memsize * 16))) grown.2)
    mapOnce pagesize (kernel 1) "mmap" memsize unmapped

/-! ### Sizes -/

section Sizes

variable {pagesize}

/-- A size below 4 KiB is rounded to nothing. -/
theorem roundPages_eq_zero_iff (size : Nat) : roundPages size = 0 ↔ size < 4096 := by
  rw [roundPages, Nat.shiftLeft_eq, Nat.shiftRight_eq_div_pow]
  omega

/-- The pages have room for the length. -/
theorem le_pagesOf_mul (positive : 0 < pagesize) (length : Nat) :
    length ≤ pagesOf pagesize length * pagesize := by
  have split := Nat.div_add_mod (length + (pagesize - 1)) pagesize
  have rest := Nat.mod_lt (length + (pagesize - 1)) positive
  rw [Nat.mul_comm] at split
  unfold pagesOf
  omega

/-- A length that is not zero takes a page. -/
theorem pagesOf_ne_zero_iff (positive : 0 < pagesize) (length : Nat) :
    pagesOf pagesize length ≠ 0 ↔ length ≠ 0 := by
  constructor
  · rintro some_ rfl
    refine some_ (Nat.div_eq_of_lt ?_)
    omega
  · intro something none
    have room := le_pagesOf_mul positive length
    rw [none, Nat.zero_mul] at room
    omega

end Sizes

/-! ### The loops -/

section Loops

variable {space : Space Nat} {start count : Nat} {pages : Nat → Page Nat}

end Loops

/-! ### The programs -/

section Programs

variable {kernel : Nat → Placement Nat} {pagesize limit : Nat}

/-- A call that answers goes on with the answer. -/
@[simp]
theorem call_some_bind {α β : Type} (name : String) (value : α) (next : α → Except Ending β) :
    (call name (some value) >>= next) = next value :=
  rfl

/-- A call that fails ends the program. -/
@[simp]
theorem call_none_bind {α β : Type} (name : String) (next : α → Except Ending β) :
    (call name none >>= next) = .error (.failed name) :=
  rfl

/-- What has a result goes on with it. -/
@[simp]
theorem ok_bind {α β : Type} (value : α) (next : α → Except Ending β) :
    ((.ok value : Except Ending α) >>= next) = next value :=
  rfl

/-- A kernel that puts pages where nothing is mapped, below half of the addresses. -/
structure Lawful (kernel : Nat → Placement Nat) (pagesize limit : Nat) : Prop where
  positive : 0 < pagesize
  placements : ∀ i, (kernel i).Lawful limit
  below : limit * pagesize ≤ 2 ^ 63

/-- A length whose pages have a place is below half of the addresses. -/
theorem Lawful.length_le (lawful : Lawful kernel pagesize limit) {start length : Nat}
    (placed : start + pagesOf pagesize length ≤ limit) : length ≤ 2 ^ 63 := by
  have room := le_pagesOf_mul lawful.positive length
  have few : pagesOf pagesize length * pagesize ≤ limit * pagesize :=
    Nat.mul_le_mul_right pagesize (by omega)
  exact Nat.le_trans room (Nat.le_trans few lawful.below)

/-- What is mapped once is unmapped, if there is a place. -/
theorem mapOnce_ends (lawful : Lawful kernel pagesize limit) (i : Nat) (name : String)
    {memsize : Nat} (something : memsize ≠ 0) (space : Space Nat) :
    mapOnce pagesize (kernel i) name memsize space = .ok space ∨
      mapOnce pagesize (kernel i) name memsize space = .error (.failed name) ∧
        (kernel i).fresh space (pagesOf pagesize memsize) = none := by
  have pages := (pagesOf_ne_zero_iff lawful.positive memsize).mpr something
  rw [mapOnce, mmap_eq _ _ _ pages]
  cases placed : (kernel i).fresh space (pagesOf pagesize memsize) with
  | none => exact Or.inr ⟨rfl, rfl⟩
  | some start =>
    have free := ((lawful.placements i).fresh _ _ _ placed).1
    rw [Option.map_some, call_some_bind, munmap_overlay free pages]
    exact Or.inl rfl

/-- A kernel that knows one place for new pages, and leaves growing pages where they are. -/
def onePlace (place limit : Nat) : Placement Nat where
  fresh space count :=
    if ((List.range count).all fun i => (space (place + i)).isNone) = true ∧
        place + count ≤ limit then some place
    else none
  moved space start old new :=
    if ((List.range (new - old)).all fun i => (space (start + old + i)).isNone) = true ∧
        start + new ≤ limit then some start
    else none

/-- It is lawful. -/
theorem lawful_onePlace {place limit pagesize : Nat} (positive : 0 < pagesize)
    (below : limit * pagesize ≤ 2 ^ 63) :
    Lawful (fun _ => onePlace place limit) pagesize limit := by
  have free (space : Space Nat) (start count : Nat)
      (checked : ((List.range count).all fun i => (space (start + i)).isNone) = true) :
      Free space start count := by
    intro page atLeast before
    obtain ⟨i, rfl⟩ := Nat.exists_eq_add_of_le atLeast
    exact Option.isNone_iff_eq_none.mp
      (List.all_eq_true.mp checked i (List.mem_range.mpr (by omega)))
  refine ⟨positive, fun _ => ⟨fun space count start placed => ?_,
    fun space start old new found placed => ?_⟩, below⟩
  · obtain ⟨⟨checked, bounded⟩, same⟩ := Option.ite_none_right_eq_some.mp placed
    rw [← Option.some_inj.mp same]
    exact ⟨free space place count checked, bounded⟩
  · obtain ⟨⟨checked, bounded⟩, same⟩ := Option.ite_none_right_eq_some.mp placed
    rw [← Option.some_inj.mp same]
    exact ⟨Or.inl ⟨rfl, free space (start + old) (new - old) checked⟩, bounded⟩

/-- What the loop of `mremap.c` has after a turn: so many times the size. -/
structure Grown (space : Space Nat) (pagesize memsize times : Nat) (mapping : Nat × Space Nat) :
    Prop where
  free : Free space mapping.1 (pagesOf pagesize (memsize * times))
  small : memsize * times ≤ 2 ^ 63
  laid : mapping.2 = overlay space mapping.1 (pagesOf pagesize (memsize * times)) fun _ =>
    blank 0 .readWrite

/-- There is no place for the pages of a turn, or their size does not fit into 64 bits. -/
def NoPlace (kernel : Nat → Placement Nat) (pagesize memsize i : Nat) (space : Space Nat) : Prop :=
  memsize * i = 2 ^ 64 ∨ ∃ mapping, Grown space pagesize memsize (i >>> 1) mapping ∧
    (kernel i).moved mapping.2 mapping.1 (pagesOf pagesize (memsize * (i >>> 1)))
      (pagesOf pagesize (memsize * i)) = none

/-- A turn doubles what is mapped, if there is a place for it, and otherwise ends with the message
about `mremap`. There is no place for a size that wraps around to zero. -/
theorem grow_ends (lawful : Lawful kernel pagesize limit) {space : Space Nat}
    {memsize times : Nat} {mapping : Nat × Space Nat} (something : memsize * times ≠ 0)
    (grown : Grown space pagesize memsize times mapping) (i : Nat) (twice : i = times * 2) :
    (∃ after, grow kernel pagesize memsize mapping i = .ok after ∧
        Grown space pagesize memsize i after) ∨
      grow kernel pagesize memsize mapping i = .error (.failed "mremap") ∧
        NoPlace kernel pagesize memsize i space := by
  have half : i >>> 1 = times := by
    rw [twice, Nat.shiftRight_eq_div_pow]
    omega
  have double : memsize * i = memsize * times * 2 := by rw [twice, Nat.mul_assoc]
  have small := grown.small
  have before : wrap (memsize * times) = memsize * times := Nat.mod_eq_of_lt (by omega)
  have pages := (pagesOf_ne_zero_iff lawful.positive _).mpr something
  rw [grow, half, before, grown.laid]
  by_cases full : memsize * i = 2 ^ 64
  · have zero : pagesOf pagesize (wrap (memsize * i)) = 0 := by
      rw [full, wrap, Nat.mod_self]
      exact Nat.div_eq_of_lt (by have := lawful.positive; omega)
    rw [zero, mremap_zero]
    exact Or.inr ⟨rfl, Or.inl full⟩
  · have after : wrap (memsize * i) = memsize * i := Nat.mod_eq_of_lt (by omega)
    have larger : pagesOf pagesize (memsize * i) ≠ 0 :=
      (pagesOf_ne_zero_iff lawful.positive _).mpr (by omega)
    rw [after, mremap_overlay grown.free pages larger fun _ _ => rfl]
    cases moved : (kernel i).moved _ mapping.1 (pagesOf pagesize (memsize * times))
        (pagesOf pagesize (memsize * i)) with
    | none =>
      refine Or.inr ⟨rfl, Or.inr ⟨mapping, half.symm ▸ grown, ?_⟩⟩
      rw [half, grown.laid]
      exact moved
    | some place =>
      obtain ⟨free, bounded⟩ := free_of_moved (lawful.placements i) grown.free moved
      have same : overlay space place (pagesOf pagesize (memsize * i)) (fun j =>
          if j < pagesOf pagesize (memsize * times) then blank 0 .readWrite
          else blank 0 .readWrite) = overlay space place (pagesOf pagesize (memsize * i)) fun _ =>
            blank 0 .readWrite := overlay_congr fun j _ => ite_self _
      exact Or.inl ⟨_, rfl, free, lawful.length_le bounded, same⟩

/-- How `mremap.c` ends: refused for its size, without the first mapping, without a place for a
larger one, or passed, with the mappings gone again. -/
inductive RemapEnds (kernel : Nat → Placement Nat) (pagesize size : Nat) (space : Space Nat) :
    Except Ending (Space Nat) → Prop where
  | small (below : size < 4096) : RemapEnds kernel pagesize size space (.error .invalidMemsize)
  | unmapped (i : Nat)
      (refused : (kernel i).fresh space (pagesOf pagesize (roundPages size)) = none) :
    RemapEnds kernel pagesize size space (.error (.failed "mmap"))
  | unmoved (i : Nat) (turn : i ∈ [2, 4, 8, 16])
      (refused : NoPlace kernel pagesize (roundPages size) i space) :
    RemapEnds kernel pagesize size space (.error (.failed "mremap"))
  | passed : RemapEnds kernel pagesize size space (.ok space)

/-- The loop of `mremap.c` has sixteen times the size in the end, if there is a place in each
turn. -/
theorem foldlM_grow (lawful : Lawful kernel pagesize limit) {space : Space Nat} {memsize : Nat}
    (something : memsize ≠ 0) (turns : List Nat) {times : Nat} (begun : times ≠ 0)
    {mapping : Nat × Space Nat} (grown : Grown space pagesize memsize times mapping)
    (doubling : List.IsChain (fun before i => i = before * 2) (times :: turns)) :
    (∃ after, turns.foldlM (grow kernel pagesize memsize) mapping = .ok after ∧
        Grown space pagesize memsize ((times :: turns).getLast (List.cons_ne_nil _ _)) after) ∨
      turns.foldlM (grow kernel pagesize memsize) mapping = .error (.failed "mremap") ∧
        ∃ i ∈ turns, NoPlace kernel pagesize memsize i space := by
  induction turns generalizing times mapping with
  | nil => exact Or.inl ⟨mapping, rfl, grown⟩
  | cons i rest inductionHypothesis =>
    obtain ⟨twice, further⟩ := List.isChain_cons_cons.mp doubling
    have some_ : memsize * times ≠ 0 := Nat.mul_ne_zero something begun
    rw [List.foldlM_cons]
    rcases grow_ends lawful some_ grown i twice with ⟨after, done, next⟩ | ⟨failed, refused⟩
    · rw [done, ok_bind]
      have nonzero : i ≠ 0 := by omega
      rcases inductionHypothesis nonzero next further with ended | ⟨stopped, j, inRest, refused⟩
      · exact Or.inl ended
      · exact Or.inr ⟨stopped, j, List.mem_cons_of_mem i inRest, refused⟩
    · rw [failed]
      exact Or.inr ⟨rfl, i, List.mem_cons_self, refused⟩

/-- `mremap.c` fails only where there is no place for pages or no number for their size, and
otherwise it leaves no mapping behind.

Proof: each turn of the loop doubles what is mapped, or there is no place for it. A size that does
not fit into 64 bits is exactly 2^64, since what was mapped before ends below half of the
addresses. -/
theorem mremapTest_ends (lawful : Lawful kernel pagesize limit) (size : Nat)
    (space : Space Nat) :
    RemapEnds kernel pagesize size space (mremapTest kernel pagesize size space) := by
  by_cases nothing : roundPages size = 0
  · rw [mremapTest, if_pos nothing]
    exact .small ((roundPages_eq_zero_iff size).mp nothing)
  have pages := (pagesOf_ne_zero_iff lawful.positive _).mpr nothing
  rw [mremapTest, if_neg nothing, mmap_eq _ _ _ pages]
  cases placed : (kernel 0).fresh space (pagesOf pagesize (roundPages size)) with
  | none => exact .unmapped 0 placed
  | some start =>
    obtain ⟨free, bounded⟩ := (lawful.placements 0).fresh _ _ _ placed
    have begun : Grown space pagesize (roundPages size) 1 (start, overlay space start
        (pagesOf pagesize (roundPages size)) fun _ => blank 0 .readWrite) := by
      constructor <;> rw [Nat.mul_one]
      · exact free
      · exact lawful.length_le bounded
    rw [Option.map_some, call_some_bind]
    rcases foldlM_grow lawful nothing [2, 4, 8, 16] Nat.one_ne_zero begun (by decide) with
      ⟨after, done, grown⟩ | ⟨failed, i, turn, refused⟩
    · have small : roundPages size * 16 ≤ 2 ^ 63 := grown.small
      have whole : wrap (roundPages size * 16) = roundPages size * 16 :=
        Nat.mod_eq_of_lt (by omega)
      have more : pagesOf pagesize (roundPages size * 16) ≠ 0 :=
        (pagesOf_ne_zero_iff lawful.positive _).mpr (by omega)
      have laid : after.2 = overlay space after.1 (pagesOf pagesize (roundPages size * 16))
          fun _ => blank 0 .readWrite := grown.laid
      have freeAll : Free space after.1 (pagesOf pagesize (roundPages size * 16)) := grown.free
      rw [done, ok_bind, whole, laid, munmap_overlay freeAll more, call_some_bind]
      rcases mapOnce_ends lawful 1 "mmap" nothing space with passed | ⟨failed, refused⟩
      · rw [passed]
        exact .passed
      · rw [failed]
        exact .unmapped 1 refused
    · rw [failed]
      exact .unmoved i turn refused

/-- A page of 64 KiB for a size of 4 KiB. -/
theorem mremapTest_ends_large :
    RemapEnds (fun _ => onePlace 16 1048576) 65536 4096 (fun _ => none)
      (mremapTest (fun _ => onePlace 16 1048576) 65536 4096 fun _ => none) :=
  mremapTest_ends (lawful_onePlace (by decide) (by decide)) 4096 fun _ => none

end Programs

end AvocadoMisc.MemoryApi.Remapping
