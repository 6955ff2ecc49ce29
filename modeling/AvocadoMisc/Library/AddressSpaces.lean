import Mathlib.Logic.Function.Basic

/-!
# Address spaces

A process sees numbered pages. A mapped page has an access and cells. Calls map pages, change their
access, move them and take them away, and a cell that may not be reached is not loaded or stored.

Where pages are put is up to the kernel. It puts them where nothing is mapped, and leaves growing
pages where they are when nothing is mapped behind them. So what a process does with its own range
of pages can be said of the range alone, laid over a space that stays as it is.
-/

namespace AvocadoMisc.Library.AddressSpaces

variable {V : Type}

/-- What may be done with a page. -/
inductive Access where
  | none
  | read
  | readWrite
  deriving DecidableEq

/-- A page that is mapped. -/
structure Page (V : Type) where
  access : Access
  cells : Nat → V

/-- The pages by number. -/
abbrev Space (V : Type) := Nat → Option (Page V)

/-- A page with the same content in all cells. -/
def blank (content : V) (access : Access) : Page V := ⟨access, fun _ => content⟩

/-- Pages that are laid over a space. -/
def overlay (space : Space V) (start count : Nat) (pages : Nat → Page V) : Space V := fun page =>
  if start ≤ page ∧ page < start + count then some (pages (page - start)) else space page

/-- A space without some pages. -/
def remove (start count : Nat) (space : Space V) : Space V := fun page =>
  if start ≤ page ∧ page < start + count then none else space page

/-- Nothing is mapped there. -/
def Free (space : Space V) (start count : Nat) : Prop :=
  ∀ page, start ≤ page → page < start + count → space page = none

/-- Where the kernel puts new pages, and pages that grow. -/
structure Placement (V : Type) where
  fresh : Space V → Nat → Option Nat
  moved : Space V → Nat → Nat → Nat → Option Nat

/-- Pages are put where nothing is mapped and below a limit. Pages that grow may stay. -/
structure Placement.Lawful (placement : Placement V) (limit : Nat) : Prop where
  fresh : ∀ space count start, placement.fresh space count = some start →
    Free space start count ∧ start + count ≤ limit
  moved : ∀ space start old new place, placement.moved space start old new = some place →
    (place = start ∧ Free space (start + old) (new - old) ∨ Free space place new) ∧
      place + new ≤ limit

/-! ### Calls -/

/-- `mmap`. -/
def mmap (placement : Placement V) (content : V) (access : Access) (count : Nat)
    (space : Space V) : Option (Nat × Space V) :=
  if count = 0 then none
  else (placement.fresh space count).map fun start =>
    (start, overlay space start count fun _ => blank content access)

/-- `munmap`. -/
def munmap (start count : Nat) (space : Space V) : Option (Space V) :=
  if count = 0 then none else some (remove start count space)

/-- `mremap`, with `MREMAP_MAYMOVE`. The pages have the access of the first one. -/
def mremap (placement : Placement V) (content : V) (start old new : Nat) (space : Space V) :
    Option (Nat × Space V) :=
  match space start with
  | none => none
  | some first =>
    if new = 0 ∨ ((List.range old).all fun i =>
        decide ((space (start + i)).map Page.access = some first.access)) = false then none
    else (placement.moved space start old new).map fun place =>
      (place, overlay (remove start old space) place new fun i =>
        if i < old then (space (start + i)).getD first else blank content first.access)

/-- A cell is loaded. -/
def load (space : Space V) (page cell : Nat) : Option V :=
  (space page).bind fun content =>
    if content.access = .none then none else some (content.cells cell)

/-- A cell is stored. -/
def store (space : Space V) (page cell : Nat) (value : V) : Option (Space V) :=
  (space page).bind fun content =>
    if content.access = .readWrite then
      some (Function.update space page
        (some { content with cells := Function.update content.cells cell value }))
    else none

/-! ### Pages that are laid over a space -/

section Overlay

variable {space : Space V} {start count : Nat} {pages : Nat → Page V}

/-- A page of the range. -/
theorem overlay_apply {i : Nat} (inside : i < count) :
    overlay space start count pages (start + i) = some (pages i) := by
  rw [overlay, if_pos ⟨Nat.le_add_right start i, Nat.add_lt_add_left inside start⟩,
    Nat.add_sub_cancel_left]

/-- A page outside of the range. -/
theorem overlay_outside {page : Nat} (outside : ¬(start ≤ page ∧ page < start + count)) :
    overlay space start count pages page = space page :=
  if_neg outside

/-- Only the pages of the range count. -/
theorem overlay_congr {others : Nat → Page V} (same : ∀ i < count, pages i = others i) :
    overlay space start count pages = overlay space start count others := by
  funext page
  unfold overlay
  split
  · rw [same (page - start) (by omega)]
  · rfl

/-- What is removed is not there any more, and the rest is the space below. -/
theorem remove_overlay (free : Free space start count) :
    remove start count (overlay space start count pages) = space := by
  funext page
  by_cases inside : start ≤ page ∧ page < start + count
  · rw [remove, if_pos inside, free page inside.1 inside.2]
  · rw [remove, if_neg inside, overlay_outside inside]

/-- The range is taken away. -/
theorem munmap_overlay (free : Free space start count) (something : count ≠ 0) :
    munmap start count (overlay space start count pages) = some space := by
  rw [munmap, if_neg something, remove_overlay free]

/-- New pages are laid over the space, if there is a place. -/
theorem mmap_eq (placement : Placement V) (content : V) (access : Access) (something : count ≠ 0) :
    mmap placement content access count space =
      (placement.fresh space count).map fun start =>
        (start, overlay space start count fun _ => blank content access) :=
  if_neg something

/-- Pages do not shrink to nothing. -/
theorem mremap_zero (placement : Placement V) (content : V) (start old : Nat) (space : Space V) :
    mremap placement content start old 0 space = none := by
  rw [mremap]
  cases space start with
  | none => rfl
  | some first => exact if_pos (Or.inl rfl)

/-- Pages that grow are the range at its new place, if there is one: the old pages with what they
held, blank ones behind them, and nothing left where the range was. -/
theorem mremap_overlay {placement : Placement V} {content : V} {access : Access} {new : Nat}
    (free : Free space start count) (something : count ≠ 0) (grows : new ≠ 0)
    (uniform : ∀ i < count, (pages i).access = access) :
    mremap placement content start count new (overlay space start count pages) =
      (placement.moved (overlay space start count pages) start count new).map fun place =>
        (place, overlay space place new fun i =>
          if i < count then pages i else blank content access) := by
  have positive : 0 < count := Nat.pos_of_ne_zero something
  have first : overlay space start count pages start = some (pages 0) := by
    have found : overlay space start count pages (start + 0) = some (pages 0) :=
      overlay_apply positive
    rwa [Nat.add_zero] at found
  have same : ((List.range count).all fun i =>
      decide ((overlay space start count pages (start + i)).map Page.access = some access)) =
        true := by
    rw [List.all_eq_true]
    intro i member
    have inside := List.mem_range.mp member
    rw [overlay_apply inside, Option.map_some, uniform i inside]
    exact decide_eq_true rfl
  have proper : ¬(new = 0 ∨ ((List.range count).all fun i =>
      decide ((overlay space start count pages (start + i)).map Page.access = some access)) =
        false) := by
    rw [same]
    simp [grows]
  rw [mremap, first]
  simp only [uniform 0 positive, remove_overlay free]
  rw [if_neg proper]
  congr 1
  funext place
  refine congrArg (Prod.mk place) (overlay_congr fun i _ => ?_)
  by_cases old : i < count
  · rw [if_pos old, if_pos old, overlay_apply old]
    rfl
  · rw [if_neg old, if_neg old]

/-- Nothing was mapped at the place of pages that grow, apart from these. -/
theorem free_of_moved {placement : Placement V} {limit : Nat} (lawful : placement.Lawful limit)
    {new place : Nat} (free : Free space start count)
    (placed : placement.moved (overlay space start count pages) start count new = some place) :
    Free space place new ∧ place + new ≤ limit := by
  obtain ⟨where_, bounded⟩ := lawful.moved _ start count new place placed
  refine ⟨fun page atLeast below => ?_, bounded⟩
  rcases where_ with ⟨rfl, behind⟩ | anew
  · by_cases inside : page < place + count
    · exact free page atLeast inside
    · have outside := behind page (by omega) (by omega)
      rwa [overlay_outside (by omega)] at outside
  · have nothing := anew page atLeast below
    by_cases inside : start ≤ page ∧ page < start + count
    · rw [overlay, if_pos inside] at nothing
      cases nothing
    · rwa [overlay_outside inside] at nothing

end Overlay

end AvocadoMisc.Library.AddressSpaces
