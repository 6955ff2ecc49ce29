/-!
# Files with holes

A file is a size and a byte at every position. Positions from the size on, and those
that a write beyond the end skips, read as zero.

`Holds` says that an interval of a file carries a given content. Writing bytes of that
content keeps it wherever they go, which is all that concurrent writers of one content
need, and writing them next to the interval extends it.
-/

namespace AvocadoMisc.Library.SparseFile

universe u
variable {β : Type u} [Zero β]

/-- A size and the bytes, which are zero from the size on. -/
structure File (β : Type u) [Zero β] where
  size : Nat
  byte : Nat → β
  beyond : ∀ position, size ≤ position → byte position = 0

namespace File

/-- The file after truncation. -/
def empty : File β where
  size := 0
  byte := fun _ => 0
  beyond := fun _ _ => rfl

/-- The bytes that a read at an offset puts into a buffer. -/
def read (file : File β) (offset : Nat) : Nat → β := fun i => file.byte (offset + i)

/-- A write of `length` bytes. It extends the file when it ends behind it. -/
def write (file : File β) (offset length : Nat) (data : Nat → β) : File β where
  size := if length = 0 then file.size else max file.size (offset + length)
  byte := fun position =>
    if offset ≤ position ∧ position < offset + length then data (position - offset)
    else file.byte position
  beyond := by
    intro position behind
    have outside : ¬(offset ≤ position ∧ position < offset + length) := by
      split at behind <;> omega
    have ended : file.size ≤ position := by
      split at behind <;> omega
    rw [ite_cond_eq_false _ _ (eq_false outside)]
    exact file.beyond position ended

/-- A written position has its new byte. -/
theorem write_byte_inside (file : File β) (data : Nat → β) {offset length position : Nat}
    (above : offset ≤ position) (below : position < offset + length) :
    (file.write offset length data).byte position = data (position - offset) :=
  ite_cond_eq_true _ _ (eq_true ⟨above, below⟩)

/-- Other positions keep theirs. -/
theorem write_byte_outside (file : File β) (data : Nat → β) {offset length position : Nat}
    (outside : position < offset ∨ offset + length ≤ position) :
    (file.write offset length data).byte position = file.byte position :=
  ite_cond_eq_false _ _ (eq_false (by omega))

/-- A write never shortens the file. -/
theorem size_le_write (file : File β) (offset length : Nat) (data : Nat → β) :
    file.size ≤ (file.write offset length data).size := by
  unfold write
  dsimp only
  split <;> omega

/-- The written interval is inside the file. -/
theorem end_le_write (file : File β) {offset length : Nat} (data : Nat → β)
    (nonempty : 0 < length) : offset + length ≤ (file.write offset length data).size := by
  unfold write
  dsimp only
  split <;> omega

end File

/-- The interval from `low` to below `high` is inside the file and carries the content. -/
def Holds (file : File β) (content : Nat → β) (low high : Nat) : Prop :=
  ∀ position, low ≤ position → position < high →
    position < file.size ∧ file.byte position = content position

variable {file : File β} {content data : Nat → β} {low high offset length : Nat}

/-- An empty interval carries everything. -/
theorem Holds.nothing (file : File β) (content : Nat → β) (ended : high ≤ low) :
    Holds file content low high := by
  intro position above below
  omega

/-- Part of an interval. -/
theorem Holds.part (holds : Holds file content low high) {first last : Nat} (above : low ≤ first)
    (below : last ≤ high) : Holds file content first last := by
  intro position after before
  exact holds position (Nat.le_trans above after) (Nat.lt_of_lt_of_le before below)

/-- An interval that is not empty ends inside the file. -/
theorem Holds.inside (holds : Holds file content low high) (nonempty : low < high) :
    high ≤ file.size := by
  have last := (holds (high - 1) (by omega) (by omega)).1
  omega

/-- Writing bytes of the content keeps it, wherever they go. -/
theorem Holds.write (holds : Holds file content low high)
    (same : ∀ i, i < length → data i = content (offset + i)) :
    Holds (file.write offset length data) content low high := by
  intro position above below
  obtain ⟨inside, carries⟩ := holds position above below
  refine ⟨Nat.lt_of_lt_of_le inside (file.size_le_write offset length data), ?_⟩
  by_cases written : offset ≤ position ∧ position < offset + length
  · rw [file.write_byte_inside data written.1 written.2, same _ (by omega),
      Nat.add_sub_cancel' written.1]
  · rw [file.write_byte_outside data (by omega), carries]

/-- The interval just written carries the content. -/
theorem Holds.written (file : File β) (same : ∀ i, i < length → data i = content (offset + i)) :
    Holds (file.write offset length data) content offset (offset + length) := by
  intro position above below
  have ends : offset + length ≤ (file.write offset length data).size :=
    file.end_le_write data (by omega)
  refine ⟨Nat.lt_of_lt_of_le below ends, ?_⟩
  rw [file.write_byte_inside data above below, same _ (by omega), Nat.add_sub_cancel' above]

/-- A read of an interval that carries the content gives the content. -/
theorem Holds.read (holds : Holds file content offset (offset + length)) {i : Nat}
    (inside : i < length) : file.read offset i = content (offset + i) :=
  (holds (offset + i) (Nat.le_add_right offset i) (Nat.add_lt_add_left inside offset)).2

end AvocadoMisc.Library.SparseFile
