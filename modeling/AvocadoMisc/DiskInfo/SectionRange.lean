import AvocadoMisc.DiskInfo.Checks

/-!
# The section of a disk in `lshw`

`DiskInfo.test` sorts the numbers of the lines that have the disk and of the headings of disks, and
looks at the lines between the two neighbours of the first line that has the disk. But the numbers
are sorted as texts, so a number with more digits may stand in front of a smaller one. And there is
nothing behind the disk of the last section, unless its order as a text is another one.

The neighbours are right exactly when, in the order of texts, the heading is the nearest of the
smaller numbers, or the greatest of all if no number is smaller, and the nearest of the others is
not behind the next heading, and is the last line in the last section.
-/

namespace AvocadoMisc.DiskInfo.SectionRange

open Checks Library.LineTools Library.Neighbours Library.Parts Library.Scripts Library.Text

/-! ### Sections -/

/-- A heading of a device. -/
def IsHeading (device line : Text) : Prop :=
  ∃ indent suffix, Blank charSpace indent ∧
    line = indent ++ '*' :: '-' :: (device ++ suffix) ∧ '=' ∉ device ++ suffix

/-- What is in front of the name of a disk. -/
def nameTitle : Text := "logical name: ".toList

/-- The line with the name of a disk. -/
def IsNamed (disk line : Text) : Prop :=
  ∃ indent, Blank charSpace indent ∧ line = indent ++ (nameTitle ++ disk)

/-- A report around the section of a disk, and the sizes of its sectors in sysfs. -/
structure Layout where
  before : List Text
  heading : Text
  front : List Text
  named : Text
  back : List Text
  after : List Text
  logical : Nat
  physical : Nat

namespace Layout

/-- The section without its heading. -/
def body (layout : Layout) : List Text := layout.front ++ layout.named :: layout.back

/-- The number of the heading. -/
def start (layout : Layout) : Nat := layout.before.length + 1

/-- A last line is right: it is not behind the next heading, or ends the report. -/
def Ends (layout : Layout) (last : Nat) : Prop :=
  match layout.after with
  | [] => last = layout.start + layout.body.length
  | _ :: _ => last ≤ layout.start + layout.body.length + 1

end Layout

/-- A report of `lshw` has the section of the disk. -/
structure LaidOut (system : System) (layout : Layout) : Prop where
  lines : system.lshw = layout.before ++ layout.heading :: (layout.body ++ layout.after)
  heading : IsHeading "disk".toList layout.heading
  named : IsNamed system.disk layout.named
  body : ∀ device, ∀ line ∈ layout.body, ¬IsHeading device line
  after : ∀ line ∈ layout.after.head?, ∃ device, IsHeading device line
  logical : HoldsNumber system "logical_block_size" layout.logical
  physical : HoldsNumber system "physical_block_size" layout.physical

/-- A line shows the sizes of the sectors, the logical and the physical one, as words of its own. -/
def Shows (layout : Layout) (line : Text) : Prop :=
  logicalTitle ++ decimal layout.logical ∈ words charSpace line ∧
    sectorTitle ++ decimal layout.physical ∈ words charSpace line

/-! ### What is asked of the range -/

/-- The lines that are looked at. There is one of them when the second number is below the first
one. -/
def Range (system : System) (first last : Nat) : Prop :=
  ∃ middle rest low high, system.middle = middle :: rest ∧
    system.lineRange middle = some (low, high) ∧
    first = number low ∧ last = max (number low) (number high)

/-- The section of the disk is looked at, and a mismatch is recorded exactly when there is one. -/
structure Selects (system : System) (layout : Layout) : Prop where
  range : ∃ last, Range system layout.start last ∧ layout.Ends last
  runs : Runs (checkSection system)
  recorded : ∀ msg, Message.lshwSectorSizes ∉ msg →
    (Message.lshwSectorSizes ∈ leaves (checkSection system) msg ↔
      ¬∃ line ∈ layout.heading :: layout.body, Shows layout line)

/-! ### The numbers in the order of texts -/

/-- The numbers of the lines that have the disk. -/
def diskLines (system : System) : List Nat := numbered (contains system.disk) 1 system.lshw

/-- The first of them. -/
def firstLine (system : System) : Nat := (diskLines system).headD 0

/-- The other numbers that are sorted. -/
def otherLines (system : System) : List Nat :=
  numbered (contains headingWord) 1 system.lshw ++ (diskLines system).tail

/-- In the order of texts a line is the nearest one in front of the disk, or the greatest one if the
disk is the least. -/
def Precedes (system : System) (line : Nat) : Prop :=
  (line ∈ otherLines system ∧ decimal line < decimal (firstLine system) ∧
    ∀ other ∈ otherLines system, decimal other < decimal (firstLine system) →
      decimal other ≤ decimal line) ∨
  ((∀ other ∈ otherLines system, decimal (firstLine system) ≤ decimal other) ∧
    line ∈ firstLine system :: otherLines system ∧
    ∀ other ∈ firstLine system :: otherLines system, decimal other ≤ decimal line)

/-- In the order of texts a line is the nearest one behind the disk. -/
def Follows (system : System) (line : Nat) : Prop :=
  line ∈ otherLines system ∧ decimal (firstLine system) ≤ decimal line ∧
    ∀ other ∈ otherLines system, decimal (firstLine system) ≤ decimal other →
      decimal line ≤ decimal other

/-- A number is read as it was printed. -/
theorem number_decimal (n : Nat) : number (decimal n) = n := Nat.ofDigitChars_ten_toDigits

section Sorted

variable {system : System}

/-- The first line that has the disk. -/
theorem firstLine_eq {first : Nat} {rest : List Nat} (found : diskLines system = first :: rest) :
    firstLine system = first := by
  rw [firstLine, found, List.headD_cons]

/-- The numbers of the lines that have the disk, as they are printed. -/
theorem middle_eq {first : Nat} {rest : List Nat} (found : diskLines system = first :: rest) :
    system.middle = decimal first :: rest.map decimal := by
  rw [System.middle, ← diskLines, found, List.map_cons]

/-- The numbers that are sorted. -/
theorem lst_perm {first : Nat} {rest : List Nat} (found : diskLines system = first :: rest) :
    system.lst.Perm (decimal first :: (otherLines system).map decimal) := by
  rw [System.lst, System.total, middle_eq found, otherLines, found, List.tail_cons,
    List.map_append]
  exact (List.mergeSort_perm _ _).trans List.perm_middle

/-- They are sorted as texts. -/
theorem lst_pairwise (system : System) : system.lst.Pairwise (· ≤ ·) := by
  have transitive : ∀ first second third : Text, decide (first ≤ second) = true →
      decide (second ≤ third) = true → decide (first ≤ third) = true := by
    intro first second third earlier later
    exact decide_eq_true ((of_decide_eq_true earlier).trans (of_decide_eq_true later))
  have total : ∀ first second : Text,
      (decide (first ≤ second) || decide (second ≤ first)) = true := by
    intro first second
    rw [Bool.or_eq_true, decide_eq_true_iff, decide_eq_true_iff]
    exact le_total first second
  exact (List.pairwise_mergeSort transitive total _).imp of_decide_eq_true

/-- A printed number is among others when it is one of them. -/
theorem decimal_mem_map {n : Nat} {numbers : List Nat} :
    decimal n ∈ numbers.map decimal ↔ n ∈ numbers :=
  List.mem_map_of_injective fun _ _ same => decimal_injective same

/-- What is in front of the disk in the order of texts. -/
theorem inFront_iff {first : Nat} {rest : List Nat} (found : diskLines system = first :: rest)
    (low : Text) : inFront system.lst (decimal first) = some low ↔
      ∃ line, low = decimal line ∧ Precedes system line := by
  rw [inFront_eq_some_iff (lst_perm found) (lst_pairwise system)]
  simp only [Precedes, firstLine_eq found]
  rw [← List.map_cons]
  simp only [List.forall_mem_map]
  constructor
  · rintro (⟨member, smaller, nearest⟩ | ⟨least, member, greatest⟩)
    · obtain ⟨line, isOther, rfl⟩ := List.mem_map.mp member
      exact ⟨line, rfl, .inl ⟨isOther, smaller, nearest⟩⟩
    · obtain ⟨line, isListed, rfl⟩ := List.mem_map.mp member
      exact ⟨line, rfl, .inr ⟨least, isListed, greatest⟩⟩
  · rintro ⟨line, rfl, ⟨isOther, smaller, nearest⟩ | ⟨least, isListed, greatest⟩⟩
    · exact .inl ⟨decimal_mem_map.mpr isOther, smaller, nearest⟩
    · exact .inr ⟨least, decimal_mem_map.mpr isListed, greatest⟩

/-- What is behind the disk in the order of texts. -/
theorem behind_iff {first : Nat} {rest : List Nat} (found : diskLines system = first :: rest)
    (high : Text) : behind system.lst (decimal first) = some high ↔
      ∃ line, high = decimal line ∧ Follows system line := by
  rw [behind_eq_some_iff (lst_perm found) (lst_pairwise system)]
  simp only [Follows, firstLine_eq found, List.forall_mem_map]
  constructor
  · rintro ⟨member, greater, nearest⟩
    obtain ⟨line, isOther, rfl⟩ := List.mem_map.mp member
    exact ⟨line, rfl, isOther, greater, nearest⟩
  · rintro ⟨line, rfl, isOther, greater, nearest⟩
    exact ⟨decimal_mem_map.mpr isOther, greater, nearest⟩

/-- The range is between the neighbours. -/
theorem lineRange_eq_some_iff {middle low high : Text} :
    system.lineRange middle = some (low, high) ↔
      inFront system.lst middle = some low ∧ behind system.lst middle = some high := by
  rw [System.lineRange]
  split
  next first second inFront behind => simp [inFront, behind]
  next none =>
    constructor
    · intro impossible
      cases impossible
    · exact fun ⟨inFront, behind⟩ => absurd behind (none low high inFront)

/-- The lines that are looked at, by the order of texts. -/
theorem range_iff (found : diskLines system ≠ []) (first last : Nat) :
    Range system first last ↔
      Precedes system first ∧ ∃ line, Follows system line ∧ last = max first line := by
  obtain ⟨disk, rest, lines⟩ := List.exists_cons_of_ne_nil found
  have printed := middle_eq lines
  constructor
  · rintro ⟨middle, others, low, high, split, between, rfl, rfl⟩
    obtain ⟨rfl, _⟩ := List.cons.inj (printed.symm.trans split)
    obtain ⟨inFront, behind⟩ := lineRange_eq_some_iff.mp between
    obtain ⟨heading, rfl, precedes⟩ := (inFront_iff lines low).mp inFront
    obtain ⟨line, rfl, follows⟩ := (behind_iff lines high).mp behind
    rw [number_decimal, number_decimal]
    exact ⟨precedes, line, follows, rfl⟩
  · rintro ⟨precedes, line, follows, rfl⟩
    have inFront := (inFront_iff lines _).mpr ⟨first, rfl, precedes⟩
    have behind := (behind_iff lines _).mpr ⟨line, rfl, follows⟩
    refine ⟨_, _, _, _, printed, lineRange_eq_some_iff.mpr ⟨inFront, behind⟩, ?_, ?_⟩
    · rw [number_decimal]
    · rw [number_decimal, number_decimal]

end Sorted

/-! ### What is looked at -/

/-- A range has the same lines up to the greater of its numbers. -/
theorem between_max (low high : Nat) (listed : List Text) :
    between low (max low high) listed = between low high listed := by
  have distance : max low high - low = high - low := by omega
  rw [between, between, distance]

/-- A mismatch is recorded when no line of the range has the sizes. -/
theorem checkSection_apply {system : System} {first last : Nat}
    (range : Range system first last) (msg : List Message) :
    checkSection system msg = .ok ⟨⟩ (added (contains (lsString system.lbs system.pbs)
      (chomp (printed (between first last system.lshw)))) .lshwSectorSizes msg) := by
  obtain ⟨middle, rest, low, high, split, neighbours, rfl, rfl⟩ := range
  rw [checkSection, split]
  dsimp only
  rw [neighbours, between_max]
  exact check_apply _ _ _

/-- When nothing follows the disk in the order of texts, the test stops. -/
theorem checkSection_raises {system : System} (found : diskLines system ≠ [])
    (last : ∀ line, ¬Follows system line) (msg : List Message) :
    checkSection system msg = .error .raised msg := by
  obtain ⟨disk, rest, lines⟩ := List.exists_cons_of_ne_nil found
  have none : system.lineRange (decimal disk) = none := by
    apply Option.eq_none_iff_forall_ne_some.mpr
    rintro ⟨low, high⟩ some_range
    have behind := (lineRange_eq_some_iff.mp some_range).2
    obtain ⟨line, _, follows⟩ := (behind_iff lines high).mp behind
    exact last line follows
  rw [checkSection, middle_eq lines]
  dsimp only
  rw [none]
  exact throw_apply _ _

section Laid

variable {system : System} {layout : Layout}

/-- The line with the name has the disk. -/
theorem diskLines_ne_nil (laid : LaidOut system layout) : diskLines system ≠ [] := by
  obtain ⟨indent, _, isNamed⟩ := laid.named
  have inNamed : contains system.disk layout.named = true := by
    apply decide_eq_true
    rw [isNamed, ← List.append_assoc]
    exact (List.suffix_append _ _).isInfix
  have lines : system.lshw = (layout.before ++ layout.heading :: layout.front) ++
      layout.named :: (layout.back ++ layout.after) := by
    rw [laid.lines, Layout.body]
    simp
  rw [diskLines, lines, numbered_append, numbered, if_pos inNamed]
  exact List.append_ne_nil_of_right_ne_nil _ (List.cons_ne_nil _ _)

/-- What is expected of a section. -/
theorem lsString_eq (laid : LaidOut system layout) : lsString system.lbs system.pbs =
    lsString (decimal layout.logical) (decimal layout.physical) := by
  rw [System.lbs, System.pbs, queue_eq laid.logical, queue_eq laid.physical]

/-- There is no sign of equality in a heading. -/
theorem equals_not_mem {device line : Text} (isHeading : IsHeading device line) :
    '=' ∉ line := by
  obtain ⟨indent, suffix, blank, rfl, unequal⟩ := isHeading
  have star : '=' ≠ '*' := by decide
  have dash : '=' ≠ '-' := by decide
  rw [List.mem_append, List.mem_cons, List.mem_cons, not_or, not_or, not_or]
  refine ⟨fun member => ?_, star, dash, unequal⟩
  exact absurd (blank '=' member) (by decide)

/-- So the sizes are not in one. -/
theorem sizes_not_in_heading {device line : Text} (isHeading : IsHeading device line)
    (lbs pbs : Text) : ¬lsString lbs pbs <:+: line := by
  intro inLine
  have isPart : '=' ∈ lsString lbs pbs := by
    rw [lsString]
    exact List.mem_append_left _ (by decide)
  exact equals_not_mem isHeading (inLine.subset isPart)

/-- And it shows none. -/
theorem not_shows {device line : Text} (isHeading : IsHeading device line) :
    ¬Shows layout line := by
  intro shows
  have isPart : '=' ∈ logicalTitle ++ decimal layout.logical :=
    List.mem_append_left _ (by decide)
  exact equals_not_mem isHeading ((infix_of_mem_words shows.1).subset isPart)

/-- The section is what its lines show. -/
theorem section_shows_iff (laid : LaidOut system layout) :
    (∃ line ∈ layout.heading :: layout.body, Shows layout line) ↔
      ∃ line ∈ layout.body, Shows layout line := by
  rw [List.exists_mem_cons_iff, or_iff_right (not_shows laid.heading)]

/-- A range that ends right has no line behind the next heading. -/
theorem heading_of_mem_take (laid : LaidOut system layout) {last : Nat}
    (ends : layout.Ends last) {line : Text}
    (member : line ∈ layout.after.take (last - layout.start - layout.body.length)) :
    ∃ device, IsHeading device line := by
  cases split : layout.after with
  | nil =>
    rw [split, List.take_nil] at member
    cases member
  | cons next rest =>
    rw [Layout.Ends, split] at ends
    have single : last - layout.start - layout.body.length ≤ 1 := by
      dsimp only at ends
      omega
    have isNext : line ∈ (next :: rest).take 1 := by
      rw [split] at member
      exact List.take_subset_take_left _ single member
    apply laid.after line
    rw [split, List.head?_cons, List.mem_singleton.mp isNext]
    exact rfl

/-- In a range that ends right the sizes are looked for in lines of the section. -/
theorem sizes_found_iff (laid : LaidOut system layout) {last : Nat} (ends : layout.Ends last) :
    contains (lsString system.lbs system.pbs)
        (chomp (printed (between layout.start last system.lshw))) = true ↔
      ∃ line ∈ layout.body.take (last - layout.start),
        lsString system.lbs system.pbs <:+: line := by
  have nonempty : lsString system.lbs system.pbs ≠ [] := List.cons_ne_nil 'l' _
  have unbroken : ∀ c ∈ lsString system.lbs system.pbs, isNewline c = false := by
    rw [lsString_eq laid, lsString]
    intro c member
    simp only [List.mem_append, List.mem_cons] at member
    rcases member with inTitle | first | rfl | between | second
    · exact none_of_check (by decide) c inTitle
    · exact decimal_unbroken layout.logical c first
    · decide
    · exact none_of_check (by decide) c between
    · exact decimal_unbroken layout.physical c second
  rw [contains, decide_eq_true_iff, infix_chomp_printed_iff nonempty unbroken, laid.lines,
    Layout.start, between_append, List.take_succ_cons, List.exists_mem_cons_iff,
    or_iff_right (sizes_not_in_heading laid.heading _ _), List.take_append]
  constructor
  · rintro ⟨line, member, inLine⟩
    rcases List.mem_append.mp member with inBody | inAfter
    · exact ⟨line, inBody, inLine⟩
    · -- Behind the section there is the next heading only, and it has no sizes.
      obtain ⟨device, isHeading⟩ := heading_of_mem_take laid ends inAfter
      exact absurd inLine (sizes_not_in_heading isHeading _ _)
  · rintro ⟨line, member, inLine⟩
    exact ⟨line, List.mem_append_left _ member, inLine⟩

/-- A range that ends right records a mismatch exactly when the lines of the section in it do not
have the sizes. -/
theorem recorded_iff (laid : LaidOut system layout) {last : Nat} (ends : layout.Ends last)
    (range : Range system layout.start last) {msg : List Message}
    (absent : Message.lshwSectorSizes ∉ msg) :
    Message.lshwSectorSizes ∈ leaves (checkSection system) msg ↔
      ¬∃ line ∈ layout.body.take (last - layout.start),
        lsString system.lbs system.pbs <:+: line := by
  rw [← sizes_found_iff laid ends, Bool.not_eq_true, leaves, checkSection_apply range]
  dsimp only
  rw [mem_added_iff, or_iff_right absent, and_iff_left rfl]

/-! ### The verdict -/

/-- The section of the disk is looked at exactly when, in the order of texts, its heading precedes
the disk, and a line follows it which is in the section or its end and before which there is a line
with the sizes exactly when one is in the section. -/
theorem inspects_iff (laid : LaidOut system layout) :
    Selects system layout ↔
      Precedes system layout.start ∧ ∃ line, Follows system line ∧
        layout.Ends (max layout.start line) ∧
        ((∃ inspected ∈ layout.body.take (line - layout.start),
            lsString system.lbs system.pbs <:+: inspected) ↔
          ∃ own ∈ layout.body, Shows layout own) := by
  have reach (line : Nat) : max layout.start line - layout.start = line - layout.start := by omega
  constructor
  · intro selects
    obtain ⟨last, range, ends⟩ := selects.range
    obtain ⟨precedes, line, follows, rfl⟩ :=
      (range_iff (diskLines_ne_nil laid) layout.start last).mp range
    refine ⟨precedes, line, follows, ends, ?_⟩
    have law := selects.recorded [] List.not_mem_nil
    rw [recorded_iff laid ends range List.not_mem_nil, section_shows_iff laid, reach] at law
    exact not_iff_not.mp law
  · rintro ⟨precedes, line, follows, ends, law⟩
    have range := (range_iff (diskLines_ne_nil laid) layout.start _).mpr
      ⟨precedes, line, follows, rfl⟩
    refine ⟨⟨_, range, ends⟩, fun msg => ⟨_, checkSection_apply range msg⟩, fun msg absent => ?_⟩
    rw [recorded_iff laid ends range absent, section_shows_iff laid, reach]
    exact not_congr law

end Laid

/-- A line with another first character is not a heading. -/
theorem not_isHeading_of_first (device : Text) {line : Text}
    (otherwise : (line.dropWhile charSpace).head? ≠ '*') : ¬IsHeading device line := by
  rintro ⟨indent, suffix, blank, rfl, _⟩
  have solid : ¬charSpace '*' = true := by decide
  rw [dropWhile_blank blank, List.dropWhile_cons_of_neg solid] at otherwise
  exact otherwise rfl

/-- A section that begins a report. -/
def firstSection (after : List Text) : Layout where
  before := []
  heading := ' ' :: ' ' :: '*' :: '-' :: ("disk".toList ++ ":0".toList)
  front := []
  named := ' ' :: ' ' :: (nameTitle ++ "/dev/sda".toList)
  back := [' ' :: ' ' :: lsString (decimal 4096) (decimal 4096)]
  after := after
  logical := 4096
  physical := 4096

/-- A disk in this section. -/
def listedDisk (after : List Text) : System :=
  plainDisk [] [] [] ((firstSection after).heading :: ((firstSection after).body ++ after))

/-- The report of `lshw` has its section. -/
theorem listedDisk_laidOut {after : List Text}
    (next : ∀ line ∈ after.head?, ∃ device, IsHeading device line) :
    LaidOut (listedDisk after) (firstSection after) where
  lines := rfl
  heading := ⟨[' ', ' '], ":0".toList, blank_spaces, rfl, by decide⟩
  named := ⟨[' ', ' '], blank_spaces, rfl⟩
  body := by
    have otherwise : ∀ line ∈ (firstSection []).body, (line.dropWhile charSpace).head? ≠ '*' := by
      decide +kernel
    exact fun device line member => not_isHeading_of_first device (otherwise line member)
  after := next
  logical := holdsNumber_plainDisk 4096 (by decide +kernel) _ _ _ _
  physical := holdsNumber_plainDisk 4096 (by decide +kernel) _ _ _ _

/-- The section before another one is looked at. -/
theorem inspects_firstSection :
    Selects (listedDisk ["  *-disk:1".toList]) (firstSection ["  *-disk:1".toList]) := by
  have next : ∀ line ∈ ["  *-disk:1".toList].head?, ∃ device, IsHeading device line := by
    rintro line isNext
    rw [← Option.mem_some_iff.mp isNext]
    exact ⟨"disk".toList, [' ', ' '], ":1".toList, blank_spaces, by decide +kernel, by decide⟩
  have first : firstLine (listedDisk ["  *-disk:1".toList]) = 2 := by decide +kernel
  have others : otherLines (listedDisk ["  *-disk:1".toList]) = [1, 4] := by decide +kernel
  have sizes := lsString_eq (listedDisk_laidOut next)
  refine (inspects_iff (listedDisk_laidOut next)).mpr ⟨?_, 4, ?_, ?_, ?_⟩
  · rw [Precedes, first, others]
    decide +kernel
  · rw [Follows, first, others]
    decide +kernel
  · exact Nat.le_refl 4
  · rw [sizes]
    refine iff_of_true ?_ ?_
    · exact ⟨_, List.mem_cons_of_mem _ List.mem_cons_self,
        (List.suffix_append [' ', ' '] _).isInfix⟩
    · exact ⟨_, List.mem_cons_of_mem _ List.mem_cons_self, by rw [Shows]; decide +kernel⟩

/-- There is nothing behind the disk of the only section, and the test stops. -/
theorem last_not_inspected :
    checkSection (listedDisk []) [] = .error .raised [] ∧
    ¬Selects (listedDisk []) (firstSection []) := by
  have found : diskLines (listedDisk []) ≠ [] := by decide +kernel
  have others : otherLines (listedDisk []) = [1] := by decide +kernel
  have last : ∀ line, ¬Follows (listedDisk []) line := by
    rintro line ⟨isOther, greater, _⟩
    rw [others, List.mem_singleton] at isOther
    subst isOther
    exact absurd greater (by decide +kernel)
  have raises := checkSection_raises found last []
  refine ⟨raises, fun selects => ?_⟩
  obtain ⟨after, ran⟩ := selects.runs []
  rw [raises] at ran
  cases ran

end AvocadoMisc.DiskInfo.SectionRange
