import AvocadoMisc.DiskInfo.Checks

/-!
# The size of a disk in the reports about it

`DiskInfo.test` takes the size of the disk from `lsblk` and looks for it in the reports of `fdisk`
and of `sfdisk`. But it takes the first character of the size only. And of the two sizes for I/O
that sysfs has it looks for the minimum twice.

A size that agrees is never reported. Another one is reported exactly when the first digit of the
size is nowhere in the lines about the disk.
-/

namespace AvocadoMisc.DiskInfo.SizeChecks

open Checks Library.LineTools Library.Parts Library.Scripts Library.Text

/-! ### What the tools print -/

/-- What the first line of a report begins with. -/
def diskWord : Text := "Disk ".toList

/-- What is between the two sizes in bytes and in sectors. -/
def bytesComma : Text := " bytes, ".toList

/-- What the line ends with. -/
def sectorsWord : Text := " sectors".toList

/-- The first line of a report on a disk. -/
def headline (disk human : Text) (bytes sectors : Nat) : Text :=
  diskWord ++ (disk ++ (':' :: ' ' :: (human ++ ',' :: ' ' ::
    (decimal bytes ++ (bytesComma ++ (decimal sectors ++ sectorsWord))))))

/-- A report prints a number of bytes for the disk. -/
def PrintsSize (disk : Text) (report : List Text) (bytes : Nat) : Prop :=
  ∃ human sectors, headline disk human bytes sectors ∈ report

/-- A report prints two sizes for I/O, in one line. -/
def PrintsIoSizes (report : List Text) (minimum optimal : Nat) : Prop :=
  ∃ front back, report = front ++ ioSizeString (decimal minimum) (decimal optimal) :: back ∧
    ∀ line ∈ front ++ back, ¬ioSizeTitle <:+: line

/-- The sizes that are compared. `lsblk` may print blanks in front of its size. -/
structure Sizes where
  lsblk : Nat
  blanks : Nat
  fdisk : Nat
  sfdisk : Nat
  minimumIo : Nat
  optimalIo : Nat
  fdiskMinimum : Nat
  fdiskOptimal : Nat

/-- The tools and sysfs have these sizes. Lines about other disks may stand around them. -/
structure Prints (system : System) (sizes : Sizes) : Prop where
  lsblk : ∃ header rest, system.lsblk =
    header :: (List.replicate sizes.blanks ' ' ++ decimal sizes.lsblk) :: rest
  fdisk : PrintsSize system.disk system.fdisk sizes.fdisk
  sfdisk : PrintsSize system.disk system.sfdisk sizes.sfdisk
  minimumIo : HoldsNumber system "minimum_io_size" sizes.minimumIo
  optimalIo : HoldsNumber system "optimal_io_size" sizes.optimalIo
  fdiskIo : PrintsIoSizes system.fdisk sizes.fdiskMinimum sizes.fdiskOptimal

/-! ### What is asked of the comparison -/

/-- A mismatch is recorded exactly when there is one, for each of the tools and for the sizes of
I/O. -/
structure Compares (system : System) (sizes : Sizes) : Prop where
  fdisk : Message.fdiskSize ∈ leaves (test system) [] ↔ sizes.fdisk ≠ sizes.lsblk
  sfdisk : Message.sfdiskSize ∈ leaves (test system) [] ↔ sizes.sfdisk ≠ sizes.lsblk
  io : Message.ioSizes ∈ leaves (test system) [] ↔
    (sizes.fdiskMinimum, sizes.fdiskOptimal) ≠ (sizes.minimumIo, sizes.optimalIo)

/-- The first character of the size that `lsblk` prints is not in the lines about the disk. -/
def Absent (system : System) (sizes : Sizes) (report : List Text) : Prop :=
  ∀ c ∈ (List.replicate sizes.blanks ' ' ++ decimal sizes.lsblk).head?, ∀ line ∈ report,
    containsIgnoreCase system.disk line = true → c ∉ line

/-! ### The messages about sizes -/

/-- The messages of the second part. -/
def isSize : Message → Bool
  | .sectorSizes => true
  | .ioSizes => true
  | .fdiskSize => true
  | .sfdiskSize => true
  | _ => false

/-- Another check is silent about sizes. -/
theorem silent_of_isSize {message other : Message} (size : isSize message = true)
    (noSize : isSize other = false) (condition : Bool) :
    Silent message (check condition other) := by
  apply check_silent
  rintro rfl
  rw [size] at noSize
  cases noSize

/-- The first part is silent about sizes, and comes to its end. -/
theorem checkListed_silent (system : System) {message : Message} (size : isSize message = true) :
    Silent message (checkListed system) := by
  rw [checkListed]
  apply Silent.bind (silent_of_isSize size rfl _)
  apply Silent.bind
  · exact Silent.forEach fun _ _ => silent_of_isSize size rfl _
  apply Silent.bind
  · exact Silent.forEach fun _ _ => silent_of_isSize size rfl _
  · exact Silent.forEach fun _ _ => silent_of_isSize size rfl _

/-- The third part is silent about sizes. -/
theorem checkMounted_silent (system : System) {message : Message} (size : isSize message = true) :
    Silent message (checkMounted system) := by
  rw [checkMounted]
  apply Silent.bind (demand_silent message _ _)
  apply Silent.bind (silent_of_isSize size rfl _)
  apply Silent.bind (demand_silent message _ _)
  apply Silent.bind (silent_of_isSize size rfl _)
  exact silent_of_isSize size rfl _

/-- So is the fourth. -/
theorem checkSection_silent (system : System) {message : Message} (size : isSize message = true) :
    Silent message (checkSection system) := by
  intro among
  rw [checkSection]
  split
  · exact Keeps.pure _
  · split
    · exact Keeps.throw _
    · exact silent_of_isSize size rfl _ among

/-- Whether a message about sizes is in the end among the others is decided by the second part. -/
theorem mem_leaves_test_iff {system : System} {message : Message}
    (size : isSize message = true) {Holds : Prop}
    (decided : ∀ msg, message ∉ msg → ∃ after, checkSizes system msg = .ok ⟨⟩ after ∧
      (message ∈ after ↔ Holds)) :
    message ∈ leaves (test system) [] ↔ Holds := by
  obtain ⟨listed, ranListed⟩ := checkListed_runs system []
  have notListed : message ∉ listed := by
    have kept := checkListed_silent system size False [] (by simp)
    rw [leaves, ranListed] at kept
    exact kept.mp
  obtain ⟨sized, ranSizes, isDecided⟩ := decided listed notListed
  have ran : leaves (test system) [] = leaves (do
      checkMounted system
      checkSection system
      report system) sized := by
    rw [test, leaves_bind, ranListed]
    dsimp only
    rw [leaves_bind, ranSizes]
  have rest : Silent message (do
      checkMounted system
      checkSection system
      report system) :=
    (checkMounted_silent system size).bind
      ((checkSection_silent system size).bind (report_silent system message))
  rw [ran]
  exact rest Holds sized isDecided

/-! ### What is compared -/

/-- One character is in the lines about a disk when it is in one of them. -/
theorem contains_grepped_iff (system : System) (report : List Text) {c : Char}
    (visible : isNewline c = false) :
    contains [c] (system.grepped report) = true ↔
      ∃ line ∈ report, containsIgnoreCase system.disk line = true ∧ c ∈ line := by
  have unbroken : ∀ d ∈ [c], isNewline d = false := by
    intro d member
    rwa [List.mem_singleton.mp member]
  rw [contains, decide_eq_true_iff, System.grepped,
    infix_chomp_printed_iff (List.cons_ne_nil c []) unbroken]
  simp only [List.mem_filter, List.singleton_infix_iff, and_assoc]

/-- There is no blank in a number. -/
theorem blank_not_mem_decimal (n : Nat) : ' ' ∉ decimal n := fun member =>
  absurd (decimal_digits n ' ' member) (by decide)

/-- The sizes for I/O are in a line of sizes for I/O when they are the same. -/
theorem ioSizeString_infix_iff (minimum optimal p q : Nat) :
    ioSizeString (decimal minimum) (decimal optimal) <:+: ioSizeString (decimal p) (decimal q) ↔
      p = minimum ∧ q = optimal := by
  constructor
  · intro inLine
    have once : 'I' ∉ ioSizeTitle.tail ++
        (decimal p ++ (bytesSlash ++ (decimal q ++ bytesWord))) := by
      simp only [List.mem_append, not_or]
      refine ⟨by decide, fun member => ?_, by decide, fun member => ?_, by decide⟩
      · exact absurd (decimal_digits p 'I' member) (by decide)
      · exact absurd (decimal_digits q 'I' member) (by decide)
    have begins : ioSizeTitle ++ (decimal minimum ++ (bytesSlash ++ (decimal optimal ++
        bytesWord))) <+: ioSizeTitle ++ (decimal p ++ (bytesSlash ++ (decimal q ++ bytesWord))) :=
      (infix_cons_once_iff once).mp inLine
    obtain ⟨sameMinimum, rest⟩ := eq_of_prefix_append_cons (blank_not_mem_decimal minimum)
      (blank_not_mem_decimal p) ((List.prefix_append_right_inj _).mp begins)
    have later : bytesSlash.tail ++ (decimal optimal ++ bytesWord) <+:
        bytesSlash.tail ++ (decimal q ++ bytesWord) := rest
    obtain ⟨sameOptimal, _⟩ := eq_of_prefix_append_cons (blank_not_mem_decimal optimal)
      (blank_not_mem_decimal q) ((List.prefix_append_right_inj _).mp later)
    exact ⟨(decimal_injective sameMinimum).symm, (decimal_injective sameOptimal).symm⟩
  · rintro ⟨rfl, rfl⟩
    exact List.infix_refl _

/-- The messages of the second part, when `lsblk` prints a size. -/
theorem checkSizes_apply {system : System} {sizeB : Char} {rest : Text}
    (size : strip (· = '\n') system.sizeOutput = sizeB :: rest) (msg : List Message) :
    checkSizes system msg = .ok ⟨⟩
      (added (contains [sizeB] (system.grepped system.sfdisk)) .sfdiskSize
        (added (contains [sizeB] (system.grepped system.fdisk)) .fdiskSize
          (added (contains (ioSizeString system.mis system.mis) (chomp (printed system.fdisk)))
            .ioSizes
            (added (contains (sectorString system.lbs system.pbs)
              (chomp (printed system.fdisk))) .sectorSizes msg)))) := by
  have some_output : system.sizeOutput ≠ [] := by
    intro none
    rw [none] at size
    cases size
  rw [checkSizes, if_neg some_output, size]
  dsimp only [List.head?_cons]
  rw [check_bind_apply, check_bind_apply, check_bind_apply, check_apply]

section Printed

variable {system : System} {sizes : Sizes}

/-- The size as `lsblk` prints it. -/
def Sizes.printed (sizes : Sizes) : Text :=
  List.replicate sizes.blanks ' ' ++ decimal sizes.lsblk

/-- It consists of blanks and digits. -/
theorem Sizes.printed_visible (sizes : Sizes) :
    ∀ c ∈ sizes.printed, c = ' ' ∨ c.isDigit = true := by
  intro c member
  rcases List.mem_append.mp member with inBlanks | inNumber
  · exact .inl (List.eq_of_mem_replicate inBlanks)
  · exact .inr (decimal_digits sizes.lsblk c inNumber)

/-- It has a first character. -/
theorem Sizes.exists_first (sizes : Sizes) : ∃ c rest, sizes.printed = c :: rest := by
  apply List.exists_cons_of_ne_nil
  intro none
  exact (decimal_isWord sizes.lsblk).nonempty (List.append_eq_nil_iff.mp none).2

/-- This is the character that is looked for. -/
theorem Sizes.head?_printed (sizes : Sizes) {c : Char} {rest : Text}
    (first : sizes.printed = c :: rest) :
    (List.replicate sizes.blanks ' ' ++ decimal sizes.lsblk).head? = some c := by
  rw [← Sizes.printed, first]
  rfl

/-- What `lsblk` prints is taken as it is. -/
theorem strip_sizeOutput (prints : Prints system sizes) :
    strip (· = '\n') system.sizeOutput = sizes.printed := by
  obtain ⟨header, rest, lines⟩ := prints.lsblk
  obtain ⟨c, others, first⟩ := sizes.exists_first
  have nonempty : sizes.printed ≠ [] := by simp [first]
  have solid : ∀ d ∈ sizes.printed, isNewline d = false := fun d member =>
    isNewline_of_visible (sizes.printed_visible d member)
  have noFeed : ∀ d ∈ sizes.printed, decide (d = '\n') = false := by
    intro d member
    have visible := solid d member
    rw [isNewline, Bool.or_eq_false_iff] at visible
    exact visible.1
  have output : system.sizeOutput = sizes.printed := by
    have second : between 2 2 system.lsblk = [sizes.printed] := by
      rw [lines]
      rfl
    have ending : Blank isNewline ['\n'] := forall_of_check (by decide)
    rw [System.sizeOutput, second, Library.LineTools.printed, List.flatMap_singleton]
    exact IsWord.rstrip ⟨nonempty, solid⟩ ending
  rw [output]
  exact IsWord.strip ⟨nonempty, noFeed⟩

/-- The characters of a size that is printed are in the lines about the disk. -/
theorem exists_line_of_printsSize {report : List Text} {bytes : Nat}
    (prints : PrintsSize system.disk report bytes) {c : Char}
    (isPart : c = ' ' ∨ c ∈ decimal bytes) :
    ∃ line ∈ report, containsIgnoreCase system.disk line = true ∧ c ∈ line := by
  obtain ⟨human, sectors, isLine⟩ := prints
  refine ⟨_, isLine, containsIgnoreCase_of_infix ?_, ?_⟩
  · exact (List.prefix_append system.disk _).isInfix.trans (List.suffix_append _ _).isInfix
  · simp only [headline, List.mem_append, List.mem_cons]
    rcases isPart with rfl | inNumber
    · exact .inl (by decide)
    · exact .inr (.inr (.inr (.inr (.inr (.inr (.inr (.inl inNumber)))))))

/-- A size is not found exactly when its first character is absent. -/
theorem not_found_iff {report : List Text} {c : Char} {rest : Text}
    (first : sizes.printed = c :: rest) :
    contains [c] (system.grepped report) = false ↔ Absent system sizes report := by
  have visible : isNewline c = false :=
    isNewline_of_visible (sizes.printed_visible c (by simp [first]))
  rw [← Bool.not_eq_true, contains_grepped_iff system report visible, Absent,
    sizes.head?_printed first]
  simp

/-- A tool is compared rightly exactly when its size is the same or the first character is
absent. -/
theorem compared_iff {report : List Text} {bytes : Nat}
    (prints : PrintsSize system.disk report bytes) :
    (Absent system sizes report ↔ bytes ≠ sizes.lsblk) ↔
      bytes = sizes.lsblk ∨ Absent system sizes report := by
  have same : bytes = sizes.lsblk → ¬Absent system sizes report := by
    rintro rfl absent
    obtain ⟨c, rest, first⟩ := sizes.exists_first
    have isFirst : c ∈ sizes.printed := by simp [first]
    have isPart : c = ' ' ∨ c ∈ decimal sizes.lsblk :=
      (List.mem_append.mp isFirst).imp_left List.eq_of_mem_replicate
    obtain ⟨line, isLine, inLine, shown⟩ := exists_line_of_printsSize prints isPart
    exact absent c (sizes.head?_printed first) line isLine inLine shown
  constructor
  · intro law
    by_cases equal : bytes = sizes.lsblk
    · exact .inl equal
    · exact .inr (law.mpr equal)
  · intro either
    constructor
    · exact fun absent equal => same equal absent
    · exact fun different => either.resolve_left different

end Printed

/-! ### The verdict -/

section Verdict

variable {system : System} {sizes : Sizes}

/-- The sizes for I/O are found when both that `fdisk` prints are the minimum, since the text that
is looked for has the minimum twice. -/
theorem ioSizes_found_iff (prints : Prints system sizes) :
    contains (ioSizeString system.mis system.mis) (chomp (printed system.fdisk)) = true ↔
      sizes.fdiskMinimum = sizes.minimumIo ∧ sizes.fdiskOptimal = sizes.minimumIo := by
  obtain ⟨front, back, lines, untitled⟩ := prints.fdiskIo
  have read : system.mis = decimal sizes.minimumIo := queue_eq prints.minimumIo
  have unbroken : ∀ c ∈ ioSizeString (decimal sizes.minimumIo) (decimal sizes.minimumIo),
      isNewline c = false := by
    intro c member
    simp only [ioSizeString, List.mem_append] at member
    rcases member with inTitle | first | between | second | behind
    · exact none_of_check (by decide) c inTitle
    · exact decimal_unbroken _ c first
    · exact none_of_check (by decide) c between
    · exact decimal_unbroken _ c second
    · exact none_of_check (by decide) c behind
  have nonempty : ioSizeString (decimal sizes.minimumIo) (decimal sizes.minimumIo) ≠ [] :=
    List.cons_ne_nil 'I' _
  have titled : ioSizeTitle <:+: ioSizeString (decimal sizes.minimumIo)
      (decimal sizes.minimumIo) := (List.prefix_append _ _).isInfix
  rw [contains, decide_eq_true_iff, read, infix_chomp_printed_iff nonempty unbroken, lines,
    ← ioSizeString_infix_iff]
  constructor
  · rintro ⟨line, isLine, inLine⟩
    rw [List.mem_append, List.mem_cons] at isLine
    rcases isLine with inFront | rfl | inBack
    · exact absurd (titled.trans inLine) (untitled line (List.mem_append_left back inFront))
    · exact inLine
    · exact absurd (titled.trans inLine) (untitled line (List.mem_append_right front inBack))
  · exact fun inLine => ⟨_, List.mem_append_right front List.mem_cons_self, inLine⟩

/-- A mismatch with `fdisk` is recorded when the first character is absent from its report. -/
theorem fdiskSize_mem_iff (prints : Prints system sizes) :
    Message.fdiskSize ∈ leaves (test system) [] ↔ Absent system sizes system.fdisk := by
  obtain ⟨c, rest, first⟩ := sizes.exists_first
  rw [← not_found_iff first]
  apply mem_leaves_test_iff rfl
  intro msg absent
  exact ⟨_, checkSizes_apply ((strip_sizeOutput prints).trans first) msg,
    by simp [mem_added_iff, absent]⟩

/-- So it is with `sfdisk`. -/
theorem sfdiskSize_mem_iff (prints : Prints system sizes) :
    Message.sfdiskSize ∈ leaves (test system) [] ↔ Absent system sizes system.sfdisk := by
  obtain ⟨c, rest, first⟩ := sizes.exists_first
  rw [← not_found_iff first]
  apply mem_leaves_test_iff rfl
  intro msg absent
  exact ⟨_, checkSizes_apply ((strip_sizeOutput prints).trans first) msg,
    by simp [mem_added_iff, absent]⟩

/-- A mismatch of the sizes for I/O is recorded unless both are the minimum. -/
theorem ioSizes_mem_iff (prints : Prints system sizes) :
    Message.ioSizes ∈ leaves (test system) [] ↔
      ¬(sizes.fdiskMinimum = sizes.minimumIo ∧ sizes.fdiskOptimal = sizes.minimumIo) := by
  obtain ⟨c, rest, first⟩ := sizes.exists_first
  rw [← ioSizes_found_iff prints, Bool.not_eq_true]
  apply mem_leaves_test_iff rfl
  intro msg absent
  exact ⟨_, checkSizes_apply ((strip_sizeOutput prints).trans first) msg,
    by simp [mem_added_iff, absent]⟩

/-- The comparison is right exactly when each tool prints the size of `lsblk` or no line about the
disk with its first character, and the minimum is the optimal size for I/O, or the minimum that
`fdisk` prints is another one, or its optimal size is neither of the two. -/
theorem compares_iff (prints : Prints system sizes) :
    Compares system sizes ↔
      (sizes.fdisk = sizes.lsblk ∨ Absent system sizes system.fdisk) ∧
      (sizes.sfdisk = sizes.lsblk ∨ Absent system sizes system.sfdisk) ∧
      (sizes.minimumIo = sizes.optimalIo ∨ sizes.fdiskMinimum ≠ sizes.minimumIo ∨
        (sizes.fdiskOptimal ≠ sizes.minimumIo ∧ sizes.fdiskOptimal ≠ sizes.optimalIo)) := by
  have ioCompared : (¬(sizes.fdiskMinimum = sizes.minimumIo ∧
      sizes.fdiskOptimal = sizes.minimumIo) ↔
        (sizes.fdiskMinimum, sizes.fdiskOptimal) ≠ (sizes.minimumIo, sizes.optimalIo)) ↔
      (sizes.minimumIo = sizes.optimalIo ∨ sizes.fdiskMinimum ≠ sizes.minimumIo ∨
        (sizes.fdiskOptimal ≠ sizes.minimumIo ∧ sizes.fdiskOptimal ≠ sizes.optimalIo)) := by
    rw [Ne, Prod.mk.injEq]
    omega
  rw [← compared_iff prints.fdisk, ← compared_iff prints.sfdisk, ← ioCompared,
    ← fdiskSize_mem_iff prints, ← sfdiskSize_mem_iff prints, ← ioSizes_mem_iff prints]
  exact ⟨fun compares => ⟨compares.fdisk, compares.sfdisk, compares.io⟩,
    fun ⟨fdiskLaw, sfdiskLaw, ioLaw⟩ => ⟨fdiskLaw, sfdiskLaw, ioLaw⟩⟩

end Verdict

/-- A disk with a size in each of the reports. -/
def sizedDisk (lsblk fdisk sfdisk fdiskMinimum : Nat) : System :=
  plainDisk ["SIZE".toList, decimal lsblk]
    [headline "/dev/sda".toList "1 KiB".toList fdisk 2,
      ioSizeString (decimal fdiskMinimum) (decimal 4096)]
    [headline "/dev/sda".toList "1 KiB".toList sfdisk 2] []

/-- Its sizes. Those for I/O are in sysfs. -/
def sizedSizes (lsblk fdisk sfdisk fdiskMinimum : Nat) : Sizes :=
  ⟨lsblk, 0, fdisk, sfdisk, 512, 4096, fdiskMinimum, 4096⟩

/-- The tools print them. -/
theorem sizedDisk_prints {lsblk fdisk sfdisk fdiskMinimum : Nat}
    (untitled : ¬ioSizeTitle <:+: headline "/dev/sda".toList "1 KiB".toList fdisk 2) :
    Prints (sizedDisk lsblk fdisk sfdisk fdiskMinimum)
      (sizedSizes lsblk fdisk sfdisk fdiskMinimum) where
  lsblk := ⟨_, _, rfl⟩
  fdisk := ⟨_, _, List.mem_cons_self⟩
  sfdisk := ⟨_, _, List.mem_cons_self⟩
  minimumIo := holdsNumber_plainDisk 512 (by decide +kernel) _ _ _ _
  optimalIo := holdsNumber_plainDisk 4096 (by decide +kernel) _ _ _ _
  fdiskIo := ⟨[_], [], rfl, by simpa using untitled⟩

/-- The size of `lsblk` has a nine, and the one of `sfdisk` is another one without it. -/
theorem compares_sizedDisk : Compares (sizedDisk 960 960 1024 1024)
    (sizedSizes 960 960 1024 1024) := by
  have nine : (decimal 960).head? = some '9' := by decide +kernel
  have absent : ∀ line ∈ (sizedDisk 960 960 1024 1024).sfdisk,
      containsIgnoreCase "/dev/sda".toList line = true → '9' ∉ line := by decide +kernel
  refine (compares_iff (sizedDisk_prints (by decide +kernel))).mpr ⟨.inl rfl, .inr ?_, ?_⟩
  · intro c isFirst
    rw [← Option.some_inj.mp (nine.symm.trans isFirst)]
    exact absent
  · exact .inr (.inl (by decide))

/-- A size with the same first digit is not reported, and sizes for I/O that agree are. -/
theorem sizes_not_compared :
    Message.fdiskSize ∉ leaves (test (sizedDisk 1000 1024 1024 512)) [] ∧
    Message.ioSizes ∈ leaves (test (sizedDisk 1000 1024 1024 512)) [] ∧
    ¬Compares (sizedDisk 1000 1024 1024 512) (sizedSizes 1000 1024 1024 512) := by
  have prints : Prints (sizedDisk 1000 1024 1024 512) (sizedSizes 1000 1024 1024 512) :=
    sizedDisk_prints (by decide +kernel)
  have shown : ∃ line ∈ (sizedDisk 1000 1024 1024 512).fdisk,
      containsIgnoreCase "/dev/sda".toList line = true ∧ '1' ∈ line := by decide +kernel
  have one : (decimal 1000).head? = some '1' := by decide +kernel
  have silent : Message.fdiskSize ∉ leaves (test (sizedDisk 1000 1024 1024 512)) [] := by
    rw [fdiskSize_mem_iff prints]
    obtain ⟨line, isLine, inLine, member⟩ := shown
    exact fun absent => absent '1' one line isLine inLine member
  have reported : Message.ioSizes ∈ leaves (test (sizedDisk 1000 1024 1024 512)) [] := by
    rw [ioSizes_mem_iff prints]
    decide
  exact ⟨silent, reported, fun compares => silent (compares.fdisk.mpr (by decide))⟩

end AvocadoMisc.DiskInfo.SizeChecks
