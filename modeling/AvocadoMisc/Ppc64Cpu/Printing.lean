import AvocadoMisc.Ppc64Cpu.Commands

/-!
# A printer of machines

What `ppc64_cpu` prints about a machine, line by line: each core with its threads, the SMT mode, and
the numbers of cores. The readers of the tests find the machine again.
-/

namespace AvocadoMisc.Ppc64Cpu.Printing

open Library.Text Info SystemState Commands

/-- The threads of a core: those that are online come first and have a star. -/
def printThreads (maxSmt number count : Nat) : List Text :=
  (List.range count).map (fun i => decimal (number * maxSmt + i) ++ ['*']) ++
    (List.range (maxSmt - count)).map fun i => decimal (number * maxSmt + count + i)

/-- A thread is printed as a word. -/
theorem isWord_of_mem_printThreads {maxSmt number count : Nat} {thread : Text}
    (member : thread ∈ printThreads maxSmt number count) : IsWord charSpace thread := by
  rw [printThreads, List.mem_append, List.mem_map, List.mem_map] at member
  rcases member with ⟨i, -, rfl⟩ | ⟨i, -, rfl⟩
  · refine ⟨by simp, fun c inside => ?_⟩
    rcases List.mem_append.mp inside with digit | star
    · exact (decimal_isWord _).2 c digit
    · rw [List.mem_singleton.mp star]
      decide
  · exact decimal_isWord _

/-- Words with spaces between them are those words. -/
theorem words_spaced {fields : List Text} (solid : ∀ field ∈ fields, IsWord charSpace field) :
    words charSpace ([' '].intercalate fields) = fields := by
  rw [words_intercalate (by decide)]
  induction fields with
  | nil => rfl
  | cons field rest inductionHypothesis =>
    rw [List.flatMap_cons, words_solid (solid field (by simp)),
      inductionHypothesis fun other member => solid other (List.mem_cons_of_mem field member)]
    rfl

/-- A text whose first and last characters are solid is not stripped. -/
theorem strip_eq_self {text : Text} (first : ∀ c ∈ text.head?, charSpace c = false)
    (last : ∀ c ∈ text.getLast?, charSpace c = false) : strip charSpace text = text := by
  have nothing : Blank charSpace [] := fun c member => absurd member List.not_mem_nil
  exact strip_indented nothing first last

/-- The line break at the end of an output is stripped. -/
theorem strip_newline {text : Text} (first : ∀ c ∈ text.head?, charSpace c = false)
    (last : ∀ c ∈ text.getLast?, charSpace c = false) :
    strip charSpace (text ++ ['\n']) = text := by
  have newline : Blank charSpace ['\n'] := forall_of_check (by decide)
  rw [strip_append_blank newline, strip_eq_self first last]

/-- The first character of words with spaces between them is solid. -/
theorem head_spaced {fields : List Text} (solid : ∀ field ∈ fields, IsWord charSpace field) :
    ∀ c ∈ ([' '].intercalate fields).head?, charSpace c = false := by
  cases fields with
  | nil => simp
  | cons field rest =>
    obtain ⟨nonempty, noBlank⟩ := solid field (by simp)
    obtain ⟨first, others, rfl⟩ := List.exists_cons_of_ne_nil nonempty
    have firstSolid := noBlank first (by simp)
    cases rest <;> simp [List.intercalate_cons_cons, firstSolid]

/-- The last character of words with spaces between them is solid. -/
theorem getLast_spaced {fields : List Text} (solid : ∀ field ∈ fields, IsWord charSpace field) :
    ∀ c ∈ ([' '].intercalate fields).getLast?, charSpace c = false := by
  rcases fields.eq_nil_or_concat with rfl | ⟨before, last, rfl⟩
  · simp
  · rw [List.concat_eq_append] at solid ⊢
    obtain ⟨nonempty, noBlank⟩ := solid last (by simp)
    obtain ⟨front, split⟩ := exists_intercalate_last ' ' before
    intro c isLast
    rw [split last, List.getLast?_append_of_ne_nil _ nonempty] at isLast
    exact noBlank c (List.mem_of_mem_getLast? isLast)

/-- The line of a core. -/
def printCore (maxSmt number count : Nat) : CoreLine where
  gap := "   ".toList
  number := number
  space := "    ".toList
  threads := [' '].intercalate (printThreads maxSmt number count)
  blankGap := forall_of_check (by decide)
  gapped := by simp
  blankSpace := forall_of_check (by decide)
  spaced := by simp
  solid := head_spaced fun _ => isWord_of_mem_printThreads
  unbroken := by
    intro member
    have onLine : ∀ c ∈ [' '].intercalate (printThreads maxSmt number count), c ≠ '\n' :=
      forall_mem_intercalate (fun thread inThreads c inside same => by
        have := (isWord_of_mem_printThreads inThreads).2 c inside
        rw [same] at this
        exact absurd this (by decide)) (by decide)
    exact onLine _ member rfl

/-- The stars are counted. -/
theorem onlineThreads_printCore (maxSmt number count : Nat) :
    (printCore maxSmt number count).item.onlineThreads = count := by
  have starred (i : Nat) : contains ['*'] (decimal (number * maxSmt + i) ++ ['*']) = true :=
    decide_eq_true (List.suffix_append _ _).isInfix
  have plain (i : Nat) : contains ['*'] (decimal (number * maxSmt + count + i)) = false := by
    refine decide_eq_false fun part => ?_
    have star : '*' ∈ decimal (number * maxSmt + count + i) := part.subset (by simp)
    exact absurd (decimal_digits _ _ star) (by decide)
  have words_eq : words charSpace (printCore maxSmt number count).threads =
      printThreads maxSmt number count := words_spaced fun _ => isWord_of_mem_printThreads
  rw [CoreLine.item, words_eq, printThreads, List.filter_append, List.filter_map, List.filter_map,
    List.length_append, List.length_map, List.length_map]
  simp [Function.comp_def, starred, plain]

/-- The lines of the cores. -/
def printCores (maxSmt : Nat) (machine : Machine) : List CoreLine :=
  machine.zipIdx.map fun core => printCore maxSmt core.2 core.1

/-- `ppc64_cpu --info`. -/
def printInfo (maxSmt : Nat) (machine : Machine) : Text :=
  ['\n'].intercalate ((printCores maxSmt machine).map CoreLine.text)

/-- The last character of a core's line is solid. -/
theorem getLast_printCore {maxSmt : Nat} (capable : 1 ≤ maxSmt) (number count : Nat) :
    ∀ c ∈ (printCore maxSmt number count).text.getLast?, charSpace c = false := by
  have some_ : printThreads maxSmt number count ≠ [] := by
    have length : (printThreads maxSmt number count).length = count + (maxSmt - count) := by
      simp [printThreads]
    intro none
    rw [none, List.length_nil] at length
    omega
  have threads : (printCore maxSmt number count).threads ≠ [] := by
    intro nothing
    have none : words charSpace ([] : Text) = printThreads maxSmt number count := by
      rw [← nothing]
      exact words_spaced fun _ => isWord_of_mem_printThreads
    exact some_ (none.symm.trans (by simp [words, cut]))
  have split (line : CoreLine) : ∃ front, line.text = front ++ line.threads :=
    ⟨['C', 'o', 'r', 'e'] ++ (line.gap ++ (decimal line.number ++ ([':'] ++ line.space))),
      by simp [CoreLine.text]⟩
  obtain ⟨front, whole⟩ := split (printCore maxSmt number count)
  rw [whole, List.getLast?_append_of_ne_nil _ threads]
  exact getLast_spaced fun _ => isWord_of_mem_printThreads

/-- A line of a core is on one line. -/
theorem unbroken_printCore (maxSmt number count : Nat) :
    ∀ c ∈ (printCore maxSmt number count).text, charBreak c = false := by
  have digits := decimal_digits number
  have threads : ∀ c ∈ (printCore maxSmt number count).threads, charBreak c = false :=
    forall_mem_intercalate (fun thread inThreads c inside =>
      charBreak_of_solid ((isWord_of_mem_printThreads inThreads).2 c inside)) (by decide)
  have number_ : ∀ c ∈ decimal number, charBreak c = false := fun c inside =>
    charBreak_of_solid ((decimal_isWord number).2 c inside)
  have core : ∀ c ∈ ['C', 'o', 'r', 'e'], charBreak c = false := forall_of_check (by decide)
  have gap : ∀ c ∈ "   ".toList, charBreak c = false := forall_of_check (by decide)
  have space : ∀ c ∈ "    ".toList, charBreak c = false := forall_of_check (by decide)
  have colon : ∀ c ∈ [':'], charBreak c = false := forall_of_check (by decide)
  intro c inside
  simp only [CoreLine.text, List.mem_append] at inside
  rcases inside with first | second | third | fourth | fifth | sixth
  · exact core c first
  · exact gap c second
  · exact number_ c third
  · exact colon c fourth
  · exact space c fifth
  · exact threads c sixth

/-- The output has the lines of the cores and no others. It begins with a letter and does not end in
white space, so stripping it changes nothing. -/
theorem prints_printInfo {maxSmt : Nat} (capable : 1 ≤ maxSmt) (machine : Machine) :
    Prints (printInfo maxSmt machine) ((printCores maxSmt machine).map Line.core) where
  printed := by
    have listed : ((printCores maxSmt machine).map Line.core).map Line.text =
        (printCores maxSmt machine).map CoreLine.text := by simp [Line.text]
    have first : ∀ c ∈ (printInfo maxSmt machine).head?, charSpace c = false := by
      unfold printInfo printCores
      cases machine with
      | nil => simp
      | cons count rest =>
        intro c isFirst
        have letter : c = 'C' := by
          cases rest <;>
            simpa [CoreLine.text, List.intercalate_cons_cons, eq_comm] using isFirst
        rw [letter]
        decide
    have last : ∀ c ∈ (printInfo maxSmt machine).getLast?, charSpace c = false := by
      unfold printInfo printCores
      rcases machine.eq_nil_or_concat with rfl | ⟨before, count, rfl⟩
      · simp
      · rw [List.concat_eq_append, List.zipIdx_append, List.map_append, List.map_append]
        obtain ⟨front, split⟩ := exists_intercalate_last '\n'
          ((before.zipIdx.map fun core => printCore maxSmt core.2 core.1).map CoreLine.text)
        have some_ (number : Nat) : (printCore maxSmt number count).text ≠ [] := by
          simp [CoreLine.text]
        intro c isLast
        simp only [List.zipIdx_singleton, List.map_cons, List.map_nil, split,
          List.getLast?_append_of_ne_nil _ (some_ _)] at isLast
        exact getLast_printCore capable _ count c isLast
    rw [strip_eq_self first last, listed, printInfo]
    refine lines_intercalate (by decide) (by decide) (by decide) ?_ ?_
    · simp only [printCores, List.mem_map, forall_exists_index, and_imp,
        forall_apply_eq_imp_iff₂]
      exact fun core _ => unbroken_printCore maxSmt core.2 core.1
    · intro empty
      have member := List.mem_of_mem_getLast? (Option.mem_def.mpr empty)
      obtain ⟨line, -, nothing⟩ := List.mem_map.mp member
      simp [CoreLine.text] at nothing
  distinct := by
    have cores : coreLines ((printCores maxSmt machine).map Line.core) =
        printCores maxSmt machine := by
      simp [coreLines, List.filterMap_map, Function.comp_def, Line.core?]
    have numbers : (printCores maxSmt machine).map CoreLine.number =
        List.range machine.length := by
      rw [printCores, List.map_map, List.range_eq_range', ← List.zipIdx_map_snd 0 machine]
      rfl
    rw [cores, numbers]
    exact List.nodup_range

/-! ### A command -/

/-- The mode of the machine. -/
def modeOf (machine : Machine) : Nat := machine.foldr max 0

/-- The number of threads that a value of `--smt` stands for. -/
def threadsOf (maxSmt : Nat) (value : Text) : Nat :=
  if value = off then 1
  else if value = on then maxSmt
  else Library.Numerals.value 10 value

/-- The machine without some cores. -/
def takeOffline (cores : List Nat) (numbered : List (Nat × Nat)) : Machine :=
  numbered.map fun core => if cores.contains core.2 then 0 else core.1

/-- What the command does. -/
def runCommand (maxSmt : Nat) (command : Command) (machine : Machine) : Int × Machine :=
  match command with
  | .smt value => (0, machine.map fun count => if count = 0 then 0 else threadsOf maxSmt value)
  | .coresOn count =>
    (0, List.replicate count (modeOf machine) ++ List.replicate (machine.length - count) 0)
  | .coresOnAll => (0, List.replicate machine.length (modeOf machine))
  | .offlineCores cores =>
    (0, takeOffline cores machine.zipIdx)

/-- `ppc64_cpu --smt`. -/
def printSmt (machine : Machine) : Text :=
  if modeOf machine = 1 then "SMT is off\n".toList
  else "SMT=".toList ++ (decimal (modeOf machine) ++ ['\n'])

/-- `ppc64_cpu --cores-on`, with so many cores. -/
def printCoresOn (cores : Nat) : Text :=
  "Number of cores online ".toList ++ '=' :: ([' '] ++ (decimal cores ++ ['\n']))

/-- A command that prints and does what is documented. -/
def printingTool (maxSmt : Nat) : Tool where
  run := runCommand maxSmt
  info := printInfo maxSmt
  smt := printSmt
  coresOn machine := printCoresOn (onlineCores machine)
  coresPresent machine :=
    "Number of cores present = ".toList ++ (decimal machine.length ++ ['\n'])
  onlineCount := onlineCpus

/-- The mode of a machine with so many threads on each online core. The mode is the largest count,
and a core that is offline counts as zero; one core must be online. -/
theorem modeOf_eq {machine : Machine} {threads : Nat} (each : EachHas threads machine)
    (online : 0 < onlineCores machine) : modeOf machine = threads := by
  have atMost (rest : Machine) (each : EachHas threads rest) : modeOf rest ≤ threads := by
    induction rest with
    | nil => exact Nat.zero_le _
    | cons count rest inductionHypothesis =>
      have further := inductionHypothesis fun other member => each other (by simp [member])
      have here : count ≤ threads := by
        rcases each count (by simp) with rfl | rfl
        · exact Nat.zero_le _
        · exact le_rfl
      exact Nat.max_le.mpr ⟨here, further⟩
  have atLeast (rest : Machine) (member : threads ∈ rest) : threads ≤ modeOf rest := by
    induction rest with
    | nil => cases member
    | cons count rest inductionHypothesis =>
      rcases List.mem_cons.mp member with rfl | later
      · exact Nat.le_max_left _ _
      · exact (inductionHypothesis later).trans (Nat.le_max_right _ _)
  obtain ⟨count, counted⟩ := List.exists_mem_of_length_pos online
  obtain ⟨member, positive⟩ := List.mem_filter.mp counted
  have same : count = threads := by
    rcases each count member with rfl | same
    · simp at positive
    · exact same
  exact le_antisymm (atMost machine each) (atLeast machine (same ▸ member))

/-- A value has the number of threads that it means. -/
theorem threadsOf_eq {maxSmt threads : Nat} {value : Text} (means : Means maxSmt value threads) :
    threadsOf maxSmt value = threads := by
  rcases means with ⟨rfl, rfl⟩ | ⟨rfl, rfl⟩ | ⟨rfl, -, -⟩
  · rfl
  · rfl
  · have digits := decimal_digits threads
    have notOff : decimal threads ≠ off := fun same =>
      absurd (digits 'o' (same ▸ by simp [off])) (by decide)
    have notOn : decimal threads ≠ on := fun same =>
      absurd (digits 'o' (same ▸ by simp [on])) (by decide)
    rw [threadsOf, if_neg notOff, if_neg notOn, Library.Numerals.value_decimal]

/-- The line break behind a word at the end of an output is stripped. -/
theorem strip_line {front word : Text} (first : ∀ c ∈ front.head?, charSpace c = false)
    (something : front ≠ []) (isWord : IsWord charSpace word) :
    strip charSpace (front ++ (word ++ ['\n'])) = front ++ word := by
  have firstWhole : ∀ c ∈ (front ++ word).head?, charSpace c = false := by
    rw [List.head?_append_of_ne_nil _ something]
    exact first
  have lastWhole : ∀ c ∈ (front ++ word).getLast?, charSpace c = false := by
    rw [List.getLast?_append_of_ne_nil _ isWord.nonempty]
    exact fun c isLast => isWord.solid c (List.mem_of_mem_getLast? isLast)
  rw [← List.append_assoc]
  exact strip_newline firstWhole lastWhole

/-- What holds of the character in front of a word, by computation. -/
theorem separated_of_check {Holds : Char → Prop} [DecidablePred Holds] {last : Option Char}
    (check : (last.all fun c => decide (Holds c)) = true) : ∀ c ∈ last, Holds c := by
  cases last with
  | none => simp
  | some c => simpa using check

/-- The mode is at the end of what is printed. -/
theorem endsWith_printSmt (machine : Machine) :
    EndsWith (printSmt machine) (modeText (modeOf machine)) := by
  by_cases single : modeOf machine = 1
  · have printed : printSmt machine = "SMT is ".toList ++ (off ++ ['\n']) := if_pos single
    rw [modeText, if_pos single, printed]
    have isWord : IsWord charSpace off := isWord_of_check (by decide) (by decide)
    exact ⟨isWord, by decide, _,
      strip_line (first_of_check (by decide)) (by decide) isWord, separated_of_check (by decide)⟩
  · rw [modeText, if_neg single, printSmt, if_neg single]
    exact ⟨decimal_isWord _, equals_notMem_decimal _, _,
      strip_line (first_of_check (by decide)) (by decide) (decimal_isWord _),
      separated_of_check (by decide)⟩

/-- No complaint is in what is printed. -/
theorem contains_printSmt {complaint : Text} (spaced : ' ' ∈ complaint)
    (notOff : contains complaint "SMT is off\n".toList = false) (machine : Machine) :
    contains complaint (printSmt machine) = false := by
  by_cases single : modeOf machine = 1
  · rwa [printSmt, if_pos single]
  · rw [printSmt, if_neg single]
    refine decide_eq_false fun part => ?_
    have space := part.subset spaced
    simp only [List.mem_append] at space
    rcases space with name | digit | newline
    · exact absurd name (by decide)
    · exact absurd (decimal_digits _ _ digit) (by decide)
    · exact absurd newline (by decide)

/-- What is printed shows the machine. -/
theorem shows_outputs {maxSmt threads : Nat} (capable : 1 ≤ maxSmt) {machine : Machine}
    (each : EachHas threads machine) (online : 0 < onlineCores machine) :
    Shows ((printingTool maxSmt).outputs machine) machine (modeText threads) where
  info := by
    have cores : coreLines ((printCores maxSmt machine).map Line.core) =
        printCores maxSmt machine := by
      simp [coreLines, List.filterMap_map, Function.comp_def, Line.core?]
    have counts : (printCores maxSmt machine).map (fun line => line.item.onlineThreads) =
        machine := by
      simp only [printCores, List.map_map, Function.comp_def, onlineThreads_printCore]
      exact List.zipIdx_map_fst 0 machine
    exact ⟨_, prints_printInfo capable machine, by rw [cores, counts]⟩
  smt := modeOf_eq each online ▸ endsWith_printSmt machine
  coresOn := by
    have first : ∀ c ∈ ("Number of cores online =".toList ++ [' ']).head?,
        charSpace c = false := first_of_check (by decide)
    have stripped := strip_line first (by decide) (decimal_isWord (onlineCores machine))
    have blank : Blank charSpace [' '] := forall_of_check (by decide)
    refine ⟨"Number of cores online ".toList, [' '], blank, ?_⟩
    exact stripped
  onlineCount := rfl

/-- Two cores with two threads each and one that is offline pass the verification. -/
theorem verifySystemState_exact_two :
    (verifySystemState ((printingTool 2).outputs [2, 0, 2]) (some (decimal 2)) (some 2)).isSome ∧
      (verifySystemState ((printingTool 2).outputs [2, 0, 2]) (some (decimal 2)) (some 2) =
          some true ↔
        Meets [2, 0, 2] (modeText 2) (some (decimal 2)) (some 2)) :=
  verifySystemState_exact (shows_outputs (by decide) (by unfold EachHas; decide) (by decide))

/-- As many cores are online when the online ones change their mode. -/
theorem onlineCores_setMode {threads : Nat} (some_ : 1 ≤ threads) (machine : Machine) :
    onlineCores (machine.map fun count => if count = 0 then 0 else threads) =
      onlineCores machine := by
  have positive (count : Nat) : (0 < if count = 0 then 0 else threads) ↔ 0 < count := by
    split <;> omega
  rw [onlineCores, onlineCores, List.filter_map, List.length_map]
  simp only [Function.comp_def, positive]

/-- The first cores are online and the others are not. -/
theorem onlineCores_replicate {threads : Nat} (some_ : 1 ≤ threads) (cores others : Nat) :
    onlineCores (List.replicate cores threads ++ List.replicate others 0) = cores := by
  have positive : 0 < threads := some_
  simp [onlineCores, positive]

/-- Cores that are no longer online were named. -/
theorem onlineCores_le_takeOffline (cores : List Nat) (numbered : List (Nat × Nat)) :
    onlineCores (numbered.map Prod.fst) ≤
      onlineCores (takeOffline cores numbered) +
        (numbered.filter fun core => cores.contains core.2).length := by
  unfold onlineCores takeOffline
  induction numbered with
  | nil => simp
  | cons core rest inductionHypothesis =>
    by_cases named : core.2 ∈ cores
    · by_cases online : 0 < core.1 <;>
        simp [named, online] at inductionHypothesis ⊢ <;> omega
    · by_cases online : 0 < core.1 <;>
        simp [named, online] at inductionHypothesis ⊢ <;> omega

/-- No more cores than are named go offline. -/
theorem onlineCores_le (cores : List Nat) (machine : Machine) :
    onlineCores machine ≤ onlineCores (takeOffline cores machine.zipIdx) + cores.length := by
  have all := onlineCores_le_takeOffline cores machine.zipIdx
  rw [List.zipIdx_map_fst] at all
  have distinct : (machine.zipIdx.map Prod.snd).Nodup := by
    rw [List.zipIdx_map_snd]
    exact List.nodup_range'
  have named : ((machine.zipIdx.filter fun core => cores.contains core.2).map Prod.snd).Subperm
      cores := by
    refine List.Nodup.subperm (distinct.sublist (List.filter_sublist.map _)) fun number member => ?_
    obtain ⟨core, inNamed, rfl⟩ := List.mem_map.mp member
    exact List.contains_iff_mem.mp (List.mem_filter.mp inNamed).2
  have few := named.length_le
  rw [List.length_map] at few
  omega

/-- The command keeps what is documented. So what the results about the tests assume of `ppc64_cpu`
can be met, by a command that computes what it prints from the machine. -/
theorem documented_printingTool {maxSmt : Nat} (capable : 2 ≤ maxSmt) :
    Documented (printingTool maxSmt) maxSmt where
  capable := capable
  smtCapable := contains_printSmt (by decide) (by decide)
  consistent machine _ _ := contains_printSmt (by decide) (by decide) machine
  shows _ _ each online _ := shows_outputs (by omega) each online
  coresOnPrinted := ⟨printCoresOn, fun _ => rfl⟩
  coresPresent machine :=
    ⟨_, strip_line (first_of_check (by decide)) (by decide) (decimal_isWord machine.length),
      separated_of_check (by decide)⟩
  smt machine value threads means := by
    have some_ : 1 ≤ threads := by
      rcases means with ⟨-, rfl⟩ | ⟨-, rfl⟩ | ⟨-, atLeast, -⟩ <;> omega
    refine ⟨_, rfl, List.length_map _, ?_, ?_⟩
    · intro count member
      obtain ⟨before, -, rfl⟩ := List.mem_map.mp member
      rw [threadsOf_eq means]
      split
      · exact Or.inl rfl
      · exact Or.inr rfl
    · rw [threadsOf_eq means]
      exact onlineCores_setMode some_ machine
  coresOn machine threads cores each online some_ _ enough := by
    refine ⟨_, rfl, ?_, ?_, ?_⟩
    · simp [enough]
    · intro count member
      rw [modeOf_eq each online] at member
      rcases List.mem_append.mp member with first | other
      · exact Or.inr (List.eq_of_mem_replicate first)
      · exact Or.inl (List.eq_of_mem_replicate other)
    · rw [modeOf_eq each online]
      exact onlineCores_replicate some_ _ _
  coresOnAll machine threads each online some_ := by
    refine ⟨_, rfl, List.length_replicate, ?_, ?_⟩
    · intro count member
      rw [modeOf_eq each online] at member
      exact Or.inr (List.eq_of_mem_replicate member)
    · rw [modeOf_eq each online]
      simpa using onlineCores_replicate some_ machine.length 0
  offlineCores machine threads cores each some_ := by
    refine ⟨0, _, _, rfl, ⟨?_, ?_, rfl⟩, onlineCores_le cores machine⟩
    · simp [takeOffline]
    · intro count member
      obtain ⟨core, inMachine, rfl⟩ := List.mem_map.mp member
      split
      · exact Or.inl rfl
      · exact each core.1 (List.fst_mem_of_mem_zipIdx inMachine)

end AvocadoMisc.Ppc64Cpu.Printing
