import Mathlib.Algebra.Order.BigOperators.Group.List
import AvocadoMisc.Ppc64Cpu.Info

/-!
# The verification of the system's state

`verify_system_state` reads four outputs: the cores with their threads, the SMT mode, the number of
online cores and the number of online CPUs. It compares the mode and the number of cores with what
is expected, and it asks whether the online cores agree and whether the CPUs are as many as cores
times threads.

On the outputs of one machine the last comparison cannot fail when the cores agree, so the answer
is whether the expectations are met and the online cores have one number of threads.
-/

namespace AvocadoMisc.Ppc64Cpu.SystemState

open Library.NumberTexts Library.Text Info

/-- The number of online threads of each core. -/
abbrev Machine := List Nat

/-- The number of online cores. -/
def onlineCores (machine : Machine) : Nat := (machine.filter (0 < ·)).length

/-- The number of online CPUs. -/
def onlineCpus (machine : Machine) : Nat := machine.sum

/-- The text behind the last equals sign: `output.strip().split("=")[-1]`. -/
def afterEquals (output : Text) : Text := ((strip charSpace output).splitOn '=').getLastD []

/-- The mode in the output of `ppc64_cpu --smt`. There is none where an index is out of range. -/
def currentSmt (smtOutput : Text) : Option Text :=
  (words charSpace (afterEquals smtOutput)).getLast?

/-- The number in the output of `ppc64_cpu --cores-on`. -/
def coresOnOf (coresOutput : Text) : Option Int := int (afterEquals coresOutput)

/-- The number in the output of `ppc64_cpu --cores-present`. -/
def coresPresentOf (coresPresentOutput : Text) : Option Int :=
  (words charSpace (strip charSpace coresPresentOutput)).getLast?.bind int

/-- What the commands and `cpu.online_count` answer. -/
structure Outputs where
  info : Text
  smt : Text
  coresOn : Text
  onlineCount : Nat

/-- `'off'`. -/
def off : Text := ['o', 'f', 'f']

/-- The check of the CPUs: online CPUs are online cores times threads. -/
def cpuCountFits (currentSmt : Text) (smtMode : Option Nat) (coresOn : Int) (onlineCpus : Nat) :
    Bool :=
  match smtMode with
  | none => true
  | some threads =>
    if currentSmt ≠ off ∧ threads ≠ 0 then decide ((onlineCpus : Int) = coresOn * threads) else true

/-- `verify_system_state`. There is no answer where an exception is raised. -/
def verifySystemState (outputs : Outputs) (expectedSmt : Option Text)
    (expectedCoresOn : Option Int) : Option Bool := do
  let info := parsePpc64CpuInfo outputs.info
  let currentSmt ← currentSmt outputs.smt
  let coresOn ← coresOnOf outputs.coresOn
  let smtMatches := expectedSmt.all fun smt => decide (currentSmt = smt)
  let coresMatch := expectedCoresOn.all fun cores => decide (coresOn = cores)
  some (smtMatches && coresMatch && !info.inconsistent &&
    cpuCountFits currentSmt info.smtMode coresOn outputs.onlineCount)

/-! ### The outputs of a machine -/

/-- An output, when stripped, ends with a word. An equals sign or white space is in front of the
word, or nothing. -/
structure EndsWith (output word : Text) : Prop where
  isWord : IsWord charSpace word
  plain : '=' ∉ word
  ends : ∃ front : Text, strip charSpace output = front ++ word ∧
    ∀ c ∈ front.getLast?, c = '=' ∨ charSpace c = true

/-- An output, when stripped, ends with a word. White space is in front of the word, or nothing. -/
def EndsWithWord (output word : Text) : Prop :=
  ∃ front : Text, strip charSpace output = front ++ word ∧
    ∀ c ∈ front.getLast?, charSpace c = true

/-- An output, when stripped, ends with an equals sign and a number. -/
def EndsWithNumber (output : Text) (n : Nat) : Prop :=
  ∃ front gap : Text, Blank charSpace gap ∧
    strip charSpace output = front ++ '=' :: (gap ++ decimal n)

/-- The outputs are those of a machine in some SMT mode. -/
structure Shows (outputs : Outputs) (machine : Machine) (mode : Text) : Prop where
  info : ∃ lines, Prints outputs.info lines ∧
    (coreLines lines).map (fun line => line.item.onlineThreads) = machine
  smt : EndsWith outputs.smt mode
  coresOn : EndsWithNumber outputs.coresOn (onlineCores machine)
  onlineCount : outputs.onlineCount = onlineCpus machine

/-- Online cores have one number of online threads. -/
def Agrees (machine : Machine) : Prop :=
  ∀ first ∈ machine, ∀ second ∈ machine, 0 < first → 0 < second → first = second

/-! ### Reading the outputs -/

/-- There is no equals sign in a number. -/
theorem equals_notMem_decimal (n : Nat) : '=' ∉ decimal n := fun member =>
  absurd (decimal_digits n '=' member) (by decide)

/-- The word at the end of the output is read. -/
theorem currentSmt_of_endsWith {output word : Text} (ends : EndsWith output word) :
    currentSmt output = some word := by
  obtain ⟨isWord, plain, front, split, separated⟩ := ends
  have alone : words charSpace word = [word] := words_solid isWord
  rw [currentSmt, afterEquals, split]
  rcases front.eq_nil_or_concat with rfl | ⟨before, c, rfl⟩
  · rw [List.nil_append, List.splitOn_eq_singleton plain]
    exact congrArg List.getLast? alone
  · rw [List.concat_eq_append, List.append_assoc, List.singleton_append]
    by_cases equals : c = '='
    · rw [equals, getLastD_splitOn_append _ plain, alone]
      rfl
    · have white : charSpace c = true := by simpa [equals] using separated
      rw [getLastD_splitOn_extend before (by simp [Ne.symm equals, plain]),
        words_append white, alone, List.getLast?_append]
      rfl

/-- A number is read, with white space before it. -/
theorem int_blank_decimal {gap : Text} (blank : Blank charSpace gap) (n : Nat) :
    int (gap ++ decimal n) = some (n : Int) := by
  have nothing : Blank charSpace [] := fun c member => absurd member List.not_mem_nil
  have stripped : strip charSpace (gap ++ decimal n) = decimal n := by
    simpa using (decimal_isWord n).strip_between blank nothing
  have read : int (decimal n) = some (n : Int) := by
    have written := int_numeral (Library.Numerals.ofNat n)
    rwa [Library.Numerals.toNat_ofNat] at written
  rw [int, stripped, ← read, int, (decimal_isWord n).strip]

/-- The number at the end of the output is read. -/
theorem coresOnOf_endsWithNumber {output : Text} {n : Nat} (ends : EndsWithNumber output n) :
    coresOnOf output = some (n : Int) := by
  obtain ⟨front, gap, blank, split⟩ := ends
  have absent : '=' ∉ gap ++ decimal n := by
    rw [List.mem_append, not_or]
    exact ⟨fun member => absurd (blank '=' member) (by decide), equals_notMem_decimal n⟩
  rw [coresOnOf, afterEquals, split, getLastD_splitOn_append _ absent, int_blank_decimal blank]

/-- The last word of the output is read as a number. -/
theorem coresPresentOf_endsWithWord {output : Text} {n : Nat}
    (ends : EndsWithWord output (decimal n)) : coresPresentOf output = some (n : Int) := by
  obtain ⟨front, split, separated⟩ := ends
  have alone : words charSpace (decimal n) = [decimal n] := words_solid (decimal_isWord n)
  have read : int (decimal n) = some (n : Int) :=
    int_blank_decimal (fun c member => absurd member List.not_mem_nil) n
  rw [coresPresentOf, split]
  rcases front.eq_nil_or_concat with rfl | ⟨before, c, rfl⟩
  · rw [List.nil_append, alone]
    exact read
  · have white : charSpace c = true := by simpa using separated
    rw [List.concat_eq_append, List.append_assoc, List.singleton_append, words_append white, alone,
      List.getLast?_append]
    exact read

/-! ### The answer -/

section Answer

variable {cores : List CoreLine} {machine : Machine}

/-- The counts that are compared are the positive ones. -/
theorem mem_onlineCounts_iff
    (same : cores.map (fun line => line.item.onlineThreads) = machine) (count : Nat) :
    count ∈ onlineCounts cores ↔ count ∈ machine ∧ 0 < count := by
  rw [onlineCounts, same, List.mem_dedup, List.mem_filter, decide_eq_true_eq]

/-- The parser calls a machine inconsistent when its cores do not agree. -/
theorem inconsistent_eq_false_iff
    (same : cores.map (fun line => line.item.onlineThreads) = machine) :
    (summary cores).inconsistent = false ↔ Agrees machine := by
  have few : (onlineCounts cores).length ≤ 1 ↔ Agrees machine := by
    have card : (onlineCounts cores).toFinset.card = (onlineCounts cores).length :=
      List.toFinset_card_of_nodup (List.nodup_dedup _)
    rw [← card, Finset.card_le_one]
    simp only [List.mem_toFinset, mem_onlineCounts_iff same]
    constructor
    · exact fun one first inFirst second inSecond positive alsoPositive =>
        one first ⟨inFirst, positive⟩ second ⟨inSecond, alsoPositive⟩
    · exact fun agrees first inFirst second inSecond =>
        agrees first inFirst.1 second inSecond.1 inFirst.2 inSecond.2
  rw [← few]
  simp [summary]

/-- Online CPUs are online cores times threads when every online core has so many threads. -/
theorem onlineCpus_eq {threads : Nat} (even : ∀ count ∈ machine, 0 < count → count = threads) :
    onlineCpus machine = onlineCores machine * threads := by
  unfold onlineCpus onlineCores
  induction machine with
  | nil => simp
  | cons count rest inductionHypothesis =>
    have further := inductionHypothesis fun other member => even other (by simp [member])
    rw [List.sum_cons, further]
    by_cases online : 0 < count
    · rw [List.filter_cons_of_pos (by simpa using online), List.length_cons,
        even count (by simp) online]
      ring
    · have offline : count = 0 := Nat.eq_zero_of_not_pos online
      rw [List.filter_cons_of_neg (by simpa using offline), offline, Nat.zero_add]

/-- The check of the CPUs cannot fail when the cores agree. -/
theorem cpuCountFits_of_agrees
    (same : cores.map (fun line => line.item.onlineThreads) = machine) (agrees : Agrees machine)
    (mode : Text) :
    cpuCountFits mode (summary cores).smtMode (onlineCores machine) (onlineCpus machine) =
      true := by
  cases found : (summary cores).smtMode with
  | none => rfl
  | some threads =>
    have member : threads ∈ onlineCounts cores := by
      simp only [summary, Option.ite_none_right_eq_some] at found
      exact List.mem_of_mem_head? found.2
    obtain ⟨inMachine, positive⟩ := (mem_onlineCounts_iff same threads).mp member
    have fits := onlineCpus_eq fun count inside online =>
      agrees count inside threads inMachine online positive
    simp [cpuCountFits, fits]

/-- What is expected of a machine in some mode: the mode, the number of online cores, and one number
of threads on the online cores. -/
structure Meets (machine : Machine) (mode : Text) (expectedSmt : Option Text)
    (expectedCoresOn : Option Int) : Prop where
  smt : ∀ smt, expectedSmt = some smt → smt = mode
  coresOn : ∀ cores, expectedCoresOn = some cores → cores = (onlineCores machine : Int)
  agrees : Agrees machine

section Outputs

variable {outputs : Outputs} {mode : Text} {expectedSmt : Option Text}
  {expectedCoresOn : Option Int}

/-- The verification reads the machine from its outputs. -/
theorem verifySystemState_shows (shows : Shows outputs machine mode) (expectedSmt : Option Text)
    (expectedCoresOn : Option Int) :
    ∃ cores : List CoreLine, cores.map (fun line => line.item.onlineThreads) = machine ∧
      verifySystemState outputs expectedSmt expectedCoresOn =
        some ((expectedSmt.all fun smt => decide (mode = smt)) &&
          (expectedCoresOn.all fun cores => decide ((onlineCores machine : Int) = cores)) &&
          !(summary cores).inconsistent &&
          cpuCountFits mode (summary cores).smtMode (onlineCores machine)
            (onlineCpus machine)) := by
  obtain ⟨lines, prints, same⟩ := shows.info
  refine ⟨coreLines lines, same, ?_⟩
  rw [verifySystemState, currentSmt_of_endsWith shows.smt,
    coresOnOf_endsWithNumber shows.coresOn, parsePpc64CpuInfo_prints prints, shows.onlineCount]
  rfl

/-- A machine is accepted when it is as expected. -/
theorem verifySystemState_accepts (shows : Shows outputs machine mode)
    (meets : Meets machine mode expectedSmt expectedCoresOn) :
    verifySystemState outputs expectedSmt expectedCoresOn = some true := by
  obtain ⟨cores, same, answer⟩ := verifySystemState_shows shows expectedSmt expectedCoresOn
  have smt : (expectedSmt.all fun smt => decide (mode = smt)) = true := by
    cases expectedSmt with
    | none => rfl
    | some expected => simp [meets.smt expected rfl]
  have coresOn : (expectedCoresOn.all fun cores => decide ((onlineCores machine : Int) = cores)) =
      true := by
    cases expectedCoresOn with
    | none => rfl
    | some expected => simp [meets.coresOn expected rfl]
  rw [answer, smt, coresOn, (inconsistent_eq_false_iff same).mpr meets.agrees,
    cpuCountFits_of_agrees same meets.agrees mode]
  rfl

/-- A machine that is accepted is as expected. -/
theorem meets_of_accepted (shows : Shows outputs machine mode)
    (accepted : verifySystemState outputs expectedSmt expectedCoresOn = some true) :
    Meets machine mode expectedSmt expectedCoresOn := by
  obtain ⟨cores, same, answer⟩ := verifySystemState_shows shows expectedSmt expectedCoresOn
  rw [answer, Option.some_inj] at accepted
  simp only [Bool.and_eq_true, Bool.not_eq_true', inconsistent_eq_false_iff same] at accepted
  obtain ⟨⟨⟨smt, coresOn⟩, agrees⟩, -⟩ := accepted
  refine ⟨?_, ?_, agrees⟩
  · rintro expected rfl
    exact (of_decide_eq_true smt).symm
  · rintro expected rfl
    exact (of_decide_eq_true coresOn).symm

/-- On the outputs of a machine the verification answers, and it passes exactly on a machine that
is as expected.

The machine may have any cores with any number of online threads on each, and the outputs may have
any text around what is read. Outputs that lack one of the four are not covered.

Proof: where the online cores agree, the online CPUs are as many as cores times threads. So that
comparison rejects no machine that passes the others. -/
theorem verifySystemState_exact (shows : Shows outputs machine mode) :
    (verifySystemState outputs expectedSmt expectedCoresOn).isSome ∧
      (verifySystemState outputs expectedSmt expectedCoresOn = some true ↔
        Meets machine mode expectedSmt expectedCoresOn) := by
  obtain ⟨cores, same, answer⟩ := verifySystemState_shows shows expectedSmt expectedCoresOn
  exact ⟨answer ▸ rfl, meets_of_accepted shows, verifySystemState_accepts shows⟩

end Outputs

end Answer

end AvocadoMisc.Ppc64Cpu.SystemState
