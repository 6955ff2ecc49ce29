import Mathlib.Data.List.Basic
import Mathlib.Logic.Function.Basic

/-!
# Which processors the hotplug test gives back

The methods of `cpuhotplug.py` are loops of `cpu.offline` and `cpu.online` calls that do not
look at the machine. So a method is the list of its calls, and a processor ends as the last call
about it left it.

`totalcpus` is one less than the number of processors, and the loops that start there reach the
last processor, while the loops that stop there do not. `cpu_serial_off_on` takes the last
processor offline in one of the former and brings the others back in one of the latter.
-/

namespace AvocadoMisc.CpuHotplug.GiveBack

/-! ### Calls -/

/-- A call of the `cpu` utilities. -/
inductive Call where
  | online (cpus : Nat)
  | offline (cpus : Nat)

/-- The processor a call is about. -/
def Call.cpus : Call → Nat
  | .online cpus => cpus
  | .offline cpus => cpus

/-- Which processors are online. -/
abbrev Machine := Nat → Bool

/-- A call succeeds, but offlining processor 0 may be refused. -/
def Call.perform (refused : Bool) : Call → Machine → Machine
  | .online cpus, machine => Function.update machine cpus true
  | .offline cpus, machine =>
    if cpus = 0 ∧ refused then machine else Function.update machine cpus false

/-- Calls in order. The answers say, for each call, whether it would be refused. -/
def perform (refused : Nat → Bool) : List Call → Machine → Machine
  | [], machine => machine
  | call :: rest, machine =>
    perform (fun k => refused (k + 1)) rest (call.perform (refused 0) machine)

/-! ### The methods -/

/-- `range(start, stop)`. -/
def range (start stop : Nat) : List Nat := List.range' start (stop - start)

/-- `range(start, -1, -stride)`. -/
def rangeDown (start stride : Nat) : List Nat :=
  (List.range (start / stride + 1)).map fun k => start - stride * k

/-- `__online_cpus`. -/
def onlineCpus (cores : Nat) : List Call := (range 0 cores).map .online

/-- One iteration of `cpu_serial_off_on`. -/
def serialIteration (totalcpus : Nat) : List Call :=
  (if totalcpus ≠ 0 then (range 1 totalcpus).map .offline else []) ++
    (rangeDown totalcpus 1).map .online ++
    (if totalcpus ≠ 0 then (rangeDown totalcpus 2).map .offline else []) ++
    (range 0 totalcpus).map .online

/-- Off, unless there is one processor only, and on. -/
def offOn (totalcpus cpus : Nat) : List Call :=
  (if totalcpus ≠ 0 then [.offline cpus] else []) ++ [.online cpus]

/-- `cpu_serial_off_on`. -/
def cpuSerialOffOn (totalcpus iteration : Nat) : List Call :=
  (List.replicate iteration (serialIteration totalcpus)).flatten

/-- `single_cpu_toggle`. -/
def singleCpuToggle (totalcpus iteration : Nat) : List Call :=
  (range 1 totalcpus).flatMap fun cpus =>
    (List.replicate iteration (offOn totalcpus cpus)).flatten

/-- `cpu_toggle_one_by_one`. -/
def cpuToggleOneByOne (totalcpus iteration : Nat) : List Call :=
  (List.replicate iteration ((range 0 totalcpus).flatMap (offOn totalcpus))).flatten

/-- The methods that only call `cpu.online` and `cpu.offline`. -/
inductive Method where
  | cpu_serial_off_on
  | single_cpu_toggle
  | cpu_toggle_one_by_one

/-- What a method calls. -/
def Method.calls (totalcpus iteration : Nat) : Method → List Call
  | .cpu_serial_off_on => cpuSerialOffOn totalcpus iteration
  | .single_cpu_toggle => singleCpuToggle totalcpus iteration
  | .cpu_toggle_one_by_one => cpuToggleOneByOne totalcpus iteration

/-- The methods of a sequence one after another. -/
def sequence (totalcpus iteration : Nat) (methods : List Method) : List Call :=
  methods.flatMap (Method.calls totalcpus iteration)

/-! ### The last call about a processor -/

/-- Whether the last call about a processor puts it online. -/
def settles (cpus : Nat) : List Call → Option Bool
  | [] => none
  | .online other :: rest => (settles cpus rest).or (if other = cpus then some true else none)
  | .offline other :: rest => (settles cpus rest).or (if other = cpus then some false else none)

/-- Later calls count first. -/
theorem settles_append (cpus : Nat) (earlier later : List Call) :
    settles cpus (earlier ++ later) = (settles cpus later).or (settles cpus earlier) := by
  induction earlier with
  | nil => simp [settles]
  | cons call rest inductionHypothesis =>
    cases call <;> simp [settles, inductionHypothesis, Option.or_assoc]

/-- The same call for the processors of a list. -/
theorem settles_map {cpus : Nat} {call : Nat → Call} {verdict : Bool}
    (settled : ∀ other rest, settles cpus (call other :: rest) =
      (settles cpus rest).or (if other = cpus then some verdict else none))
    (listed : List Nat) :
    settles cpus (listed.map call) = if cpus ∈ listed then some verdict else none := by
  induction listed with
  | nil => simp [settles]
  | cons other rest inductionHypothesis =>
    have either : other = cpus ↔ cpus = other := eq_comm
    by_cases later : cpus ∈ rest <;> simp [settled, inductionHypothesis, later, either]

/-- Onlining the processors of a list. -/
theorem settles_online (cpus : Nat) (listed : List Nat) :
    settles cpus (listed.map .online) = if cpus ∈ listed then some true else none :=
  settles_map (fun _ _ => rfl) listed

/-- Offlining the processors of a list. -/
theorem settles_offline (cpus : Nat) (listed : List Nat) :
    settles cpus (listed.map .offline) = if cpus ∈ listed then some false else none :=
  settles_map (fun _ _ => rfl) listed

/-- What the calls made of a processor agrees with the last call about it. A refusal to offline
processor 0 is the exception. -/
structure Settled (cpus : Nat) (verdict : Option Bool) (before after : Bool) : Prop where
  untouched : verdict = none → after = before
  on : verdict = some true → after = true
  off : verdict = some false → cpus ≠ 0 → after = false

/-- One call. -/
theorem call_settled (cpus : Nat) (refused : Bool) (call : Call) (machine : Machine) :
    Settled cpus (settles cpus [call]) (machine cpus) (call.perform refused machine cpus) := by
  cases call with
  | online other =>
    by_cases same : cpus = other
    · subst same
      constructor <;> simp [settles, Call.perform]
    · constructor <;> simp [settles, Call.perform, same, Ne.symm same]
  | offline other =>
    by_cases same : cpus = other
    · subst same
      constructor <;> simp +contextual [settles, Call.perform]
    · have kept : (Call.offline other).perform refused machine cpus = machine cpus := by
        rw [Call.perform]
        split <;> simp [same]
      constructor <;> simp [settles, kept, Ne.symm same]

/-- The last call about a processor decides.

Proof: by induction on the calls. If a later call is about the processor, that one decides; if
none is, the state that the first call leaves is kept. -/
theorem perform_settled (cpus : Nat) (refused : Nat → Bool) (calls : List Call)
    (machine : Machine) :
    Settled cpus (settles cpus calls) (machine cpus) (perform refused calls machine cpus) := by
  induction calls generalizing refused machine with
  | nil => constructor <;> simp [settles, perform]
  | cons call rest inductionHypothesis =>
    have further :=
      inductionHypothesis (fun k => refused (k + 1)) (call.perform (refused 0) machine)
    have first := call_settled cpus (refused 0) call machine
    rw [← List.singleton_append, settles_append, List.singleton_append]
    cases later : settles cpus rest with
    | none =>
      have kept := further.untouched later
      rw [Option.none_or, perform, kept]
      exact first
    | some value =>
      rw [later] at further
      exact ⟨by simp, further.on, further.off⟩

/-! ### The loops -/

/-- Calls that leave no processor offline. -/
def Restores (calls : List Call) : Prop := ∀ cpus, settles cpus calls ≠ some false

/-- One after the other. -/
theorem Restores.append {earlier later : List Call} (first : Restores earlier)
    (second : Restores later) : Restores (earlier ++ later) := by
  intro cpus
  rw [settles_append]
  cases settled : settles cpus later with
  | none => simpa using first cpus
  | some value => exact fun off => second cpus (settled.trans off)

/-- A loop whose body restores. -/
theorem Restores.flatten {bodies : List (List Call)} (each : ∀ body ∈ bodies, Restores body) :
    Restores bodies.flatten := by
  induction bodies with
  | nil => simp [Restores, settles]
  | cons body rest inductionHypothesis =>
    exact (each body (by simp)).append (inductionHypothesis fun other member =>
      each other (List.mem_cons_of_mem body member))

/-- Offlining and onlining one processor restores it. -/
theorem offOn_restores (totalcpus cpus : Nat) : Restores (offOn totalcpus cpus) := by
  intro other
  unfold offOn
  split <;> by_cases same : cpus = other <;> simp [settles, same]

/-- `single_cpu_toggle` restores. -/
theorem singleCpuToggle_restores (totalcpus iteration : Nat) :
    Restores (singleCpuToggle totalcpus iteration) := by
  refine Restores.flatten fun body member => ?_
  obtain ⟨cpus, _, rfl⟩ := List.mem_map.mp member
  refine Restores.flatten fun inner repeated => ?_
  rw [(List.mem_replicate.mp repeated).2]
  exact offOn_restores totalcpus cpus

/-- `cpu_toggle_one_by_one` restores. -/
theorem cpuToggleOneByOne_restores (totalcpus iteration : Nat) :
    Restores (cpuToggleOneByOne totalcpus iteration) := by
  refine Restores.flatten fun body repeated => ?_
  rw [(List.mem_replicate.mp repeated).2]
  refine Restores.flatten fun inner member => ?_
  obtain ⟨cpus, _, rfl⟩ := List.mem_map.mp member
  exact offOn_restores totalcpus cpus

/-- No call is about a processor. -/
theorem settles_eq_none {cpus : Nat} {calls : List Call}
    (others : ∀ call ∈ calls, call.cpus ≠ cpus) : settles cpus calls = none := by
  induction calls with
  | nil => rfl
  | cons call rest inductionHypothesis =>
    have differs := others call (by simp)
    have later := inductionHypothesis fun other member =>
      others other (List.mem_cons_of_mem call member)
    cases call <;> simpa [settles, later, Call.cpus] using differs

/-- The calls of `offOn` are about one processor. -/
theorem cpus_of_mem_offOn {totalcpus cpus : Nat} {call : Call}
    (member : call ∈ offOn totalcpus cpus) : call.cpus = cpus := by
  have either : call = .offline cpus ∨ call = .online cpus := by
    unfold offOn at member
    split at member <;> simp at member <;> tauto
  rcases either with rfl | rfl <;> rfl

/-- The toggling methods stop before the last processor. -/
theorem toggle_below {totalcpus iteration : Nat} {method : Method}
    (toggles : method ≠ .cpu_serial_off_on) {call : Call}
    (member : call ∈ method.calls totalcpus iteration) : call.cpus < totalcpus := by
  obtain ⟨cpus, below, called⟩ : ∃ cpus < totalcpus, call ∈ offOn totalcpus cpus := by
    cases method with
    | cpu_serial_off_on => exact absurd rfl toggles
    | single_cpu_toggle =>
      obtain ⟨cpus, listed, inside⟩ := List.mem_flatMap.mp member
      obtain ⟨body, repeated, called⟩ := List.mem_flatten.mp inside
      have bound : 1 ≤ cpus ∧ cpus < 1 + (totalcpus - 1) := List.mem_range'_1.mp listed
      exact ⟨cpus, by omega, (List.mem_replicate.mp repeated).2 ▸ called⟩
    | cpu_toggle_one_by_one =>
      obtain ⟨body, repeated, inside⟩ := List.mem_flatten.mp member
      rw [(List.mem_replicate.mp repeated).2] at inside
      obtain ⟨cpus, listed, called⟩ := List.mem_flatMap.mp inside
      have bound : 0 ≤ cpus ∧ cpus < 0 + (totalcpus - 0) := List.mem_range'_1.mp listed
      exact ⟨cpus, by omega, called⟩
  rw [cpus_of_mem_offOn called]
  exact below

/-- An iteration of `cpu_serial_off_on` ends with the last processor offline: the loop that
offlines in reverse order starts there, and the loop after it stops before. -/
theorem serialIteration_last {totalcpus : Nat} (several : totalcpus ≠ 0) :
    settles totalcpus (serialIteration totalcpus) = some false := by
  have started : totalcpus ∈ rangeDown totalcpus 2 :=
    List.mem_map.mpr ⟨0, List.mem_range.mpr (Nat.succ_pos _), rfl⟩
  have stopped : totalcpus ∉ range 0 totalcpus := by simp [range]
  simp only [serialIteration, several, ne_eq, not_false_eq_true, ↓reduceIte]
  rw [settles_append, settles_online, if_neg stopped, Option.none_or, settles_append,
    settles_offline, if_pos started, Option.some_or]

/-- So does the method. -/
theorem cpuSerialOffOn_last {totalcpus iteration : Nat} (several : totalcpus ≠ 0)
    (iterates : 1 ≤ iteration) :
    settles totalcpus (cpuSerialOffOn totalcpus iteration) = some false := by
  obtain ⟨earlier, rfl⟩ : ∃ earlier, iteration = earlier + 1 := ⟨iteration - 1, by omega⟩
  rw [cpuSerialOffOn, List.replicate_succ', List.flatten_append, settles_append]
  simp [serialIteration_last several]

/-! ### Sequences of methods -/

/-- Without `cpu_serial_off_on` nothing stays offline. -/
theorem sequence_restores {totalcpus iteration : Nat} {methods : List Method}
    (without : Method.cpu_serial_off_on ∉ methods) :
    Restores (sequence totalcpus iteration methods) := by
  refine Restores.flatten fun body member => ?_
  obtain ⟨method, listed, rfl⟩ := List.mem_map.mp member
  cases method with
  | cpu_serial_off_on => exact absurd listed without
  | single_cpu_toggle => exact singleCpuToggle_restores totalcpus iteration
  | cpu_toggle_one_by_one => exact cpuToggleOneByOne_restores totalcpus iteration

/-- With `cpu_serial_off_on` the last processor stays offline.

Proof: by induction on the sequence. If a later method is `cpu_serial_off_on`, that one decides;
otherwise the later methods do not touch the processor. -/
theorem sequence_last {totalcpus iteration : Nat} (several : totalcpus ≠ 0)
    (iterates : 1 ≤ iteration) {methods : List Method}
    (included : Method.cpu_serial_off_on ∈ methods) :
    settles totalcpus (sequence totalcpus iteration methods) = some false := by
  induction methods with
  | nil => simp at included
  | cons method rest inductionHypothesis =>
    rw [sequence, List.flatMap_cons, settles_append, ← sequence]
    by_cases later : Method.cpu_serial_off_on ∈ rest
    · rw [inductionHypothesis later, Option.some_or]
    · have first : method = .cpu_serial_off_on := by
        rcases List.mem_cons.mp included with same | member
        · exact same.symm
        · exact absurd member later
      have untouched : settles totalcpus (sequence totalcpus iteration rest) = none := by
        refine settles_eq_none fun call member => ?_
        obtain ⟨other, listed, called⟩ := List.mem_flatMap.mp member
        exact Nat.ne_of_lt (toggle_below (fun same => later (same ▸ listed)) called)
      rw [untouched, Option.none_or, first]
      exact cpuSerialOffOn_last several iterates

/-! ### Which processors come back -/

/-- Every processor is online. -/
def AllOnline (n : Nat) (machine : Machine) : Prop := ∀ cpus, cpus < n → machine cpus = true

/-- `__online_cpus` stops before its argument, so it brings every processor back exactly when
the last one is not away. -/
theorem onlineCpus_restores_iff (totalcpus : Nat) (refused : Nat → Bool) (machine : Machine) :
    AllOnline (totalcpus + 1) (perform refused (onlineCpus totalcpus) machine) ↔
      machine totalcpus = true := by
  have settled (cpus : Nat) := perform_settled cpus refused (onlineCpus totalcpus) machine
  have last : settles totalcpus (onlineCpus totalcpus) = none := by
    simp [onlineCpus, settles_online, range]
  constructor
  · intro all
    rw [← (settled totalcpus).untouched last]
    exact all totalcpus (Nat.lt_succ_self totalcpus)
  · intro present cpus below
    rcases Nat.lt_succ_iff_lt_or_eq.mp below with inside | rfl
    · refine (settled cpus).on ?_
      simp [onlineCpus, settles_online, range, inside]
    · rw [(settled cpus).untouched last]
      exact present

/-- With all processors online and `totalcpus` one less than their number, a sequence of
methods leaves all of them online exactly when `cpu_serial_off_on` is not among the methods; and
`__online_cpus` brings all of them online exactly when the last one is not offline. -/
theorem gives_back_iff (n iteration : Nat) (several : 2 ≤ n) (iterates : 1 ≤ iteration)
    (methods : List Method) (refused : Nat → Bool) :
    (AllOnline n (perform refused (sequence (n - 1) iteration methods) fun _ => true) ↔
        Method.cpu_serial_off_on ∉ methods) ∧
      ∀ machine, AllOnline n (perform refused (onlineCpus (n - 1)) machine) ↔
        machine (n - 1) = true := by
  have settled (cpus : Nat) :=
    perform_settled cpus refused (sequence (n - 1) iteration methods) fun _ => true
  refine ⟨⟨fun all included => ?_, fun without cpus _ => ?_⟩, fun machine => ?_⟩
  · have away := (settled (n - 1)).off (sequence_last (by omega) iterates included) (by omega)
    rw [all (n - 1) (by omega)] at away
    exact Bool.noConfusion away
  · cases verdict : settles cpus (sequence (n - 1) iteration methods) with
    | none => exact (settled cpus).untouched verdict
    | some value =>
      cases value with
      | false => exact absurd verdict (sequence_restores without cpus)
      | true => exact (settled cpus).on verdict
  · obtain ⟨totalcpus, rfl⟩ : ∃ totalcpus, n = totalcpus + 1 := ⟨n - 1, by omega⟩
    exact onlineCpus_restores_iff totalcpus refused machine

/-- Two processors and one iteration of each method that toggles. -/
theorem gives_back_toggling :
    AllOnline 2 (perform (fun _ => true)
      (sequence 1 1 [.single_cpu_toggle, .cpu_toggle_one_by_one]) fun _ => true) :=
  (gives_back_iff 2 1 (by decide) (by decide) [.single_cpu_toggle, .cpu_toggle_one_by_one]
    fun _ => true).1.mpr (by simp)

/-- One iteration of `cpu_serial_off_on` on two processors leaves the second one offline, and
`__online_cpus` does not bring it back. -/
theorem last_cpu_lost :
    ¬ (∀ n iteration, 2 ≤ n → 1 ≤ iteration → ∀ methods refused,
      AllOnline n (perform refused (sequence (n - 1) iteration methods) fun _ => true)) ∧
    ¬ (∀ n, 2 ≤ n → ∀ refused machine,
      AllOnline n (perform refused (onlineCpus (n - 1)) machine)) := by
  constructor
  · intro always
    have last := always 2 1 (by decide) (by decide) [.cpu_serial_off_on] (fun _ => false) 1
    exact absurd (last (by decide)) (by decide)
  · intro always
    have last := always 2 (by decide) (fun _ => false) (fun cpus => cpus = 0) 1
    exact absurd (last (by decide)) (by decide)

/-- `tearDown` does not bring it back either. -/
theorem tearDown_leaves_last {n iteration : Nat} (several : 2 ≤ n) (iterates : 1 ≤ iteration)
    {methods : List Method} (included : Method.cpu_serial_off_on ∈ methods)
    (refused : Nat → Bool) (machine : Machine) :
    perform refused (sequence (n - 1) iteration methods ++ onlineCpus (n - 1)) machine (n - 1) =
      false := by
  have settled := perform_settled (n - 1) refused
    (sequence (n - 1) iteration methods ++ onlineCpus (n - 1)) machine
  refine settled.off ?_ (by omega)
  have stopped : n - 1 ∉ range 0 (n - 1) := by simp [range]
  rw [settles_append, onlineCpus, settles_online, if_neg stopped, Option.none_or]
  exact sequence_last (by omega) iterates included

end AvocadoMisc.CpuHotplug.GiveBack
