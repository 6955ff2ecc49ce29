import Mathlib.Data.List.Nodup
import AvocadoMisc.Library.Groups
import AvocadoMisc.Library.Text

/-!
# The events of each nmem PMU

`setUp` of the nmem test reads the PMUs from a directory and the events from `perf list nmem`. A
line of the list is an event of every PMU in whose name the text before the first slash occurs.
So an event of `nmem1` is also one of `nmem10`, and the table has the right events for every PMU
exactly when no number with an event is the beginning of another PMU's number.

The test then runs the events of each PMU as a group, and a group with one event of each PMU,
which `perf` is expected to refuse.
-/

namespace AvocadoMisc.Perf.NmemEvents

open Library.Groups Library.Text

/-- A text. -/
abbrev Text := List Char

/-- The name that all PMUs have. -/
def nmem : Text := ['n', 'm', 'e', 'm']

/-- The header of the list. -/
def header : Text := "List of pre-defined events".toList

/-- `line.split(separator)[0]`. -/
def firstField (separator : Char) (line : Text) : Text := line.takeWhile (· ≠ separator)

/-- The event on a line, unless the line is empty or the header. -/
def eventOf (ln : Text) : Option Text :=
  let ln := strip charSpace ln
  if ln = [] ∨ contains header ln then none else some (strip charSpace (firstField '[' ln))

/-- The PMUs that an event is taken for. -/
def pmusOf (pmuList : List Text) (event : Text) : List Text :=
  pmuList.filter (contains (firstField '/' event))

/-- `pmu_list`, from the names in the directory. -/
def pmuList (listing : List Text) : List Text := listing.filter (contains nmem)

/-- `all_events`. -/
def allEvents (listing : List Text) (output : Text) : List (Text × List Text) :=
  ((charLines output).filterMap eventOf).foldl
    (fun allEvents event => (pmusOf (pmuList listing) event).foldl
      (fun allEvents pmu => add pmu event allEvents) allEvents) []

/-- Why the test is cancelled. -/
inductive Cancelled where
  | pmusNotFound
  | eventsNotFound

/-- `setUp`, from where it collects the PMUs. -/
def setUp (listing : List Text) (output : Text) :
    Except Cancelled (List Text × List (Text × List Text)) :=
  if pmuList listing = [] then .error .pmusNotFound
  else if allEvents listing output = [] then .error .eventsNotFound
  else .ok (pmuList listing, allEvents listing output)

/-- The groups of `test_all_group_events`. -/
def allGroupEvents (allEvents : List (Text × List Text)) : List (List Text) :=
  allEvents.map Prod.snd

/-- The group of `test_mixed_events`, when there is more than one PMU. There is no group where a
PMU has an empty list. -/
def mixedEvents (pmuList : List Text) (allEvents : List (Text × List Text)) :
    Option (List Text) :=
  if pmuList.length > 1 then allEvents.mapM fun entry => entry.2.head? else none

/-! ### The printed list -/

/-- The name of a PMU. -/
def pmuName (k : Nat) : Text := nmem ++ decimal k

/-- A line with an event. -/
structure EventLine where
  indent : Text
  pmu : Nat
  name : Text
  gap : Text
  blankIndent : Blank charSpace indent
  solid : ∀ c ∈ name, charSpace c = false
  unbracketed : '[' ∉ name
  blankGap : Blank charSpace gap
  apart : gap ≠ []

/-- The event of the line. -/
def EventLine.event (line : EventLine) : Text := pmuName line.pmu ++ '/' :: (line.name ++ ['/'])

/-- The line as it is printed. -/
def EventLine.text (line : EventLine) : Text :=
  line.indent ++ (line.event ++ (line.gap ++ "[Kernel PMU event]".toList))

/-- A line of the list. An empty line and the header are skipped. -/
inductive Line where
  | event (line : EventLine)
  | skipped (text : Text) (skips : eventOf text = none)

/-- The line as it is printed. -/
def Line.text : Line → Text
  | .event line => line.text
  | .skipped text _ => text

/-- The line with its event. -/
def Line.event? : Line → Option EventLine
  | .event line => some line
  | .skipped _ _ => none

/-- The events printed for a PMU, in order. -/
def printedFor (lines : List Line) (k : Nat) : List Text :=
  ((lines.filterMap Line.event?).filter fun line => line.pmu = k).map EventLine.event

/-- What the table promises: for each PMU the events that are printed for it, so that a group has
events of one PMU, and the mixed group has one event of each PMU in the table. -/
structure Separate (ks : List Nat) (lines : List Line) (table : List (Text × List Text)) :
    Prop where
  keys : ∀ pmu events, (pmu, events) ∈ table → ∃ k ∈ ks, pmu = pmuName k
  events : ∀ k ∈ ks, table.lookup (pmuName k) = recorded (printedFor lines k)
  groups : ∀ group ∈ allGroupEvents table, ∃ k ∈ ks, ∀ event ∈ group, event ∈ printedFor lines k
  mixed : ∀ pmus : List Text, 1 < pmus.length → ∃ group, mixedEvents pmus table = some group ∧
    List.Forall₂ (fun entry event => ∃ k, entry.1 = pmuName k ∧ event ∈ printedFor lines k)
      table group

/-- No number with an event is the beginning of the number of another PMU. -/
def Unprefixed (ks : List Nat) (lines : List Line) : Prop :=
  ∀ line ∈ lines.filterMap Line.event?, ∀ k ∈ ks, decimal line.pmu <+: decimal k → line.pmu = k

/-! ### Reading the list -/

/-- A character that is in no name of a PMU. -/
theorem notMem_pmuName {c : Char} (k : Nat) (outside : c ∉ nmem) (noDigit : c.isDigit = false) :
    c ∉ pmuName k := by
  rw [pmuName, List.mem_append, not_or]
  refine ⟨outside, fun member => ?_⟩
  rw [decimal_digits k c member] at noDigit
  cases noDigit

/-- Names of PMUs have no white space. -/
theorem pmuName_solid (k : Nat) : ∀ c ∈ pmuName k, charSpace c = false := by
  intro c member
  rcases List.mem_append.mp member with inName | inNumber
  · have solid : ∀ c ∈ nmem, charSpace c = false := none_of_check (by decide)
    exact solid c inName
  · exact charSpace_digit (decimal_digits k c inNumber)

/-- Different PMUs have different names. -/
theorem pmuName_injective {j k : Nat} (same : pmuName j = pmuName k) : j = k :=
  decimal_injective (List.append_cancel_left same)

/-- The name of one PMU occurs in that of another exactly when its number is the beginning of the
other number. -/
theorem contains_pmuName {j k : Nat} :
    contains (pmuName j) (pmuName k) = true ↔ decimal j <+: decimal k := by
  rw [contains, decide_eq_true_eq]
  constructor
  · rintro ⟨before, after, split⟩
    cases before with
    | nil =>
      rw [List.nil_append, pmuName, pmuName, List.append_assoc] at split
      exact ⟨after, List.append_cancel_left split⟩
    | cons c before =>
      -- another `n` would be among the letters after the first, or among the digits
      exfalso
      have inRest : 'n' ∈ ['m', 'e', 'm'] ++ decimal k := by
        have rest : before ++ pmuName j ++ after = ['m', 'e', 'm'] ++ decimal k := by
          simpa [pmuName, nmem] using congrArg List.tail split
        rw [← rest]
        simp [pmuName, nmem]
      rcases List.mem_append.mp inRest with letter | digit
      · exact absurd letter (by decide)
      · exact absurd (decimal_digits k _ digit) (by decide)
  · rintro ⟨rest, split⟩
    exact ⟨[], rest, by rw [List.nil_append, pmuName, pmuName, List.append_assoc, split]⟩

section Lines

variable (line : EventLine)

/-- The event is a word. -/
theorem EventLine.event_isWord : IsWord charSpace line.event := by
  refine ⟨by simp [EventLine.event], fun c member => ?_⟩
  rw [EventLine.event, List.mem_append, List.mem_cons, List.mem_append] at member
  rcases member with inName | rfl | inEvent | slash
  · exact pmuName_solid line.pmu c inName
  · decide
  · exact line.solid c inEvent
  · rw [List.mem_singleton.mp slash]
    decide

/-- The words of the line. -/
theorem EventLine.words_text : words charSpace line.text =
    [line.event, "[Kernel".toList, "PMU".toList, "event]".toList] := by
  have kind : words charSpace "[Kernel PMU event]".toList =
      ["[Kernel".toList, "PMU".toList, "event]".toList] := by decide +kernel
  have ends : Ends charSpace (line.gap ++ "[Kernel PMU event]".toList) := by
    intro c first
    rw [List.head?_append_of_ne_nil _ line.apart] at first
    exact line.blankGap c (List.mem_of_mem_head? first)
  rw [EventLine.text, words_word line.blankIndent line.event_isWord ends,
    words_blank_append line.blankGap, kind]

/-- The second word of the header. -/
theorem header_words : header =
    "List".toList ++ ' ' :: ("of".toList ++ ' ' :: "pre-defined events".toList) := by
  decide +kernel

/-- The line is not taken for the header. -/
theorem EventLine.not_header : contains header (strip charSpace line.text) = false := by
  rw [contains, decide_eq_false_iff_not]
  rintro ⟨before, after, split⟩
  have around : strip charSpace line.text = (before ++ "List".toList) ++
      ' ' :: ("of".toList ++ ' ' :: ("pre-defined events".toList ++ after)) := by
    rw [← split, header_words]
    simp only [List.append_assoc, List.cons_append]
  have ofWord : words charSpace "of".toList = ["of".toList] := by decide +kernel
  have listed : "of".toList ∈ words charSpace line.text := by
    rw [← words_strip, around, words_append (by decide), words_append (by decide), ofWord]
    exact List.mem_append_right _ (List.mem_append_left _ (List.mem_singleton_self _))
  rw [line.words_text] at listed
  have slash : '/' ∈ line.event := by simp [EventLine.event]
  simp only [List.mem_cons, List.not_mem_nil, or_false] at listed
  rcases listed with isEvent | isWord | isWord | isWord
  · rw [← isEvent] at slash
    exact absurd slash (by decide +kernel)
  all_goals exact absurd isWord (by decide +kernel)

/-- The event is read from the line: what is in front of the first bracket, without the white space
around it. The event has no bracket and the line is not the header. -/
theorem eventOf_text : eventOf line.text = some line.event := by
  have body : strip charSpace line.text =
      line.event ++ (line.gap ++ "[Kernel PMU event]".toList) := by
    refine strip_indented line.blankIndent ?_ ?_
    · intro c first
      rw [List.head?_append_of_ne_nil _ line.event_isWord.nonempty] at first
      exact line.event_isWord.solid c (List.mem_of_mem_head? first)
    · intro c last
      rw [← List.append_assoc, List.getLast?_append_of_ne_nil _ (by decide +kernel)] at last
      have bracket : "[Kernel PMU event]".toList.getLast? = some ']' := by decide +kernel
      rw [bracket] at last
      obtain rfl := Option.some.inj last
      decide
  have noBracket : '[' ∉ line.event := by
    rw [EventLine.event, List.mem_append, List.mem_cons, List.mem_append]
    have inName := notMem_pmuName line.pmu (c := '[') (by decide) (by decide)
    simp [inName, line.unbracketed]
  have field : firstField '[' (line.event ++ (line.gap ++ "[Kernel PMU event]".toList)) =
      line.event ++ line.gap := by
    have before : ∀ c ∈ line.event ++ line.gap, decide (c ≠ '[') = true := by
      intro c member
      refine decide_eq_true fun same => ?_
      subst same
      rcases List.mem_append.mp member with inEvent | inGap
      · exact noBracket inEvent
      · exact absurd (line.blankGap _ inGap) (by decide)
    rw [← List.append_assoc, firstField, List.takeWhile_append_of_pos before]
    simp
  have something : strip charSpace line.text ≠ [] := by
    rw [body]
    simp [line.event_isWord.nonempty]
  have stripped : strip charSpace (line.event ++ line.gap) = line.event :=
    @IsWord.strip_between _ _ [] _ _ line.event_isWord (by simp [Blank]) line.blankGap
  have kept : ¬(strip charSpace line.text = [] ∨
      contains header (strip charSpace line.text) = true) := by
    rw [line.not_header]
    simpa using something
  rw [eventOf, if_neg kept, body, field, stripped]

/-- Before the first slash of an event is the name of its PMU. -/
theorem firstField_event : firstField '/' line.event = pmuName line.pmu := by
  have before : ∀ c ∈ pmuName line.pmu, decide (c ≠ '/') = true := fun c member =>
    decide_eq_true fun same =>
      notMem_pmuName line.pmu (c := '/') (by decide) (by decide) (same ▸ member)
  rw [firstField, EventLine.event, List.takeWhile_append_of_pos before]
  simp

end Lines

/-! ### The table -/

/-- The PMUs and the events that are taken for them. -/
def taken (pmus events : List Text) : List (Text × Text) :=
  events.flatMap fun event => (pmusOf pmus event).map fun pmu => (pmu, event)

/-- The table groups the events by the PMUs they are taken for. -/
theorem allEvents_eq_group (listing : List Text) (output : Text) :
    allEvents listing output =
      group (taken (pmuList listing) ((charLines output).filterMap eventOf)) := by
  rw [allEvents, group, taken, List.foldl_flatMap]
  simp only [List.foldl_map]

/-- The events that are taken for a PMU are those in whose first field its name has a part. -/
theorem addedFor_taken {pmus : List Text} (distinct : pmus.Nodup) {pmu : Text} (isPmu : pmu ∈ pmus)
    (events : List Text) : addedFor pmu (taken pmus events) =
      events.filter fun event => contains (firstField '/' event) pmu := by
  have once : pmus.filter (fun other => decide (other = pmu)) = [pmu] := by
    rw [List.filter_eq, List.count_eq_one_of_mem distinct isPmu]
    rfl
  have single (event : Text) :
      addedFor pmu ((pmusOf pmus event).map fun other => (other, event)) =
        if contains (firstField '/' event) pmu then [event] else [] := by
    have own : (pmusOf pmus event).filter (fun other => decide (other = pmu)) =
        [pmu].filter (contains (firstField '/' event)) := by
      rw [← once, pmusOf, List.filter_filter, List.filter_filter]
      simp only [Bool.and_comm]
    rw [addedFor, List.filter_map, List.map_map]
    change ((pmusOf pmus event).filter fun other => decide (other = pmu)).map (fun _ => event) = _
    rw [own]
    cases found : contains (firstField '/' event) pmu <;> simp [found]
  induction events with
  | nil => rfl
  | cons event rest inductionHypothesis =>
    rw [taken, List.flatMap_cons, ← taken, addedFor, List.filter_append, List.map_append,
      ← addedFor, ← addedFor, single, inductionHypothesis, List.filter_cons]
    split <;> rfl

/-- What is taken for a PMU is an event with a part of its name in front. -/
theorem mem_taken {pmus events : List Text} {pmu event : Text} :
    (pmu, event) ∈ taken pmus events ↔
      event ∈ events ∧ pmu ∈ pmus ∧ contains (firstField '/' event) pmu = true := by
  simp only [taken, pmusOf, List.mem_flatMap, List.mem_map, List.mem_filter, Prod.mk.injEq]
  constructor
  · rintro ⟨other, listed, name, ⟨isPmu, inName⟩, rfl, rfl⟩
    exact ⟨listed, isPmu, inName⟩
  · rintro ⟨listed, isPmu, inName⟩
    exact ⟨event, listed, pmu, ⟨isPmu, inName⟩, rfl, rfl⟩

/-- Lists on record are the same only if they are. -/
theorem recorded_injective {first second : List Text} (same : recorded first = recorded second) :
    first = second := by
  cases first <;> cases second <;> simp_all [recorded]

/-- A group with the first event of each entry. -/
theorem mapM_head {Fits : Text × List Text → Text → Prop} {table : List (Text × List Text)}
    (fits : ∀ entry ∈ table, ∃ event, entry.2.head? = some event ∧ Fits entry event) :
    ∃ group, (table.mapM fun entry => entry.2.head?) = some group ∧
      List.Forall₂ Fits table group := by
  induction table with
  | nil => exact ⟨[], rfl, .nil⟩
  | cons entry rest inductionHypothesis =>
    obtain ⟨event, first, here⟩ := fits entry (by simp)
    obtain ⟨group, rests, others⟩ := inductionHypothesis fun other member =>
      fits other (by simp [member])
    exact ⟨event :: group, by simp [List.mapM_cons, first, rests], .cons here others⟩

section Printed

variable {listing : List Text} {output : Text} {ks : List Nat} {lines : List Line}

/-- The events that are read are those that are printed. -/
theorem events_printed (printed : charLines output = lines.map Line.text) :
    (charLines output).filterMap eventOf =
      (lines.filterMap Line.event?).map EventLine.event := by
  rw [printed, List.filterMap_map, List.map_filterMap]
  refine List.filterMap_congr fun line _ => ?_
  cases line with
  | event line => exact eventOf_text line
  | skipped text skips => exact skips

/-- An event is printed for a PMU when a line with it is. -/
theorem mem_printedFor {k : Nat} {event : Text} : event ∈ printedFor lines k ↔
    ∃ line ∈ lines.filterMap Line.event?, line.pmu = k ∧ line.event = event := by
  simp only [printedFor, List.mem_map, List.mem_filter, decide_eq_true_eq, and_assoc]

/-- What the table has for a PMU. -/
theorem lookup_allEvents (names : pmuList listing = ks.map pmuName) (distinct : ks.Nodup)
    (printed : charLines output = lines.map Line.text) {k : Nat} (isPmu : k ∈ ks) :
    (allEvents listing output).lookup (pmuName k) =
      recorded (((lines.filterMap Line.event?).filter fun line =>
        contains (pmuName line.pmu) (pmuName k)).map EventLine.event) := by
  have distinctNames : (ks.map pmuName).Nodup := distinct.map fun _ _ => pmuName_injective
  rw [allEvents_eq_group, lookup_group, names,
    addedFor_taken distinctNames (List.mem_map_of_mem isPmu), events_printed printed,
    List.filter_map]
  simp only [Function.comp_def, firstField_event]

/-- An entry of the table is for a PMU, and has some events with a part of its name in front. -/
theorem mem_allEvents (names : pmuList listing = ks.map pmuName)
    (printed : charLines output = lines.map Line.text) {pmu : Text} {events : List Text}
    (entry : (pmu, events) ∈ allEvents listing output) :
    events ≠ [] ∧ ∃ k ∈ ks, pmu = pmuName k ∧ ∀ event ∈ events,
      ∃ line ∈ lines.filterMap Line.event?, line.event = event ∧
        decimal line.pmu <+: decimal k := by
  rw [allEvents_eq_group, names, events_printed printed] at entry
  obtain ⟨something, added⟩ := mem_group entry
  obtain ⟨first, _, rfl⟩ := List.exists_cons_of_ne_nil something
  obtain ⟨_, isName, _⟩ := mem_taken.mp (added first (by simp))
  obtain ⟨k, isPmu, rfl⟩ := List.mem_map.mp isName
  refine ⟨something, k, isPmu, rfl, fun event member => ?_⟩
  obtain ⟨listed, _, part⟩ := mem_taken.mp (added event member)
  obtain ⟨line, isLine, rfl⟩ := List.mem_map.mp listed
  rw [firstField_event, contains_pmuName] at part
  exact ⟨line, isLine, rfl, part⟩

/-- Where the table keeps its promise, an event is in the list of no other PMU. -/
theorem unprefixed_of_separate (names : pmuList listing = ks.map pmuName) (distinct : ks.Nodup)
    (printed : charLines output = lines.map Line.text)
    (separate : Separate ks lines (allEvents listing output)) : Unprefixed ks lines := by
  intro line isLine k isPmu part
  have inTable := separate.events k isPmu
  rw [lookup_allEvents names distinct printed isPmu] at inTable
  have same := recorded_injective inTable
  have listed : line.event ∈ printedFor lines k := by
    rw [← same]
    exact List.mem_map_of_mem (List.mem_filter.mpr ⟨isLine, contains_pmuName.mpr part⟩)
  obtain ⟨other, _, isOwn, sameEvent⟩ := mem_printedFor.mp listed
  have sameName : pmuName other.pmu = pmuName line.pmu := by
    rw [← firstField_event, ← firstField_event, sameEvent]
  rw [← isOwn]
  exact (pmuName_injective sameName).symm

/-- When no number is the beginning of another one, an entry has events of its own PMU only. -/
theorem printed_of_mem (names : pmuList listing = ks.map pmuName)
    (printed : charLines output = lines.map Line.text) (unprefixed : Unprefixed ks lines)
    {pmu : Text} {events : List Text} (entry : (pmu, events) ∈ allEvents listing output) :
    events ≠ [] ∧ ∃ k ∈ ks, pmu = pmuName k ∧ ∀ event ∈ events, event ∈ printedFor lines k := by
  obtain ⟨something, k, isPmu, name, taken⟩ := mem_allEvents names printed entry
  refine ⟨something, k, isPmu, name, fun event member => ?_⟩
  obtain ⟨line, isLine, sameEvent, part⟩ := taken event member
  exact mem_printedFor.mpr ⟨line, isLine, unprefixed line isLine k isPmu part, sameEvent⟩

/-- The table keeps its promise exactly when no number with an event is the beginning of the
number of another PMU.

The PMUs and the lines are any, in any order. A number without events may be the beginning of
another one.

Proof: an event is added to every PMU in whose name the text before the slash occurs, and a number
occurs in a name exactly when it begins the number there. -/
theorem separate_iff_unprefixed (names : pmuList listing = ks.map pmuName) (distinct : ks.Nodup)
    (printed : charLines output = lines.map Line.text) :
    Separate ks lines (allEvents listing output) ↔ Unprefixed ks lines := by
  refine ⟨unprefixed_of_separate names distinct printed, fun unprefixed => ?_⟩
  constructor
  case keys =>
    intro pmu events entry
    obtain ⟨_, k, isPmu, name, _⟩ := printed_of_mem names printed unprefixed entry
    exact ⟨k, isPmu, name⟩
  case events =>
    intro k isPmu
    rw [lookup_allEvents names distinct printed isPmu, printedFor]
    congr 2
    refine List.filter_congr fun line isLine => ?_
    rw [Bool.eq_iff_iff, contains_pmuName, decide_eq_true_eq]
    exact ⟨unprefixed line isLine k isPmu, fun same => same ▸ List.prefix_rfl⟩
  case groups =>
    rintro group isGroup
    obtain ⟨⟨pmu, events⟩, entry, rfl⟩ := List.mem_map.mp isGroup
    obtain ⟨_, k, isPmu, _, ofPmu⟩ := printed_of_mem names printed unprefixed entry
    exact ⟨k, isPmu, ofPmu⟩
  case mixed =>
    intro pmus several
    rw [mixedEvents, if_pos several]
    refine mapM_head fun ⟨pmu, events⟩ entry => ?_
    obtain ⟨something, k, _, name, ofPmu⟩ := printed_of_mem names printed unprefixed entry
    obtain ⟨first, others, rfl⟩ := List.exists_cons_of_ne_nil something
    exact ⟨first, rfl, k, name, ofPmu first (by simp)⟩

end Printed

/-- A line with the event `e` of a PMU. -/
def printedE (k : Nat) : EventLine where
  indent := [' ', ' ']
  pmu := k
  name := ['e']
  gap := [' ']
  blankIndent := blank_spaces
  solid := none_of_check (by decide)
  unbracketed := by decide
  blankGap := blank_space
  apart := by decide

/-- The PMUs 0 and 1 with an event each. -/
theorem separate_two : Separate [0, 1] [.event (printedE 0), .event (printedE 1)]
    (allEvents [pmuName 0, ['c', 'p', 'u'], pmuName 1]
      "  nmem0/e/ [Kernel PMU event]\n  nmem1/e/ [Kernel PMU event]\n".toList) := by
  refine (separate_iff_unprefixed (by decide +kernel) (by decide) (by decide +kernel)).mpr ?_
  have numbers : ∀ j ∈ [0, 1], ∀ k ∈ [0, 1], decimal j <+: decimal k → j = k := by decide +kernel
  intro line isLine k isPmu part
  have number : line.pmu ∈ [0, 1] := List.mem_map_of_mem (f := EventLine.pmu) isLine
  exact numbers line.pmu number k isPmu part

/-- An event of PMU 1 is also one of PMU 10. -/
theorem events_of_two_pmus :
    ¬ ∀ (listing : List Text) (output : Text) (ks : List Nat) (lines : List Line),
      pmuList listing = ks.map pmuName → ks.Nodup → charLines output = lines.map Line.text →
        Separate ks lines (allEvents listing output) := by
  intro all
  have separate := all [pmuName 1, pmuName 10]
    "  nmem1/e/ [Kernel PMU event]\n  nmem10/e/ [Kernel PMU event]\n".toList [1, 10]
    [.event (printedE 1), .event (printedE 10)] (by decide +kernel) (by decide) (by decide +kernel)
  have own := separate.events 10 (by decide)
  have both : (allEvents [pmuName 1, pmuName 10]
      "  nmem1/e/ [Kernel PMU event]\n  nmem10/e/ [Kernel PMU event]\n".toList).lookup
        (pmuName 10) = some [(printedE 1).event, (printedE 10).event] := by decide +kernel
  have printed : printedFor [.event (printedE 1), .event (printedE 10)] 10 =
      [(printedE 10).event] := by decide +kernel
  rw [both, printed] at own
  cases own

end AvocadoMisc.Perf.NmemEvents
