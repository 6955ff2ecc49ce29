import AvocadoMisc.Library.Parts
import AvocadoMisc.Library.Patterns
import AvocadoMisc.PortBounce.PathCheck

/-!
# The ports that a switch shows in another state

After a bounce, `verify_switch_port_state` of `port_bounce.py` reads the table that `switchshow`
prints, one row for each port, and records a failure for each port that is not in the state. The
row is not looked up: a regular expression asks for a line with the number of the port and, after
it, the state. The number may be a part of another number, or of an address.

A port in the state is always found. A port in another state is reported exactly when there is no
line that answers for it.
-/

namespace AvocadoMisc.PortBounce.SwitchState

open Library.Parts Library.Patterns Library.Scripts Library.Text PathCheck

/-! ### What a command on the switch prints -/

/-- The lines without the command, which may be repeated in the first one. -/
def dropEcho (command : Text) (output : List Text) : List Text :=
  if output.head?.any (contains command) then output.tail else output

/-- The lines without a last one that is blank. -/
def dropBlank (output : List Text) : List Text :=
  if output.getLast?.any fun last => strip charSpace last = [] then output.dropLast else output

/-- `_send_only_result`. -/
def sendOnlyResult (command stdoutText : Text) : Text :=
  let output := dropBlank (dropEcho command (charLines stdoutText))
  strip charSpace ((output.map (List.dropWhile charSpace)).flatMap fun element => element ++ ['\n'])

/-- A row of the table: the number of the port, and its state among the other fields. The row is
not taken for the command. -/
structure Row where
  number : Nat
  before : List Text
  state : Text
  after : List Text
  line : Text
  split : words charSpace line = decimal number :: (before ++ state :: after)
  noEcho : contains switchshow line = false

/-- The table, with what the switch says of itself in front of it, and anything behind it. -/
structure Table where
  header : List Text
  rows : List Row
  trailer : List Text
  onePerPort : (rows.map Row.number).Nodup

/-- The lines of the table. -/
def Table.lines (table : Table) : List Text :=
  table.header ++ (table.rows.map Row.line ++ table.trailer)

/-- The row of a port has the state. -/
def Table.Shows (table : Table) (port : Nat) (state : Text) : Prop :=
  ∃ row ∈ table.rows, row.number = port ∧ row.state = state

/-- A line of the table has the digits of a port and, further on, the state. -/
def Table.Answers (table : Table) (port : Nat) (state : Text) : Prop :=
  ∃ line ∈ dropEcho switchshow table.lines, Follows (decimal port) state line

/-- A state that stands for itself in a regular expression: some letters, digits and underscores. -/
structure IsPlain (state : Text) : Prop where
  nonempty : state ≠ []
  letters : ∀ c ∈ state, c.isAlphanum = true ∨ c = '_'

/-! ### What is recorded -/

/-- The message about a port. -/
def failedTo (port state : Text) : Text :=
  "Port ".toList ++ port ++ " is failed to ".toList ++ state

/-- One round of the loop over the ports. -/
def verifyPort (state switchInfo port : Text) : Script PUnit :=
  if searchPort port state switchInfo then pure ⟨⟩
  else modify (setFailure port (failedTo port state))

/-- What is recorded for a port. -/
def entry (failures : FailureList) (port : Text) : Option Text :=
  (failures.find? fun failure => failure.1 = port).map fun failure => failure.2

/-- A failure is recorded for exactly those ports whose row does not have the state. -/
def Verifies (world : World) (typ : Typ) (table : Table) (ports : List Nat) (state : Text) :
    Prop :=
  ∀ failures,
    (∀ port ∈ ports, ¬table.Shows port state →
      entry (leaves (verifySwitchPortState world typ (ports.map decimal) state) failures)
        (decimal port) = some (failedTo (decimal port) state)) ∧
    ∀ key, (∀ port ∈ ports, decimal port = key → table.Shows port state) →
      entry (leaves (verifySwitchPortState world typ (ports.map decimal) state) failures) key =
        entry failures key

/-- The key of each entry stays when the entry of one port is replaced. -/
theorem find?_replaced (port message key : Text) (failures : FailureList) :
    (failures.map fun failure => if failure.1 = port then (port, message) else failure).find?
        (fun failure => failure.1 = key) =
      (failures.find? fun failure => failure.1 = key).map fun failure =>
        if failure.1 = port then (port, message) else failure := by
  have keptKey : ∀ failure : Text × Text,
      (if failure.1 = port then (port, message) else failure).1 = failure.1 := by
    intro failure
    split <;> simp_all
  rw [List.find?_map]
  simp only [Function.comp_def, keptKey]

/-- Setting the entry of one port leaves the entries of the others. A message that the port had
already is replaced, and a port without one is added at the end. -/
theorem entry_setFailure (port message key : Text) (failures : FailureList) :
    entry (setFailure port message failures) key =
      if key = port then some message else entry failures key := by
  rw [setFailure, entry, entry]
  by_cases present : failures.any (fun failure => failure.1 = port) = true
  · rw [if_pos present, find?_replaced]
    cases isFailure : failures.find? fun failure => failure.1 = key with
    | none =>
      have other : key ≠ port := by
        rintro rfl
        obtain ⟨failure, member, ofKey⟩ := List.any_eq_true.mp present
        exact List.find?_eq_none.mp isFailure failure member ofKey
      rw [if_neg other]
      rfl
    | some failure =>
      have found := List.find?_some isFailure
      have ofKey : failure.1 = key := of_decide_eq_true found
      rw [← ofKey, Option.map_some, Option.map_some]
      split <;> rfl
  · rw [if_neg present, List.find?_append, Option.map_or]
    by_cases same : key = port
    · subst same
      have absent : failures.find? (fun failure => failure.1 = key) = none := by
        rw [List.find?_eq_none]
        intro failure member ofKey
        exact present (List.any_eq_true.mpr ⟨failure, member, ofKey⟩)
      simp [absent]
    · have other : ¬port = key := fun equal => same equal.symm
      simp [same, other]

/-- What the loop over the ports leaves for a port: a failure when the port is one of them and is
not found, and otherwise what was there before.

Proof: by induction on the ports. -/
theorem entry_verifySwitchPortState {world : World} {typ : Typ} {info : Text}
    (printed : world.switchState typ = .ok info) (ports : List Text) (state key : Text)
    (failures : FailureList) :
    entry (leaves (verifySwitchPortState world typ ports state) failures) key =
      if key ∈ ports ∧ searchPort key state info = false then some (failedTo key state)
      else entry failures key := by
  have loop : leaves (verifySwitchPortState world typ ports state) failures =
      leaves (forEach (verifyPort state info) ports) failures := by
    rw [verifySwitchPortState, leaves_bind, printed]
    rfl
  rw [loop]
  clear loop printed
  induction ports generalizing failures with
  | nil => simp [forEach, leaves, pure_apply]
  | cons port rest inductionHypothesis =>
    rw [forEach, leaves_bind, verifyPort]
    by_cases found : searchPort port state info = true
    · rw [if_pos found, pure_apply]
      have later : (key ∈ port :: rest ∧ searchPort key state info = false) ↔
          (key ∈ rest ∧ searchPort key state info = false) := by
        rw [List.mem_cons]
        constructor
        · rintro ⟨rfl | member, missing⟩
          · rw [found] at missing
            cases missing
          · exact ⟨member, missing⟩
        · rintro ⟨member, missing⟩
          exact ⟨.inr member, missing⟩
      simp only [later]
      exact inductionHypothesis failures
    · rw [if_neg found, modify_apply]
      refine (inductionHypothesis _).trans ?_
      rw [entry_setFailure]
      by_cases same : key = port
      · subst same
        simp [found]
      · simp [same]

/-! ### What answers for a port -/

/-- The search succeeds exactly when the state comes after the port in one line. -/
theorem searchPort_eq_true_iff (port state text : Text) :
    searchPort port state text = true ↔ ∃ line ∈ text.splitOn '\n', Follows port state line := by
  simp only [searchPort, follows_iff_tails, List.any_eq_true, Bool.and_eq_true,
    List.isPrefixOf_iff_prefix, contains, decide_eq_true_iff]

/-- What the dot of the regular expression stands for. -/
def notBreak (c : Char) : Bool := c ≠ '\n'

/-- The text of the search between two line breaks is a part of the text without one. -/
theorem exists_follows_splitOn_iff {port state text : Text} (portSolid : '\n' ∉ port)
    (stateSolid : '\n' ∉ state) :
    (∃ line ∈ text.splitOn '\n', Follows port state line) ↔
      ∃ middle, '\n' ∉ middle ∧ port ++ (middle ++ state) <:+: text := by
  constructor
  · rintro ⟨line, isLine, follows⟩
    obtain ⟨middle, inLine⟩ := follows_iff.mp follows
    have unbroken : '\n' ∉ line := by
      intro broken
      rw [List.splitOn_eq_splitOnP] at isLine
      have solid := solid_of_mem_splitOnP isLine broken
      simp at solid
    have absent : '\n' ∉ port ++ (middle ++ state) := fun member =>
      unbroken (inLine.subset member)
    refine ⟨middle, ?_, (infix_splitOn_iff absent).mpr ⟨line, isLine, inLine⟩⟩
    exact fun member => absent (by simp [member])
  · rintro ⟨middle, middleSolid, inText⟩
    have absent : '\n' ∉ port ++ (middle ++ state) := by
      simp [portSolid, middleSolid, stateSolid]
    obtain ⟨line, isLine, inLine⟩ := (infix_splitOn_iff absent).mp inText
    exact ⟨line, isLine, follows_iff.mpr ⟨middle, inLine⟩⟩

/-- The search is the search for the regular expression. -/
theorem searchPort_eq_search {port state : Text} (portSolid : '\n' ∉ port)
    (stateSolid : '\n' ∉ state) (text : Text) :
    searchPort port state text = (search
      (.many notBreak :: (literal port ++
        .many notBreak :: literal state)) text).isSome := by
  rw [Bool.eq_iff_iff, searchPort_eq_true_iff, exists_follows_splitOn_iff portSolid stateSolid,
    search_isSome_iff]
  constructor
  · rintro ⟨middle, middleSolid, inText⟩
    refine ⟨port ++ (middle ++ state), inText, [], _, rfl, by simp, ?_⟩
    rw [accepts_literal_append]
    refine ⟨_, rfl, middle, state, rfl, fun c member => ?_, ?_⟩
    · have other : c ≠ '\n' := fun same => middleSolid (same ▸ member)
      simpa [notBreak] using other
    · rw [accepts_literal]
  · rintro ⟨found, inText, run, rest, rfl, _, accepts⟩
    rw [accepts_literal_append] at accepts
    obtain ⟨later, rfl, middle, last, rfl, dots, isState⟩ := accepts
    rw [accepts_literal] at isState
    subst isState
    refine ⟨middle, fun member => ?_, ?_⟩
    · have other := dots '\n' member
      simp [notBreak] at other
    · exact (List.suffix_append run _).isInfix.trans inText

/-! ### What is left of a line -/

/-- A line that is not the command stays. -/
theorem mem_dropEcho {command line : Text} {output : List Text} (member : line ∈ output)
    (noEcho : contains command line = false) : line ∈ dropEcho command output := by
  unfold dropEcho
  split
  case isTrue echoed =>
    cases output with
    | nil => cases member
    | cons first rest =>
      rcases List.mem_cons.mp member with rfl | inRest
      · rw [List.head?_cons, Option.any_some, noEcho] at echoed
        cases echoed
      · exact inRest
  case isFalse => exact member

/-- No line is added. -/
theorem dropEcho_sublist (command : Text) (output : List Text) :
    (dropEcho command output).Sublist output := by
  unfold dropEcho
  split
  · exact List.tail_sublist output
  · exact List.Sublist.refl output

/-- A line with something in it stays. -/
theorem mem_dropBlank_iff {line : Text} (something : strip charSpace line ≠ [])
    (output : List Text) : line ∈ dropBlank output ↔ line ∈ output := by
  unfold dropBlank
  split
  case isTrue blank =>
    cases output using List.reverseRecOn with
    | nil => rfl
    | append_singleton front last =>
      have isBlank : strip charSpace last = [] := by simpa using blank
      have other : line ≠ last := by
        rintro rfl
        exact something isBlank
      simp [other]
  case isFalse => rfl

/-- A part without line breaks that begins and ends with something solid is in what a command
returns exactly when it is in one of the lines. -/
theorem infix_sendOnlyResult_iff {part : Text} (trimmed : Trimmed charSpace part)
    (unbroken : '\n' ∉ part) (command stdoutText : Text) :
    part <:+: sendOnlyResult command stdoutText ↔
      ∃ line ∈ dropEcho command (charLines stdoutText), part <:+: line := by
  have somethingIn : ∀ line : Text, part <:+: line → strip charSpace line ≠ [] := by
    intro line inLine blank
    have inBlank := trimmed.infix_strip_iff.mpr inLine
    rw [blank, List.infix_nil] at inBlank
    exact trimmed.nonempty inBlank
  calc part <:+: sendOnlyResult command stdoutText
      ↔ ∃ line ∈ (dropBlank (dropEcho command (charLines stdoutText))).map
          (List.dropWhile charSpace), part <:+: line := by
        rw [sendOnlyResult, trimmed.infix_strip_iff, infix_unlines_iff unbroken trimmed.nonempty]
    _ ↔ ∃ line ∈ dropBlank (dropEcho command (charLines stdoutText)), part <:+: line := by
        simp only [List.mem_map, exists_exists_and_eq_and, trimmed.infix_dropWhile_iff]
    _ ↔ ∃ line ∈ dropEcho command (charLines stdoutText), part <:+: line := by
        apply exists_congr
        intro line
        apply and_congr_left
        intro inLine
        exact mem_dropBlank_iff (somethingIn line inLine) _

/-- A state of letters is a word. -/
theorem IsPlain.isWord {state : Text} (plain : IsPlain state) : IsWord charSpace state := by
  refine ⟨plain.nonempty, fun c member => ?_⟩
  by_contra white
  rw [Bool.not_eq_false, charSpace, List.contains_iff_mem] at white
  rcases plain.letters c member with letter | rfl
  · have bounds : 48 ≤ c.toNat ∧ c.toNat ≤ 122 := by
      have ranges : ((decide (c.val ≥ 'A'.val ∧ c.val ≤ 'Z'.val) ||
          decide (c.val ≥ 'a'.val) && decide (c.val ≤ 'z'.val)) ||
          decide (c.val ≥ '0'.val) && decide (c.val ≤ '9'.val)) = true := letter
      have range : (65 ≤ c.toNat ∧ c.toNat ≤ 90) ∨ (97 ≤ c.toNat ∧ c.toNat ≤ 122) ∨
          (48 ≤ c.toNat ∧ c.toNat ≤ 57) := by
        simpa [UInt32.le_iff_toNat_le, or_assoc] using ranges
      omega
    simp only [List.mem_cons, List.not_mem_nil, or_false] at white
    omega
  · revert white
    decide

/-- The search in what `switchshow` returns succeeds exactly when a line answers. Stripping takes
only white space off the lines, so it takes nothing from a text between the number and the state. -/
theorem searchPort_sendOnlyResult {state stdoutText : Text} (isWord : IsWord charSpace state)
    (port : Nat) :
    searchPort (decimal port) state (sendOnlyResult switchshow stdoutText) = true ↔
      ∃ line ∈ dropEcho switchshow (charLines stdoutText),
        Follows (decimal port) state line := by
  have portWord := decimal_isWord port
  have portSolid : '\n' ∉ decimal port := not_mem_of_isWord portWord (by decide)
  have stateSolid : '\n' ∉ state := not_mem_of_isWord isWord (by decide)
  rw [searchPort_eq_true_iff, exists_follows_splitOn_iff portSolid stateSolid]
  constructor
  · rintro ⟨middle, middleSolid, inText⟩
    have unbroken : '\n' ∉ decimal port ++ (middle ++ state) := by
      simp [portSolid, middleSolid, stateSolid]
    obtain ⟨line, isLine, inLine⟩ := (infix_sendOnlyResult_iff
      (Trimmed.between portWord isWord middle) unbroken switchshow stdoutText).mp inText
    exact ⟨line, isLine, follows_iff.mpr ⟨middle, inLine⟩⟩
  · rintro ⟨line, isLine, follows⟩
    obtain ⟨middle, inLine⟩ := follows_iff.mp follows
    have unbroken : '\n' ∉ decimal port ++ (middle ++ state) := by
      intro member
      have solid := solid_of_mem_lines ((dropEcho_sublist _ _).subset isLine)
        (inLine.subset member)
      revert solid
      decide
    refine ⟨middle, fun member => unbroken (by simp [member]), ?_⟩
    exact (infix_sendOnlyResult_iff (Trimmed.between portWord isWord middle) unbroken
      switchshow stdoutText).mpr ⟨line, isLine, inLine⟩

/-! ### The verdict -/

/-- The row of a port in the state answers for the port. -/
theorem answers_of_shows {table : Table} {port : Nat} {state : Text}
    (shows : table.Shows port state) : table.Answers port state := by
  obtain ⟨row, isRow, rfl, rfl⟩ := shows
  refine ⟨row.line, mem_dropEcho ?_ row.noEcho, ?_⟩
  · simp only [Table.lines, List.mem_append, List.mem_map]
    exact .inr (.inl ⟨row, isRow, rfl⟩)
  · exact follows_of_words row.split (by simp)

/-- The ports are verified exactly when no line answers for one of them that is not in the
state.

The rows are in any order, one for each port, with any lines in front of them and behind them.
States that mean something else in a regular expression, and a switch that does not answer, are not
covered.

Proof: the row of a port answers for it, so only lines that answer for a port in another state can
mislead the search. -/
theorem verifies_iff {world : World} {typ : Typ} {table : Table} {stdoutText state : Text}
    (printed : charLines stdoutText = table.lines)
    (answered : world.switchState typ = .ok (sendOnlyResult switchshow stdoutText))
    (plain : IsPlain state) (ports : List Nat) :
    Verifies world typ table ports state ↔
      ∀ port ∈ ports, ¬table.Shows port state → ¬table.Answers port state := by
  have found : ∀ port, searchPort (decimal port) state (sendOnlyResult switchshow stdoutText) =
      true ↔ table.Answers port state := by
    intro port
    rw [searchPort_sendOnlyResult plain.isWord, printed, Table.Answers]
  have listed : ∀ port ∈ ports, decimal port ∈ ports.map decimal := fun port member =>
    List.mem_map_of_mem member
  constructor
  · intro verifies port isListed notShown answers
    have recorded := (verifies []).1 port isListed notShown
    rw [entry_verifySwitchPortState answered, (found port).mpr answers] at recorded
    simp [entry] at recorded
  · intro silent failures
    constructor
    · intro port isListed notShown
      have missing : ¬searchPort (decimal port) state
          (sendOnlyResult switchshow stdoutText) = true := fun answers =>
        silent port isListed notShown ((found port).mp answers)
      rw [entry_verifySwitchPortState answered]
      apply if_pos
      exact ⟨listed port isListed, eq_false_of_ne_true missing⟩
    · intro key inState
      rw [entry_verifySwitchPortState answered]
      apply if_neg
      rintro ⟨isListed, missing⟩
      obtain ⟨port, member, rfl⟩ := List.mem_map.mp isListed
      have answers := (found port).mpr (answers_of_shows (inState port member rfl))
      rw [missing] at answers
      cases answers

/-- A row with two further fields. -/
def shortRow (number : Nat) (address state line : Text)
    (split : words charSpace line = [decimal number, address, state])
    (noEcho : contains switchshow line = false) : Row :=
  ⟨number, [address], state, [], line, split, noEcho⟩

/-- Two ports of which one is on. The digits of the other one are the first digits of its
number. -/
def twoPorts : Table where
  header := ["switchshow".toList, "switchState: Online".toList]
  rows :=
    [shortRow 1 "3b0c".toList "Disabled".toList " 1 3b0c Disabled".toList (by decide +kernel)
      (by decide +kernel),
    shortRow 10 "3b0d".toList "Online".toList "10 3b0d Online".toList (by decide +kernel)
      (by decide +kernel)]
  trailer := [[]]
  onePerPort := by decide

/-- What the switch prints for them. -/
def twoPortsText : Text :=
  "switchshow\r\nswitchState: Online\r\n 1 3b0c Disabled\r\n10 3b0d Online\r\n\r\n".toList

/-- A world with this switch. -/
def twoPortsWorld : World where
  devices := []
  selects := fun _ _ => true
  dic := fun _ => "host0".toList
  adapterType := "fc".toList
  switchInfo := fun _ => .ok []
  portCommand := fun _ => .ok []
  switchState := fun _ => .ok (sendOnlyResult switchshow twoPortsText)
  portState := fun _ _ => none
  polls := fun _ _ _ => []

/-- The state of a port that is off. -/
theorem disabled_plain : IsPlain "Disabled".toList := ⟨by decide, forall_of_check (by decide)⟩

/-- That only one of them is off is verified. -/
theorem verifies_twoPorts :
    Verifies twoPortsWorld .disable twoPorts [1, 10] "Disabled".toList := by
  refine (verifies_iff (by decide +kernel) rfl disabled_plain [1, 10]).mpr ?_
  intro port listed notShown
  have silent : ∀ line ∈ dropEcho switchshow twoPorts.lines,
      ¬Follows (decimal 10) "Disabled".toList line := by decide +kernel
  rcases List.mem_cons.mp listed with rfl | inRest
  · exact absurd ⟨_, List.mem_cons_self, rfl, rfl⟩ notShown
  · obtain rfl := List.mem_singleton.mp inRest
    rintro ⟨line, isLine, follows⟩
    exact silent line isLine follows

/-- That only one of them is on is not: the other port's row answers. -/
theorem not_verified :
    entry (leaves (verifySwitchPortState twoPortsWorld .enable [decimal 1] "Online".toList) [])
      (decimal 1) = none ∧
    ¬Verifies twoPortsWorld .enable twoPorts [1] "Online".toList := by
  have quiet : entry (leaves (verifySwitchPortState twoPortsWorld .enable [decimal 1]
      "Online".toList) []) (decimal 1) = none := by decide +kernel
  refine ⟨quiet, fun verifies => ?_⟩
  have notShown : ¬twoPorts.Shows 1 "Online".toList := by
    rintro ⟨row, isRow, ofPort, inState⟩
    revert row
    decide +kernel
  have recorded := (verifies []).1 1 (by decide) notShown
  rw [List.map_singleton, quiet] at recorded
  cases recorded

end AvocadoMisc.PortBounce.SwitchState
