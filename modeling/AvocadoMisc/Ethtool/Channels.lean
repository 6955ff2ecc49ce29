import AvocadoMisc.Library.Text
import AvocadoMisc.Library.Writes

/-!
# Channel counts, set and restored

`test_ethtool` of `ethtool_test.py` reads the channel counts of an interface from the listing of
`ethtool -l`, tries out some counts, sets the requested counts and restores the counts it has read.

The listing has RX before TX, and the list of parameters has `tx` before `rx`. The two commands are
put together from pieces without a blank between some of them. So both are right only where RX and
TX have the same count, and the commands only where at most one parameter is in them.
-/

namespace AvocadoMisc.Ethtool.Channels

open Library.Text Library.Writes

/-! ### The listing -/

/-- A character string. -/
abbrev Text := List Char

/-- The parameters of `ethtool -L`. -/
inductive Param where
  | tx
  | rx
  | other
  | combined
  deriving DecidableEq

/-- The order of the list of parameters. -/
def params : List Param := [.tx, .rx, .other, .combined]

/-- The name of a parameter in a command. -/
def Param.name : Param → Text
  | .tx => ['t', 'x']
  | .rx => ['r', 'x']
  | .other => ['o', 't', 'h', 'e', 'r']
  | .combined => ['c', 'o', 'm', 'b', 'i', 'n', 'e', 'd']

/-- The name of a parameter in the listing. -/
def Param.title : Param → Text
  | .tx => ['T', 'X']
  | .rx => ['R', 'X']
  | .other => ['O', 't', 'h', 'e', 'r']
  | .combined => ['C', 'o', 'm', 'b', 'i', 'n', 'e', 'd']

/-- What is between the colon and the count. -/
def Param.tabs : Param → Text
  | .combined => ['\t']
  | _ => ['\t', '\t']

/-- The counts of the channels. There is none where it is not applicable. -/
abbrev Counts := Param → Option Nat

/-- A count as it is listed. -/
def shown : Option Nat → Text
  | none => ['n', '/', 'a']
  | some count => decimal count

/-- The line of a count. -/
def line (param : Param) (count : Option Nat) : Text :=
  param.title ++ ':' :: (param.tabs ++ shown count)

/-- The order of the listing. -/
def printed : List Param := [.rx, .tx, .other, .combined]

/-- What is listed for an interface: the maximums and the current counts. -/
structure Listing where
  interface : Text
  isWord : IsWord charSpace interface
  maximums : Counts
  current : Counts

/-- The lines in front of the current counts. -/
def Listing.header (listing : Listing) : List Text :=
  ("Channel parameters for ".toList ++ listing.interface ++ [':']) :: "Pre-set maximums:".toList ::
    (printed.map fun param => line param (listing.maximums param)) ++
    ["Current hardware settings:".toList]

/-- What `ethtool -l` prints. -/
def Listing.output (listing : Listing) : Text :=
  (listing.header ++ printed.map fun param => line param (listing.current param)).flatMap
    fun line => line ++ ['\n']

/-! ### Reading the listing -/

/-- The requested counts, as they are given. An empty text requests nothing. -/
structure Request where
  value : Param → Text
  solid : ∀ param, value param = [] ∨ IsWord charSpace (value param)

/-- The entries of the lists `param`, `value` and `default_set` at one place. -/
structure Row where
  param : Text
  value : Text
  default : Text
  deriving DecidableEq

/-- The entries at the place of a parameter. They are blank when the line at this place has no
count. -/
def row (text : Text) (request : Request) (place : Nat) (param : Param) : Row :=
  let output := (((charLines text).drop 7).take 4).getD place []
  if contains ['n', '/', 'a'] output then ⟨[], [], []⟩
  else ⟨param.name, request.value param, (output.splitOn ':').getD 1 []⟩

/-- The place of a parameter in the list of parameters. -/
def Param.place : Param → Nat
  | .tx => 0
  | .rx => 1
  | .other => 2
  | .combined => 3

/-- The entries of a parameter. -/
def entry (text : Text) (request : Request) (param : Param) : Row :=
  row text request param.place param

/-! ### The commands -/

/-- How a command ends. -/
structure Result where
  exitStatus : Nat
  stderrText : Text

/-- How commands end, whether the peer answers after them, and whether the interface is up. -/
structure World where
  result : Text → Result
  ping : Text → Bool
  up : Bool

/-- Pieces of a command with a blank between any two of them. -/
def join (pieces : List Text) : Text := [' '].intercalate pieces

/-- How the commands begin. -/
def front (interface : Text) : List Text :=
  [['e', 't', 'h', 't', 'o', 'o', 'l'], ['-', 'L'], interface]

/-- `int`, for a count with blanks in front of it. -/
def int (text : Text) : Nat := Nat.ofDigitChars 10 (strip charSpace text) 0

/-- The counts that are tried out. -/
def probes (default : Text) : List Text :=
  [['0'], ['1'], decimal (int default / 2), default, decimal (int default + 1)]

/-- A command to try out a count. -/
def probeCommand (interface : Text) (row : Row) (probe : Text) : Text :=
  join (front interface ++ [row.param, probe])

/-- The test goes on after trying out a count. -/
def goesOn (world : World) (command : Text) : Bool :=
  (!world.up || world.ping command) &&
    ((world.result command).exitStatus == 0 ||
      contains "no RX or TX channel".toList (world.result command).stderrText ||
      contains "count exceeds maximum".toList (world.result command).stderrText)

/-- The test goes on after trying out counts for an entry. -/
def probesPass (world : World) (interface : Text) (row : Row) : Bool :=
  row.default = [] || row.value = [] ||
    (probes row.default).all fun probe => goesOn world (probeCommand interface row probe)

/-- The four entries, in the order of the list of parameters. -/
def entries (text : Text) (request : Request) : List Row :=
  params.map (entry text request)

/-- The command to set the requested counts. Some pieces are two texts. -/
def applyCommand (interface text : Text) (request : Request) : Text :=
  let tx := entry text request .tx
  let rx := entry text request .rx
  let other := entry text request .other
  let combined := entry text request .combined
  join (front interface ++ [tx.param, tx.value ++ rx.param, rx.value, other.param,
    other.value ++ combined.param, combined.value])

/-- The command to restore the counts. Here too some pieces are two texts. -/
def restoreCommand (interface text : Text) (request : Request) : Text :=
  let tx := entry text request .tx
  let rx := entry text request .rx
  let other := entry text request .other
  let combined := entry text request .combined
  join (front interface ++ [tx.param, tx.default ++ rx.param, rx.default,
    other.param ++ other.default, combined.param, combined.default])

/-- The command to set the requested counts is issued. -/
def applies (world : World) (interface text : Text) (request : Request) : Bool :=
  !((entries text request).all fun entry => entry.value = []) &&
    (entries text request).all (probesPass world interface)

/-- The command to restore the counts is issued. -/
def restores (world : World) (interface text : Text) (request : Request) : Bool :=
  applies world interface text request &&
    (world.result (applyCommand interface text request)).exitStatus == 0

/-! ### What `ethtool` does -/

/-- The parameter with a name. -/
def paramOf (name : Text) : Option Param :=
  params.find? fun param => param.name = name

/-- A count that is written with digits. -/
def number (text : Text) : Option Nat :=
  if text ≠ [] ∧ text.all Char.isDigit = true then some (Nat.ofDigitChars 10 text 0) else none

/-- The settings in a command, after the interface. -/
def settings : List Text → Option (List (Param × Option Nat))
  | [] => some []
  | [_] => none
  | name :: value :: rest => do
    let param ← paramOf name
    let count ← number value
    let others ← settings rest
    some ((param, some count) :: others)

/-- The counts after a command that is accepted. -/
def setChannels (command : Text) (counts : Counts) : Option Counts :=
  (settings ((words charSpace command).drop 3)).map (writeAll counts)

/-! ### What is asked of the test -/

/-- The parameters that have a count. -/
def supported (counts : Counts) : List Param :=
  params.filter fun param => (counts param).isSome

/-- A command has the interface and the parameters that have a count, in some order, each with its
value. -/
def Proper (listing : Listing) (command : Text) (value : Param → Text) : Prop :=
  ∃ given : List Param, given.Perm (supported listing.current) ∧
    words charSpace command =
      front listing.interface ++ given.flatMap fun param => [param.name, value param]

/-- The value of a parameter as it was read, without the blanks in front of it. -/
def original (listing : Listing) (param : Param) : Text :=
  match listing.current param with
  | none => []
  | some count => decimal count

/-- What is asked of one pass over the counts: each is associated with its parameter, both commands
are proper, and the second one restores the counts. -/
structure RestoresChannels (world : World) (request : Request) (listing : Listing) : Prop where
  associated : ∀ param, strip charSpace (entry listing.output request param).default =
    original listing param
  applied : applies world listing.interface listing.output request = true →
    Proper listing (applyCommand listing.interface listing.output request) request.value
  restored : restores world listing.interface listing.output request = true →
    Proper listing (restoreCommand listing.interface listing.output request) (original listing)
  counts : restores world listing.interface listing.output request = true →
    ∀ before after : Counts, (∀ param, listing.current param = none → before param = none) →
      setChannels (restoreCommand listing.interface listing.output request) before = some after →
        after = listing.current

/-! ### The entries -/

/-- No line of a count is broken. -/
theorem line_unbroken (param : Param) (count : Option Nat) :
    ∀ c ∈ line param count, charBreak c = false := by
  have named : ∀ c ∈ param.title ++ ':' :: param.tabs, charBreak c = false := by
    cases param <;> exact none_of_check (by decide)
  intro c member
  rw [line, ← List.cons_append, ← List.append_assoc, List.mem_append] at member
  rcases member with inName | inCount
  · exact named c inName
  · cases count with
    | none => exact none_of_check (by decide) c inCount
    | some n => exact charBreak_of_solid ((decimal_isWord n).solid c inCount)

/-- No line in front of the current counts is broken. -/
theorem header_unbroken (listing : Listing) :
    ∀ text ∈ listing.header, ∀ c ∈ text, charBreak c = false := by
  intro text member
  simp only [Listing.header, List.cons_append, List.mem_cons, List.mem_append, List.mem_map,
    List.not_mem_nil, or_false] at member
  rcases member with rfl | rfl | ⟨param, _, rfl⟩ | rfl
  · intro c member
    rw [List.mem_append, List.mem_append] at member
    rcases member with (inFront | inName) | last
    · exact none_of_check (by decide +kernel) c inFront
    · exact charBreak_of_solid (listing.isWord.solid c inName)
    · exact none_of_check (by decide) c last
  · exact none_of_check (by decide +kernel)
  · exact line_unbroken param _
  · exact none_of_check (by decide +kernel)

/-- The lines that are read. -/
theorem lines_read (listing : Listing) :
    ((charLines listing.output).drop 7).take 4 =
      printed.map fun param => line param (listing.current param) := by
  have read : charLines listing.output =
      listing.header ++ printed.map fun param => line param (listing.current param) := by
    refine lines_unlines (by decide) (by decide) (by decide) fun text member => ?_
    rcases List.mem_append.mp member with inHeader | isLine
    · exact header_unbroken listing text inHeader
    · obtain ⟨param, _, rfl⟩ := List.mem_map.mp isLine
      exact line_unbroken param _
  rw [read, List.drop_left' (by simp [Listing.header, printed])]
  rfl

/-- A line has a count exactly when it does not say otherwise. -/
theorem contains_line (param : Param) (count : Option Nat) :
    contains ['n', '/', 'a'] (line param count) = count.isNone := by
  cases count with
  | none =>
    rw [contains, line, Option.isNone_none, decide_eq_true_iff]
    exact ⟨param.title ++ ':' :: param.tabs, [], by simp [shown]⟩
  | some n =>
    have named : ∀ c ∈ param.title ++ ':' :: param.tabs, c ≠ '/' := by
      cases param <;> exact forall_of_check (by decide)
    rw [contains, Option.isNone_some, decide_eq_false_iff_not]
    intro shows
    have slash := shows.subset (by decide : '/' ∈ ['n', '/', 'a'])
    rw [line, ← List.cons_append, ← List.append_assoc, List.mem_append] at slash
    rcases slash with inName | inCount
    · exact named '/' inName rfl
    · exact absurd (decimal_digits n '/' inCount) (by decide)

/-- What is after the colon. -/
theorem splitOn_line (param : Param) (n : Nat) :
    ((line param (some n)).splitOn ':').getD 1 [] = param.tabs ++ decimal n := by
  have title : ':' ∉ param.title := by cases param <;> decide
  have count : ':' ∉ param.tabs ++ decimal n := by
    intro member
    rcases List.mem_append.mp member with inTabs | inCount
    · exact absurd inTabs (by cases param <;> decide)
    · exact absurd (decimal_digits n ':' inCount) (by decide)
  rw [line, List.splitOn_append_cons_self, List.splitOn_eq_singleton title,
    List.splitOn_eq_singleton (by simpa [shown] using count)]
  rfl

/-- The parameter whose count is listed at the place of a parameter. -/
def Param.listed : Param → Param
  | .tx => .rx
  | .rx => .tx
  | param => param

/-- The entries of a parameter have the count that is listed at its place. -/
theorem entry_eq (listing : Listing) (request : Request) (param : Param) :
    entry listing.output request param =
      match listing.current param.listed with
      | none => ⟨[], [], []⟩
      | some n => ⟨param.name, request.value param, param.listed.tabs ++ decimal n⟩ := by
  have output : (((charLines listing.output).drop 7).take 4).getD param.place [] =
      line param.listed (listing.current param.listed) := by
    rw [lines_read]
    cases param <;> rfl
  rw [entry, row, output, contains_line]
  cases count : listing.current param.listed with
  | none => rfl
  | some n =>
    rw [splitOn_line]
    rfl

/-! ### Words of the commands -/

/-- The name of a parameter is a word. -/
theorem name_isWord (param : Param) : IsWord charSpace param.name := by
  cases param <;> exact isWord_of_check (by decide) (by decide)

/-- The blanks in front of a count are blank. -/
theorem tabs_blank (param : Param) : Blank charSpace param.tabs := by
  cases param <;> exact forall_of_check (by decide)

/-- A count that was read, without the blanks in front of it. -/
theorem strip_read (param : Param) (n : Nat) :
    strip charSpace (param.tabs ++ decimal n) = decimal n := by
  have isWord := decimal_isWord n
  rw [strip, dropWhile_blank (tabs_blank param), ← strip, isWord.strip]

/-- A count that was read is one word. -/
theorem words_read (param : Param) (n : Nat) :
    words charSpace (param.tabs ++ decimal n) = [decimal n] := by
  rw [words_blank_append (tabs_blank param), words_solid (decimal_isWord n)]

/-- A text that is blank or a word has at most one word. -/
theorem words_length_le {text : Text} (single : text = [] ∨ IsWord charSpace text) :
    (words charSpace text).length ≤ 1 := by
  rcases single with rfl | isWord
  · simp [words, cut]
  · rw [words_solid isWord, List.length_singleton]

/-- Two texts without blanks have no blanks together. -/
theorem append_single {first second : Text} (one : first = [] ∨ IsWord charSpace first)
    (other : second = [] ∨ IsWord charSpace second) :
    first ++ second = [] ∨ IsWord charSpace (first ++ second) := by
  rcases one with rfl | firstWord
  · exact other
  · rcases other with rfl | secondWord
    · rw [List.append_nil]
      exact .inr firstWord
    · refine .inr ⟨by simp [firstWord.nonempty], fun c member => ?_⟩
      rcases List.mem_append.mp member with inFirst | inSecond
      · exact firstWord.solid c inFirst
      · exact secondWord.solid c inSecond

/-- The words of a command. -/
theorem words_join (listing : Listing) (pieces : List Text) :
    words charSpace (join (front listing.interface ++ pieces)) =
      front listing.interface ++ pieces.flatMap (words charSpace) := by
  have ethtool : IsWord charSpace ['e', 't', 'h', 't', 'o', 'o', 'l'] :=
    isWord_of_check (by decide) (by decide)
  have option : IsWord charSpace ['-', 'L'] := isWord_of_check (by decide) (by decide)
  have fronts : (front listing.interface).flatMap (words charSpace) = front listing.interface := by
    simp [front, words_solid ethtool, words_solid option, words_solid listing.isWord]
  rw [join, words_intercalate (by decide), List.flatMap_append, fronts]

/-- A proper command has two words for every parameter with a count, and none of them is empty. -/
theorem Proper.facts {listing : Listing} {command : Text} {value : Param → Text}
    (proper : Proper listing command value) :
    (words charSpace command).length = 3 + 2 * (supported listing.current).length ∧
      ∀ param ∈ supported listing.current, value param ≠ [] := by
  obtain ⟨given, same, split⟩ := proper
  constructor
  · rw [split, ← same.length_eq]
    have pairs : (given.flatMap fun param => [param.name, value param]).length =
        given.length * 2 := by
      simp [List.length_flatMap]
    rw [List.length_append, pairs, front]
    simp only [List.length_cons, List.length_nil]
    omega
  · intro param member
    have isWord : value param ∈ words charSpace command := by
      rw [split, List.mem_append, List.mem_flatMap]
      exact .inr ⟨param, same.mem_iff.mpr member, by simp⟩
    exact ne_nil_of_mem_words isWord

/-- There are no other parameters. -/
theorem mem_params (param : Param) : param ∈ params := by
  cases param <;> decide

/-! ### Where RX and TX are the same -/

variable {world : World} {request : Request} {listing : Listing}

/-- The counts are associated with their parameters exactly when RX and TX have the same one. -/
theorem associated_iff :
    (∀ param, strip charSpace (entry listing.output request param).default =
      original listing param) ↔ listing.current .rx = listing.current .tx := by
  have read : ∀ param, strip charSpace (entry listing.output request param).default =
      original listing param.listed := by
    intro param
    rw [entry_eq, original]
    cases listing.current param.listed with
    | none => rfl
    | some n => exact strip_read param.listed n
  constructor
  · intro associated
    have first := associated .tx
    rw [read] at first
    simp only [original, Param.listed] at first
    cases rx : listing.current .rx with
    | none =>
      cases tx : listing.current .tx with
      | none => rfl
      | some n =>
        rw [rx, tx] at first
        exact absurd first.symm (decimal_isWord n).nonempty
    | some m =>
      cases tx : listing.current .tx with
      | none =>
        rw [rx, tx] at first
        exact absurd first (decimal_isWord m).nonempty
      | some n =>
        rw [rx, tx] at first
        rw [decimal_injective first]
  · intro same param
    rw [read, original, original]
    cases param with
    | tx => rw [Param.listed, same]
    | rx => rw [Param.listed, same]
    | other => rfl
    | combined => rfl

/-- Where RX and TX are the same, the entries of a parameter have its own count. -/
theorem entry_of_same (same : listing.current .rx = listing.current .tx) (param : Param) :
    entry listing.output request param =
      match listing.current param with
      | none => ⟨[], [], []⟩
      | some n => ⟨param.name, request.value param, param.tabs ++ decimal n⟩ := by
  rw [entry_eq]
  cases param with
  | tx => rw [Param.listed, same]; rfl
  | rx => rw [Param.listed, same]; rfl
  | other => rfl
  | combined => rfl

/-- Whether a parameter has a count, as a number. -/
def present (listing : Listing) (param : Param) : Nat :=
  if (listing.current param).isSome = true then 1 else 0

/-- The number of parameters with a count. -/
theorem supported_length (listing : Listing) :
    (supported listing.current).length =
      present listing .tx + present listing .rx + present listing .other +
        present listing .combined := by
  rw [supported, ← List.countP_eq_length_filter, params]
  simp only [List.countP_cons, List.countP_nil, present]
  omega

/-- A piece with the entries of two parameters has one word at most, and none without a count. -/
theorem words_value_param (same : listing.current .rx = listing.current .tx)
    (first second : Param) :
    (words charSpace ((entry listing.output request first).value ++
      (entry listing.output request second).param)).length ≤
        max (present listing first) (present listing second) := by
  rw [entry_of_same same, entry_of_same same, present, present]
  have value := request.solid first
  have name := name_isWord second
  cases listing.current first with
  | none =>
    cases listing.current second with
    | none => simp [words, cut]
    | some n => simpa using words_length_le (.inr name)
  | some m =>
    cases listing.current second with
    | none => simpa using words_length_le value
    | some n => simpa using words_length_le (append_single value (.inr name))

/-- The name of a parameter is a word if it has a count. -/
theorem words_param (same : listing.current .rx = listing.current .tx) (param : Param) :
    (words charSpace (entry listing.output request param).param).length ≤
      present listing param := by
  rw [entry_of_same same, present]
  cases listing.current param with
  | none => simp [words, cut]
  | some n => simpa using words_length_le (.inr (name_isWord param))

/-- The requested value is a word if there is a count. -/
theorem words_value (same : listing.current .rx = listing.current .tx) (param : Param) :
    (words charSpace (entry listing.output request param).value).length ≤
      present listing param := by
  rw [entry_of_same same, present]
  cases listing.current param with
  | none => simp [words, cut]
  | some n => simpa using words_length_le (request.solid param)

/-- The command to set the requested counts is not proper when it has two parameters. -/
theorem applied_single (same : listing.current .rx = listing.current .tx)
    (proper :
      Proper listing (applyCommand listing.interface listing.output request) request.value) :
    listing.current .rx = none ∧
      (listing.current .other = none ∨ listing.current .combined = none) := by
  have counted := proper.facts.1
  rw [applyCommand, words_join, supported_length] at counted
  simp only [front, List.length_append, List.length_cons, List.length_nil, List.flatMap_cons,
    List.flatMap_nil] at counted
  have tx := @words_param request listing same .tx
  have txRx := @words_value_param request listing same .tx .rx
  have rx := @words_value request listing same .rx
  have other := @words_param request listing same .other
  have otherCombined := @words_value_param request listing same .other .combined
  have combined := @words_value request listing same .combined
  have equal : present listing .tx = present listing .rx := by rw [present, present, same]
  have bound : ∀ param, present listing param ≤ 1 := by
    intro param
    rw [present]
    split <;> omega
  have := bound .rx
  have := bound .other
  have := bound .combined
  have absent : ∀ param, present listing param = 0 ↔ listing.current param = none := by
    intro param
    rw [present]
    cases listing.current param <;> simp
  rw [← absent, ← absent, ← absent]
  omega

/-- Only one of the parameters that come last has a count. -/
structure Single (listing : Listing) (param : Param) (n : Nat) : Prop where
  last : param = .other ∨ param = .combined
  count : listing.current param = some n
  others : ∀ further, further ≠ param → listing.current further = none

/-- With a single count, RX and TX are the same. -/
theorem Single.same {param : Param} {n : Nat} (single : Single listing param n) :
    listing.current .rx = listing.current .tx := by
  rcases single.last with rfl | rfl
  · rw [single.others .rx (by decide), single.others .tx (by decide)]
  · rw [single.others .rx (by decide), single.others .tx (by decide)]

/-- The supported parameters, when there is a single count. -/
theorem Single.supported_eq {param : Param} {n : Nat} (single : Single listing param n) :
    supported listing.current = [param] := by
  have count := single.count
  have others := single.others
  rcases single.last with rfl | rfl
  · simp [supported, params, others .tx, others .rx, others .combined, count]
  · simp [supported, params, others .tx, others .rx, others .other, count]

/-- The words of the command to set the requested counts, when there is a single count. -/
theorem Single.words_apply {param : Param} {n : Nat} (single : Single listing param n)
    (isWord : IsWord charSpace (request.value param)) :
    words charSpace (applyCommand listing.interface listing.output request) =
      front listing.interface ++ [param.name, request.value param] := by
  have count := single.count
  have others := single.others
  have nothing : words charSpace ([] : Text) = [] := rfl
  rw [applyCommand, words_join, entry_of_same single.same, entry_of_same single.same,
    entry_of_same single.same, entry_of_same single.same]
  rcases single.last with rfl | rfl
  · simp [others .tx, others .rx, others .combined, count, nothing, words_solid isWord,
      words_solid (name_isWord .other)]
  · simp [others .tx, others .rx, others .other, count, nothing, words_solid isWord,
      words_solid (name_isWord .combined)]

/-- The words of the command to restore the counts, when there is a single count. -/
theorem Single.words_restore {param : Param} {n : Nat} (single : Single listing param n) :
    words charSpace (restoreCommand listing.interface listing.output request) =
      front listing.interface ++ [param.name, decimal n] := by
  have count := single.count
  have others := single.others
  have nothing : words charSpace ([] : Text) = [] := rfl
  rw [restoreCommand, words_join, entry_of_same single.same, entry_of_same single.same,
    entry_of_same single.same, entry_of_same single.same]
  rcases single.last with rfl | rfl
  · have tab : charSpace '\t' = true := by decide
    have pair : words charSpace (Param.other.name ++ (Param.other.tabs ++ decimal n)) =
        [Param.other.name, decimal n] := by
      have twoTabs : Param.other.tabs = ['\t', '\t'] := rfl
      rw [twoTabs, List.cons_append, words_append tab, words_solid (name_isWord .other)]
      have rest : words charSpace (['\t'] ++ decimal n) = [decimal n] := words_read .combined n
      rw [rest]
      rfl
    simp [others .tx, others .rx, others .combined, count, nothing, pair]
  · simp [others .tx, others .rx, others .other, count, nothing, words_read,
      words_solid (name_isWord .combined)]

/-- The name of a parameter is found. -/
theorem paramOf_name (param : Param) : paramOf param.name = some param := by
  cases param <;> decide

/-- A count that is written is read. -/
theorem number_decimal (n : Nat) : number (decimal n) = some n := by
  have digits : (decimal n).all Char.isDigit = true := List.all_eq_true.mpr (decimal_digits n)
  rw [number, if_pos ⟨(decimal_isWord n).nonempty, digits⟩, decimal,
    Nat.ofDigitChars_ten_toDigits]

/-- A command with a single count restores this count. -/
theorem Single.restores_counts {param : Param} {n : Nat} (single : Single listing param n)
    {before after : Counts} (blank : ∀ param, listing.current param = none → before param = none)
    (accepted : setChannels (restoreCommand listing.interface listing.output request) before =
      some after) : after = listing.current := by
  have given : settings [param.name, decimal n] = some [(param, some n)] := by
    simp [settings, paramOf_name, number_decimal]
  have dropped : (front listing.interface ++ [param.name, decimal n]).drop 3 =
      [param.name, decimal n] := rfl
  rw [setChannels, single.words_restore, dropped, given, Option.map_some,
    Option.some.injEq] at accepted
  funext further
  rw [← accepted, writeAll_apply]
  by_cases same : further = param
  · rw [same, single.count]
    simp [valuesOf]
  · have none := single.others further same
    rw [none, ← blank further none]
    simp [valuesOf, Ne.symm same]

/-- Something is requested for a parameter that has a count. Only then a command is put together. -/
def Asked (request : Request) (listing : Listing) : Prop :=
  ∃ param, listing.current param ≠ none ∧ request.value param ≠ []

/-- The entries of a parameter with a count, as they should be. -/
def ownRow (request : Request) (param : Param) (n : Nat) : Row :=
  ⟨param.name, request.value param, param.tabs ++ decimal n⟩

/-- The test goes on after trying out counts for every parameter that has one. -/
def Tried (world : World) (request : Request) (listing : Listing) : Prop :=
  ∀ param n, listing.current param = some n →
    probesPass world listing.interface (ownRow request param n) = true

/-- Where RX and TX are the same, some value is kept when something is requested for a parameter
that has a count. -/
theorem asked_iff (same : listing.current .rx = listing.current .tx) :
    (!((entries listing.output request).all fun entry => entry.value = [])) = true ↔
      Asked request listing := by
  rw [Bool.not_eq_true', List.all_eq_false]
  simp only [entries, List.mem_map, decide_eq_true_eq]
  constructor
  · rintro ⟨_, ⟨param, _, rfl⟩, some_value⟩
    refine ⟨param, ?_, ?_⟩ <;> rw [entry_of_same same] at some_value
    · intro none
      rw [none] at some_value
      exact some_value rfl
    · intro blank
      cases count : listing.current param with
      | none => simp [count] at some_value
      | some n => simp [count, blank] at some_value
  · rintro ⟨param, count, some_value⟩
    refine ⟨_, ⟨param, mem_params param, rfl⟩, ?_⟩
    rw [entry_of_same same]
    obtain ⟨n, count⟩ := Option.ne_none_iff_exists'.mp count
    rw [count]
    exact some_value

/-- Where RX and TX are the same, the counts that are tried out are those of the parameters that
have one. -/
theorem tried_iff (same : listing.current .rx = listing.current .tx) :
    (entries listing.output request).all (probesPass world listing.interface) = true ↔
      Tried world request listing := by
  rw [List.all_eq_true]
  simp only [entries, List.forall_mem_map]
  constructor
  · intro all param n count
    have passed := all param (mem_params param)
    rw [entry_of_same same, count] at passed
    exact passed
  · intro all param _
    rw [entry_of_same same]
    cases count : listing.current param with
    | none => rfl
    | some n => exact all param n count

/-- Where RX and TX are the same, a command is issued when something is requested and the test goes
on after trying out counts. -/
theorem applies_iff (same : listing.current .rx = listing.current .tx) :
    applies world listing.interface listing.output request = true ↔
      Asked request listing ∧ Tried world request listing := by
  rw [applies, Bool.and_eq_true, asked_iff same, tried_iff same]

/-- Where RX and TX have no count and at most one of the other two has one, there is a single count
when a command is issued. -/
theorem single_of_asked (same : listing.current .rx = listing.current .tx)
    (noRx : listing.current .rx = none)
    (one : listing.current .other = none ∨ listing.current .combined = none)
    (asked : Asked request listing) :
    ∃ param n, Single listing param n ∧ IsWord charSpace (request.value param) := by
  obtain ⟨param, counted, some_value⟩ := asked
  obtain ⟨n, count⟩ := Option.ne_none_iff_exists'.mp counted
  have isWord := (request.solid param).resolve_left some_value
  have noTx : listing.current .tx = none := same.symm.trans noRx
  cases param with
  | tx => exact absurd noTx counted
  | rx => exact absurd noRx counted
  | other =>
    have noCombined := one.resolve_left counted
    refine ⟨.other, n, ⟨.inl rfl, count, fun further differs => ?_⟩, isWord⟩
    cases further with
    | tx => exact noTx
    | rx => exact noRx
    | other => exact absurd rfl differs
    | combined => exact noCombined
  | combined =>
    have noOther := one.resolve_right counted
    refine ⟨.combined, n, ⟨.inr rfl, count, fun further differs => ?_⟩, isWord⟩
    cases further with
    | tx => exact noTx
    | rx => exact noRx
    | other => exact noOther
    | combined => exact absurd rfl differs

/-- With a single count everything is right. -/
theorem Single.restoresChannels {param : Param} {n : Nat} (single : Single listing param n)
    (isWord : IsWord charSpace (request.value param)) : RestoresChannels world request listing where
  associated := associated_iff.mpr single.same
  applied _ :=
    ⟨[param], by rw [single.supported_eq], by
      rw [single.words_apply isWord, List.flatMap_singleton]⟩
  restored _ :=
    ⟨[param], by rw [single.supported_eq], by
      rw [single.words_restore, List.flatMap_singleton, original, single.count]⟩
  counts _ _ _ blank accepted := single.restores_counts blank accepted

/-- Channel counts are restored exactly when RX and TX have the same count, and either no command is
issued, or RX and TX have none and at most one of the other two has one.

The request may leave out each of the four counts, and the listing may have none for it. The
commands may end in any way, and the peer may stop answering. -/
theorem restoresChannels_iff (world : World) (request : Request) (listing : Listing) :
    RestoresChannels world request listing ↔
      listing.current .rx = listing.current .tx ∧
        (¬(Asked request listing ∧ Tried world request listing) ∨
          listing.current .rx = none ∧
            (listing.current .other = none ∨ listing.current .combined = none)) := by
  constructor
  · intro right
    have same := associated_iff.mp right.associated
    refine ⟨same, ?_⟩
    by_cases issued : Asked request listing ∧ Tried world request listing
    · exact .inr (applied_single same (right.applied ((applies_iff same).mpr issued)))
    · exact .inl issued
  · rintro ⟨same, right⟩
    by_cases issued : Asked request listing ∧ Tried world request listing
    · obtain ⟨noRx, one⟩ := right.resolve_left fun quiet => quiet issued
      obtain ⟨param, n, single, isWord⟩ := single_of_asked same noRx one issued.1
      exact single.restoresChannels isWord
    · have unissued : ¬applies world listing.interface listing.output request = true :=
        fun applied => issued ((applies_iff same).mp applied)
      have unrestored : ¬restores world listing.interface listing.output request = true := by
        intro restored
        rw [restores, Bool.and_eq_true] at restored
        exact unissued restored.1
      exact ⟨associated_iff.mpr same, fun applied => absurd applied unissued,
        fun restored => absurd restored unrestored, fun restored => absurd restored unrestored⟩

/-- RX and TX channels of an interface, four and two of them. -/
def fourAndTwo : Listing where
  interface := ['e', 't', 'h', '0']
  isWord := isWord_of_check (by decide) (by decide)
  maximums _ := none
  current
    | .rx => some 4
    | .tx => some 2
    | _ => none

/-- The count of RX is taken for the count of `tx`. -/
theorem counts_mixed_up : ∃ (world : World) (request : Request) (listing : Listing),
    ¬RestoresChannels world request listing := by
  refine ⟨⟨fun _ => ⟨0, []⟩, fun _ => true, true⟩, ⟨fun _ => ['4'], fun _ => .inr ?_⟩, fourAndTwo,
    fun right => ?_⟩
  · exact isWord_of_check (by decide) (by decide)
  · exact absurd (associated_iff.mp right.associated) (by decide)

end AvocadoMisc.Ethtool.Channels
