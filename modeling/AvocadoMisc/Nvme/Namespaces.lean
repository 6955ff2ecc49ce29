import AvocadoMisc.Library.Text
import Mathlib.Data.List.Nodup
import Mathlib.Data.List.Perm.Subperm

/-!
# Which namespaces the test sees

`nvme list-ns` prints one line for each namespace of a controller: its position in the list, in
brackets and right-aligned, and its identifier as a hexadecimal number. `create_one_ns` reads the
identifier after the colon. `ns_list` reads the position, and takes the namespaces to be numbered
from 1 without a gap; and it finds the position by the white space in front of it, which a
position of four digits does not have.
-/

namespace AvocadoMisc.Nvme.Namespaces

open Library.Text

/-! ### The output of `list-ns` -/

/-- Hexadecimal digits. -/
def hexadecimal (n : Nat) : List Char := Nat.toDigits 16 n

/-- `[%4u]:0x%x`. -/
def listLine (index nsid : Nat) : List Char :=
  '[' :: (List.replicate (4 - (decimal index).length) ' ' ++
    (decimal index ++ ']' :: ':' :: '0' :: 'x' :: hexadecimal nsid))

/-- The namespaces of a controller, in the order in which they are listed. -/
structure Controller where
  namespaces : List Nat
  distinct : namespaces.Nodup

/-- One line for each. -/
def listNs (controller : Controller) : List Char :=
  (controller.namespaces.zipIdx.map fun entry => listLine entry.2 entry.1).flatMap fun line =>
    line ++ ['\n']

/-! ### The test's two ways to read it -/

/-- `int` of a text of digits. Anything else raises a `ValueError`. -/
def int (text : List Char) : Option Nat :=
  if text ≠ [] ∧ text.all Char.isDigit then some (Nat.ofDigitChars 10 text 0) else none

/-- `int(line.split()[1].split(']')[0]) + 1`. A word that is missing raises an `IndexError`. -/
def readLine (line : List Char) : Option Nat :=
  (words charSpace line)[1]?.bind fun field =>
    (field.splitOn ']')[0]?.bind fun digits => (int digits).map (· + 1)

/-- The loop of `ns_list`. -/
def nsListLoop : List (List Char) → Option (List Nat)
  | [] => some []
  | line :: rest =>
    if ['['].isPrefixOf line then
      (readLine line).bind fun nsid => (nsListLoop rest).map (nsid :: ·)
    else nsListLoop rest

/-- `ns_list`. There is no result where it raises. -/
def nsList (output : List Char) : Option (List Nat) := nsListLoop (charLines output)

/-- `delete_all_ns`: the namespaces that are left. Deleting one that is not there fails, and is
ignored. -/
def deleteAllNs (controller : Controller) : List Nat :=
  match nsList (listNs controller) with
  | none => controller.namespaces
  | some namespaces =>
    namespaces.foldl (fun left deleted => left.filter (· ≠ deleted)) controller.namespaces

/-- What `create_one_ns` compares of a line. -/
def nsPart (line : List Char) : List Char := strip charSpace ((line.splitOn ':').getLastD [])

/-- How `create_one_ns` looks a namespace up. -/
def nsFound (nsid : Nat) (output : List Char) : Bool :=
  (charLines output).any fun line =>
    ['['].isPrefixOf line && line.contains ':' &&
      (nsPart line = '0' :: 'x' :: hexadecimal nsid || nsPart line = decimal nsid)

/-! ### What the enumeration should do -/

/-- The namespaces that are read are those of the controller, deleting them leaves none, and
`create_one_ns` finds the same ones. -/
structure Enumerated (controller : Controller) : Prop where
  exact_list : ∃ read, nsList (listNs controller) = some read ∧ read.Perm controller.namespaces
  deleted : deleteAllNs controller = []
  same_reading : ∀ read, nsList (listNs controller) = some read →
    ∀ nsid, nsFound nsid (listNs controller) = true ↔ nsid ∈ read

/-! ### Digits -/

/-- The digits of the bases up to 16. -/
def digitChars : List Char :=
  ['0', '1', '2', '3', '4', '5', '6', '7', '8', '9', 'a', 'b', 'c', 'd', 'e', 'f']

/-- Each value has its own digit. -/
theorem digitChar_injective : ∀ m < 16, ∀ n < 16, Nat.digitChar m = Nat.digitChar n → m = n := by
  decide

/-- A digit is one of these. -/
theorem digitChar_mem : ∀ n < 16, Nat.digitChar n ∈ digitChars := by decide

/-- A number is written with these.

Proof: by induction on the number, one digit less each time. -/
theorem mem_toDigits {base : Nat} (several : 1 < base) (few : base ≤ 16) {n : Nat} {c : Char}
    (member : c ∈ Nat.toDigits base n) : c ∈ digitChars := by
  induction n using Nat.strong_induction_on with
  | _ n inductionHypothesis =>
    rw [Nat.toDigits_eq_if several] at member
    split at member
    · next small =>
      rw [List.mem_singleton.mp member]
      exact digitChar_mem n (Nat.lt_of_lt_of_le small few)
    · next large =>
      rcases List.mem_append.mp member with higher | last
      · exact inductionHypothesis (n / base) (Nat.div_lt_self (by omega) several) higher
      · rw [List.mem_singleton.mp last]
        exact digitChar_mem _ (Nat.lt_of_lt_of_le (Nat.mod_lt n (by omega)) few)

/-- Different numbers are written differently. The induction is on the number: two texts of one
length agree in the last digit and in what is in front of it. -/
theorem hexadecimal_injective {m n : Nat} (same : hexadecimal m = hexadecimal n) : m = n := by
  induction m using Nat.strong_induction_on generalizing n with
  | _ m inductionHypothesis =>
    have several : 1 < 16 := by decide
    rw [hexadecimal, hexadecimal, Nat.toDigits_eq_if several,
      Nat.toDigits_eq_if (n := n) several] at same
    by_cases smallM : m < 16 <;> by_cases smallN : n < 16 <;>
      simp only [smallM, smallN, ↓reduceIte] at same
    · exact digitChar_injective m smallM n smallN (List.singleton_inj.mp same)
    · have lengths := congrArg List.length same
      have positive : 0 < (Nat.toDigits 16 (n / 16)).length := Nat.length_toDigits_pos
      simp only [List.length_append, List.length_singleton] at lengths
      omega
    · have lengths := congrArg List.length same
      have positive : 0 < (Nat.toDigits 16 (m / 16)).length := Nat.length_toDigits_pos
      simp only [List.length_append, List.length_singleton] at lengths
      omega
    · obtain ⟨higher, last⟩ := List.append_inj' same rfl
      have quotients := inductionHypothesis (m / 16) (Nat.div_lt_self (by omega) several) higher
      have remainders := digitChar_injective (m % 16) (Nat.mod_lt m (by decide)) (n % 16)
        (Nat.mod_lt n (by decide)) (List.singleton_inj.mp last)
      omega

/-- What a digit is not. -/
theorem digit_facts : ∀ c ∈ digitChars,
    charSpace c = false ∧ charBreak c = false ∧ c ≠ ']' ∧ c ≠ ':' ∧ c ≠ 'x' := by
  have solid : ∀ c ∈ digitChars, charSpace c = false := none_of_check (by decide)
  have unbroken : ∀ c ∈ digitChars, charBreak c = false := none_of_check (by decide)
  intro c member
  refine ⟨solid c member, unbroken c member, ?_, ?_, ?_⟩
  all_goals
    rintro rfl
    exact absurd member (by decide)

/-- Digits are read back. -/
theorem int_decimal (n : Nat) : int (decimal n) = some n := by
  have digits : (decimal n).all Char.isDigit = true := List.all_eq_true.mpr fun c member =>
    Nat.isDigit_of_mem_toDigits (by decide) (by decide) member
  rw [int, if_pos ⟨Nat.toDigits_ne_nil, digits⟩, decimal, Nat.ofDigitChars_ten_toDigits]

/-! ### One line -/

/-- The number after the colon. -/
def identifier (nsid : Nat) : List Char := '0' :: 'x' :: hexadecimal nsid

/-- The part of a line after the white space. -/
def field (index nsid : Nat) : List Char := decimal index ++ ']' :: ':' :: identifier nsid

/-- A line: the bracket, the white space, and the rest. -/
theorem listLine_eq (index nsid : Nat) : listLine index nsid =
    ['['] ++ (List.replicate (4 - (decimal index).length) ' ' ++ (field index nsid ++ [])) := by
  simp [listLine, field, identifier]

/-- The digits of the identifier, with their prefix. -/
theorem identifier_facts {nsid : Nat} {c : Char} (member : c ∈ identifier nsid) :
    charSpace c = false ∧ charBreak c = false ∧ c ≠ ':' := by
  rcases List.mem_cons.mp member with rfl | rest
  · decide
  rcases List.mem_cons.mp rest with rfl | digit
  · decide
  obtain ⟨solid, unbroken, _, other, _⟩ :=
    digit_facts c (mem_toDigits (by decide) (by decide) digit)
  exact ⟨solid, unbroken, other⟩

/-- The part after the white space has none itself. -/
theorem field_facts {index nsid : Nat} {c : Char} (member : c ∈ field index nsid) :
    charSpace c = false ∧ charBreak c = false := by
  rcases List.mem_append.mp member with digit | rest
  · obtain ⟨solid, unbroken, _⟩ := digit_facts c (mem_toDigits (by decide) (by decide) digit)
    exact ⟨solid, unbroken⟩
  rcases List.mem_cons.mp rest with rfl | rest
  · decide
  rcases List.mem_cons.mp rest with rfl | identified
  · decide
  obtain ⟨solid, unbroken, _⟩ := identifier_facts identified
  exact ⟨solid, unbroken⟩

/-- It is a word. -/
theorem field_isWord (index nsid : Nat) : IsWord charSpace (field index nsid) :=
  ⟨by simp [field], fun _ member => (field_facts member).1⟩

/-- A line is not broken. -/
theorem listLine_unbroken {index nsid : Nat} {c : Char} (member : c ∈ listLine index nsid) :
    charBreak c = false := by
  rw [listLine_eq] at member
  rcases List.mem_append.mp member with bracket | rest
  · rw [List.mem_singleton.mp bracket]
    decide
  rcases List.mem_append.mp rest with blank | last
  · rw [(List.mem_replicate.mp blank).2]
    decide
  · rw [List.append_nil] at last
    exact (field_facts last).2

/-- `ns_list` reads the position, if it has at most three digits.

Proof: then there is white space, and the part after it is the second word. Otherwise the line is
one word. -/
theorem readLine_listLine (index nsid : Nat) :
    readLine (listLine index nsid) = if index < 1000 then some (index + 1) else none := by
  have narrow : (decimal index).length ≤ 3 ↔ index < 1000 :=
    Nat.length_toDigits_le_iff (by decide) (by decide)
  have isField := field_isWord index nsid
  split
  · next small =>
    have short := narrow.mpr small
    have blank : Blank charSpace (List.replicate (4 - (decimal index).length) ' ') :=
      fun c member => by
        rw [(List.mem_replicate.mp member).2]
        decide
    have bracket : IsWord charSpace ['['] := isWord_of_check (by simp) (by decide)
    have ends : Ends charSpace (List.replicate (4 - (decimal index).length) ' ' ++
        (field index nsid ++ [])) := by
      obtain ⟨spaces, count⟩ : ∃ spaces, 4 - (decimal index).length = spaces + 1 :=
        ⟨3 - (decimal index).length, by omega⟩
      rw [count, List.replicate_succ]
      rintro c ⟨⟩
      decide
    have nothing : Blank charSpace ([] : List Char) := by simp [Blank]
    have done : Ends charSpace ([] : List Char) := by simp [Ends]
    have cutLine : words charSpace (listLine index nsid) = [['['], field index nsid] := by
      rw [listLine_eq, ← List.nil_append (['['] ++ _), words_word nothing bracket ends,
        words_word blank isField done]
      rfl
    have digits : ']' ∉ decimal index := fun member =>
      (digit_facts ']' (mem_toDigits (by decide) (by decide) member)).2.2.1 rfl
    rw [readLine, cutLine]
    simp only [List.getElem?_cons_succ, List.getElem?_cons_zero, Option.bind_some, field]
    rw [List.splitOn_append_cons_self_of_not_mem digits]
    simp [int_decimal]
  · next large =>
    have wide : 4 - (decimal index).length = 0 := by
      have long := mt narrow.mp large
      omega
    have solid : IsWord charSpace (listLine index nsid) := by
      refine ⟨by simp [listLine], fun c member => ?_⟩
      rw [listLine_eq, wide] at member
      rcases List.mem_cons.mp member with rfl | rest
      · decide
      · rw [List.replicate_zero, List.nil_append, List.append_nil] at rest
        exact (field_facts rest).1
    rw [readLine, words_solid solid]
    rfl

/-- `create_one_ns` reads the identifier: it takes what is behind the last colon, and neither the
index nor the identifier has a colon in it. -/
theorem nsPart_listLine (index nsid : Nat) : nsPart (listLine index nsid) = identifier nsid := by
  have none_before : ':' ∉ '[' :: (List.replicate (4 - (decimal index).length) ' ' ++
      (decimal index ++ [']'])) := by
    intro member
    rcases List.mem_cons.mp member with impossible | member
    · revert impossible
      decide
    rcases List.mem_append.mp member with blank | member
    · exact absurd (List.mem_replicate.mp blank).2 (by decide)
    rcases List.mem_append.mp member with digit | last
    · exact (digit_facts ':' (mem_toDigits (by decide) (by decide) digit)).2.2.2.1 rfl
    · exact absurd (List.mem_singleton.mp last) (by decide)
  have none_after : ':' ∉ identifier nsid := fun member => (identifier_facts member).2.2 rfl
  have pieces : listLine index nsid = ('[' :: (List.replicate (4 - (decimal index).length) ' ' ++
      (decimal index ++ [']']))) ++ ':' :: identifier nsid := by
    simp [listLine, identifier]
  have started : (identifier nsid).dropWhile charSpace = identifier nsid := by
    rw [identifier, List.dropWhile_cons_of_neg (by decide)]
  have ended : (identifier nsid).rdropWhile charSpace = identifier nsid := by
    refine List.rdropWhile_eq_self_iff.mpr fun something => ?_
    simp [(identifier_facts (List.getLast_mem something)).1]
  rw [nsPart, pieces, List.splitOn_append_cons_self_of_not_mem none_before,
    List.splitOn_eq_singleton none_after]
  simp [strip, started, ended]

/-! ### The whole output -/

/-- The output is split into its lines. -/
theorem charLines_listNs (controller : Controller) :
    charLines (listNs controller) =
      controller.namespaces.zipIdx.map fun entry => listLine entry.2 entry.1 := by
  refine lines_unlines (by decide) (by decide) (by decide) fun line member c inside => ?_
  obtain ⟨entry, _, rfl⟩ := List.mem_map.mp member
  exact listLine_unbroken inside

/-- `ns_list` reads the positions, as long as they have at most three digits.

Proof: by induction on the namespaces, with the position of the first one as a parameter. -/
theorem nsListLoop_eq (namespaces : List Nat) (start : Nat) :
    nsListLoop ((namespaces.zipIdx start).map fun entry => listLine entry.2 entry.1) =
      if namespaces = [] ∨ start + namespaces.length ≤ 1000 then
        some (List.range' (start + 1) namespaces.length)
      else none := by
  induction namespaces generalizing start with
  | nil => rfl
  | cons nsid rest inductionHypothesis =>
    have bracket : ['['].isPrefixOf (listLine start nsid) = true := rfl
    rw [List.zipIdx_cons, List.map_cons, nsListLoop, if_pos bracket, readLine_listLine,
      inductionHypothesis]
    by_cases small : start < 1000
    · cases rest with
      | nil =>
        have within : start + 1 ≤ 1000 := by omega
        simp [small, within]
      | cons other others =>
        have either : start + 1 + (others.length + 1) ≤ 1000 ↔
            start + (others.length + 1 + 1) ≤ 1000 := by omega
        simp only [small, ↓reduceIte, Option.bind_some, List.length_cons, reduceCtorEq, false_or,
          either]
        split
        · rw [Option.map_some, ← List.range'_succ]
        · rfl
    · have large : ¬ (start + (nsid :: rest).length ≤ 1000) := by
        rw [List.length_cons]
        omega
      simp only [small, ↓reduceIte, Option.bind_none, List.cons_ne_nil, large, or_self]

/-- For the namespaces of a controller. -/
theorem nsList_eq (controller : Controller) :
    nsList (listNs controller) =
      if controller.namespaces.length ≤ 1000 then
        some (List.range' 1 controller.namespaces.length)
      else none := by
  rw [nsList, charLines_listNs, nsListLoop_eq]
  by_cases none_there : controller.namespaces = [] <;> simp [none_there]

/-- `create_one_ns` finds the namespaces that are there and no others. The decimal text that it
accepts too is never printed, as every identifier begins with `0x`. -/
theorem nsFound_iff (controller : Controller) (nsid : Nat) :
    nsFound nsid (listNs controller) = true ↔ nsid ∈ controller.namespaces := by
  have reads (index other : Nat) :
      (['['].isPrefixOf (listLine index other) && (listLine index other).contains ':' &&
        (nsPart (listLine index other) = '0' :: 'x' :: hexadecimal nsid ||
          nsPart (listLine index other) = decimal nsid)) = true ↔ other = nsid := by
    have bracket : ['['].isPrefixOf (listLine index other) = true := rfl
    have colon : (listLine index other).contains ':' = true := by simp [listLine]
    have named : identifier other ≠ decimal nsid := by
      intro same
      have member : 'x' ∈ decimal nsid := same ▸ by simp [identifier]
      exact (digit_facts 'x' (mem_toDigits (by decide) (by decide) member)).2.2.2.2 rfl
    have same : identifier other = '0' :: 'x' :: hexadecimal nsid ↔ other = nsid := by
      simp only [identifier, List.cons.injEq, true_and]
      exact ⟨hexadecimal_injective, congrArg hexadecimal⟩
    rw [bracket, colon, nsPart_listLine]
    simp [named, same]
  rw [nsFound, charLines_listNs, List.any_map, List.any_eq_true]
  simp only [Function.comp_apply, reads]
  constructor
  · rintro ⟨⟨other, index⟩, member, rfl⟩
    exact (List.mem_zipIdx_iff_getElem?.mp member) |> List.mem_of_getElem?
  · intro member
    obtain ⟨index, inside, rfl⟩ := List.getElem_of_mem member
    exact ⟨(_, index), List.mem_zipIdx_iff_getElem?.mpr (List.getElem?_eq_getElem inside), rfl⟩

/-! ### When the enumeration is right -/

/-- Deleting one after the other. -/
theorem mem_deleted (deleted left : List Nat) (nsid : Nat) :
    nsid ∈ deleted.foldl (fun left deleted => left.filter (· ≠ deleted)) left ↔
      nsid ∈ left ∧ nsid ∉ deleted := by
  induction deleted generalizing left with
  | nil => simp
  | cons first rest inductionHypothesis =>
    rw [List.foldl_cons, inductionHypothesis, List.mem_filter, List.mem_cons]
    simp only [ne_eq, decide_not, Bool.not_eq_true', decide_eq_false_iff_not, not_or, and_assoc]

/-- The namespaces are numbered from 1 without a gap, and there are at most a thousand. -/
structure Dense (controller : Controller) : Prop where
  few : controller.namespaces.length ≤ 1000
  numbered : ∀ nsid ∈ controller.namespaces, 1 ≤ nsid ∧ nsid ≤ controller.namespaces.length

/-- The namespaces are read as they are exactly if they are dense. -/
theorem reads_iff_dense (controller : Controller) :
    (∃ read, nsList (listNs controller) = some read ∧ read.Perm controller.namespaces) ↔
      Dense controller := by
  rw [nsList_eq]
  constructor
  · rintro ⟨read, listed, same⟩
    by_cases few : controller.namespaces.length ≤ 1000
    · rw [if_pos few] at listed
      cases listed
      refine ⟨few, fun nsid member => ?_⟩
      have numbered := List.mem_range'_1.mp (same.mem_iff.mpr member)
      omega
    · rw [if_neg few] at listed
      cases listed
  · rintro ⟨few, numbered⟩
    refine ⟨_, if_pos few, ?_⟩
    have inside : controller.namespaces ⊆ List.range' 1 controller.namespaces.length := by
      intro nsid member
      have bounds := numbered nsid member
      exact List.mem_range'_1.mpr ⟨bounds.1, by omega⟩
    refine ((List.subperm_of_subset controller.distinct inside).perm_of_length_le ?_).symm
    rw [List.length_range']

/-- For every controller, `ns_list` returns exactly its namespaces, `delete_all_ns` deletes all
of them, and `create_one_ns` finds the same ones, exactly if the namespaces are numbered from 1
without a gap and are at most a thousand.

The controller may have any identifiers, each of them once, in any order. A deletion takes its
namespace away.

Proof: the position in brackets is read in the place of the identifier, and a position of four
digits is not read at all. -/
theorem enumerated_iff_dense (controller : Controller) :
    Enumerated controller ↔ Dense controller := by
  rw [← reads_iff_dense]
  refine ⟨Enumerated.exact_list, fun reads => ⟨reads, ?_, ?_⟩⟩
  · obtain ⟨read, listed, same⟩ := reads
    rw [deleteAllNs, listed]
    refine List.eq_nil_iff_forall_not_mem.mpr fun nsid member => ?_
    obtain ⟨there, kept⟩ := (mem_deleted read controller.namespaces nsid).mp member
    exact kept (same.mem_iff.mpr there)
  · obtain ⟨read, listed, same⟩ := reads
    intro other again nsid
    cases Option.some.inj (listed.symm.trans again)
    rw [nsFound_iff, same.mem_iff]

/-- A single namespace with identifier 2 is read as 1, and stays. -/
theorem gap_misread : ¬ (∀ controller : Controller, Enumerated controller) := by
  intro always
  have dense := (reads_iff_dense ⟨[2], by decide⟩).mp (always ⟨[2], by decide⟩).exact_list
  exact absurd (dense.numbered 2 (by decide)).2 (by decide)

end AvocadoMisc.Nvme.Namespaces
