import AvocadoMisc.Vpd.Parsers

/-!
# The layout of `lscfg`

`lscfg` prints a name, dots and a value on a line, and where the value does not fit, the value
behind dots on the next line. A name may end in a code in parentheses, and then the value is
recorded under the code.

`parse_lscfg_output` takes such a printout apart again. White space at the ends of a line is lost,
and so is a wrapped value whose code is empty, because no pending key is told by an empty text.
-/

namespace AvocadoMisc.Vpd.Lscfg

open Library.Text Parsers

/-- A name as it is printed. -/
inductive Label where
  | plain (name : Text) (uncoded : ¬(name.getLast? = some ')' ∧ '(' ∈ name))
  | coded (front code : Text) (inner : '(' ∉ code)

/-- The printed text. -/
def Label.text : Label → Text
  | .plain name _ => name
  | .coded front code _ => front ++ '(' :: (code ++ [')'])

/-- What the value is recorded under. -/
def Label.key : Label → Text
  | .plain name _ => name
  | .coded _ code _ => code

/-- White space in front of a line. -/
structure Indent where
  chars : Text
  white : Blank charSpace chars

/-- Where the value stands, with the dots before it. -/
inductive Layout where
  | sameLine (indent : Indent) (moreDots : Nat)
  | nextLine (indent : Indent) (dots : Nat) (nextIndent : Indent) (moreDots : Nat)

/-- An entry of the printout: a name and a value that can be told apart by the dots between them. -/
structure Entry where
  label : Label
  value : Text
  layout : Layout
  named : label.text ≠ []
  startsUndotted : label.text.head? ≠ some '.'
  endsUndotted : label.text.getLast? ≠ some '.'
  undotted : ¬ ['.', '.'] <:+: label.text
  valued : value ≠ []
  valueUndotted : value.head? ≠ some '.'

/-- A run of dots. -/
def dotted (count : Nat) : Text := List.replicate count '.'

/-- The lines of an entry. On its own line a value has at least two dots before it, and on the next
line at least one. -/
def Entry.lines (entry : Entry) : List Text :=
  match entry.layout with
  | .sameLine indent moreDots =>
    [indent.chars ++ (entry.label.text ++ (dotted (moreDots + 2) ++ entry.value))]
  | .nextLine indent dots nextIndent moreDots =>
    [indent.chars ++ (entry.label.text ++ dotted dots),
      nextIndent.chars ++ (dotted (moreDots + 1) ++ entry.value)]

/-- Nothing of the entry is lost: it has no white space where a line or a name is stripped, and a
wrapped value has a key that is not empty. -/
structure Entry.Clear (entry : Entry) : Prop where
  starts : ∀ c ∈ entry.label.text.head?, charSpace c = false
  ends : ∀ c ∈ entry.label.text.getLast?, charSpace c = false
  valueEnds : ∀ c ∈ entry.value.getLast?, charSpace c = false
  pending : entry.lines.length = 1 ∨ entry.label.key ≠ []

/-- The parser's map is exactly that of the entries, with no key of anything else. -/
def Inverts (output : Text) (entries : List Entry) : Prop :=
  ∀ key value, parseLscfgOutput output key = some value ↔
    ∃ entry ∈ entries, entry.label.key = key ∧ entry.value = value

/-- The key of a printed name. -/
theorem shortKey_text (label : Label) : shortKey label.text = label.key := by
  cases label with
  | plain name uncoded => exact if_neg uncoded
  | coded front code inner =>
    have ended : front ++ '(' :: (code ++ [')']) = (front ++ '(' :: code) ++ [')'] := by simp
    have codes : (front ++ '(' :: (code ++ [')'])).getLast? = some ')' ∧
        '(' ∈ front ++ '(' :: (code ++ [')']) :=
      ⟨by rw [ended, List.getLast?_concat], by simp⟩
    have reversed : (front ++ '(' :: (code ++ [')'])).reverse =
        (')' :: code.reverse) ++ '(' :: front.reverse := by simp
    have inside : ∀ c ∈ ')' :: code.reverse, decide (c ≠ '(') = true := by
      rw [List.forall_mem_cons]
      exact ⟨by decide, fun c member =>
        decide_eq_true fun same => inner (same ▸ List.mem_reverse.mp member)⟩
    have taken : (front ++ '(' :: (code ++ [')'])).reverse.takeWhile (· ≠ '(') =
        ')' :: code.reverse := by
      rw [reversed, List.takeWhile_append_of_pos inside]
      simp
    rw [Label.text, shortKey, if_pos codes, taken]
    simp [Label.key]

/-- A dot behind a name does not make two dots with it. -/
theorem Entry.undotted_dot (entry : Entry) : ¬ ['.', '.'] <:+: entry.label.text ++ ['.'] := by
  rintro ⟨front, back, split⟩
  rcases List.eq_nil_or_concat back with rfl | ⟨rest, last, rfl⟩
  · have shorter : front ++ ['.'] = entry.label.text :=
      (List.append_left_inj ['.']).mp (by simpa using split)
    exact entry.endsUndotted (by rw [← shorter]; simp)
  · have shorter : front ++ ['.', '.'] ++ rest = entry.label.text := by
      rw [List.concat_eq_append, ← List.append_assoc] at split
      exact (List.append_inj' split rfl).1
    exact entry.undotted ⟨front, rest, shorter⟩

/-- A name is cut off where its dots begin. -/
theorem Entry.splitDots_label (entry : Entry) {tail : Text} (dots : ∀ c ∈ tail.take 2, c = '.') :
    splitDots 0 (entry.label.text ++ tail) = (entry.label.text, tail.drop 2) := by
  have undotted : ¬ ['.', '.'] <:+: List.replicate 0 '.' ++ entry.label.text ++ ['.'] :=
    entry.undotted_dot
  rw [splitDots_name entry.label.text tail 0 (Nat.zero_le 1) undotted dots, if_neg entry.named]
  rfl

/-- Dots in front of a value are dropped. -/
theorem Entry.dropWhile_dots (entry : Entry) (count : Nat) :
    (dotted count ++ entry.value).dropWhile (· = '.') = entry.value := by
  have allDots : ∀ c ∈ dotted count, decide (c = '.') = true := fun c member =>
    decide_eq_true (List.eq_of_mem_replicate member)
  rw [List.dropWhile_append_of_pos allDots]
  obtain ⟨first, rest, split⟩ := List.exists_cons_of_ne_nil entry.valued
  have noDot : first ≠ '.' := fun same => entry.valueUndotted (by rw [split, same]; rfl)
  rw [split, List.dropWhile_cons, decide_eq_false noDot]
  rfl

/-- A clear line without its indent. -/
theorem strip_line (indent : Indent) {first second : Text} (some_first : first ≠ [])
    (starts : ∀ c ∈ first.head?, charSpace c = false)
    (ends : ∀ c ∈ (first ++ second).getLast?, charSpace c = false) :
    strip charSpace (indent.chars ++ (first ++ second)) = first ++ second := by
  refine strip_indented indent.white ?_ ends
  rwa [List.head?_append_of_ne_nil _ some_first]

/-- A line with a name: where a value is found behind it, it is recorded, and otherwise the key is
pending. -/
theorem line_label (entry : Entry) (clear : entry.Clear) (indent : Indent) (state : Lscfg)
    {tail : Text} (dots : ∀ c ∈ tail.take 2, c = '.')
    (ends : ∀ c ∈ (entry.label.text ++ tail).getLast?, charSpace c = false) :
    state.line (indent.chars ++ (entry.label.text ++ tail)) =
      if (tail.drop 2).dropWhile (· = '.') ≠ [] then
        ⟨Function.update state.data entry.label.key
          (some ((tail.drop 2).dropWhile (· = '.'))), []⟩
      else ⟨state.data, entry.label.key⟩ := by
  have stripped := strip_line indent entry.named clear.starts ends
  have nonempty : entry.label.text ++ tail ≠ [] := by simp [entry.named]
  have noDot : (entry.label.text ++ tail).head? ≠ some '.' := by
    rw [List.head?_append_of_ne_nil _ entry.named]
    exact entry.startsUndotted
  have name : strip charSpace entry.label.text = entry.label.text :=
    @strip_indented _ charSpace [] _ (by simp [Blank]) clear.starts clear.ends
  dsimp only [Lscfg.line]
  rw [stripped, if_neg nonempty, if_neg noDot, entry.splitDots_label dots, name,
    if_neg entry.named, shortKey_text]

/-- A line that begins with a dot gives the pending key its value. -/
theorem line_value (entry : Entry) (clear : entry.Clear) (indent : Indent) (moreDots : Nat)
    (data : Text → Option Text) (pending : entry.label.key ≠ []) :
    (⟨data, entry.label.key⟩ : Lscfg).line
        (indent.chars ++ (dotted (moreDots + 1) ++ entry.value)) =
      ⟨Function.update data entry.label.key (some entry.value), []⟩ := by
  have begins : dotted (moreDots + 1) = '.' :: dotted moreDots := List.replicate_succ
  have ends : ∀ c ∈ (dotted (moreDots + 1) ++ entry.value).getLast?, charSpace c = false := by
    rw [List.getLast?_append_of_ne_nil _ entry.valued]
    exact clear.valueEnds
  have stripped := strip_line indent (by simp [begins]) (by simp [begins]; decide) ends
  have nonempty : dotted (moreDots + 1) ++ entry.value ≠ [] := by simp [entry.valued]
  have dot : (dotted (moreDots + 1) ++ entry.value).head? = some '.' := by simp [begins]
  dsimp only [Lscfg.line]
  rw [stripped, if_neg nonempty, if_pos dot, entry.dropWhile_dots,
    if_pos ⟨pending, entry.valued⟩]

/-- The first two of some dots are dots. -/
theorem dotted_take (count : Nat) : ∀ c ∈ (dotted count).take 2, c = '.' := fun _ member =>
  List.eq_of_mem_replicate (List.mem_of_mem_take member)

/-- The lines of a clear entry record its value under its key, and nothing is pending after
them. -/
theorem read_entry (entry : Entry) (clear : entry.Clear) (state : Lscfg) :
    entry.lines.foldl Lscfg.line state =
      ⟨Function.update state.data entry.label.key (some entry.value), []⟩ := by
  have valueEnds (front : Text) : ∀ c ∈ (front ++ entry.value).getLast?, charSpace c = false := by
    rw [List.getLast?_append_of_ne_nil _ entry.valued]
    exact clear.valueEnds
  unfold Entry.lines
  cases placed : entry.layout with
  | sameLine indent moreDots =>
    have two : dotted (moreDots + 2) ++ entry.value =
        '.' :: '.' :: (dotted moreDots ++ entry.value) := by
      simp [dotted, List.replicate_succ]
    have dots : ∀ c ∈ (dotted (moreDots + 2) ++ entry.value).take 2, c = '.' := by
      simp [two]
    have ends : ∀ c ∈ (entry.label.text ++ (dotted (moreDots + 2) ++ entry.value)).getLast?,
        charSpace c = false := by
      rw [← List.append_assoc]
      exact valueEnds _
    have found : ((dotted (moreDots + 2) ++ entry.value).drop 2).dropWhile (· = '.') =
        entry.value := by
      rw [two]
      exact entry.dropWhile_dots moreDots
    rw [List.foldl_cons, List.foldl_nil, line_label entry clear indent state dots ends, found,
      if_pos entry.valued]
  | nextLine indent dots nextIndent moreDots =>
    have pending : entry.label.key ≠ [] := by
      rcases clear.pending with single | some_key
      · simp [Entry.lines, placed] at single
      · exact some_key
    have ends : ∀ c ∈ (entry.label.text ++ dotted dots).getLast?, charSpace c = false := by
      by_cases none : dots = 0
      · rw [none, dotted, List.replicate_zero, List.append_nil]
        exact clear.ends
      · have some_dots : dotted dots ≠ [] := by simpa [dotted] using none
        rw [List.getLast?_append_of_ne_nil _ some_dots]
        intro c last
        rw [List.eq_of_mem_replicate (List.mem_of_getLast? last)]
        decide
    have nothing : ((dotted dots).drop 2).dropWhile (· = '.') = [] := by
      rw [List.dropWhile_eq_nil_iff]
      exact fun c member =>
        decide_eq_true (List.eq_of_mem_replicate (List.mem_of_mem_drop member))
    rw [List.foldl_cons, List.foldl_cons, List.foldl_nil,
      line_label entry clear indent state (dotted_take dots) ends, nothing,
      if_neg (not_not.mpr rfl), line_value entry clear nextIndent moreDots _ pending]

/-- What the lines of all entries leave behind, when no two have one key.

Proof: by induction on the entries, from the last one. -/
theorem read_entries {entries : List Entry} (clear : ∀ entry ∈ entries, entry.Clear)
    (distinct : (entries.map (·.label.key)).Nodup) (key value : Text) :
    ((entries.flatMap Entry.lines).foldl Lscfg.line ⟨fun _ => none, []⟩).data key = some value ↔
      ∃ entry ∈ entries, entry.label.key = key ∧ entry.value = value := by
  induction entries using List.reverseRecOn with
  | nil => simp
  | append_singleton earlier last inductionHypothesis =>
    rw [List.map_append, List.nodup_append] at distinct
    obtain ⟨distinctEarlier, -, apart⟩ := distinct
    have before := inductionHypothesis
      (fun entry member => clear entry (List.mem_append_left _ member)) distinctEarlier
    rw [List.flatMap_append, List.foldl_append, List.flatMap_singleton,
      read_entry last (clear last (by simp))]
    dsimp only
    by_cases same : last.label.key = key
    · subst same
      have fresh : ∀ entry ∈ earlier, entry.label.key ≠ last.label.key := fun entry member =>
        apart _ (List.mem_map_of_mem member) _ (by simp)
      rw [Function.update_self, Option.some.injEq]
      constructor
      · rintro rfl
        exact ⟨last, by simp, rfl, rfl⟩
      · rintro ⟨entry, member, sameKey, rfl⟩
        rcases List.mem_append.mp member with inEarlier | isLast
        · exact absurd sameKey (fresh entry inEarlier)
        · rw [List.mem_singleton.mp isLast]
    · rw [Function.update_of_ne (Ne.symm same), before]
      simp [same]

/-- The parser inverts the layout, for clear entries of which no two have one key.

The layout of each entry is free: the indentation, the number of dots, and whether the value stands
on the next line. Entries that are not clear are not covered, and for some of them the parser loses
a value or a part of it.

Proof: each entry is read by itself and leaves no pending key, so the map grows by one entry at a
time. -/
theorem parseLscfgOutput_inverts {output : Text} {entries : List Entry}
    (printed : charLines output = entries.flatMap Entry.lines)
    (clear : ∀ entry ∈ entries, entry.Clear)
    (distinct : (entries.map (·.label.key)).Nodup) : Inverts output entries := by
  intro key value
  rw [parseLscfgOutput, printed]
  exact read_entries clear distinct key value

/-- No white space. -/
def noIndent : Indent := ⟨[], by simp [Blank]⟩

/-- The entry `Part(A1)..v.1`. -/
def partEntry : Entry where
  label := .coded ['P', 'a', 'r', 't'] ['A', '1'] (by decide)
  value := ['v', '.', '1']
  layout := .sameLine noIndent 0
  named := by decide
  startsUndotted := by decide
  endsUndotted := by decide
  undotted := by decide
  valued := by decide
  valueUndotted := by decide

/-- The entry `No.x` with the value `7` on the next line. -/
def numberEntry : Entry where
  label := .plain ['N', 'o', '.', 'x'] (by decide)
  value := ['7']
  layout := .nextLine noIndent 2 ⟨[' '], forall_of_check (by decide)⟩ 1
  named := by decide
  startsUndotted := by decide
  endsUndotted := by decide
  undotted := by decide
  valued := by decide
  valueUndotted := by decide

/-- A printout of both. -/
theorem parseLscfgOutput_inverts_two :
    Inverts "Part(A1)..v.1\nNo.x..\n ..7\n".toList [partEntry, numberEntry] := by
  refine parseLscfgOutput_inverts (by decide +kernel) ?_ (by decide)
  rw [List.forall_mem_cons, List.forall_mem_singleton]
  constructor
  · exact ⟨first_of_check (by decide), first_of_check (by decide), first_of_check (by decide),
      by decide⟩
  · exact ⟨first_of_check (by decide), first_of_check (by decide), first_of_check (by decide),
      by decide⟩

/-- The entry `N..v` with a blank behind the value. -/
def blankEntry : Entry where
  label := .plain ['N'] (by decide)
  value := ['v', ' ']
  layout := .sameLine noIndent 0
  named := by decide
  startsUndotted := by decide
  endsUndotted := by decide
  undotted := by decide
  valued := by decide
  valueUndotted := by decide

/-- The blank is lost. -/
theorem trailing_blank_lost : ¬ ∀ (output : Text) (entries : List Entry),
    charLines output = entries.flatMap Entry.lines →
    (entries.map (·.label.text)).Nodup → Inverts output entries := by
  intro all
  have inverts := all ['N', '.', '.', 'v', ' ', '\n'] [blankEntry] (by decide) (by decide)
  have kept := (inverts ['N'] ['v', ' ']).mpr ⟨blankEntry, by simp, rfl, rfl⟩
  have lost : parseLscfgOutput ['N', '.', '.', 'v', ' ', '\n'] ['N'] = some ['v'] := by decide
  rw [lost] at kept
  cases kept

end AvocadoMisc.Vpd.Lscfg
