import AvocadoMisc.Library.Text
import AvocadoMisc.Library.Writes
import Mathlib.Data.List.Nodup

/-!
# Private flags, toggled and set back

`ethtool_test.py` reads the private flags of an interface once, in `setUp`, and goes through the
listing twice: to toggle every flag, and to set it back. Both passes find the value to set by
looking for `off` in the stored line, so the second pass gives the same commands as the first one.

A line is skipped when `flags` is in it, which is meant for the header, and the name of a flag is
what comes before the first colon of its line.
-/

namespace AvocadoMisc.Ethtool.PrivFlags

open Library.Text Library.Writes

/-- A character string. -/
abbrev Text := List Char

/-! ### The listing -/

/-- A private flag as it is listed. -/
structure Flag where
  name : Text
  on : Bool

/-- How a value is written. -/
def word (value : Bool) : Text := if value then "on".toList else "off".toList

/-- The line of a flag. -/
def Flag.line (flag : Flag) : Text := flag.name ++ " : ".toList ++ word flag.on

/-- The flags of an interface. They have different names, and each has its line. -/
structure Listing where
  interface : Text
  flags : List Flag
  distinct : (flags.map Flag.name).Nodup
  unbroken : ∀ text ∈ interface :: flags.map Flag.name, ∀ c ∈ text, charBreak c = false

/-- How the first line begins. -/
def title : Text := "Private flags for ".toList

/-- The first line. -/
def Listing.header (listing : Listing) : Text := title ++ (listing.interface ++ [':'])

/-- What `ethtool --show-priv-flags` prints. -/
def Listing.output (listing : Listing) : Text :=
  (listing.header :: listing.flags.map Flag.line).flatMap fun line => line ++ ['\n']

/-- The values of the flags when they are listed. -/
def Listing.initial (listing : Listing) (name : Text) : Bool :=
  listing.flags.any fun flag => flag.name = name && flag.on

/-! ### Toggling -/

/-- The two passes. -/
inductive Oper where
  | toggle
  | setback
  deriving DecidableEq

/-- The name and the value that are set for a line, if something is set. -/
def setPrivFlag (line : Text) : Option (Text × Bool) :=
  let value := contains "off".toList line
  if contains "flags".toList line then none
  else some (rstrip charSpace ((line.splitOn ':').headD []), value)

/-- The commands of a pass. They do not depend on the pass. -/
def commands (stdoutText : Text) : Oper → List (Text × Bool)
  | _ => (charLines stdoutText).filterMap setPrivFlag

/-- How a command or the test ends. -/
structure Result where
  exitStatus : Nat
  stderrText : Text

/-- What the test meets: how the commands end, and whether the peer answers after a pass. -/
structure World where
  result : Oper → Text → Bool → Result
  ping : Oper → Bool

/-- How the test ends. -/
inductive Verdict where
  | passed
  | pingFailed (oper : Oper)
  | notToggled (names : List Text)

/-- The flags that could not be set in a pass. -/
def privFail (world : World) (stdoutText : Text) (oper : Oper) : List Text :=
  ((commands stdoutText oper).filter fun command =>
    let result := world.result oper command.1 command.2
    !(result.exitStatus == 0 || contains "supported".toList result.stderrText)).map Prod.fst

/-- A pass, where every command takes effect. -/
def pass (stdoutText : Text) (oper : Oper) (values : Text → Bool) : Text → Bool :=
  writeAll values (commands stdoutText oper)

/-- `ethtool_toggle_priv_flags`: the values it leaves, and how it ends. A ping that fails ends it at
once, before the second pass if it is the first ping. -/
def ethtoolTogglePrivFlags (world : World) (stdoutText : Text) (values : Text → Bool) :
    (Text → Bool) × Verdict :=
  let toggled := pass stdoutText .toggle values
  if !world.ping .toggle then (toggled, .pingFailed .toggle)
  else
    let back := pass stdoutText .setback toggled
    if !world.ping .setback then (back, .pingFailed .setback)
    else
      let failed := privFail world stdoutText .toggle ++ privFail world stdoutText .setback
      (back, if failed = [] then .passed else .notToggled failed.dedup)

/-! ### What is asked of the two passes -/

/-- The first pass sets every flag once, to the opposite of its value. -/
def Toggles (listing : Listing) : Prop :=
  ∀ flag ∈ listing.flags, valuesOf flag.name (commands listing.output .toggle) = [!flag.on]

/-- If there is a second pass, every flag has its value again after it. -/
def SetsBack (world : World) (listing : Listing) : Prop :=
  world.ping .toggle = true → ∀ flag ∈ listing.flags,
    (ethtoolTogglePrivFlags world listing.output listing.initial).1 flag.name = flag.on

/-- A flag that the first pass can toggle. -/
structure Flag.Plain (flag : Flag) : Prop where
  colon : ':' ∉ flag.name
  trimmed : rstrip charSpace flag.name = flag.name
  shown : ¬ "flags".toList <:+: flag.name
  readable : flag.on = true → ¬ "off".toList <:+: flag.name

/-! ### Reading the listing -/

/-- What holds of the name of every flag and of the rest of every line holds of every line. -/
theorem Flag.line_unbroken {flag : Flag} (name : ∀ c ∈ flag.name, charBreak c = false) :
    ∀ c ∈ flag.line, charBreak c = false := by
  intro c member
  rw [Flag.line, List.mem_append, List.mem_append] at member
  rcases member with (inName | inMiddle) | inWord
  · exact name c inName
  · exact none_of_check (by decide) c inMiddle
  · rw [word] at inWord
    split at inWord
    · exact none_of_check (by decide) c inWord
    · exact none_of_check (by decide) c inWord

/-- The header is one line. -/
theorem Listing.header_unbroken (listing : Listing) :
    ∀ c ∈ listing.header, charBreak c = false := by
  intro c member
  have inTitle : ∀ c ∈ title, charBreak c = false := none_of_check (by decide +kernel)
  rw [Listing.header, List.mem_append, List.mem_append] at member
  rcases member with first | inInterface | last
  · exact inTitle c first
  · exact listing.unbroken listing.interface List.mem_cons_self c inInterface
  · exact none_of_check (by decide) c last

/-- The lines of the listing. -/
theorem Listing.charLines_output (listing : Listing) :
    charLines listing.output = listing.header :: listing.flags.map Flag.line := by
  refine lines_unlines (by decide) (by decide) (by decide) fun line member => ?_
  rcases List.mem_cons.mp member with isHeader | inFlags
  · rw [isHeader]
    exact listing.header_unbroken
  · obtain ⟨flag, listed, rfl⟩ := List.mem_map.mp inFlags
    exact Flag.line_unbroken
      (listing.unbroken _ (List.mem_cons_of_mem _ (List.mem_map_of_mem listed)))

/-- A text without a blank is in a line when it is in the name or in the rest of the line. -/
theorem Flag.infix_line_iff (flag : Flag) {pattern : Text} (solid : ' ' ∉ pattern)
    (whole : ¬ pattern <:+: [':']) :
    pattern <:+: flag.line ↔ pattern <:+: flag.name ∨ pattern <:+: word flag.on := by
  have line : flag.line = flag.name ++ ' ' :: ([':'] ++ ' ' :: word flag.on) := by
    simp [Flag.line]
  rw [line, infix_append_cons_iff solid, infix_append_cons_iff solid]
  simp [whole]

/-- The header is skipped. -/
theorem Listing.setPrivFlag_header (listing : Listing) : setPrivFlag listing.header = none := by
  have shown : "flags".toList <:+: listing.header := by
    have first : "flags".toList <:+: title := by decide +kernel
    exact first.trans (List.prefix_append title _).isInfix
  rw [setPrivFlag, if_pos (by simpa [contains] using shown)]

/-- What is set for the line of a flag. -/
theorem Flag.setPrivFlag_line (flag : Flag) :
    setPrivFlag flag.line =
      if "flags".toList <:+: flag.name then none
      else some (rstrip charSpace (flag.line.takeWhile (· ≠ ':')),
        !flag.on || decide ("off".toList <:+: flag.name)) := by
  have shown : contains "flags".toList flag.line = true ↔ "flags".toList <:+: flag.name := by
    rw [contains, decide_eq_true_iff, flag.infix_line_iff (by decide) (by decide), or_iff_left]
    rw [word]
    split <;> decide
  have value : contains "off".toList flag.line =
      (!flag.on || decide ("off".toList <:+: flag.name)) := by
    rw [contains, ← Bool.coe_iff_coe, decide_eq_true_iff,
      flag.infix_line_iff (by decide) (by decide), Bool.or_eq_true, decide_eq_true_iff, or_comm]
    refine or_congr_left ?_
    cases flag.on <;> decide
  rw [setPrivFlag, headD_splitOn, value]
  by_cases skipped : "flags".toList <:+: flag.name
  · rw [if_pos (shown.mpr skipped), if_pos skipped]
  · rw [if_neg fun inLine => skipped (shown.mp inLine), if_neg skipped]

/-- The commands of a pass are those for the flags. -/
theorem Listing.commands_output (listing : Listing) (oper : Oper) :
    commands listing.output oper =
      listing.flags.filterMap fun flag => setPrivFlag flag.line := by
  rw [commands, listing.charLines_output, List.filterMap_cons, listing.setPrivFlag_header,
    List.filterMap_map]
  rfl

/-! ### The first pass -/

/-- A name that is set has no colon, and no white space at its end. -/
theorem Flag.set_name {flag : Flag} {name : Text} {value : Bool}
    (set : setPrivFlag flag.line = some (name, value)) :
    ':' ∉ name ∧ rstrip charSpace name = name := by
  rw [flag.setPrivFlag_line] at set
  split at set
  · cases set
  · obtain ⟨rfl, -⟩ := Prod.mk.inj (Option.some.inj set)
    constructor
    · intro member
      have inFront := (List.rdropWhile_prefix (p := charSpace) _).subset member
      simpa using List.mem_takeWhile_imp inFront
    · exact List.rdropWhile_idempotent _ _

/-- What comes before the colon of a line. -/
theorem Flag.takeWhile_line {flag : Flag} (colon : ':' ∉ flag.name) :
    flag.line.takeWhile (· ≠ ':') = flag.name ++ [' '] := by
  have solid : ∀ c ∈ flag.name, decide (c ≠ ':') = true := fun c member =>
    decide_eq_true fun same => colon (same ▸ member)
  rw [Flag.line, List.append_assoc, List.takeWhile_append_of_pos solid]
  rfl

/-- A name without a colon and without white space at its end is read as it is. -/
theorem Flag.set_trimmed {flag : Flag} (colon : ':' ∉ flag.name)
    (trimmed : rstrip charSpace flag.name = flag.name) :
    rstrip charSpace (flag.line.takeWhile (· ≠ ':')) = flag.name := by
  rw [Flag.takeWhile_line colon, rstrip, List.rdropWhile_concat_pos _ _ _ (by decide)]
  exact trimmed

/-- The first pass toggles every flag exactly when every flag is plain: its name is read back from
its line, which is not taken for the headline and does not make it look switched off. The names are
distinct, so a command about one flag is about no other. -/
theorem toggles_iff (listing : Listing) :
    Toggles listing ↔ ∀ flag ∈ listing.flags, flag.Plain := by
  constructor
  · intro toggles
    have set : ∀ flag ∈ listing.flags, ∃ other ∈ listing.flags,
        setPrivFlag other.line = some (flag.name, !flag.on) := by
      intro flag listed
      have value : (!flag.on) ∈ valuesOf flag.name (commands listing.output .toggle) := by
        rw [toggles flag listed]
        exact List.mem_singleton_self _
      rw [mem_valuesOf, listing.commands_output] at value
      exact List.mem_filterMap.mp value
    have trimmed : ∀ flag ∈ listing.flags,
        ':' ∉ flag.name ∧ rstrip charSpace flag.name = flag.name := by
      intro flag listed
      obtain ⟨other, _, setOther⟩ := set flag listed
      exact Flag.set_name setOther
    intro flag listed
    obtain ⟨other, listedOther, setOther⟩ := set flag listed
    rw [other.setPrivFlag_line] at setOther
    split at setOther
    case isTrue => cases setOther
    case isFalse shown =>
      obtain ⟨name, value⟩ := Prod.mk.inj (Option.some.inj setOther)
      rw [Flag.set_trimmed (trimmed other listedOther).1 (trimmed other listedOther).2] at name
      obtain rfl : other = flag :=
        List.inj_on_of_nodup_map listing.distinct listedOther listed name
      refine ⟨(trimmed other listed).1, (trimmed other listed).2, shown, fun on => ?_⟩
      simpa [on] using value
  · intro plain flag listed
    have sets : commands listing.output .toggle =
        listing.flags.map fun other => (other.name, !other.on) := by
      rw [listing.commands_output, ← List.filterMap_eq_map]
      refine List.filterMap_congr fun other listedOther => ?_
      have good := plain other listedOther
      rw [other.setPrivFlag_line, if_neg good.shown, Flag.set_trimmed good.colon good.trimmed]
      have value : (!other.on || decide ("off".toList <:+: other.name)) = !other.on := by
        cases on : other.on with
        | false => rfl
        | true => exact decide_eq_false (good.readable on)
      rw [value]
      rfl
    rw [sets, valuesOf_of_distinct listing.distinct (fun other => !other.on) listed]

/-! ### The second pass -/

/-- The second pass leaves every toggled flag toggled. -/
theorem setback_toggled {listing : Listing} (toggles : Toggles listing) {flag : Flag}
    (listed : flag ∈ listing.flags) (values : Text → Bool) :
    pass listing.output .setback (pass listing.output .toggle values) flag.name = !flag.on := by
  have again : commands listing.output .setback = commands listing.output .toggle := rfl
  rw [pass, pass, again, ← writeAll_append, writeAll_apply, valuesOf_append,
    toggles flag listed]
  rfl

/-- Every flag is toggled once and set back exactly when there is no flag, or when all flags are
plain and the peer does not answer after the first pass, so that there is no second one.

The commands may end in any way. The listing has any number of flags, each on or off at first, with
any names in one line. -/
theorem privFlags_set_back_iff (world : World) (listing : Listing) :
    (Toggles listing ∧ SetsBack world listing) ↔
      listing.flags = [] ∨
        (world.ping .toggle = false ∧ ∀ flag ∈ listing.flags, flag.Plain) := by
  rw [toggles_iff]
  constructor
  · rintro ⟨plain, setsBack⟩
    cases ping : world.ping .toggle with
    | false => exact .inr ⟨rfl, plain⟩
    | true =>
      refine .inl (List.eq_nil_iff_forall_not_mem.mpr fun flag listed => ?_)
      have toggled := setback_toggled ((toggles_iff listing).mpr plain) listed listing.initial
      have back := setsBack ping flag listed
      have left : (ethtoolTogglePrivFlags world listing.output listing.initial).1 =
          pass listing.output .setback (pass listing.output .toggle listing.initial) := by
        rw [ethtoolTogglePrivFlags, ping]
        cases world.ping .setback <;> rfl
      rw [left, toggled] at back
      cases on : flag.on <;> simp [on] at back
  · rintro (none | ⟨ping, plain⟩)
    · exact ⟨fun flag listed => by simp [none] at listed,
        fun _ flag listed => by simp [none] at listed⟩
    · exact ⟨plain, fun answers => by simp [ping] at answers⟩

/-- A single flag, which is off. -/
def oneFlag : Listing where
  interface := "eth0".toList
  flags := [⟨"legacy-rx".toList, false⟩]
  distinct := List.nodup_singleton _
  unbroken text member := by
    simp only [List.map_cons, List.map_nil, List.mem_cons, List.not_mem_nil, or_false] at member
    rcases member with rfl | rfl <;> exact none_of_check (by decide)

/-- It is on after both passes. -/
theorem privFlags_not_set_back :
    ¬ (Toggles oneFlag ∧ SetsBack ⟨fun _ _ _ => ⟨0, []⟩, fun _ => true⟩ oneFlag) := by
  rintro ⟨-, setsBack⟩
  exact absurd (setsBack rfl _ List.mem_cons_self) (by decide +kernel)

end AvocadoMisc.Ethtool.PrivFlags
