import Mathlib.Algebra.Order.Field.Rat
import Mathlib.Tactic.Linarith
import Mathlib.Tactic.Ring
import Mathlib.Tactic.NormNum
import AvocadoMisc.Library.WhileLoops

/-!
# Unit letters in the reports of dwh

`doubleToScale` and `doubleToDecimalScale` divide a number by 1024 or 1000 until it is below that
and step through the letters of the units, one letter a division. Both are modelled over the
rationals. The pointers they are given are those of two locals of `showScaledData`, and the zero
character that stands for no unit is `none`.

The decimal function writes `k` for the first unit and tests for `K` on the way to the second, so
it gives up from a million on.
-/

namespace AvocadoMisc.Dwh.UnitScaling

open Library.WhileLoops

/-- The number and the letter the pointers lead to, and `result`. -/
structure Scaling where
  x : ℚ
  scale : Option Char
  result : Bool
  deriving DecidableEq

/-- The state in front of a loop. -/
def start (x : ℚ) : Scaling := { x, scale := none, result := true }

/-- The body of a loop. The default of its `switch` restores the number and gives up. -/
def turn (rescale : ℚ → ℚ) (next : Option Char → Option Char) (orig : ℚ) (state : Scaling) :
    Scaling :=
  match next state.scale with
  | some letter => { state with x := rescale state.x, scale := some letter }
  | none => { x := orig, scale := none, result := false }

/-- The `switch` of `doubleToScale`. -/
def nextBinary : Option Char → Option Char
  | none => some 'K'
  | some 'K' => some 'M'
  | some 'M' => some 'G'
  | some 'G' => some 'T'
  | some 'T' => some 'P'
  | some 'P' => some 'E'
  | some 'E' => some 'Z'
  | some _ => none

/-- The `switch` of `doubleToDecimalScale` for a number that is not negative. -/
def nextDecimal : Option Char → Option Char
  | none => some 'k'
  | some 'K' => some 'M'
  | some 'M' => some 'G'
  | some 'G' => some 'T'
  | some 'T' => some 'P'
  | some 'P' => some 'E'
  | some 'E' => some 'Z'
  | some _ => none

/-- The `switch` of `doubleToDecimalScale` for a negative number. -/
def nextFraction : Option Char → Option Char
  | none => some 'm'
  | some 'm' => some 'u'
  | some 'u' => some 'n'
  | some 'n' => some 'p'
  | some 'p' => some 'f'
  | some _ => none

/-- The test of a loop that makes a number smaller. -/
def tooLarge (base : ℚ) (state : Scaling) : Bool :=
  decide (state.x ≥ base) && state.scale != some 'Z' && state.result

/-- The test of the loop for a negative number. -/
def stillNegative (state : Scaling) : Bool :=
  decide (state.x < 0) && state.scale != some 'f' && state.result

/-- `doubleToScale`, with at most so many turns. -/
def doubleToScale (turns : Nat) (x : ℚ) : Option Scaling :=
  whileLoop (tooLarge 1024) (turn (· / 1024) nextBinary x) turns (start x)

/-- `doubleToDecimalScale`, with at most so many turns. -/
def doubleToDecimalScale (turns : Nat) (x : ℚ) : Option Scaling :=
  if x ≥ 0 then whileLoop (tooLarge 1000) (turn (· / 1000) nextDecimal x) turns (start x)
  else whileLoop stillNegative (turn (· * 1000) nextFraction x) turns (start x)

/-- The power of 1024 a letter stands for. -/
def binaryRank : Option Char → Option Nat
  | none => some 0
  | some 'K' => some 1
  | some 'M' => some 2
  | some 'G' => some 3
  | some 'T' => some 4
  | some 'P' => some 5
  | some 'E' => some 6
  | some 'Z' => some 7
  | some _ => none

/-- The power of 1000 a letter stands for. -/
def decimalRank : Option Char → Option Nat
  | none => some 0
  | some 'k' => some 1
  | some 'M' => some 2
  | some 'G' => some 3
  | some 'T' => some 4
  | some 'P' => some 5
  | some 'E' => some 6
  | some 'Z' => some 7
  | some _ => none

/-- A function ends with the state, given enough turns. -/
def Returns (function : Nat → ℚ → Option Scaling) (x : ℚ) (last : Scaling) : Prop :=
  ∃ enough, ∀ turns, enough ≤ turns → function turns x = some last

/-- A scaling is a success so far and has the value of the number. -/
structure Valued (base : ℚ) (rank : Option Char → Option Nat) (x : ℚ) (state : Scaling) : Prop where
  succeeded : state.result = true
  value : ∃ power, rank state.scale = some power ∧ state.x * base ^ power = x

/-- A scaling leaves less than the base in front of the letter, unless that is the last one. -/
structure Represents (base : ℚ) (rank : Option Char → Option Nat) (x : ℚ) (last : Scaling) : Prop
    extends Valued base rank x last where
  below : last.scale ≠ some 'Z' → last.x < base

/-- What the two functions promise of a number: both return, with a text that stands for it under
the unit. -/
structure Promise (x : ℚ) : Prop where
  binary : ∃ last, Returns doubleToScale x last ∧ Represents 1024 binaryRank x last
  decimal : ∃ last, Returns doubleToDecimalScale x last ∧ Represents 1000 decimalRank x last

/-- The letter after a letter stands for the next power. -/
theorem nextBinary_rank {scale : Option Char} {power : Nat}
    (ranked : binaryRank scale = some power) (more : scale ≠ some 'Z') :
    ∃ letter, nextBinary scale = some letter ∧ binaryRank (some letter) = some (power + 1) ∧
      power < 7 := by
  unfold binaryRank at ranked
  split at ranked
  case h_8 => exact absurd rfl more
  case h_9 => cases ranked
  all_goals
    obtain rfl := Option.some.inj ranked
    exact ⟨_, rfl, rfl, by decide⟩

/-- A turn that is taken keeps the value and goes on to a higher rank. -/
theorem turn_valued {x : ℚ} {state : Scaling} (valued : Valued 1024 binaryRank x state)
    (goesOn : tooLarge 1024 state = true) :
    Valued 1024 binaryRank x (turn (· / 1024) nextBinary x state) ∧
      7 - (binaryRank (turn (· / 1024) nextBinary x state).scale).getD 0 <
        7 - (binaryRank state.scale).getD 0 := by
  obtain ⟨succeeded, power, ranked, whole⟩ := valued
  have more : state.scale ≠ some 'Z' := by
    intro last
    simp [tooLarge, last] at goesOn
  obtain ⟨letter, next, nextRanked, small⟩ := nextBinary_rank ranked more
  have after : turn (· / 1024) nextBinary x state =
      { state with x := state.x / 1024, scale := some letter } := by
    simp only [turn, next]
  rw [after]
  refine ⟨⟨succeeded, power + 1, nextRanked, ?_⟩, ?_⟩
  · calc state.x / 1024 * 1024 ^ (power + 1) = state.x * 1024 ^ power := by ring
      _ = x := whole
  · simp only [nextRanked, ranked, Option.getD_some]
    omega

/-- Where the test of a loop fails without giving up, the number is small or the letter the
last. -/
theorem below_of_stopped {base : ℚ} {last : Scaling} (stopped : tooLarge base last = false)
    (succeeded : last.result = true) (more : last.scale ≠ some 'Z') : last.x < base := by
  by_contra large
  have goesOn : tooLarge base last = true := by
    simp [tooLarge, succeeded, more, not_lt.mp large]
  rw [goesOn] at stopped
  cases stopped

/-- The binary letters represent every number. -/
theorem doubleToScale_represents (x : ℚ) :
    ∃ last, Returns doubleToScale x last ∧ Represents 1024 binaryRank x last := by
  have initially : Valued 1024 binaryRank x (start x) := ⟨rfl, 0, rfl, by simp [start]⟩
  obtain ⟨last, ends, valued, stopped⟩ :=
    exists_ends (fun state : Scaling => 7 - (binaryRank state.scale).getD 0)
      (fun _ valued goesOn => turn_valued valued goesOn) initially
  exact ⟨last, ends, valued, below_of_stopped stopped valued.succeeded⟩

/-- A number that is not negative goes to the loop that makes it smaller. -/
theorem returns_decimal {x : ℚ} (notNegative : 0 ≤ x) {last : Scaling} :
    Returns doubleToDecimalScale x last ↔
      Ends (tooLarge 1000) (turn (· / 1000) nextDecimal x) (start x) last := by
  have branch (turns : Nat) : doubleToDecimalScale turns x =
      whileLoop (tooLarge 1000) (turn (· / 1000) nextDecimal x) turns (start x) :=
    if_pos notNegative
  simp only [Returns, Ends, branch]

/-- Below a thousand there is no letter. -/
theorem decimal_small {x : ℚ} (notNegative : 0 ≤ x) (small : x < 1000) :
    Returns doubleToDecimalScale x { x, scale := none, result := true } := by
  rw [returns_decimal notNegative]
  exact .stop (by simp [tooLarge, start, small])

/-- The first turn writes `k`. -/
theorem first_turn (x : ℚ) : turn (· / 1000) nextDecimal x (start x) =
    { x := x / 1000, scale := some 'k', result := true } := rfl

/-- From a thousand on and below a million the letter is `k`. -/
theorem decimal_kilo {x : ℚ} (large : 1000 ≤ x) (small : x < 1000000) :
    Returns doubleToDecimalScale x { x := x / 1000, scale := some 'k', result := true } := by
  have quotient : x / 1000 < 1000 := by
    rw [div_lt_iff₀ (by norm_num)]
    linarith
  rw [returns_decimal (by linarith)]
  refine .turn (by simp [tooLarge, start, large]) ?_
  rw [first_turn]
  exact .stop (by simp [tooLarge, quotient])

/-- From a million on the function gives up in its second turn. -/
theorem decimal_mega {x : ℚ} (large : 1000000 ≤ x) :
    Returns doubleToDecimalScale x { x, scale := none, result := false } := by
  have quotient : 1000 ≤ x / 1000 := by
    rw [le_div_iff₀ (by norm_num)]
    linarith
  have thousand : 1000 ≤ x := by linarith
  rw [returns_decimal (by linarith)]
  refine .turn (by simp [tooLarge, start, thousand]) ?_
  rw [first_turn]
  refine .turn (by simp [tooLarge, quotient]) ?_
  -- no case of the `switch` is for `k`
  exact .stop (by simp [turn, nextDecimal, tooLarge])

/-- From a million on the promise is broken. -/
theorem not_promise {x : ℚ} (large : 1000000 ≤ x) : ¬Promise x := by
  intro promise
  obtain ⟨last, returns, represents⟩ := promise.decimal
  have gaveUp := decimal_mega large
  rw [returns_decimal (by linarith)] at returns gaveUp
  have succeeded := represents.succeeded
  rw [returns.unique gaveUp] at succeeded
  cases succeeded

/-- Both functions keep their promise exactly below a million.

Negative numbers are not covered, and the numbers are exact, so nothing is said of the rounding of
doubles. `doubleToScale` keeps its promise for every number.

Proof: after one division the decimal function writes `k`, and it looks for `K` before the second.
So it gives up there, which is from a million on. -/
theorem promise_iff_below_million {x : ℚ} (notNegative : 0 ≤ x) : Promise x ↔ x < 1000000 := by
  constructor
  · intro promise
    by_contra large
    exact not_promise (not_lt.mp large) promise
  · intro small
    refine ⟨doubleToScale_represents x, ?_⟩
    by_cases unit : x < 1000
    · exact ⟨_, decimal_small notNegative unit, ⟨rfl, 0, rfl, by simp⟩, fun _ => unit⟩
    · have large : 1000 ≤ x := not_lt.mp unit
      have quotient : x / 1000 < 1000 := by
        rw [div_lt_iff₀ (by norm_num)]
        linarith
      exact ⟨_, decimal_kilo large small, ⟨rfl, 1, rfl, by ring⟩, fun _ => quotient⟩

/-- The promise for 2048. -/
theorem promise_2048 : Promise 2048 :=
  (promise_iff_below_million (by norm_num)).mpr (by norm_num)

/-- A million is not scaled. -/
theorem million_not_scaled :
    doubleToDecimalScale 2 1000000 = some { x := 1000000, scale := none, result := false } ∧
      ¬ ∀ x, 0 ≤ x → Promise x :=
  ⟨by decide +kernel, fun all => not_promise (le_refl 1000000) (all 1000000 (by norm_num))⟩

end AvocadoMisc.Dwh.UnitScaling
