import Mathlib.Data.List.Basic

/-!
# Elapsed time in dwh

`timespec_elapsed` subtracts one timestamp from another. It first carries whole seconds between
the fields of the second, in place, so that the nanoseconds of the difference need no borrow.

`time_t` and `long` have 64 bits and `int` has 32. A signed operation whose result is out of range
has no defined value, so it is `none`. The only caller passes pointers that are not null.
-/

namespace AvocadoMisc.Dwh.ElapsedTime

/-- A signed integer with the given bound on its magnitude can hold the value. -/
def Fits (bound value : Int) : Prop := -bound ≤ value ∧ value < bound

instance (bound value : Int) : Decidable (Fits bound value) := inferInstanceAs (Decidable (_ ∧ _))

/-- The bound of a `long`. -/
def longBound : Int := 9223372036854775808

/-- The bound of an `int`. -/
def intBound : Int := 2147483648

/-- The result of a signed operation, unless it is out of range. -/
def checked (bound value : Int) : Option Int := if Fits bound value then some value else none

/-- `struct timespec`. -/
structure Timespec where
  tvSec : Int
  tvNsec : Int
  deriving DecidableEq

/-- The nanoseconds of a second. -/
def billion : Int := 1000000000

/-- The conversion of a `long` to an `int`. -/
def toInt (value : Int) : Int := value.bmod 4294967296

/-- The first carry, which is made when the nanoseconds of `y` are more than those of `x`. -/
def carryUp (x y : Timespec) : Option Timespec :=
  if x.tvNsec < y.tvNsec then do
    let gap ← checked longBound (y.tvNsec - x.tvNsec)
    let seconds ← checked longBound (gap.tdiv billion + 1)
    let nsec := toInt seconds
    let product ← checked intBound (billion * nsec)
    let tvNsec ← checked longBound (y.tvNsec - product)
    let tvSec ← checked longBound (y.tvSec + nsec)
    some { tvSec, tvNsec }
  else some y

/-- The second carry, which is made when they are less by more than a second. -/
def carryDown (x y : Timespec) : Option Timespec := do
  let gap ← checked longBound (x.tvNsec - y.tvNsec)
  if gap > billion then
    let nsec := toInt (gap.tdiv billion)
    let product ← checked intBound (billion * nsec)
    let tvNsec ← checked longBound (y.tvNsec + product)
    let tvSec ← checked longBound (y.tvSec - nsec)
    some { tvSec, tvNsec }
  else some y

/-- What `timespec_elapsed` stores and returns. -/
structure Elapsed where
  result : Timespec
  y : Timespec
  returned : Int

/-- `timespec_elapsed`. -/
def timespecElapsed (x y : Timespec) : Option Elapsed := do
  let y ← carryUp x y
  let y ← carryDown x y
  let tvSec ← checked longBound (x.tvSec - y.tvSec)
  let tvNsec ← checked longBound (x.tvNsec - y.tvNsec)
  some { result := { tvSec, tvNsec }, y, returned := if x.tvSec < y.tvSec then 1 else 0 }

/-- The instant a timestamp denotes, in nanoseconds. -/
def Timespec.instant (time : Timespec) : Int := time.tvSec * billion + time.tvNsec

/-- A timestamp as a clock gives it: seconds of 64 bits, and nanoseconds below a second. -/
structure Timestamp extends Timespec where
  seconds : Fits longBound toTimespec.tvSec
  nonnegative : 0 ≤ toTimespec.tvNsec
  belowSecond : toTimespec.tvNsec < billion

/-- What `timespec_elapsed` promises: the difference with its nanoseconds below a second, a one
exactly for the earlier first timestamp, and a second timestamp that means the same instant. -/
structure Exact (x y : Timestamp) (elapsed : Elapsed) : Prop where
  difference : elapsed.result.instant = x.instant - y.instant
  nonnegative : 0 ≤ elapsed.result.tvNsec
  belowSecond : elapsed.result.tvNsec < billion
  returned : elapsed.returned = 1 ↔ x.instant < y.instant
  sameInstant : elapsed.y.instant = y.instant

/-- The second that is carried, when the nanoseconds of `x` are less than those of `y`. -/
def borrow (x y : Timestamp) : Int := if x.tvNsec < y.tvNsec then 1 else 0

/-- The seconds of `y` after the carry and those of the difference fit a `time_t`. -/
structure Representable (x y : Timestamp) : Prop where
  carried : Fits longBound (y.tvSec + borrow x y)
  seconds : Fits longBound (x.tvSec - (y.tvSec + borrow x y))

variable {x y : Timestamp}

/-- An operation whose result is in range has a value. -/
theorem checked_eq {bound value : Int} (fits : Fits bound value) :
    checked bound value = some value := if_pos fits

/-- Numbers of at most a second fit a `long`. -/
theorem fits_nsec {value : Int} (low : -billion ≤ value) (high : value ≤ billion) :
    Fits longBound value := by
  simp only [Fits, longBound, billion] at *
  omega

/-- The nanoseconds of the difference after the carry. -/
theorem nsec_bounds (x y : Timestamp) :
    0 ≤ x.tvNsec - (y.tvNsec - billion * borrow x y) ∧
      x.tvNsec - (y.tvNsec - billion * borrow x y) < billion := by
  obtain ⟨xLow, xHigh⟩ := And.intro x.nonnegative x.belowSecond
  obtain ⟨yLow, yHigh⟩ := And.intro y.nonnegative y.belowSecond
  unfold borrow
  split <;> simp only [billion] at * <;> omega

/-- They fit a `long`. -/
theorem nsec_fits (x y : Timestamp) :
    Fits longBound (x.tvNsec - (y.tvNsec - billion * borrow x y)) := by
  obtain ⟨nonnegative, belowSecond⟩ := nsec_bounds x y
  have low : -billion ≤ x.tvNsec - (y.tvNsec - billion * borrow x y) :=
    Int.le_trans (by decide) nonnegative
  exact fits_nsec low (Int.le_of_lt belowSecond)

/-- Without a borrow the first carry leaves `y` alone. -/
theorem carryUp_enough (enough : ¬x.tvNsec < y.tvNsec) :
    carryUp x.toTimespec y.toTimespec = some y.toTimespec := if_neg enough

/-- With a borrow the first carry moves one second, when there is room for it. -/
theorem carryUp_less (less : x.tvNsec < y.tvNsec) :
    carryUp x.toTimespec y.toTimespec =
      (checked longBound (y.tvSec + 1)).bind fun tvSec =>
        some { tvSec, tvNsec := y.tvNsec - billion } := by
  have low := x.nonnegative
  have high := y.belowSecond
  have gap : Fits longBound (y.tvNsec - x.tvNsec) :=
    fits_nsec (by simp only [billion] at *; omega) (by omega)
  have quotient : (y.tvNsec - x.tvNsec).tdiv billion + 1 = 1 := by
    rw [Int.tdiv_eq_zero_of_lt (by omega) (by omega)]
    rfl
  have one : Fits longBound 1 := by decide
  have second : toInt 1 = 1 := by decide
  have product : Fits intBound billion := by decide
  have difference : Fits longBound (y.tvNsec - billion) :=
    fits_nsec (by omega) (by simp only [billion] at *; omega)
  rw [carryUp, if_pos less]
  simp only [checked_eq gap, Option.bind_eq_bind, Option.bind_some, quotient, checked_eq one,
    second, Int.mul_one, checked_eq product, checked_eq difference]

/-- The first carry moves the borrowed second, when there is room for it. -/
theorem carryUp_eq (x y : Timestamp) :
    carryUp x.toTimespec y.toTimespec =
      (checked longBound (y.tvSec + borrow x y)).bind fun tvSec =>
        some { tvSec, tvNsec := y.tvNsec - billion * borrow x y } := by
  by_cases less : x.tvNsec < y.tvNsec
  · rw [carryUp_less less, borrow, if_pos less, Int.mul_one]
  · rw [carryUp_enough less, borrow, if_neg less, Int.add_zero, Int.mul_zero, Int.sub_zero,
      checked_eq y.seconds]
    rfl

/-- After the first carry the second has nothing to do. -/
theorem carryDown_eq (x y : Timestamp) (tvSec : Int) :
    carryDown x.toTimespec { tvSec, tvNsec := y.tvNsec - billion * borrow x y } =
      some { tvSec, tvNsec := y.tvNsec - billion * borrow x y } := by
  obtain ⟨nonnegative, belowSecond⟩ := nsec_bounds x y
  have notMore : ¬x.tvNsec - (y.tvNsec - billion * borrow x y) > billion :=
    Int.not_lt.mpr (Int.le_of_lt belowSecond)
  simp only [carryDown, checked_eq (nsec_fits x y), Option.bind_eq_bind, Option.bind_some,
    notMore, if_false]

/-- What is stored and returned for the seconds of `y` after the carry. -/
def settled (x y : Timestamp) : Elapsed where
  result :=
    { tvSec := x.tvSec - (y.tvSec + borrow x y)
      tvNsec := x.tvNsec - (y.tvNsec - billion * borrow x y) }
  y := { tvSec := y.tvSec + borrow x y, tvNsec := y.tvNsec - billion * borrow x y }
  returned := if x.tvSec < y.tvSec + borrow x y then 1 else 0

/-- When the seconds are representable the function has that result. -/
theorem timespecElapsed_eq (representable : Representable x y) :
    timespecElapsed x.toTimespec y.toTimespec = some (settled x y) := by
  simp only [timespecElapsed, carryUp_eq, checked_eq representable.carried, Option.bind_eq_bind,
    Option.bind_some, carryDown_eq, checked_eq representable.seconds, checked_eq (nsec_fits x y)]
  rfl

/-- A result shows that the seconds are representable. -/
theorem representable_of_elapsed {elapsed : Elapsed}
    (has : timespecElapsed x.toTimespec y.toTimespec = some elapsed) : Representable x y := by
  simp only [timespecElapsed, carryUp_eq, Option.bind_eq_bind] at has
  by_cases carried : Fits longBound (y.tvSec + borrow x y)
  · refine ⟨carried, ?_⟩
    by_contra overflows
    simp only [checked_eq carried, Option.bind_some, carryDown_eq] at has
    simp only [checked, overflows, if_false, Option.bind_none] at has
    cases has
  · simp only [checked, carried, if_false, Option.bind_none] at has
    cases has

/-- What is stored and returned keeps the promise.

The carry does not change the instant of `y`, and after it the nanoseconds of the difference are
less than a second, so the seconds alone decide which timestamp is earlier. -/
theorem settled_exact (x y : Timestamp) : Exact x y (settled x y) := by
  obtain ⟨nonnegative, belowSecond⟩ := nsec_bounds x y
  have same : (settled x y).y.instant = y.instant := by
    simp only [settled, Timespec.instant, billion]
    omega
  refine ⟨?_, nonnegative, belowSecond, ?_, same⟩
  · simp only [settled, Timespec.instant, billion]
    omega
  · have earlier : x.instant < y.instant ↔ x.tvSec < y.tvSec + borrow x y := by
      rw [← same]
      simp only [settled, Timespec.instant, billion] at *
      omega
    rw [earlier, settled]
    split <;> simp_all

/-- The promise is kept exactly when the seconds are representable.

The seconds are any of 64 bits, and the nanoseconds are below a billion, as the system's clock has
them. Where the seconds are not representable a signed operation overflows, and there is no defined
result.

Proof: the carry makes the nanoseconds of the difference lie between zero and a billion, and leaves
the instant of the second timestamp as it was. -/
theorem exact_iff_representable (x y : Timestamp) :
    (∃ elapsed, timespecElapsed x.toTimespec y.toTimespec = some elapsed ∧
      Exact x y elapsed) ↔ Representable x y := by
  constructor
  · rintro ⟨elapsed, has, -⟩
    exact representable_of_elapsed has
  · intro representable
    exact ⟨settled x y, timespecElapsed_eq representable, settled_exact x y⟩

/-- From a second before the epoch to the last second of a `time_t` the difference overflows. -/
theorem last_second_overflows :
    ¬ ∀ x y : Timestamp, ∃ elapsed, timespecElapsed x.toTimespec y.toTimespec = some elapsed ∧
      Exact x y elapsed := by
  intro all
  let last : Timestamp := ⟨⟨9223372036854775807, 0⟩, by decide, by decide, by decide⟩
  let before : Timestamp := ⟨⟨-1, 0⟩, by decide, by decide, by decide⟩
  have overflows : timespecElapsed last.toTimespec before.toTimespec = none := by decide
  obtain ⟨elapsed, has, -⟩ := all last before
  rw [overflows] at has
  cases has

end AvocadoMisc.Dwh.ElapsedTime
