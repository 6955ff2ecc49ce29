import Mathlib.Data.Int.GCD

/-!
# Multiples of a stride in modular arithmetic

A counter of fixed width that is advanced by a constant stride takes the multiples of
the stride modulo the width's range. The largest value it ever takes is the modulus
less the greatest common divisor of the two, so that is what a bound has to stay below
for the counter to exceed it.
-/

namespace AvocadoMisc.Library.Strides

/-- A multiple of the stride stays a divisor below the modulus. -/
theorem multiple_le (stride modulus steps : Nat) (positive : 0 < modulus) :
    steps * stride % modulus ≤ modulus - Nat.gcd stride modulus := by
  have divides : Nat.gcd stride modulus ∣ steps * stride % modulus :=
    (Nat.dvd_mod_iff (Nat.gcd_dvd_right stride modulus)).mpr
      (Dvd.dvd.mul_left (Nat.gcd_dvd_left stride modulus) steps)
  have below : steps * stride % modulus < modulus := Nat.mod_lt _ positive
  have gap : Nat.gcd stride modulus ∣ modulus - steps * stride % modulus :=
    Nat.dvd_sub (Nat.gcd_dvd_right stride modulus) divides
  have least := Nat.le_of_dvd (Nat.sub_pos_of_lt below) gap
  omega

/-- Some multiple is exactly that far below.

A multiple that is congruent to the divisor is repeated once less often than the divisor
goes into the modulus. -/
theorem multiple_eq (stride modulus : Nat) (positive : 0 < modulus) :
    ∃ steps, steps * stride % modulus = modulus - Nat.gcd stride modulus := by
  obtain ⟨quotient, whole⟩ := Nat.gcd_dvd_right stride modulus
  have nonzero : 0 < Nat.gcd stride modulus := Nat.gcd_pos_of_pos_right stride positive
  by_cases proper : Nat.gcd stride modulus < modulus
  · obtain ⟨unit, -, congruent⟩ := Nat.exists_mul_mod_eq_gcd proper
    refine ⟨unit * (quotient - 1), ?_⟩
    have product : Nat.gcd stride modulus * (quotient - 1) =
        modulus - Nat.gcd stride modulus := by
      rw [Nat.mul_sub, Nat.mul_one, ← whole]
    calc unit * (quotient - 1) * stride % modulus
        = stride * unit * (quotient - 1) % modulus := by
          rw [Nat.mul_comm stride unit, Nat.mul_right_comm]
      _ = stride * unit % modulus * (quotient - 1) % modulus := (Nat.mod_mul_mod _ _ _).symm
      _ = (modulus - Nat.gcd stride modulus) % modulus := by rw [congruent, product]
      _ = modulus - Nat.gcd stride modulus := Nat.mod_eq_of_lt (by omega)
  · have least := Nat.le_of_dvd positive (Nat.gcd_dvd_right stride modulus)
    exact ⟨0, by rw [Nat.zero_mul, Nat.zero_mod]; omega⟩

/-- A counter exceeds a bound at some time exactly when the bound is below its largest value. -/
theorem exceeds_iff (stride modulus bound : Nat) (positive : 0 < modulus) :
    (∃ steps, bound < steps * stride % modulus) ↔ bound < modulus - Nat.gcd stride modulus := by
  constructor
  · rintro ⟨steps, beyond⟩
    exact Nat.lt_of_lt_of_le beyond (multiple_le stride modulus steps positive)
  · intro below
    obtain ⟨steps, largest⟩ := multiple_eq stride modulus positive
    exact ⟨steps, largest ▸ below⟩

end AvocadoMisc.Library.Strides
