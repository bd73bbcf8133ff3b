import Mathlib.Tactic.Common
import Mathlib.Tactic.Ring
import Reckoner.Number.Binary

/-!
# Rounding to the nearest pattern

The nearest pattern of a fraction does not depend on how the fraction is written
(`nearest_congr`). A finite pattern is the nearest one of its own magnitude
(`nearest_magnitude`), and zero is the nearest one of everything below half a unit
(`nearest_eq_zero`).
-/

namespace Reckoner

namespace Number

/-- A rounded quotient does not depend on a common factor. -/
theorem roundDiv_mul {k : Nat} (hk : 0 < k) (num den : Nat) :
  roundDiv (k * num) (k * den) = roundDiv num den
  := by
  have hlt : ∀ a b, k * a < k * b ↔ a < b := fun a b => Nat.mul_lt_mul_left hk
  simp only [roundDiv, Nat.mul_div_mul_left _ _ hk, Nat.mul_mod_mul_left, Nat.mul_left_comm 2 k,
    hlt]

/-- The pattern nearest to a quotient does not depend on a common factor. -/
theorem nearest_mul {k : Nat} (hk : 0 < k) (num den : Nat) :
  nearest (k * num) (k * den) = nearest num den
  := by
  simp only [nearest, Nat.mul_div_mul_left _ _ hk, Nat.mul_assoc, roundDiv_mul hk]

/-- Fractions with the same value have the same nearest pattern. -/
theorem nearest_congr {num den num' den' : Nat} (hden : 0 < den) (hden' : 0 < den')
    (h : num * den' = num' * den) :
  nearest num den = nearest num' den'
  := by
  rw [← nearest_mul hden' num den, ← nearest_mul hden num' den', Nat.mul_comm den' num, h,
    Nat.mul_comm num' den, Nat.mul_comm den' den]

/-- A quotient without a remainder is not rounded. -/
theorem roundDiv_mul_self (n : Nat) {den : Nat} (hden : 0 < den) :
  roundDiv (n * den) den = n
  := by
  rw [roundDiv, Nat.mul_mod_left, Nat.mul_zero]
  simp only [hden, if_true]
  apply Nat.mul_div_cancel n hden

/-- A fraction of less than half a unit is nearest to zero. -/
theorem nearest_eq_zero {num den : Nat} (h : 2 * num < den) :
  nearest num den = 0
  := by
  have hquotient : num / den = 0 := Nat.div_eq_of_lt (by omega)
  have hremainder : num % den = num := Nat.mod_eq_of_lt (by omega)
  have hround : roundDiv num den = 0 := by
    simp only [roundDiv, hquotient, hremainder, if_pos h]
  simp [nearest, hquotient, hround]

/-- A significand of 53 bits that is shifted by `k` has `53 + k` bits. -/
theorem log2_mul_pow {n : Nat} (k : Nat) (hlow : patternsPerPower ≤ n)
    (hhigh : n < 2 * patternsPerPower) :
  (n * Nat.pow 2 k).log2 = 52 + k
  := by
  have hpow : Nat.pow 2 k = 2 ^ k := rfl
  have hlow' : 2 ^ 52 * 2 ^ k ≤ n * 2 ^ k := Nat.mul_le_mul_right _ hlow
  have hhigh' : n * 2 ^ k < 2 ^ 53 * 2 ^ k := Nat.mul_lt_mul_of_pos_right hhigh (Nat.two_pow_pos k)
  rw [hpow, Nat.log2_eq_iff, Nat.pow_add]
  · use hlow'
    rw [Nat.add_right_comm, Nat.pow_add]
    apply hhigh'
  · apply Nat.ne_of_gt
    apply Nat.lt_of_lt_of_le _ hlow'
    apply Nat.mul_pos (Nat.two_pow_pos 52) (Nat.two_pow_pos k)

/-- A finite pattern is nearest to its magnitude. -/
theorem nearest_magnitude {p : Nat} (h : p < infinity) :
  nearest (magnitude p) 1 = p
  := by
  rw [nearest, Nat.div_one, Nat.one_mul]
  by_cases hp : p < patternsPerPower
  · -- A subnormal pattern is its own magnitude.
    have hstep : p.log2 - 52 = 0 := by
      by_cases hzero : p = 0
      · rw [hzero]
        decide
      · have hlog : p.log2 < 52 := (Nat.log2_lt hzero).mpr hp
        omega
    rw [magnitude, if_pos hp, hstep, Nat.zero_mul, Nat.zero_add]
    have hround := roundDiv_mul_self p Nat.one_pos
    rw [Nat.mul_one] at hround
    rw [show Nat.pow 2 0 = 1 from rfl, hround]
    apply Nat.min_eq_left (Nat.le_of_lt h)
  · -- Any other one is divided into its exponent and a significand with the implicit bit.
    have hppp : 0 < patternsPerPower := by decide
    have hmod := Nat.mod_lt p hppp
    have hdiv := Nat.div_add_mod p patternsPerPower
    have hquotient := Nat.div_pos (Nat.le_of_not_lt hp) hppp
    have hlog := log2_mul_pow (n := patternsPerPower + p % patternsPerPower)
      (p / patternsPerPower - 1) (by omega) (by omega)
    have hpos : 0 < Nat.pow 2 (p / patternsPerPower - 1) := Nat.two_pow_pos _
    rw [magnitude, if_neg hp, hlog, Nat.add_sub_cancel_left, roundDiv_mul_self _ hpos]
    have hwhole : (p / patternsPerPower - 1) * patternsPerPower
        + (patternsPerPower + p % patternsPerPower) = p := by
      rw [← Nat.add_assoc, ← Nat.succ_mul, Nat.succ_eq_add_one, Nat.sub_add_cancel hquotient,
        Nat.mul_comm]
      apply hdiv
    rw [hwhole]
    apply Nat.min_eq_left (Nat.le_of_lt h)

end Number

end Reckoner
