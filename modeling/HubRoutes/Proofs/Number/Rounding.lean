import HubRoutes.Number.Binary64
import Mathlib.Algebra.Group.Nat.Even
import Mathlib.Tactic.SplitIfs

/-!
# Whole numbers as binary numbers

A whole number that has more bits than a mantissa is rounded in its last bits: among the multiples of a power of
two, which is what the surplus bits count, the binary number is the nearest one. In the middle of two of them the
even multiple is taken.
-/

namespace HubRoutes.Number.Magnitude

variable {numerator denominator nearest number surplus : Nat}

/-- A natural number is at most half a unit away from a quotient, and it is even if the quotient is in the middle of
two natural numbers. -/
structure IsNearest (numerator denominator nearest : Nat) : Prop where
  upper : 2 * (denominator * nearest) ≤ 2 * numerator + denominator
  lower : 2 * numerator ≤ 2 * (denominator * nearest) + denominator
  even_of_middle : 2 * (numerator % denominator) = denominator → Even nearest

/-- The rounded quotient is the nearest one, and the even one of two that are equally near. -/
theorem isNearest_nearestQuotient (hpositive : 0 < denominator) :
    IsNearest numerator denominator (nearestQuotient numerator denominator) := by
  have hdivision := Nat.div_add_mod numerator denominator
  have hremainder := Nat.mod_lt numerator hpositive
  unfold nearestQuotient
  dsimp only
  split_ifs with hbelow habove
  · exact ⟨by omega, by omega, fun hmiddle ↦ absurd hmiddle (Nat.ne_of_lt hbelow)⟩
  · rw [← Nat.succ_eq_add_one]
    exact ⟨by rw [Nat.mul_succ]; omega, by rw [Nat.mul_succ]; omega,
      fun hmiddle ↦ absurd hmiddle (Nat.ne_of_gt habove)⟩
  · obtain heven | hodd := Nat.mod_two_eq_zero_or_one (numerator / denominator)
    · rw [heven, Nat.add_zero]
      exact ⟨by omega, by omega, fun _ ↦ Nat.even_iff.2 heven⟩
    · rw [hodd, ← Nat.succ_eq_add_one]
      refine ⟨by rw [Nat.mul_succ]; omega, by rw [Nat.mul_succ]; omega, fun _ ↦ ?_⟩
      exact Nat.even_iff.2 (by omega)

/-! ## Powers of two -/

theorem binaryOrder_one (hpositive : number ≠ 0) : binaryOrder number 1 = number.log2 := by
  have hone : Nat.log2 1 = 0 := rfl
  have hpower : 1 * twoTo (number.log2 : Int) ≤ number * twoTo (-(number.log2 : Int)) := by
    simpa [twoTo] using Nat.log2_self_le hpositive
  unfold binaryOrder
  rw [hone]
  exact if_pos (by simpa using hpower)

/-- The value of a magnitude with a natural exponent is a natural number. -/
theorem roundToNat_of_nonneg (mantissa exponent : Nat) :
    roundToNat ⟨mantissa, exponent⟩ = 2 ^ exponent * mantissa := by
  have hnumerator : Magnitude.numerator ⟨mantissa, exponent⟩ = 2 ^ exponent * mantissa := by
    simp [Magnitude.numerator, twoTo, Nat.mul_comm]
  have hdenominator : Magnitude.denominator ⟨mantissa, exponent⟩ = 1 := by
    simp [Magnitude.denominator, twoTo]
  rw [roundToNat, hnumerator, hdenominator]
  omega

/-- A whole number is rounded to the nearest multiple of the power of two that stands for its surplus bits. -/
theorem exists_ofQuotient?_one (hpositive : number ≠ 0) (hbits : number.log2 = 52 + surplus)
    (hsmall : surplus ≤ 970) :
    ∃ magnitude nearest, ofQuotient? number 1 = some magnitude ∧ IsNearest number (2 ^ surplus) nearest ∧
      magnitude.roundToNat = 2 ^ surplus * nearest := by
  have hnearest : IsNearest number (2 ^ surplus) (nearestQuotient number (2 ^ surplus)) :=
    isNearest_nearestQuotient (Nat.two_pow_pos surplus)
  have hexponent : max (binaryOrder number 1 - 52) minExponent = surplus := by
    rw [binaryOrder_one hpositive, hbits, minExponent]
    omega
  have hmantissa : nearestQuotient (number * twoTo (-(surplus : Int))) (1 * twoTo surplus) =
      nearestQuotient number (2 ^ surplus) := by
    simp [twoTo]
  unfold ofQuotient?
  rw [if_neg hpositive, hexponent]
  dsimp only
  rw [hmantissa]
  -- A mantissa that is rounded up to one bit more is halved, and the value stays.
  by_cases hcarry : nearestQuotient number (2 ^ surplus) = twoTo 53
  · have hdouble : twoTo 53 = 2 * twoTo 52 := by decide
    rw [if_pos hcarry, if_neg (by simp [maxExponent]; omega)]
    refine ⟨_, _, rfl, hnearest, ?_⟩
    rw [hcarry, hdouble, ← Nat.mul_assoc, ← Nat.pow_succ]
    exact roundToNat_of_nonneg (twoTo 52) (surplus + 1)
  · rw [if_neg hcarry, if_neg (by simp [maxExponent]; omega)]
    exact ⟨_, _, rfl, hnearest, roundToNat_of_nonneg ..⟩

end HubRoutes.Number.Magnitude
