import HubRoutes.Number.Power

/-!
# Binary floating-point numbers

The numbers of the 64-bit binary format as exact values: a finite magnitude is a natural number of
at most fifty-three bits times a power of two. A quotient of natural numbers is rounded to the
nearest such magnitude, a tie to the even one.
-/

namespace HubRoutes.Number

/-- The magnitude `mantissa * 2 ^ exponent`. -/
structure Magnitude where
  mantissa : Nat
  exponent : Int
deriving DecidableEq

/-- A number of the 64-bit binary format. Zero has a sign. -/
inductive Binary64
  | finite (negative : Bool) (magnitude : Magnitude)
  | infinite (negative : Bool)
  | notANumber
deriving DecidableEq

namespace Magnitude

/-- The least exponent of a magnitude; the magnitudes below a full mantissa have it too. -/
def minExponent : Int := -1074

def maxExponent : Int := 971

/-- The quotient rounded to the nearest natural number, a tie to the even one. -/
def nearestQuotient (numerator denominator : Nat) : Nat :=
  let quotient := numerator / denominator
  let remainder := numerator % denominator
  if 2 * remainder < denominator then quotient
  else if 2 * remainder > denominator then quotient + 1
  else quotient + quotient % 2

/-- The greatest power of two, given by its exponent, that is no larger than the quotient of two
positive numbers. -/
def binaryOrder (numerator denominator : Nat) : Int :=
  let estimate : Int := numerator.log2 - denominator.log2
  if denominator * twoTo estimate ≤ numerator * twoTo (-estimate) then estimate
  else estimate - 1

/-- The magnitude nearest to a quotient, unless it is beyond the greatest one. -/
def ofQuotient? (numerator denominator : Nat) : Option Magnitude :=
  if numerator = 0 then some ⟨0, minExponent⟩
  else
    let exponent := max (binaryOrder numerator denominator - 52) minExponent
    let mantissa :=
      nearestQuotient (numerator * twoTo (-exponent)) (denominator * twoTo exponent)
    let rounded : Magnitude :=
      if mantissa = twoTo 53 then ⟨twoTo 52, exponent + 1⟩ else ⟨mantissa, exponent⟩
    if rounded.exponent > maxExponent then none else some rounded

def numerator (magnitude : Magnitude) : Nat := magnitude.mantissa * twoTo magnitude.exponent

def denominator (magnitude : Magnitude) : Nat := twoTo (-magnitude.exponent)

def mul? (first second : Magnitude) : Option Magnitude :=
  ofQuotient? (first.numerator * second.numerator) (first.denominator * second.denominator)

def div? (first second : Magnitude) : Option Magnitude :=
  ofQuotient? (first.numerator * second.denominator) (first.denominator * second.numerator)

/-- The natural number nearest to a magnitude, a tie to the greater one. -/
def roundToNat (magnitude : Magnitude) : Nat :=
  (2 * magnitude.numerator + magnitude.denominator) / (2 * magnitude.denominator)

end Magnitude

namespace Binary64

/-- The number with a sign and a magnitude, infinite if there is no magnitude. -/
def ofMagnitude (negative : Bool) : Option Magnitude → Binary64
  | some magnitude => .finite negative magnitude
  | none => .infinite negative

end Binary64

end HubRoutes.Number
