import HubRoutes.Number.Binary64

/-!
# The shortest decimal of a binary number

Among the decimals that round to a given magnitude there are some with the fewest digits; the text
of the number is the one of these that is nearest to it. Where two are equally near the tie is
broken by a rule that is a matter of the text's format.
-/

namespace HubRoutes.Number

/-- The positive decimal `digits * 10 ^ exponent`. -/
structure Decimal where
  digits : Nat
  exponent : Int
deriving DecidableEq

/-- Which of two neighbouring decimals is taken if both are equally near: the one whose last digit
is even, or the greater one. -/
inductive Tie
  | toEven
  | up
deriving DecidableEq

/-- Whether the lesser one of two neighbouring decimals is taken if both are equally near, given its
digits. -/
def Tie.takesLesser (tie : Tie) (digits : Nat) : Bool :=
  match tie with
  | .toEven => digits % 2 == 0
  | .up => false

namespace Magnitude

/-- The exponent of the greatest power of ten that is no larger than a positive magnitude. -/
def decimalOrder (magnitude : Magnitude) : Int :=
  let numerator := magnitude.numerator
  let denominator := magnitude.denominator
  if denominator ≤ numerator then (Nat.toDigits 10 (numerator / denominator)).length - 1
  else -(Nat.toDigits 10 ((denominator + numerator - 1) / numerator - 1)).length

/-- The decimal with a given number of digits that rounds to the magnitude and is nearest to it. The
numbers that round to the magnitude reach half-way to its neighbours, which are closer below a power
of two, and include the ends exactly if the mantissa is even. -/
def decimalWithDigits? (magnitude : Magnitude) (tie : Tie) (count : Nat) : Option Decimal :=
  let exponent := magnitude.decimalOrder - count + 1
  let quarter := twoTo (magnitude.exponent - 2) * tenTo (-exponent)
  let unit := twoTo (2 - magnitude.exponent) * tenTo exponent
  let value := 4 * magnitude.mantissa * quarter
  let narrow := magnitude.mantissa = twoTo 52 ∧ magnitude.exponent > minExponent
  let lower := value - (if narrow then 1 else 2) * quarter
  let upper := value + 2 * quarter
  let rounds (digits : Nat) : Bool :=
    if magnitude.mantissa % 2 = 0 then lower ≤ digits * unit && digits * unit ≤ upper
    else lower < digits * unit && digits * unit < upper
  let below := value / unit
  let above := below + 1
  match rounds below, rounds above with
  | true, true =>
    let toBelow := value - below * unit
    let toAbove := above * unit - value
    let takesBelow := toBelow < toAbove || (toBelow == toAbove && tie.takesLesser below)
    some ⟨if takesBelow then below else above, exponent⟩
  | true, false => some ⟨below, exponent⟩
  | false, true => some ⟨above, exponent⟩
  | false, false => none

end Magnitude

namespace Decimal

/-- The same decimal without zeros at the end of its digits; the fuel bounds their number. -/
def withoutTrailingZeros : Nat → Decimal → Decimal
  | 0, decimal => decimal
  | fuel + 1, decimal =>
    if decimal.digits % 10 = 0 ∧ decimal.digits ≠ 0 then
      withoutTrailingZeros fuel ⟨decimal.digits / 10, decimal.exponent + 1⟩
    else decimal

/-- The shortest decimal of a positive magnitude. Seventeen digits always suffice. -/
def ofMagnitude (tie : Tie) (magnitude : Magnitude) : Decimal :=
  match (List.range 17).findSome? fun index ↦ magnitude.decimalWithDigits? tie (index + 1) with
  | some decimal => decimal.withoutTrailingZeros 20
  | none => ⟨0, 0⟩

end Decimal

end HubRoutes.Number
