import HubRoutes.Number.Binary64
import HubRoutes.Text.Numeral

/-!
# Decimal literals

A decimal literal is an optional sign, digits with at most one point among them, and an optional
power of ten. Its value is exact; the nearest binary number is found from it by one rounding.
-/

namespace HubRoutes.Number

/-- The value `significand * 10 ^ exponent` with a sign. -/
structure Literal where
  negative : Bool
  significand : Nat
  exponent : Int
deriving DecidableEq

namespace Literal

open Text.Numeral (isDigit)

/-- The sign in front of a text, if any, and the rest. -/
def splitSign : List Char → Bool × List Char
  | '-' :: rest => (true, rest)
  | '+' :: rest => (false, rest)
  | text => (false, text)

/-- The power of ten that a text consists of; the empty text is the zeroth power. -/
def readPower? : List Char → Option Int
  | [] => some 0
  | mark :: rest =>
    if mark = 'e' ∨ mark = 'E' then
      let (negative, digits) := splitSign rest
      (Text.Numeral.read? 10 digits).map fun power ↦ if negative then -(power : Int) else power
    else none

def readUnsigned? (negative : Bool) (text : List Char) : Option Literal :=
  let whole := text.takeWhile isDigit
  match text.dropWhile isDigit with
  | '.' :: rest => do
    let fraction := rest.takeWhile isDigit
    let significand ← Text.Numeral.read? 10 (whole ++ fraction)
    let power ← readPower? (rest.dropWhile isDigit)
    return ⟨negative, significand, power - fraction.length⟩
  | rest => do
    let significand ← Text.Numeral.read? 10 whole
    let power ← readPower? rest
    return ⟨negative, significand, power⟩

/-- Reads a literal. There has to be a digit before or after the point. -/
def read? (text : List Char) : Option Literal :=
  let (negative, rest) := splitSign text
  readUnsigned? negative rest

/-- The binary number nearest to a literal. Powers of ten far outside the range of the format are
decided by the number of digits alone. -/
def toBinary64 (literal : Literal) : Binary64 :=
  let order : Int := (Nat.toDigits 10 literal.significand).length + literal.exponent
  if literal.significand = 0 ∨ order < -400 then
    .finite literal.negative ⟨0, Magnitude.minExponent⟩
  else if order > 400 then .infinite literal.negative
  else .ofMagnitude literal.negative (Magnitude.ofQuotient?
    (literal.significand * tenTo literal.exponent) (tenTo (-literal.exponent)))

end Literal

end HubRoutes.Number
