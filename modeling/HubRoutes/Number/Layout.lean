import HubRoutes.Number.Shortest
import HubRoutes.Text.Numeral

/-!
# Texts of binary numbers

A binary number is written by its shortest decimal. The positional layout never has a power of ten,
and of two equally near decimals it has the greater one. The compact layout of data formats has a
power of ten for numbers that are very large or very small, and of two equally near decimals it has
the even one.
-/

namespace HubRoutes.Number

namespace Decimal

def digitText (decimal : Decimal) : List Char := Text.Numeral.decimal decimal.digits

/-- The number of digits before the point; it is negative if zeros follow the point. -/
def pointPlace (decimal : Decimal) : Int := decimal.digitText.length + decimal.exponent

/-- The decimal written with all its places and with a point only if it is no whole number. -/
def positional (decimal : Decimal) : List Char :=
  let digits := decimal.digitText
  let place := decimal.pointPlace
  if decimal.exponent ≥ 0 then digits ++ List.replicate decimal.exponent.toNat '0'
  else if place > 0 then digits.take place.toNat ++ '.' :: digits.drop place.toNat
  else '0' :: '.' :: List.replicate (-place).toNat '0' ++ digits

def powerText (power : Int) : List Char :=
  if power < 0 then Text.Numeral.signedDecimal power
  else '+' :: Text.Numeral.signedDecimal power

/-- The decimal written with a power of ten behind its first digit. -/
def scientific (decimal : Decimal) : List Char :=
  let power := powerText (decimal.pointPlace - 1)
  match decimal.digitText with
  | [] => []
  | [digit] => digit :: 'e' :: power
  | digit :: rest => digit :: '.' :: rest ++ 'e' :: power

end Decimal

namespace Binary64

def signText (negative : Bool) : List Char := if negative then ['-'] else []

/-- Adds a point and a zero to a text without a point. -/
def withPoint (text : List Char) : List Char :=
  if text.contains '.' then text else text ++ ['.', '0']

def magnitudeText (magnitude : Magnitude) : List Char :=
  if magnitude.mantissa = 0 then ['0'] else (Decimal.ofMagnitude .up magnitude).positional

/-- The positional text of a number: whole numbers have no point. -/
def positional : Binary64 → List Char
  | .finite negative magnitude => signText negative ++ magnitudeText magnitude
  | .infinite negative => signText negative ++ "inf".toList
  | .notANumber => "NaN".toList

/-- The positional text of a number with a point in every finite number. -/
def positionalWithPoint : Binary64 → List Char
  | .finite negative magnitude => signText negative ++ withPoint (magnitudeText magnitude)
  | number => number.positional

/-- The compact text of a number: positional, with a point, if the point stands at most five places
before the digits and at most sixteen places after their start, and with a power of ten otherwise.
-/
def compact : Binary64 → List Char
  | .finite negative magnitude =>
    if magnitude.mantissa = 0 then signText negative ++ "0.0".toList
    else
      let decimal := Decimal.ofMagnitude .toEven magnitude
      let place := decimal.pointPlace
      if -5 < place ∧ place ≤ 16 then signText negative ++ withPoint decimal.positional
      else signText negative ++ decimal.scientific
  | number => number.positional

end Binary64

end HubRoutes.Number
