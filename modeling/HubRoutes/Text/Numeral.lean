/-!
# Numerals

Decimal texts of whole numbers and the reading of digits in a base.
-/

namespace HubRoutes.Text.Numeral

/-- The decimal digits of a natural number, most significant first and without leading zeros. -/
def decimal (number : Nat) : List Char := Nat.toDigits 10 number

def text (number : Nat) : String := String.ofList (decimal number)

/-- The decimal text of an integer: a minus sign before the digits of a negative number. -/
def signedDecimal (number : Int) : List Char :=
  if number < 0 then '-' :: decimal number.natAbs else decimal number.natAbs

/-- The value of a digit in the bases up to sixteen; letters count from ten in either case. -/
def digitValue? (base : Nat) (digit : Char) : Option Nat :=
  let code := digit.toNat
  let value :=
    if 48 ≤ code && code ≤ 57 then code - 48
    else if 97 ≤ code && code ≤ 102 then code - 87
    else if 65 ≤ code && code ≤ 70 then code - 55
    else base
  if value < base then some value else none

/-- The digits read after a value: each digit multiplies what stands before it by the base. -/
def readFrom? (base : Nat) : Nat → List Char → Option Nat
  | value, [] => some value
  | value, digit :: rest =>
    match digitValue? base digit with
    | some unit => readFrom? base (value * base + unit) rest
    | none => none

/-- The number written by a non-empty run of digits. -/
def read? (base : Nat) : List Char → Option Nat
  | [] => none
  | digits => readFrom? base 0 digits

def isDigit (character : Char) : Bool := '0' ≤ character && character ≤ '9'

def hexDigit (value : Nat) : Char := Nat.digitChar value

/-- The hexadecimal digits of a natural number in lower case, without leading zeros. -/
def hexadecimal (number : Nat) : List Char := Nat.toDigits 16 number

end HubRoutes.Text.Numeral
