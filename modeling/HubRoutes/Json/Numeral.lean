import HubRoutes.Json.Value
import HubRoutes.Text.Numeral

/-!
# Reading Json numbers

A number is a minus sign or none, digits without a leading zero, and an optional fraction and power
of ten. Whole numbers are exact as far as sixty-four bits hold them. Any other number is found from
its leading digits, as many as sixty-four bits hold, and a power of ten: both are rounded to the
binary format, and so is their product or quotient.
-/

namespace HubRoutes.Json.Numeral

open HubRoutes.Number (Magnitude)
open Text.Numeral (isDigit digitValue?)

inductive Fault
  | endOfText
  | malformed
  | outOfRange
deriving DecidableEq

def Fault.message : Fault → String
  | .endOfText => "EOF while parsing a value"
  | .malformed => "invalid number"
  | .outOfRange => "number out of range"

/-- Takes digits into a number as long as it stays below two to the sixty-fourth, and counts the
digits taken and those left out. -/
def accumulate : Nat → List Char → Nat × Nat × Nat
  | value, [] => (value, 0, 0)
  | value, digit :: rest =>
    let next := value * 10 + (digitValue? 10 digit).getD 0
    if next < UInt64.size then
      let (final, taken, left) := accumulate next rest
      (final, taken + 1, left)
    else (value, 0, rest.length + 1)

/-- Divides by the greatest power of ten of the format until the exponent is within its powers; the
fuel is enough to reach zero from sixty-four bits. -/
def scaleDown : Nat → Magnitude → Nat → Option Magnitude
  | 0, _, _ => Magnitude.ofQuotient? 0 1
  | fuel + 1, magnitude, places => do
    let power ← Magnitude.ofQuotient? (Number.tenTo (min places 308)) 1
    let quotient ← magnitude.div? power
    if places ≤ 308 then return quotient else scaleDown fuel quotient (places - 308)

/-- A significand times a power of ten, unless it is out of range. -/
def scale (significand : Nat) (exponent : Int) : Except Fault Magnitude :=
  let result := do
    let magnitude ← Magnitude.ofQuotient? significand 1
    if significand = 0 then return magnitude
    else if exponent < 0 then scaleDown 4 magnitude exponent.natAbs
    else if exponent > 308 then none
    else magnitude.mul? (← Magnitude.ofQuotient? (Number.tenTo exponent) 1)
  match result with
  | some magnitude => .ok magnitude
  | none => .error .outOfRange

def readPower : List Char → Except Fault (Option Int × List Char)
  | [] => .ok (none, [])
  | mark :: rest =>
    if mark = 'e' ∨ mark = 'E' then
      let (negative, digits) := match rest with
        | '+' :: digits => (false, digits)
        | '-' :: digits => (true, digits)
        | digits => (false, digits)
      match digits with
      | [] => .error .endOfText
      | digit :: _ =>
        if isDigit digit then
          let power : Int := (Text.Numeral.read? 10 (digits.takeWhile isDigit)).getD 0
          .ok (some (if negative then -power else power), digits.dropWhile isDigit)
        else .error .malformed
    else .ok (none, mark :: rest)

/-- A number with a fraction or a power of ten, from its digits before and behind the point. -/
def real (negative : Bool) (whole fraction : List Char) (power : Int) : Except Fault Number := do
  let (start, _, skipped) := accumulate 0 whole
  let (significand, taken, _) := accumulate start fraction
  let magnitude ← scale significand (skipped - taken + power)
  return .real (.finite negative magnitude)

/-- A number without fraction and power of ten. -/
def integer (negative : Bool) (whole : List Char) : Except Fault Number :=
  let value := (Text.Numeral.read? 10 whole).getD 0
  if negative then
    if 0 < value ∧ value ≤ Number.twoTo 63 then .ok (.negative value) else real true whole [] 0
  else if value < UInt64.size then .ok (.natural value) else real false whole [] 0

/-- Reads what follows the digits before the point. -/
def readAfterWhole (negative : Bool) (whole : List Char) :
    List Char → Except Fault (Number × List Char)
  | '.' :: rest =>
    match rest with
    | [] => .error .endOfText
    | digit :: _ =>
      if isDigit digit then do
        let (power, rest') ← readPower (rest.dropWhile isDigit)
        let number ← real negative whole (rest.takeWhile isDigit) (power.getD 0)
        return (number, rest')
      else .error .malformed
  | rest => do
    match ← readPower rest with
    | (some power, rest') => return (← real negative whole [] power, rest')
    | (none, rest') => return (← integer negative whole, rest')

/-- Reads the number at the start of a text. -/
def read (text : List Char) : Except Fault (Number × List Char) :=
  let (negative, unsigned) := match text with
    | '-' :: rest => (true, rest)
    | rest => (false, rest)
  match unsigned with
  | [] => .error .endOfText
  | '0' :: rest =>
    match rest with
    | digit :: _ => if isDigit digit then .error .malformed else readAfterWhole negative ['0'] rest
    | [] => readAfterWhole negative ['0'] rest
  | digit :: rest =>
    if isDigit digit then
      readAfterWhole negative (digit :: rest.takeWhile isDigit) (rest.dropWhile isDigit)
    else .error .malformed

end HubRoutes.Json.Numeral
