import HubRoutes.Address
import HubRoutes.Text.Blank
import HubRoutes.Text.Quoted

/-!
# Reading addresses

A written address is forty hexadecimal digits of either case, with an optional `0x` or `0X` in front
and blanks around it. Every other text has one reason for its refusal. The length is counted in
bytes of UTF-8 and is judged before the digits, an odd length before a wrong one.
-/

namespace HubRoutes.Address

inductive Reason
  | oddLength
  | wrongLength
  | badDigit (byte : UInt8) (position : Nat)
deriving DecidableEq

/-- A refused text, as it was given, and the reason. -/
structure Fault where
  input : String
  reason : Reason
deriving DecidableEq

/-- The wording of a reason. A byte that is no digit is shown as the character of its number. -/
def Reason.message : Reason → String
  | .oddLength => "odd number of digits"
  | .wrongLength => "invalid string length"
  | .badDigit byte position =>
    "invalid character " ++ Text.Quoted.character (Char.ofNat byte.toNat) ++ " at position "
      ++ Text.Numeral.text position

def Fault.message (fault : Fault) : String :=
  "invalid address " ++ Text.Quoted.text fault.input ++ ": " ++ fault.reason.message

/-- A text without the mark of hexadecimal numbers at its start. -/
def dropHexMark : List Char → List Char
  | '0' :: 'x' :: rest => rest
  | '0' :: 'X' :: rest => rest
  | text => text

/-- The bytes of a text that have to be the digits of an address. -/
def digitBytes (text : List Char) : List UInt8 :=
  (dropHexMark (Text.Blank.trim text)).flatMap String.utf8EncodeChar

def digitValue? (byte : UInt8) : Option Nat := Text.Numeral.digitValue? 16 (Char.ofNat byte.toNat)

/-- The first byte that is no hexadecimal digit and its place, counted from the given one. -/
def firstBadDigit (position : Nat) : List UInt8 → Option (UInt8 × Nat)
  | [] => none
  | byte :: rest =>
    match digitValue? byte with
    | some _ => firstBadDigit (position + 1) rest
    | none => some (byte, position)

def valueAt (bytes : List UInt8) (position : Nat) : Nat :=
  ((bytes[position]?).bind digitValue?).getD 0

/-- The address whose bytes are the values of the digits taken in pairs. -/
def ofDigitBytes (bytes : List UInt8) : Address :=
  ⟨Vector.ofFn fun index ↦
    (16 * valueAt bytes (2 * index.val) + valueAt bytes (2 * index.val + 1)).toUInt8⟩

def read (input : String) : Except Fault Address :=
  let bytes := digitBytes input.toList
  if bytes.length % 2 = 1 then .error ⟨input, .oddLength⟩
  else if bytes.length ≠ 40 then .error ⟨input, .wrongLength⟩
  else match firstBadDigit 0 bytes with
    | some (byte, position) => .error ⟨input, .badDigit byte position⟩
    | none => .ok (ofDigitBytes bytes)

end HubRoutes.Address
