import HubRoutes.Address
import HubRoutes.Keccak

/-!
# The checksum form of an address

An address is written as `0x` and forty digits. Which letters are capitals is a checksum: a digit is
written in upper case exactly if the digit at its place in the Keccak digest of the lower-case text
is at least eight.
-/

namespace HubRoutes.Address

def digestDigits (digest : List UInt8) : List Nat :=
  digest.flatMap fun byte ↦ [byte.toNat / 16, byte.toNat % 16]

/-- Capitalises the digits whose partner in the second list is at least eight. -/
def capitalise (digits : List Char) (marks : List Nat) : List Char :=
  List.zipWith (fun digit mark ↦ if mark ≥ 8 then digit.toUpper else digit) digits marks

/-- The forty digits of an address in checksum case. -/
def checksumDigits (address : Address) : List Char :=
  let digits := address.digits
  capitalise digits (digestDigits (Keccak.digest (digits.map fun digit ↦ digit.toNat.toUInt8)))

def text (address : Address) : String := String.ofList ('0' :: 'x' :: address.checksumDigits)

/-- The form in which a diagnostic shows an address. -/
def diagnosticText (address : Address) : String := "Address(" ++ address.text ++ ")"

end HubRoutes.Address
