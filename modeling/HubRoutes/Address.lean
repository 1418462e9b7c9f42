import HubRoutes.Text.Numeral

/-!
# Addresses

An account or contract is identified by twenty bytes. The bytes are the identity: which letters of a
written address are capitals says nothing about the account.
-/

namespace HubRoutes

/-- The twenty bytes that identify an account or a contract. -/
structure Address where
  bytes : Vector UInt8 20
deriving DecidableEq

namespace Address

/-- Addresses are ordered like their bytes, the first byte counting most. -/
instance : Ord Address := ⟨fun first second ↦ compare first.bytes.toList second.bytes.toList⟩

def replicate (byte : UInt8) : Address := ⟨Vector.replicate 20 byte⟩

instance : Inhabited Address := ⟨replicate 0⟩

def byteDigits (byte : UInt8) : List Char :=
  [Text.Numeral.hexDigit (byte.toNat / 16), Text.Numeral.hexDigit (byte.toNat % 16)]

/-- The forty hexadecimal digits of an address in lower case. -/
def digits (address : Address) : List Char := address.bytes.toList.flatMap byteDigits

@[simp] theorem length_digits (address : Address) : address.digits.length = 40 := by
  simp [digits, byteDigits, List.length_flatMap, List.map_const']

end Address

end HubRoutes
