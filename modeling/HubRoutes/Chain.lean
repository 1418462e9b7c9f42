import HubRoutes.Text.Numeral

/-!
# Chains

A chain is known by its identifier alone, an unsigned number of sixty-four bits.
-/

namespace HubRoutes

abbrev ChainId := UInt64

namespace ChainId

def text (chain : ChainId) : String := Text.Numeral.text chain.toNat

/-- The chain with a given number, if the number fits in sixty-four bits. -/
def ofNat? (number : Nat) : Option ChainId :=
  if hbounded : number < UInt64.size then some ⟨⟨number, hbounded⟩⟩ else none

/-- A number is that of a chain exactly if the chain's number is that number. -/
theorem ofNat?_eq_some_iff {number : Nat} {chain : ChainId} :
    ofNat? number = some chain ↔ chain.toNat = number := by
  constructor
  · intro hfound
    rw [ofNat?] at hfound
    split at hfound
    · exact Option.some.inj hfound ▸ rfl
    · exact absurd hfound nofun
  · rintro rfl
    have hbounded : chain.toNat < UInt64.size := chain.toNat_lt
    rw [ofNat?, dif_pos hbounded]
    rfl

@[simp] theorem ofNat?_toNat (chain : ChainId) : ofNat? chain.toNat = some chain :=
  ofNat?_eq_some_iff.2 rfl

end ChainId

end HubRoutes
