import HubRoutes.Route.Fault
import HubRoutes.Token.Alias
import HubRoutes.Token.Registry

/-!
# Token identity

A token on some chain is identified by the address that its canonical symbol has on the hub chain.
Two tokens are the same asset exactly if these addresses agree, whatever their symbols and chains.
-/

namespace HubRoutes.Token

/-- A token as deployed on a chain, with the hub address that is its identity. -/
structure Record where
  chain : ChainId
  address : Address
  symbol : String
  hubAddress : Address
deriving DecidableEq

/-- Looks a token up on a chain and then its identity on the hub chain. -/
def resolve (source : Source) (hub : ChainId) (symbol : String) (chain : ChainId) :
    Except Route.Fault Record :=
  match source symbol chain with
  | none => .error (.unknownToken symbol chain)
  | some address =>
    match source (Alias.canonical symbol) hub with
    | none => .error (.unknownHubToken symbol hub)
    | some hubAddress => .ok ⟨chain, address, symbol, hubAddress⟩

def sameAsset (first second : Record) : Bool := first.hubAddress == second.hubAddress

/-- Refuses a pair of tokens that are different assets. -/
def ensureSameAsset (input output : Record) : Except Route.Fault Unit :=
  if sameAsset input output then .ok ()
  else .error (.differentAssets input.chain output.chain input.symbol output.symbol)

/-- Two tokens are one asset if they have one address on the hub chain. -/
@[simp] theorem sameAsset_iff (first second : Record) :
    sameAsset first second = true ↔ first.hubAddress = second.hubAddress := by
  simp [sameAsset]

end HubRoutes.Token
