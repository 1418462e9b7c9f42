import HubRoutes.Document
import HubRoutes.Route.Swap

/-!
# Route tables

A route table is everything that a reader needs to know about one hub chain: the contracts of the
hub and all routes of all its origins. It is compiled as a whole; the first fault in the order of
the declarations stops the compilation and nothing results.
-/

namespace HubRoutes.Route

open Declaration (Hub Origin Pool Verifier Routers)

/-- The contracts and routes of one hub chain. -/
structure Table where
  hub : ChainId
  hubPool : Address
  wrappedNative : Address
  configStore : Address
  protocolToken : Address
  acceleratingDistributor : Address
  merkleDistributor : Address
  claimAndStake : Address
  routers : Routers
  bridges : List Bridge
  swaps : List Swap
  pools : List Pool
  verifier : Option Verifier
deriving DecidableEq

/-- The routes of the origins of a hub: for each origin first its bridge routes, then its swaps. -/
def originRoutes (source : Token.Source) (hub : Hub) :
    List Origin → Except Fault (List Bridge × List Swap)
  | [] => .ok ([], [])
  | origin :: rest => do
    let context : Context := ⟨source, hub.chain, hub.nativeSymbolOf origin⟩
    let bridges ← bridgeRoutes context origin
    let swaps ← swapRoutes context origin
    let (laterBridges, laterSwaps) ← originRoutes source hub rest
    return (bridges ++ laterBridges, swaps ++ laterSwaps)

/-- The table of a hub that was found under a key. The two tokens of the hub itself are looked up on
the chain of the key, before the routes are expanded for the chain that the hub declares. -/
def tableOf (source : Token.Source) (key : ChainId) (hub : Hub) : Except Fault Table := do
  let wrappedNative ← Token.resolve source key hub.wrappedNativeSymbol key
  let protocolToken ← Token.resolve source key hub.protocolSymbol key
  let (bridges, swaps) ← originRoutes source hub hub.origins
  return {
    hub := hub.chain
    hubPool := hub.pool
    wrappedNative := wrappedNative.address
    configStore := hub.configStore
    protocolToken := protocolToken.address
    acceleratingDistributor := hub.acceleratingDistributor
    merkleDistributor := hub.merkleDistributor
    claimAndStake := hub.claimAndStake
    routers := hub.routers
    bridges
    swaps
    pools := hub.pools
    verifier := hub.verifier }

def compile (document : Document) (source : Token.Source) (hub : ChainId) : Except Fault Table := do
  tableOf source hub (← document.hub hub)

end HubRoutes.Route
