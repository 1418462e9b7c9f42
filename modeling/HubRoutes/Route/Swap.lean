import HubRoutes.Route.Bridge

/-!
# Swap routes

A swap route is a bridge route with a swap on the origin chain in front of it. The token that is
swapped is looked up on the origin chain only and may be another asset than the bridged one.
-/

namespace HubRoutes.Route

open Declaration (Origin)

/-- A bridge route that is reached by a swap on the origin chain. -/
structure Swap where
  bridge : Bridge
  swapAddress : Address
  swapSymbol : String
  swapHubAddress : Address
deriving DecidableEq

structure SwapPair where
  swapInput : String
  pair : BridgePair
deriving DecidableEq

/-- The declared swaps of an origin in the order of their declaration. -/
def swapPairs (origin : Origin) : List SwapPair :=
  origin.destinations.flatMap fun destination ↦
    destination.swaps.map fun swap ↦
      ⟨swap.swapInput, destination.chain, swap.bridgeInput, swap.bridgeOutput⟩

/-- The route of a declared swap. The swapped token is looked up first. -/
def swapLeg (context : Context) (origin : Origin) (declared : SwapPair) : Except Fault Swap := do
  let swapped ← Token.resolve context.source context.hub declared.swapInput origin.chain
  let bridge ← bridgeLeg context origin declared.pair
  return {
    bridge
    swapAddress := swapped.address
    swapSymbol := swapped.symbol
    swapHubAddress := swapped.hubAddress }

def duplicateSwap (origin : Origin) (declared : SwapPair) : Fault :=
  .duplicate .swap origin.chain declared.pair.toChain
    (declared.pair.input ++ " (via " ++ declared.swapInput ++ ")") declared.pair.output

/-- The swap routes of an origin in the order of their declaration. -/
def swapRoutes (context : Context) (origin : Origin) : Except Fault (List Swap) :=
  expandDistinct (duplicateSwap origin)
    (fun declared ↦
      within .swap origin.chain declared.pair.toChain (swapLeg context origin declared))
    [] (swapPairs origin)

end HubRoutes.Route
