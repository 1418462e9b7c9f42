import HubRoutes.Declaration
import HubRoutes.Token.Identity

/-!
# Bridge routes

A bridge route permits a token of an origin chain to arrive as a token of a destination chain. Both
tokens are looked up on their own chain and have to be one asset. A declared pair may occur once
for each destination.
-/

namespace HubRoutes.Route

open Declaration (Origin)

structure Bridge where
  fromChain : ChainId
  toChain : ChainId
  fromAddress : Address
  toAddress : Address
  spoke : Address
  fromSymbol : String
  toSymbol : String
  isNative : Bool
  hubAddress : Address
deriving DecidableEq

/-- What the routes of an origin are expanded against: the answers of a registry, the hub chain that
decides on identity, and the symbol of the native token. -/
structure Context where
  source : Token.Source
  hub : ChainId
  nativeSymbol : String

structure BridgePair where
  toChain : ChainId
  input : String
  output : String
deriving DecidableEq

/-- The declared pairs of an origin in the order of their declaration. -/
def bridgePairs (origin : Origin) : List BridgePair :=
  origin.destinations.flatMap fun destination ↦
    destination.tokens.map fun token ↦ ⟨destination.chain, token.input, token.output⟩

/-- The route of a declared pair. The input is looked up first. -/
def bridgeLeg (context : Context) (origin : Origin) (pair : BridgePair) : Except Fault Bridge := do
  let input ← Token.resolve context.source context.hub pair.input origin.chain
  let output ← Token.resolve context.source context.hub pair.output pair.toChain
  Token.ensureSameAsset input output
  return {
    fromChain := origin.chain
    toChain := pair.toChain
    fromAddress := input.address
    toAddress := output.address
    spoke := origin.spoke
    fromSymbol := input.symbol
    toSymbol := output.symbol
    isNative := input.symbol == context.nativeSymbol
    hubAddress := input.hubAddress }

/-- Expands declarations one after the other. A declaration that was seen before is refused before
anything else is tried with it. -/
def expandDistinct {δ ρ : Type} [DecidableEq δ] (twice : δ → Fault) (expand : δ → Except Fault ρ) :
    List δ → List δ → Except Fault (List ρ)
  | _, [] => .ok []
  | seen, declaration :: rest =>
    if declaration ∈ seen then .error (twice declaration)
    else do
      let route ← expand declaration
      let routes ← expandDistinct twice expand (declaration :: seen) rest
      return route :: routes

/-- Names the route in which a fault arose. -/
def within {α : Type} (kind : Kind) (fromChain toChain : ChainId) (result : Except Fault α) :
    Except Fault α :=
  result.mapError fun fault ↦ .inRoute kind fromChain toChain fault

/-- The bridge routes of an origin in the order of their declaration. -/
def bridgeRoutes (context : Context) (origin : Origin) : Except Fault (List Bridge) :=
  expandDistinct
    (fun pair ↦ .duplicate .bridge origin.chain pair.toChain pair.input pair.output)
    (fun pair ↦ within .bridge origin.chain pair.toChain (bridgeLeg context origin pair))
    [] (bridgePairs origin)

end HubRoutes.Route
