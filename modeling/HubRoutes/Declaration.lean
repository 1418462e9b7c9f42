import HubRoutes.Address
import HubRoutes.Chain
import HubRoutes.OrderedMap

/-!
# Declarations

What a hub chain's routes are declared by: the contracts of the hub, and for each origin chain the
destinations that its tokens may reach, directly or after a swap.
-/

namespace HubRoutes.Declaration

/-- A token pool that is listed apart from the routes. -/
structure Pool where
  tokenSymbol : String
  isNative : Bool
deriving DecidableEq

/-- The contract that verifies deposits, and the chains on which it does so. -/
structure Verifier where
  address : Address
  enabledChains : List ChainId
deriving DecidableEq

/-- A token that may be bridged: under one symbol on both chains, or under a pair of symbols. -/
inductive Token
  | same (symbol : String)
  | pair (input output : String)
deriving DecidableEq

def Token.input : Token → String
  | .same symbol => symbol
  | .pair input _ => input

def Token.output : Token → String
  | .same symbol => symbol
  | .pair _ output => output

/-- A token that is swapped on the origin chain into the token that is then bridged. -/
structure Swap where
  swapInput : String
  bridgeInput : String
  bridgeOutput : String
deriving DecidableEq

structure Destination where
  chain : ChainId
  tokens : List Token
  swaps : List Swap
deriving DecidableEq

/-- An origin chain, its deposit contract and its destinations. An origin may have a native symbol
of its own. -/
structure Origin where
  chain : ChainId
  spoke : Address
  nativeSymbol : Option String
  destinations : List Destination
deriving DecidableEq

/-- For each swap provider, its router on each chain. -/
abbrev Routers := OrderedMap String (OrderedMap ChainId Address)

/-- All that is declared for one hub chain. -/
structure Hub where
  chain : ChainId
  pool : Address
  configStore : Address
  acceleratingDistributor : Address
  merkleDistributor : Address
  claimAndStake : Address
  wrappedNativeSymbol : String
  protocolSymbol : String
  nativeSymbol : String
  routers : Routers
  pools : List Pool
  verifier : Option Verifier
  origins : List Origin
deriving DecidableEq

/-- The native symbol of an origin: its own, or else that of the hub. -/
def Hub.nativeSymbolOf (hub : Hub) (origin : Origin) : String :=
  origin.nativeSymbol.getD hub.nativeSymbol

end HubRoutes.Declaration
