import HubRoutes.Declaration

/-!
# Valid declarations

What has to hold of declarations before any token is looked up: every entry is filed under its own
hub chain, no symbol is empty, and within a hub no origin, within an origin no destination is
declared twice or is the origin itself. A search in the order of the declarations finds the first
fault.
-/

namespace HubRoutes.Declaration

inductive OriginFault
  | emptyNativeSymbol
  | destinationIsOrigin (destination : ChainId)
  | destinationTwice (destination : ChainId)
  | emptyTokenSymbol (destination : ChainId)
  | emptySwapSymbol (destination : ChainId)
deriving DecidableEq

inductive Fault
  | hubTwice (hub : ChainId)
  | hubMismatch (key declared : ChainId)
  | emptySymbol (key : ChainId)
  | originTwice (key origin : ChainId)
  | inOrigin (key origin : ChainId) (fault : OriginFault)
deriving DecidableEq

def OriginFault.message : OriginFault → String
  | .emptyNativeSymbol => "empty nativeTokenSymbol"
  | .destinationIsOrigin destination =>
    "destination chain " ++ destination.text ++ " equals its origin"
  | .destinationTwice destination => "destination chain " ++ destination.text ++ " declared twice"
  | .emptyTokenSymbol destination =>
    "destination chain " ++ destination.text ++ ": empty token symbol"
  | .emptySwapSymbol destination =>
    "destination chain " ++ destination.text ++ ": empty swap token symbol"

def Fault.message : Fault → String
  | .hubTwice hub => "hub chain " ++ hub.text ++ " declared twice"
  | .hubMismatch key declared =>
    "hub entry " ++ key.text ++ " declares hubPoolChain " ++ declared.text
  | .emptySymbol key => "hub " ++ key.text ++ ": empty token symbol"
  | .originTwice key origin =>
    "hub " ++ key.text ++ ": origin chain " ++ origin.text ++ " declared twice"
  | .inOrigin key origin fault =>
    "hub " ++ key.text ++ ": origin chain " ++ origin.text ++ ": " ++ fault.message

def Token.lacksSymbol (token : Token) : Bool := token.input == "" || token.output == ""

def Swap.lacksSymbol (swap : Swap) : Bool :=
  swap.swapInput == "" || swap.bridgeInput == "" || swap.bridgeOutput == ""

/-- The first fault of a destination of an origin, given the destinations declared before it. -/
def Destination.fault? (origin : ChainId) (earlier : List ChainId) (destination : Destination) :
    Option OriginFault :=
  if destination.chain = origin then some (.destinationIsOrigin destination.chain)
  else if destination.chain ∈ earlier then some (.destinationTwice destination.chain)
  else if destination.tokens.any Token.lacksSymbol then some (.emptyTokenSymbol destination.chain)
  else if destination.swaps.any Swap.lacksSymbol then some (.emptySwapSymbol destination.chain)
  else none

/-- The first fault among the destinations of an origin. -/
def destinationsFault? (origin : ChainId) : List ChainId → List Destination → Option OriginFault
  | _, [] => none
  | earlier, destination :: rest =>
    match destination.fault? origin earlier with
    | some fault => some fault
    | none => destinationsFault? origin (destination.chain :: earlier) rest

def Origin.fault? (origin : Origin) : Option OriginFault :=
  if origin.nativeSymbol = some "" then some .emptyNativeSymbol
  else destinationsFault? origin.chain [] origin.destinations

/-- The first fault among the origins of the hub that is filed under a key. -/
def originsFault? (key : ChainId) : List ChainId → List Origin → Option Fault
  | _, [] => none
  | earlier, origin :: rest =>
    if origin.chain ∈ earlier then some (.originTwice key origin.chain)
    else match origin.fault? with
      | some fault => some (.inOrigin key origin.chain fault)
      | none => originsFault? key (origin.chain :: earlier) rest

def Hub.lacksSymbol (hub : Hub) : Bool :=
  hub.wrappedNativeSymbol == "" || hub.protocolSymbol == "" || hub.nativeSymbol == ""

def Hub.fault? (key : ChainId) (hub : Hub) : Option Fault :=
  if hub.chain ≠ key then some (.hubMismatch key hub.chain)
  else if hub.lacksSymbol then some (.emptySymbol key)
  else originsFault? key [] hub.origins

/-- The first fault among hubs by ascending key. -/
def hubsFault? (hubs : OrderedMap ChainId Hub) : Option Fault :=
  hubs.entries.findSome? fun entry ↦ entry.2.fault? entry.1

end HubRoutes.Declaration
