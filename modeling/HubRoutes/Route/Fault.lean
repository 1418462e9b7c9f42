import HubRoutes.Chain

/-!
# Why no route table results

The causes that stop the compilation of a route table. A fault that arises while one declared pair
of chains is expanded is wrapped with that pair; wrappers nest, and the root is what they surround.
-/

namespace HubRoutes.Route

/-- The two ways of reaching a destination: directly, or after a swap on the origin chain. -/
inductive Kind
  | bridge
  | swap
deriving DecidableEq

inductive Fault
  | unknownToken (symbol : String) (chain : ChainId)
  | unknownHubToken (symbol : String) (hub : ChainId)
  | differentAssets (originChain destinationChain : ChainId) (inputSymbol outputSymbol : String)
  | unsupportedHub (hub : ChainId)
  | duplicate (kind : Kind) (fromChain toChain : ChainId) (inputSymbol outputSymbol : String)
  | inRoute (kind : Kind) (fromChain toChain : ChainId) (cause : Fault)
deriving DecidableEq

def Kind.text : Kind → String
  | .bridge => "bridge"
  | .swap => "swap"

namespace Fault

def root : Fault → Fault
  | .inRoute _ _ _ cause => cause.root
  | fault => fault

def isWrapped : Fault → Bool
  | .inRoute .. => true
  | _ => false

/-- The words that a wrapper puts in front of what it surrounds. -/
def routeContext (kind : Kind) (fromChain toChain : ChainId) : String :=
  "failed to transform " ++ kind.text ++ " route " ++ fromChain.text ++ "->" ++ toChain.text ++ ": "

def message : Fault → String
  | .unknownToken symbol chain =>
    "could not find address for " ++ symbol ++ " on chain " ++ chain.text
  | .unknownHubToken symbol hub =>
    "could not find L1 token address for " ++ symbol ++ " on hub chain " ++ hub.text
  | .differentAssets originChain destinationChain inputSymbol outputSymbol =>
    "mismatching L1 addresses: " ++ inputSymbol ++ " on chain " ++ originChain.text ++ " and "
      ++ outputSymbol ++ " on chain " ++ destinationChain.text ++ " are different assets"
  | .unsupportedHub hub => "hub chain " ++ hub.text ++ " not supported"
  | .duplicate kind fromChain toChain inputSymbol outputSymbol =>
    "duplicate " ++ kind.text ++ " route " ++ fromChain.text ++ "->" ++ toChain.text ++ ": "
      ++ inputSymbol ++ " -> " ++ outputSymbol
  | .inRoute kind fromChain toChain cause => routeContext kind fromChain toChain ++ cause.message

end Fault

end HubRoutes.Route
