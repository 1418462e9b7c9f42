import HubRoutes.Declaration
import HubRoutes.Schema
import HubRoutes.Token.Registry

/-!
# The documents of declarations and registries

The schemas of everything that is declared. Records of declarations are closed: a field that the
schema does not name is a fault.
-/

namespace HubRoutes

open Schema.Fields (done required defaulted omittable)

namespace Declaration

def poolSchema : Schema Pool :=
  .record "PoolSpec" false
    (required "tokenSymbol" .text <| required "isNative" .flag done)
    (fun (tokenSymbol, isNative, _) ↦ ⟨tokenSymbol, isNative⟩)
    (fun pool ↦ (pool.tokenSymbol, pool.isNative, ()))

def verifierSchema : Schema Verifier :=
  .record "SpokePoolVerifier" false
    (required "address" .address <| required "enabledChains" (.list .chain) done)
    (fun (address, enabledChains, _) ↦ ⟨address, enabledChains⟩)
    (fun verifier ↦ (verifier.address, verifier.enabledChains, ()))

/-- The field of a pair of symbols that a key stands for: the input or not. A key may also be the
place of the field. -/
def pairField? : Schema.Loose → Option Bool
  | .text name =>
    if name = "inputTokenSymbol" then some true
    else if name = "outputTokenSymbol" then some false
    else none
  | .natural place => if place = 0 then some true else if place = 1 then some false else none
  | _ => none

/-- The pair of symbols of a map, given those that were found before. -/
def pairOfEntries? : Option String → Option String → List (Schema.Loose × Schema.Loose) →
    Option Token
  | some input, some output, [] => some (.pair input output)
  | _, _, [] => none
  | input, output, (key, .text symbol) :: rest =>
    match pairField? key, input, output with
    | some true, none, output => pairOfEntries? (some symbol) output rest
    | some false, input, none => pairOfEntries? input (some symbol) rest
    | _, _, _ => none
  | _, _, _ :: _ => none

/-- The token that is declared by a value of some shape: one symbol, or a pair of symbols in a list
or under the names of its fields. -/
def tokenOfLoose? : Schema.Loose → Option Token
  | .text symbol => some (.same symbol)
  | .list [.text input, .text output] => some (.pair input output)
  | .map entries => pairOfEntries? none none entries
  | _ => none

def tokenDocument : Token → Json
  | .same symbol => .text symbol
  | .pair input output =>
    .object [("inputTokenSymbol", .text input), ("outputTokenSymbol", .text output)]

def tokenSchema : Schema Token := .choice "TokenDecl" tokenOfLoose? tokenDocument

def swapSchema : Schema Swap :=
  .record "SwapTokenDecl" false
    (required "swapInputTokenSymbol" .text <| required "acrossInputTokenSymbol" .text <|
      required "acrossOutputTokenSymbol" .text done)
    (fun (swapInput, bridgeInput, bridgeOutput, _) ↦ ⟨swapInput, bridgeInput, bridgeOutput⟩)
    (fun swap ↦ (swap.swapInput, swap.bridgeInput, swap.bridgeOutput, ()))

def destinationSchema : Schema Destination :=
  .record "DestinationRoutes" false
    (required "chainId" .chain <| defaulted "tokens" [] (.list tokenSchema) <|
      defaulted "swapTokens" [] (.list swapSchema) done)
    (fun (chain, tokens, swaps, _) ↦ ⟨chain, tokens, swaps⟩)
    (fun destination ↦ (destination.chain, destination.tokens, destination.swaps, ()))

def originSchema : Schema Origin :=
  .record "OriginRoutes" false
    (required "fromChain" .chain <| required "fromSpokeAddress" .address <|
      omittable "nativeTokenSymbol" .text <|
      required "toChains" (.list destinationSchema) done)
    (fun (chain, spoke, nativeSymbol, destinations, _) ↦ ⟨chain, spoke, nativeSymbol, destinations⟩)
    (fun origin ↦ (origin.chain, origin.spoke, origin.nativeSymbol, origin.destinations, ()))

def routersSchema : Schema Routers := .byText (.byChain .address)

def hubSchema : Schema Hub :=
  .record "HubRouteSpec" false
    (required "hubPoolChain" .chain <| required "hubPoolAddress" .address <|
      required "acrossConfigStoreAddress" .address <|
      required "acceleratingDistributorAddress" .address <|
      required "merkleDistributorAddress" .address <| required "claimAndStakeAddress" .address <|
      defaulted "wrappedNativeTokenSymbol" "WETH" .text <|
      defaulted "protocolTokenSymbol" "ACX" .text <|
      defaulted "nativeTokenSymbol" "ETH" .text <|
      defaulted "swapAndBridgeAddresses" ∅ routersSchema <|
      defaulted "pools" [] (.list poolSchema) <|
      omittable "spokePoolVerifier" verifierSchema <|
      required "routes" (.list originSchema) done)
    (fun (chain, pool, configStore, acceleratingDistributor, merkleDistributor, claimAndStake,
        wrappedNativeSymbol, protocolSymbol, nativeSymbol, routers, pools, verifier, origins, _) ↦
      ⟨chain, pool, configStore, acceleratingDistributor, merkleDistributor, claimAndStake,
        wrappedNativeSymbol, protocolSymbol, nativeSymbol, routers, pools, verifier, origins⟩)
    (fun hub ↦ (hub.chain, hub.pool, hub.configStore, hub.acceleratingDistributor,
      hub.merkleDistributor, hub.claimAndStake, hub.wrappedNativeSymbol, hub.protocolSymbol,
      hub.nativeSymbol, hub.routers, hub.pools, hub.verifier, hub.origins, ()))

def hubListSchema : Schema (List Hub) := .list hubSchema

/-- The documents of hubs that are filed by chain. -/
def hubMapSchema : Schema (OrderedMap ChainId Hub) := .byChain hubSchema

end Declaration

namespace Token

def deploymentsSchema : Schema Deployments :=
  .record "TokenEntry" false (defaulted "addresses" ∅ (.byChain .address) done)
    (fun (addresses, _) ↦ addresses) (fun deployments ↦ (deployments, ()))

/-- The documents of a registry: a map from symbols to deployments. -/
def registrySchema : Schema (OrderedMap String Deployments) := .byText deploymentsSchema

end Token

end HubRoutes
