import HubRoutes.Declaration.Format
import HubRoutes.Json.Format
import HubRoutes.Json.Printer
import HubRoutes.Route.Table

/-!
# The documents of route tables

A route table is written as one Json document. Its reader accepts fields that it does not know in
the table and in its routes, so that tables may grow; the records taken over from the declarations
stay closed.
-/

namespace HubRoutes.Route

open Schema.Fields (done required omittable)

abbrev BridgeParts :=
  ChainId × ChainId × Address × Address × Address × String × String × Bool × Address × Unit

def bridgeFields : Schema.Fields BridgeParts :=
  required "fromChain" .chain <| required "toChain" .chain <|
  required "fromTokenAddress" .address <| required "toTokenAddress" .address <|
  required "fromSpokeAddress" .address <| required "fromTokenSymbol" .text <|
  required "toTokenSymbol" .text <| required "isNative" .flag <|
  required "l1TokenAddress" .address done

def Bridge.ofParts : BridgeParts → Bridge :=
  fun (fromChain, toChain, fromAddress, toAddress, spoke, fromSymbol, toSymbol, isNative,
      hubAddress, _) ↦
    ⟨fromChain, toChain, fromAddress, toAddress, spoke, fromSymbol, toSymbol, isNative, hubAddress⟩

def Bridge.parts (route : Bridge) : BridgeParts :=
  (route.fromChain, route.toChain, route.fromAddress, route.toAddress, route.spoke,
    route.fromSymbol, route.toSymbol, route.isNative, route.hubAddress, ())

def bridgeSchema : Schema Bridge :=
  .record "BridgeRoute" true bridgeFields Bridge.ofParts Bridge.parts

/-- The documents of a swap route: the fields of its bridge route and three of its own. -/
def swapSchema : Schema Swap :=
  .extension "SwapRoute" bridgeFields
    (required "swapTokenAddress" .address <| required "swapTokenSymbol" .text <|
      required "swapTokenL1TokenAddress" .address done)
    (fun bridge (swapAddress, swapSymbol, swapHubAddress, _) ↦
      ⟨Bridge.ofParts bridge, swapAddress, swapSymbol, swapHubAddress⟩)
    (fun route ↦
      (route.bridge.parts, route.swapAddress, route.swapSymbol, route.swapHubAddress, ()))

def tableSchema : Schema Table :=
  .record "RouteTable" true
    (required "hubPoolChain" .chain <| required "hubPoolAddress" .address <|
      required "hubPoolWethAddress" .address <| required "acrossConfigStoreAddress" .address <|
      required "acrossTokenAddress" .address <|
      required "acceleratingDistributorAddress" .address <|
      required "merkleDistributorAddress" .address <| required "claimAndStakeAddress" .address <|
      required "swapAndBridgeAddresses" Declaration.routersSchema <|
      required "routes" (.list bridgeSchema) <| required "swapRoutes" (.list swapSchema) <|
      required "pools" (.list Declaration.poolSchema) <|
      omittable "spokePoolVerifier" Declaration.verifierSchema done)
    (fun (hub, hubPool, wrappedNative, configStore, protocolToken, acceleratingDistributor,
        merkleDistributor, claimAndStake, routers, bridges, swaps, pools, verifier, _) ↦
      ⟨hub, hubPool, wrappedNative, configStore, protocolToken, acceleratingDistributor,
        merkleDistributor, claimAndStake, routers, bridges, swaps, pools, verifier⟩)
    (fun table ↦ (table.hub, table.hubPool, table.wrappedNative, table.configStore,
      table.protocolToken, table.acceleratingDistributor, table.merkleDistributor,
      table.claimAndStake, table.routers, table.bridges, table.swaps, table.pools, table.verifier,
      ()))

/-- The name of the file of a table: its hub chain and the address of its hub pool. -/
def Table.fileName (table : Table) : String :=
  "routes_" ++ table.hub.text ++ "_" ++ table.hubPool.text ++ ".json"

def Table.render (table : Table) : String := (tableSchema.write table).render ++ "\n"

end HubRoutes.Route
