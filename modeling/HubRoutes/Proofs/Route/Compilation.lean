import HubRoutes.Proofs.Declaration.Validity
import HubRoutes.Proofs.Route.Expansion
import HubRoutes.Route.Table

/-!
# What compiles, and to which table

A hub is compilable if its two tokens are known, every declared pair of tokens is one asset that the
registry knows on both chains, every swapped token is known, and no origin repeats a declaration. The
conditions name no order and no accumulated state. A table matches a hub if its routes match the
declarations one by one, in their order, and all else is taken from the hub. Compiling answers a table
exactly for the compilable hubs of a document, and then the matching one.

A document files every hub under the hub's own chain, so the chain that is asked for and the chain
that the hub declares are one chain throughout.
-/

namespace HubRoutes.Route

open Declaration (Hub Origin)

/-! ## The routes of a hub -/

/-- What the routes of an origin of a hub are told by. The native token is the origin's own, or else the hub's. -/
def contextOf (source : Token.Source) (key : ChainId) (hub : Hub) (origin : Origin) : Context :=
  ⟨source, key, origin.nativeSymbol.getD hub.nativeSymbol⟩

/-- The routes of an origin are expanded against its native symbol, or else against that of its hub. -/
theorem contextOf_eq (source : Token.Source) (hub : Hub) (origin : Origin) :
    (⟨source, hub.chain, hub.nativeSymbolOf origin⟩ : Context) = contextOf source hub.chain hub origin := rfl

/-- The pairs that an origin bridges, directly or after a swap. -/
def legPairs (origin : Origin) : List BridgePair :=
  declaredPairs origin ++ (declaredSwaps origin).map SwapPair.pair

/-- The bridge routes of a table and the bridges of its swap routes. -/
def Table.legs (table : Table) : List Bridge := table.bridges ++ table.swaps.map Swap.bridge

/-! ## The matching table -/

/-- A table that matches a hub under the hub's key: its routes match the declarations in their order,
its two tokens are those of the registry, and all else is the hub's. -/
structure Table.Matches (source : Token.Source) (key : ChainId) (hub : Hub) (table : Table) : Prop where
  hub_eq : table.hub = key
  hubPool : table.hubPool = hub.pool
  configStore : table.configStore = hub.configStore
  acceleratingDistributor : table.acceleratingDistributor = hub.acceleratingDistributor
  merkleDistributor : table.merkleDistributor = hub.merkleDistributor
  claimAndStake : table.claimAndStake = hub.claimAndStake
  routers : table.routers = hub.routers
  pools : table.pools = hub.pools
  verifier : table.verifier = hub.verifier
  wrappedNative : source hub.wrappedNativeSymbol key = some table.wrappedNative
  wrappedNativeIdentity : (source (Token.Alias.canonical hub.wrappedNativeSymbol) key).isSome
  protocolToken : source hub.protocolSymbol key = some table.protocolToken
  protocolTokenIdentity : (source (Token.Alias.canonical hub.protocolSymbol) key).isSome
  distinctBridges : ∀ origin ∈ hub.origins, (declaredPairs origin).Nodup
  distinctSwaps : ∀ origin ∈ hub.origins, (declaredSwaps origin).Nodup
  bridges : List.Forall₂
    (fun entry bridge ↦ bridge.Matches (contextOf source key hub entry.1) entry.1 entry.2)
    (declared declaredPairs hub.origins) table.bridges
  swaps : List.Forall₂
    (fun entry swap ↦ swap.Matches (contextOf source key hub entry.1) entry.1 entry.2)
    (declared declaredSwaps hub.origins) table.swaps

/-- Every leg of a matching table comes from an origin of the hub and a pair that the origin bridges. -/
theorem Table.Matches.exists_of_mem_legs {source : Token.Source} {key : ChainId} {hub : Hub}
    {table : Table} (hmatches : table.Matches source key hub) {leg : Bridge} (hleg : leg ∈ table.legs) :
    ∃ origin ∈ hub.origins, ∃ pair ∈ legPairs origin,
      leg.Matches (contextOf source key hub origin) origin pair := by
  rcases List.mem_append.1 hleg with hbridge | hlegOfSwap
  · rcases exists_left_of_forall₂ hmatches.bridges hbridge with ⟨entry, hentry, hrelated⟩
    have ⟨horigin, hpair⟩ := mem_declared_iff.1 hentry
    exact ⟨entry.1, horigin, entry.2, List.mem_append_left _ hpair, hrelated⟩
  · rcases List.mem_map.1 hlegOfSwap with ⟨swap, hswap, rfl⟩
    rcases exists_left_of_forall₂ hmatches.swaps hswap with ⟨entry, hentry, hrelated⟩
    have ⟨horigin, hpair⟩ := mem_declared_iff.1 hentry
    exact ⟨entry.1, horigin, entry.2.pair, List.mem_append_right _ (List.mem_map_of_mem hpair),
      hrelated.bridge⟩

/-- Origins are expanded exactly to the routes that match their declarations one by one. -/
theorem originRoutes_eq_ok_iff (source : Token.Source) (hub : Hub) (origins : List Origin)
    (routes : List Bridge × List Swap) :
    originRoutes source hub origins = .ok routes ↔
      (∀ origin ∈ origins, (declaredPairs origin).Nodup) ∧
      (∀ origin ∈ origins, (declaredSwaps origin).Nodup) ∧
      List.Forall₂
        (fun entry bridge ↦ bridge.Matches (contextOf source hub.chain hub entry.1) entry.1 entry.2)
        (declared declaredPairs origins) routes.1 ∧
      List.Forall₂
        (fun entry swap ↦ swap.Matches (contextOf source hub.chain hub entry.1) entry.1 entry.2)
        (declared declaredSwaps origins) routes.2 := by
  induction origins generalizing routes with
  | nil =>
    rcases routes with ⟨bridges, swaps⟩
    cases bridges <;> cases swaps <;> simp [originRoutes, declared]
  | cons origin rest ih =>
    simp only [originRoutes, contextOf_eq, bind_eq_ok_iff, bridgeRoutes_eq_ok_iff, swapRoutes_eq_ok_iff, ih,
      declared_cons, forall₂_append_left_iff, List.forall₂_map_left_iff, List.forall_mem_cons]
    constructor
    · intro hexpanded
      rcases hexpanded with ⟨bridges, ⟨hpairs, hbridges⟩, swaps, ⟨hswapPairs, hswaps⟩, later,
        ⟨hlaterPairs, hlaterSwapPairs, hlaterBridges, hlaterSwaps⟩, hroutes⟩
      cases hroutes
      exact ⟨⟨hpairs, hlaterPairs⟩, ⟨hswapPairs, hlaterSwapPairs⟩,
        ⟨bridges, later.1, hbridges, hlaterBridges, rfl⟩,
        ⟨swaps, later.2, hswaps, hlaterSwaps, rfl⟩⟩
    · intro hmatching
      rcases hmatching with ⟨⟨hpairs, hlaterPairs⟩, ⟨hswapPairs, hlaterSwapPairs⟩,
        ⟨bridges, laterBridges, hbridges, hlaterBridges, hfirst⟩,
        ⟨swaps, laterSwaps, hswaps, hlaterSwaps, hsecond⟩⟩
      refine ⟨bridges, ⟨hpairs, hbridges⟩, swaps, ⟨hswapPairs, hswaps⟩, (laterBridges, laterSwaps),
        ⟨hlaterPairs, hlaterSwapPairs, hlaterBridges, hlaterSwaps⟩, ?_⟩
      rw [← hfirst, ← hsecond]
      rfl

/-- The table of a hub under its own key is the one that matches the hub. -/
theorem tableOf_eq_ok_iff (source : Token.Source) {key : ChainId} {hub : Hub} (hkey : hub.chain = key)
    (table : Table) : tableOf source key hub = .ok table ↔ table.Matches source key hub := by
  subst hkey
  simp only [tableOf, bind_eq_ok_iff, Token.resolve_eq_ok_iff, originRoutes_eq_ok_iff]
  constructor
  · intro hcompiled
    rcases hcompiled with ⟨wrapped, ⟨-, -, hwrapped, hwrappedIdentity⟩, protocol,
      ⟨-, -, hprotocol, hprotocolIdentity⟩, routes, ⟨hpairs, hswapPairs, hbridges, hswaps⟩, htable⟩
    cases htable
    exact {
      hub_eq := rfl
      hubPool := rfl
      configStore := rfl
      acceleratingDistributor := rfl
      merkleDistributor := rfl
      claimAndStake := rfl
      routers := rfl
      pools := rfl
      verifier := rfl
      wrappedNative := hwrapped
      wrappedNativeIdentity := Option.isSome_of_eq_some hwrappedIdentity
      protocolToken := hprotocol
      protocolTokenIdentity := Option.isSome_of_eq_some hprotocolIdentity
      distinctBridges := hpairs
      distinctSwaps := hswapPairs
      bridges := hbridges
      swaps := hswaps }
  · intro hmatches
    rcases Option.isSome_iff_exists.1 hmatches.wrappedNativeIdentity with ⟨wrappedIdentity, hwrapped⟩
    rcases Option.isSome_iff_exists.1 hmatches.protocolTokenIdentity with ⟨protocolIdentity, hprotocol⟩
    refine ⟨⟨hub.chain, table.wrappedNative, hub.wrappedNativeSymbol, wrappedIdentity⟩,
      ⟨rfl, rfl, hmatches.wrappedNative, hwrapped⟩,
      ⟨hub.chain, table.protocolToken, hub.protocolSymbol, protocolIdentity⟩,
      ⟨rfl, rfl, hmatches.protocolToken, hprotocol⟩, (table.bridges, table.swaps),
      ⟨hmatches.distinctBridges, hmatches.distinctSwaps, hmatches.bridges, hmatches.swaps⟩, ?_⟩
    rw [← hmatches.hub_eq, ← hmatches.hubPool, ← hmatches.configStore,
      ← hmatches.acceleratingDistributor, ← hmatches.merkleDistributor, ← hmatches.claimAndStake,
      ← hmatches.routers, ← hmatches.pools, ← hmatches.verifier]
    rfl

/-- Compiling answers a table exactly if the document has a hub under the key and the table matches
that hub. -/
theorem compile_eq_ok_iff (document : Document) (source : Token.Source) (key : ChainId) (table : Table) :
    compile document source key = .ok table ↔
      ∃ hub, document.hubs.find? key = some hub ∧ table.Matches source key hub := by
  simp only [compile, bind_eq_ok_iff, Document.hub_eq_ok_iff]
  apply exists_congr
  intro hub
  apply and_congr_right
  intro hfound
  exact tableOf_eq_ok_iff source (document.valid_of_find? hfound).chain_eq table

/-! ## Compilable hubs -/

/-- A token is known on a chain, and so is its identity on the hub chain. -/
def Known (source : Token.Source) (key : ChainId) (symbol : String) (chain : ChainId) : Prop :=
  (source symbol chain).isSome ∧ (source (Token.Alias.canonical symbol) key).isSome

/-- Two tokens are known on their chains and have one identity on the hub chain. -/
structure Bridgeable (source : Token.Source) (key fromChain toChain : ChainId) (input output : String) :
    Prop where
  inputKnown : (source input fromChain).isSome
  outputKnown : (source output toChain).isSome
  identity : ∃ address, source (Token.Alias.canonical input) key = some address ∧
    source (Token.Alias.canonical output) key = some address

/-- The tokens of the hub and of all its declarations are known, declared pairs are one asset, and no
origin repeats a declaration. -/
structure Compilable (source : Token.Source) (key : ChainId) (hub : Hub) : Prop where
  wrappedNative : Known source key hub.wrappedNativeSymbol key
  protocolToken : Known source key hub.protocolSymbol key
  tokens : ∀ origin ∈ hub.origins, ∀ destination ∈ origin.destinations,
    ∀ token ∈ destination.tokens,
      Bridgeable source key origin.chain destination.chain token.symbols.1 token.symbols.2
  swaps : ∀ origin ∈ hub.origins, ∀ destination ∈ origin.destinations,
    ∀ swap ∈ destination.swaps, Known source key swap.swapInput origin.chain ∧
      Bridgeable source key origin.chain destination.chain swap.bridgeInput swap.bridgeOutput
  distinctTokens : ∀ origin ∈ hub.origins, (declaredPairs origin).Nodup
  distinctSwaps : ∀ origin ∈ hub.origins, (declaredSwaps origin).Nodup

/-- A declared pair has a route exactly if its tokens may be bridged. -/
theorem exists_bridge_matches_iff (context : Context) (origin : Origin) (pair : BridgePair) :
    (∃ bridge : Bridge, bridge.Matches context origin pair) ↔
      Bridgeable context.source context.hub origin.chain pair.toChain pair.input pair.output := by
  constructor
  · intro hsome
    rcases hsome with ⟨bridge, hmatches⟩
    exact ⟨Option.isSome_of_eq_some hmatches.fromAddress, Option.isSome_of_eq_some hmatches.toAddress,
      bridge.hubAddress, hmatches.inputIdentity, hmatches.outputIdentity⟩
  · intro hbridgeable
    rcases hbridgeable with ⟨hinput, houtput, address, hinputIdentity, houtputIdentity⟩
    rcases Option.isSome_iff_exists.1 hinput with ⟨fromAddress, hfrom⟩
    rcases Option.isSome_iff_exists.1 houtput with ⟨toAddress, hto⟩
    exact ⟨⟨origin.chain, pair.toChain, fromAddress, toAddress, origin.spoke, pair.input, pair.output,
      pair.input == context.nativeSymbol, address⟩, rfl, rfl, rfl, rfl, rfl, beq_iff_eq, hfrom, hto,
      hinputIdentity, houtputIdentity⟩

/-- A declared swap has a route exactly if its swapped token is known and its pair may be bridged. -/
theorem exists_swap_matches_iff (context : Context) (origin : Origin) (pair : SwapPair) :
    (∃ swap : Swap, swap.Matches context origin pair) ↔
      Known context.source context.hub pair.swapInput origin.chain ∧
        Bridgeable context.source context.hub origin.chain pair.pair.toChain pair.pair.input
          pair.pair.output := by
  rw [← exists_bridge_matches_iff]
  constructor
  · intro hsome
    rcases hsome with ⟨swap, hmatches⟩
    exact ⟨⟨Option.isSome_of_eq_some hmatches.swapAddress,
      Option.isSome_of_eq_some hmatches.swapIdentity⟩, swap.bridge, hmatches.bridge⟩
  · intro hknown
    rcases hknown with ⟨⟨hswapped, hidentity⟩, bridge, hbridge⟩
    rcases Option.isSome_iff_exists.1 hswapped with ⟨swapAddress, haddress⟩
    rcases Option.isSome_iff_exists.1 hidentity with ⟨swapHubAddress, hhubAddress⟩
    exact ⟨⟨bridge, swapAddress, pair.swapInput, swapHubAddress⟩, hbridge, rfl, haddress, hhubAddress⟩

/-- Routes for all declarations exist exactly if there is a route for each one. -/
theorem exists_routes_iff {δ ρ : Type} {declarations : Origin → List δ} {origins : List Origin}
    {R : Origin → δ → ρ → Prop} :
    (∃ routes, List.Forall₂ (fun entry route ↦ R entry.1 entry.2 route)
      (declared declarations origins) routes) ↔
      ∀ origin ∈ origins, ∀ declaration ∈ declarations origin, ∃ route, R origin declaration route := by
  rw [exists_forall₂_iff]
  constructor
  · intro hall origin horigin declaration hdeclaration
    exact hall (origin, declaration) (mem_declared_iff.2 ⟨horigin, hdeclaration⟩)
  · intro hall entry hentry
    have ⟨horigin, hdeclaration⟩ := mem_declared_iff.1 hentry
    exact hall entry.1 horigin entry.2 hdeclaration

/-- A hub has a matching table exactly if it is compilable. -/
theorem exists_table_matches_iff (source : Token.Source) (key : ChainId) (hub : Hub) :
    (∃ table : Table, table.Matches source key hub) ↔ Compilable source key hub := by
  have hbridges : (∃ bridges, List.Forall₂
      (fun entry bridge ↦ Bridge.Matches (contextOf source key hub entry.1) entry.1 entry.2 bridge)
      (declared declaredPairs hub.origins) bridges) ↔
      ∀ origin ∈ hub.origins, ∀ destination ∈ origin.destinations, ∀ token ∈ destination.tokens,
        Bridgeable source key origin.chain destination.chain token.symbols.1 token.symbols.2 := by
    rw [exists_routes_iff (R := fun origin ↦ Bridge.Matches (contextOf source key hub origin) origin)]
    simp only [exists_bridge_matches_iff, forall_mem_declaredPairs_iff, contextOf]
  have hswaps : (∃ swaps, List.Forall₂
      (fun entry swap ↦ Swap.Matches (contextOf source key hub entry.1) entry.1 entry.2 swap)
      (declared declaredSwaps hub.origins) swaps) ↔
      ∀ origin ∈ hub.origins, ∀ destination ∈ origin.destinations, ∀ swap ∈ destination.swaps,
        Known source key swap.swapInput origin.chain ∧
          Bridgeable source key origin.chain destination.chain swap.bridgeInput swap.bridgeOutput := by
    rw [exists_routes_iff (R := fun origin ↦ Swap.Matches (contextOf source key hub origin) origin)]
    simp only [exists_swap_matches_iff, forall_mem_declaredSwaps_iff, contextOf]
  constructor
  · intro hsome
    rcases hsome with ⟨table, hmatches⟩
    exact {
      wrappedNative :=
        ⟨Option.isSome_of_eq_some hmatches.wrappedNative, hmatches.wrappedNativeIdentity⟩
      protocolToken :=
        ⟨Option.isSome_of_eq_some hmatches.protocolToken, hmatches.protocolTokenIdentity⟩
      tokens := hbridges.1 ⟨table.bridges, hmatches.bridges⟩
      swaps := hswaps.1 ⟨table.swaps, hmatches.swaps⟩
      distinctTokens := hmatches.distinctBridges
      distinctSwaps := hmatches.distinctSwaps }
  · intro hcompilable
    rcases Option.isSome_iff_exists.1 hcompilable.wrappedNative.1 with ⟨wrappedNative, hwrapped⟩
    rcases Option.isSome_iff_exists.1 hcompilable.protocolToken.1 with ⟨protocolToken, hprotocol⟩
    rcases hbridges.2 hcompilable.tokens with ⟨bridges, hbridgesMatch⟩
    rcases hswaps.2 hcompilable.swaps with ⟨swaps, hswapsMatch⟩
    exact ⟨⟨key, hub.pool, wrappedNative, hub.configStore, protocolToken, hub.acceleratingDistributor,
      hub.merkleDistributor, hub.claimAndStake, hub.routers, bridges, swaps, hub.pools, hub.verifier⟩,
      rfl, rfl, rfl, rfl, rfl, rfl, rfl, rfl, rfl, hwrapped, hcompilable.wrappedNative.2, hprotocol,
      hcompilable.protocolToken.2, hcompilable.distinctTokens, hcompilable.distinctSwaps, hbridgesMatch,
      hswapsMatch⟩

/-- Compilation succeeds exactly on the compilable hubs of a document, and its answers are exactly the
matching tables: one route for each declaration, in the order of the declarations. -/
theorem compile_succeeds_iff_compilable (document : Document) (source : Token.Source) (key : ChainId) :
    ((∃ table, compile document source key = .ok table) ↔
      ∃ hub, document.hubs.find? key = some hub ∧ Compilable source key hub) ∧
    ∀ table, compile document source key = .ok table ↔
      ∃ hub, document.hubs.find? key = some hub ∧ Compilable source key hub ∧
        table.Matches source key hub := by
  simp only [compile_eq_ok_iff, ← exists_table_matches_iff]
  constructor
  · rw [exists_comm]
    simp only [exists_and_left]
  · intro table
    apply exists_congr
    intro hub
    apply and_congr_right
    intro _
    exact ⟨fun hmatches ↦ ⟨⟨table, hmatches⟩, hmatches⟩, fun hboth ↦ hboth.2⟩

/-! ## A document that compiles -/

/-- Two assets on two chains, one of them bridged under two symbols, and the protocol token. -/
def twoChainRegistry : Token.Registry :=
  [("USDC", 1, 0x11), ("USDC", 10, 0x12), ("USDC.e", 10, 0x13), ("WETH", 1, 0x21), ("WETH", 10, 0x22),
    ("ACX", 1, 0x31)].foldl
    (fun registry (symbol, chain, byte) ↦ registry.insert symbol chain (.replicate byte)) .empty

/-- Routes in both directions between the hub chain and another chain, one of them after a swap. -/
def twoChainHub : Hub where
  chain := 1
  pool := .replicate 0xa1
  configStore := .replicate 0xa2
  acceleratingDistributor := .replicate 0xa3
  merkleDistributor := .replicate 0xa4
  claimAndStake := .replicate 0xa5
  wrappedNativeSymbol := "WETH"
  protocolSymbol := "ACX"
  nativeSymbol := "ETH"
  routers := ∅
  pools := []
  verifier := none
  origins := [
    ⟨10, .replicate 0xc1, some "WETH",
      [⟨1, [.same "WETH", .pair "USDC.e" "USDC"], [⟨"WETH", "USDC", "USDC"⟩]⟩]⟩,
    ⟨1, .replicate 0xc2, none, [⟨10, [.pair "USDC" "USDC.e"], [⟨"WETH", "USDC", "USDC.e"⟩]⟩]⟩]

def twoChainDocument : Document := ⟨OrderedMap.ofList [(1, twoChainHub)], by decide⟩

example : (compile twoChainDocument twoChainRegistry.address? 1).isOk = true := by rfl

end HubRoutes.Route
