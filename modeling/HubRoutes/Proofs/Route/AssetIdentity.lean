import HubRoutes.Proofs.Route.Compilation

/-!
# Asset identity in compiled tables

Every address in a compiled table is the registry's answer for the symbol beside it, and both tokens of
a route have the route's hub address as their identity on the hub chain. A route therefore never joins
two assets, whichever aliases it is declared under.
-/

namespace HubRoutes.Route

open Declaration (Origin)

/-- The addresses of a bridge route are the registry's answers for its own symbols and chains. -/
structure Bridge.Identified (source : Token.Source) (key : ChainId) (bridge : Bridge) : Prop where
  fromAddress : source bridge.fromSymbol bridge.fromChain = some bridge.fromAddress
  toAddress : source bridge.toSymbol bridge.toChain = some bridge.toAddress
  fromIdentity : source (Token.Alias.canonical bridge.fromSymbol) key = some bridge.hubAddress
  toIdentity : source (Token.Alias.canonical bridge.toSymbol) key = some bridge.hubAddress

theorem Bridge.Matches.identified {context : Context} {origin : Origin} {pair : BridgePair}
    {bridge : Bridge} (hmatches : bridge.Matches context origin pair) :
    bridge.Identified context.source context.hub := by
  constructor
  · rw [hmatches.fromSymbol, hmatches.fromChain]
    exact hmatches.fromAddress
  · rw [hmatches.toSymbol, hmatches.toChain]
    exact hmatches.toAddress
  · rw [hmatches.fromSymbol]
    exact hmatches.inputIdentity
  · rw [hmatches.toSymbol]
    exact hmatches.outputIdentity

/-- Every leg of a compiled table has the answers of the registry as its addresses. -/
theorem identified_of_mem_legs {document : Document} {source : Token.Source} {key : ChainId}
    {table : Table} (hcompiled : compile document source key = .ok table) {leg : Bridge}
    (hleg : leg ∈ table.legs) : leg.Identified source key := by
  rcases (compile_eq_ok_iff document source key table).1 hcompiled with ⟨hub, -, hmatches⟩
  rcases hmatches.exists_of_mem_legs hleg with ⟨origin, -, pair, -, hrelated⟩
  exact hrelated.identified

/-- A swapped token is looked up on the origin chain of its route, never on the destination. -/
theorem swapAddress_of_mem_swaps {document : Document} {source : Token.Source} {key : ChainId}
    {table : Table} (hcompiled : compile document source key = .ok table) {swap : Swap}
    (hswap : swap ∈ table.swaps) :
    source swap.swapSymbol swap.bridge.fromChain = some swap.swapAddress ∧
      source (Token.Alias.canonical swap.swapSymbol) key = some swap.swapHubAddress := by
  rcases (compile_eq_ok_iff document source key table).1 hcompiled with ⟨hub, -, hmatches⟩
  rcases exists_left_of_forall₂ hmatches.swaps hswap with ⟨entry, -, hrelated⟩
  rw [hrelated.swapSymbol, hrelated.bridge.fromChain]
  exact ⟨hrelated.swapAddress, hrelated.swapIdentity⟩

/-- In a compiled table the addresses of every route and of every bridge leg are the registry's, both
ends have the route's hub address as their identity, and a swapped token is that of the origin chain. -/
theorem compile_asset_identity (document : Document) (source : Token.Source) (key : ChainId)
    (table : Table) (hcompiled : compile document source key = .ok table) :
    (∀ leg ∈ table.legs,
      source leg.fromSymbol leg.fromChain = some leg.fromAddress ∧
      source leg.toSymbol leg.toChain = some leg.toAddress ∧
      source (Token.Alias.canonical leg.fromSymbol) key = some leg.hubAddress ∧
      source (Token.Alias.canonical leg.toSymbol) key = some leg.hubAddress) ∧
    ∀ swap ∈ table.swaps,
      source swap.swapSymbol swap.bridge.fromChain = some swap.swapAddress ∧
      source (Token.Alias.canonical swap.swapSymbol) key = some swap.swapHubAddress := by
  constructor
  · intro leg hleg
    have hidentified := identified_of_mem_legs hcompiled hleg
    exact ⟨hidentified.fromAddress, hidentified.toAddress, hidentified.fromIdentity,
      hidentified.toIdentity⟩
  · intro swap hswap
    exact swapAddress_of_mem_swaps hcompiled hswap

/-- The five legs of a table, two of which have a token under another symbol. -/
theorem compile_asset_identity_twoChain :
    ∃ table, compile twoChainDocument twoChainRegistry.address? 1 = .ok table ∧
      table.legs.length = 5 ∧
      ∀ leg ∈ table.legs,
        twoChainRegistry.address? leg.toSymbol leg.toChain = some leg.toAddress := by
  refine ⟨_, rfl, rfl, fun leg hleg ↦ ?_⟩
  exact ((compile_asset_identity twoChainDocument twoChainRegistry.address? 1 _ rfl).1 leg hleg).2.1

end HubRoutes.Route
