import HubRoutes.Proofs.Route.Compilation

/-!
# The shape of compiled tables

Within an origin a repeated declaration is refused while the routes are expanded; that no two origins
share a chain is known of every document before. Together they keep the routes of a whole table
distinct. The other conditions on valid declarations carry over to the routes as well: no route leads
back to its own chain, no symbol is empty, and each origin chain has one deposit contract.
-/

namespace HubRoutes.Route

open Declaration (Hub Origin)

/-- Origins of distinct chains that each repeat no declaration have distinct declarations altogether. -/
theorem nodup_declared {δ : Type} {declarations : Origin → List δ} {origins : List Origin}
    (hchains : (origins.map Origin.chain).Nodup)
    (hdistinct : ∀ origin ∈ origins, (declarations origin).Nodup) :
    ((declared declarations origins).map fun entry ↦ (entry.1.chain, entry.2)).Nodup := by
  rw [declared, List.map_flatMap, List.nodup_flatMap]
  constructor
  · intro origin horigin
    rw [List.map_map]
    exact (hdistinct origin horigin).map fun first second hequal ↦ (Prod.mk.inj hequal).2
  · apply (List.pairwise_map.1 hchains).imp
    intro first second hne
    simp only [Function.onFun, List.disjoint_left, List.map_map, List.mem_map, Function.comp_apply]
    intro entry hfirst hsecond
    rcases hfirst with ⟨declaration, -, hdeclaration⟩
    rcases hsecond with ⟨other, -, hother⟩
    have hequal := hdeclaration.trans hother.symm
    exact hne (Prod.mk.inj hequal).1

/-- Routes have distinct keys if each key tells the origin chain and the declaration of its route. -/
theorem nodup_keys_of_matches {δ ρ κ : Type} {R : Origin × δ → ρ → Prop} {keyOf : ρ → κ}
    (entryOf : κ → ChainId × δ)
    (hentry : ∀ entry route, R entry route → (entry.1.chain, entry.2) = entryOf (keyOf route))
    {declarations : Origin → List δ} {origins : List Origin} {routes : List ρ}
    (hchains : (origins.map Origin.chain).Nodup)
    (hdistinct : ∀ origin ∈ origins, (declarations origin).Nodup)
    (hmatch : List.Forall₂ R (declared declarations origins) routes) : (routes.map keyOf).Nodup := by
  have htold : (declared declarations origins).map (fun entry ↦ (entry.1.chain, entry.2)) =
      routes.map (entryOf ∘ keyOf) := map_eq_map_of_forall₂ hentry hmatch
  apply List.Nodup.of_map entryOf
  rw [List.map_map, ← htold]
  exact nodup_declared hchains hdistinct

/-- No two bridge routes of a table share their chains and symbols. -/
theorem nodup_bridge_keys {source : Token.Source} {key : ChainId} {hub : Hub} {table : Table}
    (hvalid : hub.Valid key) (hmatches : table.Matches source key hub) :
    (table.bridges.map fun bridge ↦
      (bridge.fromChain, bridge.toChain, bridge.fromSymbol, bridge.toSymbol)).Nodup := by
  apply nodup_keys_of_matches
    (fun (fromChain, toChain, input, output) ↦ (fromChain, BridgePair.mk toChain input output))
    _ hvalid.distinct hmatches.distinctBridges hmatches.bridges
  intro entry bridge hentry
  rw [hentry.fromChain, hentry.toChain, hentry.fromSymbol, hentry.toSymbol]

/-- No two swap routes of a table share their chains and symbols. -/
theorem nodup_swap_keys {source : Token.Source} {key : ChainId} {hub : Hub} {table : Table}
    (hvalid : hub.Valid key) (hmatches : table.Matches source key hub) :
    (table.swaps.map fun swap ↦ (swap.bridge.fromChain, swap.bridge.toChain, swap.swapSymbol,
      swap.bridge.fromSymbol, swap.bridge.toSymbol)).Nodup := by
  apply nodup_keys_of_matches
    (fun (fromChain, toChain, swapInput, input, output) ↦
      (fromChain, SwapPair.mk swapInput ⟨toChain, input, output⟩))
    _ hvalid.distinct hmatches.distinctSwaps hmatches.swaps
  intro entry swap hentry
  rw [hentry.swapSymbol, hentry.bridge.fromChain, hentry.bridge.toChain, hentry.bridge.fromSymbol,
    hentry.bridge.toSymbol]

/-- The declarations of a valid origin lead to other chains and name their tokens. -/
theorem forall_mem_legPairs {origin : Origin} (hvalid : origin.Valid) :
    ∀ pair ∈ legPairs origin, pair.toChain ≠ origin.chain ∧ pair.input ≠ "" ∧ pair.output ≠ "" := by
  rw [legPairs, List.forall_mem_append, List.forall_mem_map, forall_mem_declaredPairs_iff,
    forall_mem_declaredSwaps_iff]
  constructor
  · intro destination hdestination token htoken
    have hdestinationValid := hvalid.destinations destination hdestination
    rw [token.symbols_eq]
    exact ⟨hdestinationValid.chain_ne, hdestinationValid.tokens token htoken⟩
  · intro destination hdestination swap hswap
    have hdestinationValid := hvalid.destinations destination hdestination
    exact ⟨hdestinationValid.chain_ne, (hdestinationValid.swaps swap hswap).2⟩

theorem forall_mem_declaredSwaps_swapInput {origin : Origin} (hvalid : origin.Valid) :
    ∀ declared ∈ declaredSwaps origin, declared.swapInput ≠ "" := by
  rw [forall_mem_declaredSwaps_iff]
  intro destination hdestination swap hswap
  exact ((hvalid.destinations destination hdestination).swaps swap hswap).1

/-- Legs that start on one chain come from one origin, since no two origins share a chain. -/
theorem spoke_eq_of_fromChain_eq {source : Token.Source} {key : ChainId} {hub : Hub} {table : Table}
    (hvalid : hub.Valid key) (hmatches : table.Matches source key hub) {first second : Bridge}
    (hfirst : first ∈ table.legs) (hsecond : second ∈ table.legs)
    (hchain : first.fromChain = second.fromChain) : first.spoke = second.spoke := by
  rcases hmatches.exists_of_mem_legs hfirst with ⟨origin, horigin, _, -, hrelated⟩
  rcases hmatches.exists_of_mem_legs hsecond with ⟨other, hother, _, -, hrelatedOther⟩
  have hsame : origin = other := by
    apply List.inj_on_of_nodup_map hvalid.distinct horigin hother
    rw [← hrelated.fromChain, ← hrelatedOther.fromChain, hchain]
  rw [hrelated.spoke, hrelatedOther.spoke, hsame]

/-- In a compiled table no two routes of a kind agree in their chains and symbols, no route or bridge
leg leads back to its own chain, no symbol is empty, and all that start on one chain have one deposit
contract. -/
theorem compile_topology (document : Document) (source : Token.Source) (key : ChainId) (table : Table)
    (hcompiled : compile document source key = .ok table) :
    (table.bridges.map fun bridge ↦
      (bridge.fromChain, bridge.toChain, bridge.fromSymbol, bridge.toSymbol)).Nodup ∧
    (table.swaps.map fun swap ↦ (swap.bridge.fromChain, swap.bridge.toChain, swap.swapSymbol,
      swap.bridge.fromSymbol, swap.bridge.toSymbol)).Nodup ∧
    (∀ leg ∈ table.legs,
      leg.fromChain ≠ leg.toChain ∧ leg.fromSymbol ≠ "" ∧ leg.toSymbol ≠ "") ∧
    (∀ swap ∈ table.swaps, swap.swapSymbol ≠ "") ∧
    ∀ first ∈ table.legs, ∀ second ∈ table.legs,
      first.fromChain = second.fromChain → first.spoke = second.spoke := by
  rcases (compile_eq_ok_iff document source key table).1 hcompiled with ⟨hub, hfound, hmatches⟩
  have hvalid := document.valid_of_find? hfound
  refine ⟨nodup_bridge_keys hvalid hmatches, nodup_swap_keys hvalid hmatches, ?_, ?_, ?_⟩
  · intro leg hleg
    rcases hmatches.exists_of_mem_legs hleg with ⟨origin, horigin, pair, hpair, hrelated⟩
    have ⟨hchain, hinput, houtput⟩ := forall_mem_legPairs (hvalid.origins origin horigin) pair hpair
    rw [hrelated.fromChain, hrelated.toChain, hrelated.fromSymbol, hrelated.toSymbol]
    exact ⟨hchain.symm, hinput, houtput⟩
  · intro swap hswap
    rcases exists_left_of_forall₂ hmatches.swaps hswap with ⟨entry, hentry, hrelated⟩
    have ⟨horigin, hpair⟩ := mem_declared_iff.1 hentry
    rw [hrelated.swapSymbol]
    exact forall_mem_declaredSwaps_swapInput (hvalid.origins entry.1 horigin) entry.2 hpair
  · intro first hfirst second hsecond hchain
    exact spoke_eq_of_fromChain_eq hvalid hmatches hfirst hsecond hchain

/-- A table with routes in both directions between two chains. -/
theorem compile_topology_twoChain :
    ∃ table, compile twoChainDocument twoChainRegistry.address? 1 = .ok table ∧
      table.bridges.length = 3 ∧ table.swaps.length = 2 ∧
      ∀ leg ∈ table.legs, leg.fromChain ≠ leg.toChain ∧ leg.fromSymbol ≠ "" ∧ leg.toSymbol ≠ "" := by
  refine ⟨_, rfl, rfl, rfl, ?_⟩
  exact (compile_topology twoChainDocument twoChainRegistry.address? 1 _ rfl).2.2.1

end HubRoutes.Route
