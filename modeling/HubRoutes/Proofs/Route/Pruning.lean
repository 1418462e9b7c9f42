import HubRoutes.Proofs.OrderedMap
import HubRoutes.Proofs.Route.Topology

/-!
# Pruned declarations

Origins, destinations, tokens and swaps may be left out of declarations while all others stay in their order.
Nothing that is valid or compiles rests on what is left out: the conditions on declarations say that parts are
distinct and that each part is valid, and both are kept by fewer parts. The routes of the pruned declarations
are those of the whole table that belong to declarations which stay. They are told by their declarations, since
no two routes of a table share one.
-/

namespace HubRoutes

/-! ## What is left out -/

namespace Declaration

/-- A destination without some of its tokens and swaps. -/
structure Destination.Prunes (pruned destination : Destination) : Prop where
  chain : pruned.chain = destination.chain
  tokens : pruned.tokens.Sublist destination.tokens
  swaps : pruned.swaps.Sublist destination.swaps

/-- An origin without some of its destinations, and with others pruned. -/
structure Origin.Prunes (pruned origin : Origin) : Prop where
  chain : pruned.chain = origin.chain
  spoke : pruned.spoke = origin.spoke
  nativeSymbol : pruned.nativeSymbol = origin.nativeSymbol
  destinations : List.SublistForall₂ Destination.Prunes pruned.destinations origin.destinations

/-- A hub without some of its origins, and with others pruned. -/
structure Hub.Prunes (pruned hub : Hub) : Prop where
  rest : pruned = { hub with origins := pruned.origins }
  origins : List.SublistForall₂ Origin.Prunes pruned.origins hub.origins

theorem Destination.Valid.of_prunes {pruned destination : Destination} {origin : ChainId}
    (hvalid : destination.Valid origin) (hprunes : pruned.Prunes destination) : pruned.Valid origin where
  chain_ne := hprunes.chain ▸ hvalid.chain_ne
  tokens := fun token htoken ↦ hvalid.tokens token (hprunes.tokens.subset htoken)
  swaps := fun swap hswap ↦ hvalid.swaps swap (hprunes.swaps.subset hswap)

theorem Origin.Valid.of_prunes {pruned origin : Origin} (hvalid : origin.Valid)
    (hprunes : pruned.Prunes origin) : pruned.Valid where
  nativeSymbol := hprunes.nativeSymbol ▸ hvalid.nativeSymbol
  distinct := hvalid.distinct.sublist
    (sublist_map_of_sublistForall₂ (fun _ _ hdestination ↦ hdestination.chain) hprunes.destinations)
  destinations := by
    intro destination hdestination
    obtain ⟨whole, hwhole, hpart⟩ := exists_of_mem_sublistForall₂ hprunes.destinations hdestination
    rw [hprunes.chain]
    exact (hvalid.destinations whole hwhole).of_prunes hpart

/-- A valid hub stays valid without some of its declarations. -/
theorem Hub.Valid.of_prunes {pruned hub : Hub} {key : ChainId} (hvalid : hub.Valid key)
    (hprunes : pruned.Prunes hub) : pruned.Valid key := by
  constructor
  · rw [hprunes.rest]
    exact hvalid.chain_eq
  · rw [hprunes.rest]
    exact hvalid.wrappedNativeSymbol
  · rw [hprunes.rest]
    exact hvalid.protocolSymbol
  · rw [hprunes.rest]
    exact hvalid.nativeSymbol
  · exact hvalid.distinct.sublist
      (sublist_map_of_sublistForall₂ (fun _ _ horigin ↦ horigin.chain) hprunes.origins)
  · intro origin horigin
    obtain ⟨whole, hwhole, hpart⟩ := exists_of_mem_sublistForall₂ hprunes.origins horigin
    exact (hvalid.origins whole hwhole).of_prunes hpart

end Declaration

open Declaration (Hub Origin Destination)

/-- Every pruning of a document is a document. -/
theorem Document.exists_of_prunes (document : Document) {hubs : OrderedMap ChainId Hub}
    (hprunes : hubs.Pointwise Hub.Prunes document.hubs) :
    ∃ pruned : Document, ofHubs hubs = .ok pruned ∧ pruned.hubs = hubs := by
  have hvalid : Declaration.hubsFault? hubs = none := by
    rw [Declaration.hubsFault?_eq_none_iff]
    refine hprunes.forall_entries ((Declaration.hubsFault?_eq_none_iff document.hubs).1 document.valid) ?_
    intro key pruned hub hpruned hhub
    exact hhub.of_prunes hpruned
  exact ⟨⟨hubs, hvalid⟩, (ofHubs_eq_ok_iff _ _).2 ⟨rfl, hvalid⟩, rfl⟩

namespace Route

/-! ## The declarations that stay -/

/-- The declaration that a bridge route belongs to, with the chain of its origin. -/
def Bridge.declaration (bridge : Bridge) : ChainId × BridgePair :=
  (bridge.fromChain, ⟨bridge.toChain, bridge.fromSymbol, bridge.toSymbol⟩)

/-- The declaration that a swap route belongs to, with the chain of its origin. -/
def Swap.declaration (swap : Swap) : ChainId × SwapPair :=
  (swap.bridge.fromChain, ⟨swap.swapSymbol, swap.bridge.declaration.2⟩)

/-- The declarations of origins, each with the chain of its origin. -/
def declarations {δ : Type} (declarationsOf : Origin → List δ) (origins : List Origin) :
    List (ChainId × δ) :=
  (declared declarationsOf origins).map fun entry ↦ (entry.1.chain, entry.2)

/-- A table without the routes that belong to no declaration of some origins. -/
def Table.prunedTo (table : Table) (origins : List Origin) : Table :=
  { table with
    bridges := table.bridges.filter fun bridge ↦ bridge.declaration ∈ declarations declaredPairs origins
    swaps := table.swaps.filter fun swap ↦ swap.declaration ∈ declarations declaredSwaps origins }

/-- What a pruned origin declares of one kind is what stays of it, in its old order. -/
theorem sublist_inOrder {δ ε : Type} {kind : Destination → List δ} {entryOf : Destination → δ → ε}
    (hkind : ∀ pruned destination : Destination, pruned.Prunes destination →
      (kind pruned).Sublist (kind destination))
    (hentry : ∀ pruned destination : Destination, pruned.Prunes destination →
      entryOf pruned = entryOf destination)
    {pruned origin : Origin} (hprunes : pruned.Prunes origin) :
    (pruned.inOrder kind entryOf).Sublist (origin.inOrder kind entryOf) := by
  apply sublist_flatMap_of_sublistForall₂ _ hprunes.destinations
  intro destination whole hpart
  rw [hentry destination whole hpart]
  exact (hkind destination whole hpart).map _

/-- A pruned origin declares some of the pairs that it declared before, in their order. -/
theorem sublist_declaredPairs {pruned origin : Origin} (hprunes : pruned.Prunes origin) :
    (declaredPairs pruned).Sublist (declaredPairs origin) :=
  sublist_inOrder (fun _ _ hpart ↦ hpart.tokens) (fun _ _ hpart ↦ by rw [hpart.chain]) hprunes

/-- A pruned origin declares some of the swaps that it declared before, in their order. -/
theorem sublist_declaredSwaps {pruned origin : Origin} (hprunes : pruned.Prunes origin) :
    (declaredSwaps pruned).Sublist (declaredSwaps origin) :=
  sublist_inOrder (fun _ _ hpart ↦ hpart.swaps) (fun _ _ hpart ↦ by rw [hpart.chain]) hprunes

/-! ## The routes that stay -/

/-- An origin without its destinations: all of it that a route of one of its declarations depends on. -/
def bare (origin : Origin) : Origin := { origin with destinations := [] }

theorem bare_eq_of_prunes {pruned origin : Origin} (hprunes : pruned.Prunes origin) :
    bare pruned = bare origin := by
  simp only [bare, hprunes.chain, hprunes.spoke, hprunes.nativeSymbol]

/-- Whether a route matches a pair depends on the origin without its destinations. -/
theorem Bridge.matches_bare_iff {source : Token.Source} {key : ChainId} {hub : Hub} {origin : Origin}
    {pair : BridgePair} {bridge : Bridge} :
    bridge.Matches (contextOf source key hub (bare origin)) (bare origin) pair ↔
      bridge.Matches (contextOf source key hub origin) origin pair :=
  ⟨fun hmatches ↦ { hmatches with }, fun hmatches ↦ { hmatches with }⟩

theorem Swap.matches_bare_iff {source : Token.Source} {key : ChainId} {hub : Hub} {origin : Origin}
    {pair : SwapPair} {swap : Swap} :
    swap.Matches (contextOf source key hub (bare origin)) (bare origin) pair ↔
      swap.Matches (contextOf source key hub origin) origin pair :=
  ⟨fun hmatches ↦ { hmatches with bridge := Bridge.matches_bare_iff.1 hmatches.bridge },
    fun hmatches ↦ { hmatches with bridge := Bridge.matches_bare_iff.2 hmatches.bridge }⟩

/-- The declarations of origins, each with its bare origin. -/
def bareDeclared {δ : Type} (declarationsOf : Origin → List δ) (origins : List Origin) :
    List (Origin × δ) :=
  (declared declarationsOf origins).map fun entry ↦ (bare entry.1, entry.2)

theorem sublist_bareDeclared {δ : Type} {declarationsOf : Origin → List δ}
    (hparts : ∀ pruned origin : Origin, pruned.Prunes origin →
      (declarationsOf pruned).Sublist (declarationsOf origin))
    {pruned origins : List Origin} (hprunes : List.SublistForall₂ Origin.Prunes pruned origins) :
    (bareDeclared declarationsOf pruned).Sublist (bareDeclared declarationsOf origins) := by
  rw [bareDeclared, bareDeclared, declared, declared, List.map_flatMap, List.map_flatMap]
  apply sublist_flatMap_of_sublistForall₂ _ hprunes
  intro origin whole hpart
  rw [List.map_map, List.map_map]
  simp only [Function.comp_def, bare_eq_of_prunes hpart]
  exact (hparts origin whole hpart).map _

/-- Of routes that match declarations of origins those match the declarations of pruned origins that belong
to one of these. -/
theorem forall₂_declared_filter {δ ρ : Type} [DecidableEq δ] {R : Origin → δ → ρ → Prop}
    (hbare : ∀ origin declaration route,
      R (bare origin) declaration route ↔ R origin declaration route)
    {declarationOf : ρ → ChainId × δ}
    (htold : ∀ origin declaration route, R origin declaration route →
      (Origin.chain origin, declaration) = declarationOf route)
    {declarationsOf : Origin → List δ}
    (hparts : ∀ pruned origin : Origin, pruned.Prunes origin →
      (declarationsOf pruned).Sublist (declarationsOf origin))
    {pruned origins : List Origin} (hprunes : List.SublistForall₂ Origin.Prunes pruned origins)
    (hchains : (origins.map Origin.chain).Nodup)
    (hdistinct : ∀ origin ∈ origins, (declarationsOf origin).Nodup) {routes : List ρ}
    (hmatch : List.Forall₂ (fun entry route ↦ R entry.1 entry.2 route)
      (declared declarationsOf origins) routes) :
    List.Forall₂ (fun entry route ↦ R entry.1 entry.2 route) (declared declarationsOf pruned)
      (routes.filter fun route ↦ declarationOf route ∈ declarations declarationsOf pruned) := by
  have hbareMatch : List.Forall₂ (fun entry route ↦ R entry.1 entry.2 route)
      (bareDeclared declarationsOf origins) routes := by
    rw [bareDeclared, List.forall₂_map_left_iff]
    exact hmatch.imp fun _ _ ↦ (hbare _ _ _).2
  have hchainOf : ∀ list, (bareDeclared declarationsOf list).map (fun entry ↦ (entry.1.chain, entry.2)) =
      declarations declarationsOf list := by
    intro list
    rw [bareDeclared, List.map_map]
    rfl
  have hkept := forall₂_filter_of_sublist (R := fun entry route ↦ R entry.1 entry.2 route)
    (fun entry route ↦ htold entry.1 entry.2 route)
    (sublist_bareDeclared hparts hprunes) hbareMatch
    (by rw [hchainOf]; exact nodup_declared hchains hdistinct)
  rw [hchainOf, bareDeclared, List.forall₂_map_left_iff] at hkept
  exact hkept.imp fun _ _ ↦ (hbare _ _ _).1

/-- The table without the routes of what was pruned matches the pruned hub. -/
theorem Table.Matches.of_prunes {source : Token.Source} {key : ChainId} {hub : Hub} {table : Table}
    (hmatches : table.Matches source key hub) (hvalid : hub.Valid key) {origins : List Origin}
    (hprunes : List.SublistForall₂ Origin.Prunes origins hub.origins) :
    (table.prunedTo origins).Matches source key { hub with origins } := by
  refine { hmatches with distinctBridges := ?_, distinctSwaps := ?_, bridges := ?_, swaps := ?_ }
  · intro origin horigin
    obtain ⟨whole, hwhole, hpart⟩ := exists_of_mem_sublistForall₂ hprunes horigin
    exact (hmatches.distinctBridges whole hwhole).sublist (sublist_declaredPairs hpart)
  · intro origin horigin
    obtain ⟨whole, hwhole, hpart⟩ := exists_of_mem_sublistForall₂ hprunes horigin
    exact (hmatches.distinctSwaps whole hwhole).sublist (sublist_declaredSwaps hpart)
  · apply forall₂_declared_filter (R := fun origin pair bridge ↦
        Bridge.Matches (contextOf source key hub origin) origin pair bridge)
      (fun _ _ _ ↦ Bridge.matches_bare_iff) _ (fun _ _ ↦ sublist_declaredPairs) hprunes hvalid.distinct
      hmatches.distinctBridges hmatches.bridges
    intro origin pair bridge hbridge
    rw [Bridge.declaration, hbridge.fromChain, hbridge.toChain, hbridge.fromSymbol, hbridge.toSymbol]
  · apply forall₂_declared_filter (R := fun origin pair swap ↦
        Swap.Matches (contextOf source key hub origin) origin pair swap)
      (fun _ _ _ ↦ Swap.matches_bare_iff) _ (fun _ _ ↦ sublist_declaredSwaps) hprunes hvalid.distinct
      hmatches.distinctSwaps hmatches.swaps
    intro origin pair swap hswap
    rw [Swap.declaration, Bridge.declaration, hswap.swapSymbol, hswap.bridge.fromChain,
      hswap.bridge.toChain, hswap.bridge.fromSymbol, hswap.bridge.toSymbol]

/-- Whatever origins, destinations, tokens and swaps are left out of the hubs of a document, the rest is a
document again. Where the document compiles to a table, against any registry and for any hub chain, the
pruned one compiles to that table without the routes that belong to no declaration which stays. -/
theorem compile_pruned (document : Document) (hubs : OrderedMap ChainId Hub)
    (hprunes : hubs.Pointwise Hub.Prunes document.hubs) :
    ∃ pruned : Document, Document.ofHubs hubs = .ok pruned ∧ pruned.hubs = hubs ∧
      ∀ source key table, compile document source key = .ok table →
        ∃ hub, hubs.find? key = some hub ∧
          compile pruned source key = .ok { table with
            bridges := table.bridges.filter fun bridge ↦
              bridge.declaration ∈ declarations declaredPairs hub.origins
            swaps := table.swaps.filter fun swap ↦
              swap.declaration ∈ declarations declaredSwaps hub.origins } := by
  obtain ⟨pruned, haccepted, rfl⟩ := document.exists_of_prunes hprunes
  refine ⟨pruned, haccepted, rfl, fun source key table hcompiled ↦ ?_⟩
  obtain ⟨whole, hwhole, hmatches⟩ := (compile_eq_ok_iff document source key table).1 hcompiled
  have hrelated := hprunes.rel_find? key
  rw [hwhole] at hrelated
  generalize hfound : pruned.hubs.find? key = found at hrelated
  cases hrelated with
  | @some hub _ hhub =>
    have hpruned := hmatches.of_prunes (document.valid_of_find? hwhole) hhub.origins
    rw [← hhub.rest] at hpruned
    exact ⟨hub, rfl, (compile_eq_ok_iff pruned source key _).2 ⟨hub, hfound, hpruned⟩⟩

/-- The hub of `twoChainDocument` without one origin, and without one token and the swap of the other. -/
def prunedTwoChainHub : Hub :=
  { twoChainHub with
    origins := [⟨10, .replicate 0xc1, some "WETH", [⟨1, [.pair "USDC.e" "USDC"], []⟩]⟩] }

/-- A hub without an origin, a token and a swap. -/
theorem compile_pruned_twoChain :
    prunedTwoChainHub.Prunes twoChainHub ∧
      ∃ table pruned table', compile twoChainDocument twoChainRegistry.address? 1 = .ok table ∧
        Document.ofHubs (OrderedMap.ofList [(1, prunedTwoChainHub)]) = .ok pruned ∧
        compile pruned twoChainRegistry.address? 1 = .ok table' ∧
        table.bridges.length = 3 ∧ table'.bridges.map Bridge.toSymbol = ["USDC"] ∧ table'.swaps = [] := by
  have hprunes : prunedTwoChainHub.Prunes twoChainHub := by
    refine ⟨rfl, .cons ⟨rfl, rfl, rfl, .cons ⟨rfl, ?_, ?_⟩ .nil⟩ .nil⟩
    · decide
    · decide
  obtain ⟨pruned, haccepted, hhubs, hcompiled⟩ := compile_pruned twoChainDocument
    (OrderedMap.ofList [(1, prunedTwoChainHub)]) (.cons ⟨rfl, hprunes⟩ .nil)
  obtain ⟨hub, hfound, htable⟩ := hcompiled twoChainRegistry.address? 1 _ rfl
  obtain rfl : prunedTwoChainHub = hub := Option.some.inj hfound
  exact ⟨hprunes, _, pruned, _, rfl, haccepted, htable, rfl, by decide, by decide⟩

end Route

end HubRoutes
