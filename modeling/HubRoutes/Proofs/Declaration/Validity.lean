import HubRoutes.Document
import HubRoutes.Proofs.List

/-!
# What valid declarations satisfy

The search for faults walks through nested lists with the chains that were met before. Here it is
compared with conditions that do not mention an order of search: a hub, an origin and a destination
are valid if the chains of their parts are pairwise distinct and every part is valid. The search finds
no fault exactly in valid declarations, so every hub of every document is valid.
-/

namespace HubRoutes.Declaration

/-- No declared token or swap lacks a symbol, and the destination is another chain than the origin. -/
structure Destination.Valid (origin : ChainId) (destination : Destination) : Prop where
  chain_ne : destination.chain ≠ origin
  tokens : ∀ token ∈ destination.tokens, token.input ≠ "" ∧ token.output ≠ ""
  swaps : ∀ swap ∈ destination.swaps,
    swap.swapInput ≠ "" ∧ swap.bridgeInput ≠ "" ∧ swap.bridgeOutput ≠ ""

/-- A native symbol of the origin's own is not empty, and the destinations are valid and distinct. -/
structure Origin.Valid (origin : Origin) : Prop where
  nativeSymbol : origin.nativeSymbol ≠ some ""
  distinct : (origin.destinations.map Destination.chain).Nodup
  destinations : ∀ destination ∈ origin.destinations, destination.Valid origin.chain

/-- The hub is filed under its own chain, its three symbols are not empty, and its origins are valid
and distinct. -/
structure Hub.Valid (key : ChainId) (hub : Hub) : Prop where
  chain_eq : hub.chain = key
  wrappedNativeSymbol : hub.wrappedNativeSymbol ≠ ""
  protocolSymbol : hub.protocolSymbol ≠ ""
  nativeSymbol : hub.nativeSymbol ≠ ""
  distinct : (hub.origins.map Origin.chain).Nodup
  origins : ∀ origin ∈ hub.origins, origin.Valid

theorem Token.lacksSymbol_eq_false_iff (token : Token) :
    token.lacksSymbol = false ↔ token.input ≠ "" ∧ token.output ≠ "" := by
  simp [Token.lacksSymbol]

theorem Swap.lacksSymbol_eq_false_iff (swap : Swap) :
    swap.lacksSymbol = false ↔
      swap.swapInput ≠ "" ∧ swap.bridgeInput ≠ "" ∧ swap.bridgeOutput ≠ "" := by
  simp [Swap.lacksSymbol, and_assoc]

theorem Hub.lacksSymbol_eq_false_iff (hub : Hub) :
    hub.lacksSymbol = false ↔
      hub.wrappedNativeSymbol ≠ "" ∧ hub.protocolSymbol ≠ "" ∧ hub.nativeSymbol ≠ "" := by
  simp [Hub.lacksSymbol, and_assoc]

/-- A destination has no fault exactly if it is valid and its chain is new. -/
theorem Destination.fault?_eq_none_iff (origin : ChainId) (earlier : List ChainId)
    (destination : Destination) :
    destination.fault? origin earlier = none ↔
      destination.chain ∉ earlier ∧ destination.Valid origin := by
  have htokens : destination.tokens.any Token.lacksSymbol = false ↔
      ∀ token ∈ destination.tokens, token.input ≠ "" ∧ token.output ≠ "" := by
    simp only [List.any_eq_false, Bool.not_eq_true, Token.lacksSymbol_eq_false_iff]
  have hswaps : destination.swaps.any Swap.lacksSymbol = false ↔
      ∀ swap ∈ destination.swaps,
        swap.swapInput ≠ "" ∧ swap.bridgeInput ≠ "" ∧ swap.bridgeOutput ≠ "" := by
    simp only [List.any_eq_false, Bool.not_eq_true, Swap.lacksSymbol_eq_false_iff]
  constructor
  · intro hnone
    unfold Destination.fault? at hnone
    split_ifs at hnone with horigin hearlier hany hanySwap
    exact ⟨hearlier, horigin, htokens.1 (by simpa using hany), hswaps.1 (by simpa using hanySwap)⟩
  · intro hboth
    rcases hboth with ⟨hearlier, hvalid⟩
    rw [Destination.fault?, if_neg hvalid.chain_ne, if_neg hearlier, htokens.2 hvalid.tokens,
      hswaps.2 hvalid.swaps]
    rfl

/-- Destinations have no fault exactly if they are valid and have distinct new chains. -/
theorem destinationsFault?_eq_none_iff (origin : ChainId) (earlier : List ChainId)
    (destinations : List Destination) :
    destinationsFault? origin earlier destinations = none ↔
      (∀ destination ∈ destinations, destination.chain ∉ earlier) ∧
        (destinations.map Destination.chain).Nodup ∧
        ∀ destination ∈ destinations, destination.Valid origin := by
  induction destinations generalizing earlier with
  | nil => simp [destinationsFault?]
  | cons destination rest ih =>
    have hstep : destinationsFault? origin earlier (destination :: rest) = none ↔
        destination.fault? origin earlier = none ∧
          destinationsFault? origin (destination.chain :: earlier) rest = none := by
      rw [destinationsFault?]
      cases destination.fault? origin earlier <;> simp
    rw [hstep, Destination.fault?_eq_none_iff, ih, new_distinct_forall_cons_iff]

/-- An origin has no fault exactly if it is valid. -/
theorem Origin.fault?_eq_none_iff (origin : Origin) : origin.fault? = none ↔ origin.Valid := by
  have hdestinations := destinationsFault?_eq_none_iff origin.chain [] origin.destinations
  by_cases hempty : origin.nativeSymbol = some ""
  · rw [Origin.fault?, if_pos hempty]
    exact ⟨nofun, fun hvalid ↦ absurd hempty hvalid.nativeSymbol⟩
  · rw [Origin.fault?, if_neg hempty, hdestinations]
    constructor
    · intro hrest
      rcases hrest with ⟨-, hdistinct, hvalid⟩
      exact ⟨hempty, hdistinct, hvalid⟩
    · intro hvalid
      exact ⟨fun _ _ ↦ List.not_mem_nil, hvalid.distinct, hvalid.destinations⟩

/-- Origins have no fault exactly if they are valid and have distinct new chains. -/
theorem originsFault?_eq_none_iff (key : ChainId) (earlier : List ChainId) (origins : List Origin) :
    originsFault? key earlier origins = none ↔
      (∀ origin ∈ origins, origin.chain ∉ earlier) ∧ (origins.map Origin.chain).Nodup ∧
        ∀ origin ∈ origins, origin.Valid := by
  induction origins generalizing earlier with
  | nil => simp [originsFault?]
  | cons origin rest ih =>
    have hstep : originsFault? key earlier (origin :: rest) = none ↔
        (origin.chain ∉ earlier ∧ origin.fault? = none) ∧
          originsFault? key (origin.chain :: earlier) rest = none := by
      rw [originsFault?]
      by_cases hmet : origin.chain ∈ earlier
      · simp [hmet]
      · cases origin.fault? <;> simp [hmet]
    rw [hstep, Origin.fault?_eq_none_iff, ih, new_distinct_forall_cons_iff]

/-- A hub has no fault exactly if it is valid under its key. -/
theorem Hub.fault?_eq_none_iff (key : ChainId) (hub : Hub) :
    hub.fault? key = none ↔ hub.Valid key := by
  have hsymbols := hub.lacksSymbol_eq_false_iff
  have horigins := originsFault?_eq_none_iff key [] hub.origins
  constructor
  · intro hnone
    unfold Hub.fault? at hnone
    split_ifs at hnone with hkey hlacks
    rcases hsymbols.1 (by simpa using hlacks) with ⟨hwrapped, hprotocol, hnative⟩
    rcases horigins.1 hnone with ⟨-, hdistinct, hvalid⟩
    exact ⟨not_not.1 hkey, hwrapped, hprotocol, hnative, hdistinct, hvalid⟩
  · intro hvalid
    have hlacks : hub.lacksSymbol = false :=
      hsymbols.2 ⟨hvalid.wrappedNativeSymbol, hvalid.protocolSymbol, hvalid.nativeSymbol⟩
    rw [Hub.fault?, if_neg (not_not.2 hvalid.chain_eq), hlacks, horigins.2]
    · rfl
    · exact ⟨fun _ _ ↦ List.not_mem_nil, hvalid.distinct, hvalid.origins⟩

/-- Filed hubs have no fault exactly if each is valid under its key. -/
theorem hubsFault?_eq_none_iff (hubs : OrderedMap ChainId Hub) :
    hubsFault? hubs = none ↔ ∀ entry ∈ hubs.entries, entry.2.Valid entry.1 := by
  simp only [hubsFault?, List.findSome?_eq_none_iff, Hub.fault?_eq_none_iff]

end HubRoutes.Declaration

namespace HubRoutes.Document

open Declaration (Hub)

/-- A document is made of filed hubs that have no fault, and it holds just these. -/
theorem ofHubs_eq_ok_iff (hubs : OrderedMap ChainId Hub) (document : Document) :
    ofHubs hubs = .ok document ↔ document.hubs = hubs ∧ Declaration.hubsFault? hubs = none := by
  rw [ofHubs]
  split
  next hvalid =>
    constructor
    · intro hmade
      cases hmade
      exact ⟨rfl, hvalid⟩
    · rintro ⟨rfl, -⟩
      rfl
  next fault hfault =>
    rw [hfault]
    exact ⟨nofun, nofun⟩

theorem ofHubs_eq_error_iff (hubs : OrderedMap ChainId Hub) (fault : Declaration.Fault) :
    ofHubs hubs = .error fault ↔ Declaration.hubsFault? hubs = some fault := by
  rw [ofHubs]
  split
  next hvalid => simp [hvalid]
  next other hother => simp [hother]

/-- A document answers the hub that is filed under a chain, and nothing for other chains. -/
theorem hub_eq_ok_iff (document : Document) (chain : ChainId) (hub : Hub) :
    document.hub chain = .ok hub ↔ document.hubs.find? chain = some hub := by
  unfold Document.hub
  cases document.hubs.find? chain <;> simp

/-- In every document the hub that is found under a chain is valid, and that chain is its own. -/
theorem valid_of_find? (document : Document) {chain : ChainId} {hub : Hub}
    (hfound : document.hubs.find? chain = some hub) : hub.Valid chain :=
  (Declaration.hubsFault?_eq_none_iff document.hubs).1 document.valid (chain, hub)
    (OrderedMap.mem_entries_of_find? hfound)

end HubRoutes.Document
