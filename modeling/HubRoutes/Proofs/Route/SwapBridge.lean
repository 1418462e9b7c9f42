import HubRoutes.Proofs.List
import HubRoutes.Proofs.Route.Compilation

/-!
# The bridge behind a swap is the direct route

Swap routes and bridge routes are expanded apart, with keys of their own for repetitions and names of their
own in faults. Where the swapped tokens are known and no two swaps of an origin lead to the same bridge, the
two expansions go in lockstep: expanding the swaps, and expanding the bridges behind them as tokens that are
declared themselves, yields the same bridges in the same order, or stops at the same declaration for the same
cause. What is left of the difference is the kind of route that a fault names.
-/

namespace HubRoutes.Route

open Declaration (Origin)

/-- An origin whose destinations declare, in place of their tokens, the bridges of their swaps. -/
def bridgingSwaps (origin : Origin) : Origin :=
  { origin with
    destinations := origin.destinations.map fun destination ↦
      { destination with
        tokens := destination.swaps.map fun swap ↦ .pair swap.bridgeInput swap.bridgeOutput } }

/-- The pairs of that origin are the bridges of its swaps. -/
theorem declaredPairs_bridgingSwaps (origin : Origin) :
    declaredPairs (bridgingSwaps origin) = (declaredSwaps origin).map SwapPair.pair := by
  rw [declaredSwaps, Origin.map_inOrder]
  simp only [declaredPairs, Origin.inOrder, bridgingSwaps, List.flatMap_map, List.map_map]
  rfl

/-! ## Lockstep -/

/-- The result of a bridge's expansion is that of a swap's: what the swap's result shows of its bridge, or the
same fault under the name of the other kind. -/
inductive Follows {α β : Type} (bridgeOf : α → β) (fromChain : ChainId) :
    Except Fault α → Except Fault β → Prop
  | ok (value : α) : Follows bridgeOf fromChain (.ok value) (.ok (bridgeOf value))
  | error (toChain : ChainId) (cause : Fault) : Follows bridgeOf fromChain
      (.error (.inRoute .swap fromChain toChain cause)) (.error (.inRoute .bridge fromChain toChain cause))

section

variable {α β : Type} {bridgeOf : α → β} {fromChain : ChainId} {swapped : Except Fault α}
  {direct : Except Fault β}

theorem Follows.eq_ok_iff (hfollows : Follows bridgeOf fromChain swapped direct) (value : β) :
    direct = .ok value ↔ ∃ whole, swapped = .ok whole ∧ bridgeOf whole = value := by
  cases hfollows with
  | ok whole => simp
  | error toChain cause => simp

theorem Follows.swapped_eq_error_iff (hfollows : Follows bridgeOf fromChain swapped direct)
    (fault : Fault) : swapped = .error fault ↔ ∃ toChain cause,
      fault = .inRoute .swap fromChain toChain cause ∧
        direct = .error (.inRoute .bridge fromChain toChain cause) := by
  cases hfollows with
  | ok whole => simp
  | error toChain cause =>
    constructor
    · intro hfault
      exact ⟨toChain, cause, (Except.error.inj hfault).symm, rfl⟩
    · intro hsome
      obtain ⟨_, _, hfault, hdirect⟩ := hsome
      cases hdirect
      rw [hfault]

theorem Follows.direct_eq_error_iff (hfollows : Follows bridgeOf fromChain swapped direct)
    (fault : Fault) : direct = .error fault ↔ ∃ toChain cause,
      fault = .inRoute .bridge fromChain toChain cause ∧
        swapped = .error (.inRoute .swap fromChain toChain cause) := by
  cases hfollows with
  | ok whole => simp
  | error toChain cause =>
    constructor
    · intro hfault
      exact ⟨toChain, cause, (Except.error.inj hfault).symm, rfl⟩
    · intro hsome
      obtain ⟨_, _, hfault, hswapped⟩ := hsome
      cases hswapped
      rw [hfault]

end

/-- Expansions in lockstep stay in lockstep over a list of declarations. -/
theorem follows_mapM {δ δ' ρ ρ' : Type} {bridgeOf : ρ → ρ'} {fromChain : ChainId} {keyOf : δ → δ'}
    {expand : δ → Except Fault ρ} {expand' : δ' → Except Fault ρ'} {declarations : List δ}
    (hfollows : ∀ declaration ∈ declarations,
      Follows bridgeOf fromChain (expand declaration) (expand' (keyOf declaration))) :
    Follows (List.map bridgeOf) fromChain (declarations.mapM expand)
      ((declarations.map keyOf).mapM expand') := by
  induction declarations with
  | nil => exact .ok []
  | cons declaration rest ih =>
    obtain ⟨hhead, htail⟩ := List.forall_mem_cons.1 hfollows
    rw [List.map_cons, List.mapM_cons, List.mapM_cons]
    generalize expand declaration = first, expand' (keyOf declaration) = first' at hhead
    cases hhead with
    | error toChain cause => exact .error toChain cause
    | ok route =>
      have hrest := ih htail
      generalize rest.mapM expand = others, (rest.map keyOf).mapM expand' = others' at hrest
      cases hrest with
      | error toChain cause => exact .error toChain cause
      | ok routes => exact .ok (route :: routes)

/-- New and distinct declarations are expanded one by one, without regard to each other. -/
theorem expandDistinct_eq_mapM {δ ρ : Type} [DecidableEq δ] {twice : δ → Fault}
    {expand : δ → Except Fault ρ} {seen declarations : List δ}
    (hnew : ∀ declaration ∈ declarations, declaration ∉ seen) (hdistinct : declarations.Nodup) :
    expandDistinct twice expand seen declarations = declarations.mapM expand := by
  induction declarations generalizing seen with
  | nil => rfl
  | cons declaration rest ih =>
    obtain ⟨hother, hrest⟩ := List.nodup_cons.1 hdistinct
    obtain ⟨hhead, htail⟩ := List.forall_mem_cons.1 hnew
    have hlater : ∀ later ∈ rest, later ∉ declaration :: seen := by
      intro later hmember
      rw [List.mem_cons, not_or]
      exact ⟨fun hsame ↦ hother (hsame ▸ hmember), htail later hmember⟩
    rw [expandDistinct, if_neg hhead, ih hlater hrest, List.mapM_cons]

/-! ## The two expansions -/

/-- A known swapped token leaves the look-up of the bridge as all that can fail. -/
theorem follows_swapLeg {context : Context} {origin : Origin} {declared : SwapPair}
    (hswapped : (Token.resolve context.source context.hub declared.swapInput origin.chain).isOk) :
    Follows Swap.bridge origin.chain
      (within .swap origin.chain declared.pair.toChain (swapLeg context origin declared))
      (within .bridge origin.chain declared.pair.toChain
        (bridgeLeg context (bridgingSwaps origin) declared.pair)) := by
  have hleg : bridgeLeg context (bridgingSwaps origin) declared.pair =
      bridgeLeg context origin declared.pair := rfl
  rw [swapLeg, hleg]
  cases hrecord : Token.resolve context.source context.hub declared.swapInput origin.chain with
  | error cause =>
    rw [hrecord] at hswapped
    cases hswapped
  | ok record =>
    cases bridgeLeg context origin declared.pair with
    | error cause => exact .error declared.pair.toChain cause
    | ok bridge => exact .ok (Swap.mk bridge record.address record.symbol record.hubAddress)

/-- Swap routes follow the bridge routes if every swapped token is known and no bridge is repeated. -/
theorem follows_swapRoutes {context : Context} {origin : Origin}
    (hswapped : ∀ declared ∈ declaredSwaps origin,
      (Token.resolve context.source context.hub declared.swapInput origin.chain).isOk)
    (hdistinct : ((declaredSwaps origin).map SwapPair.pair).Nodup) :
    Follows (List.map Swap.bridge) origin.chain (swapRoutes context origin)
      (bridgeRoutes context (bridgingSwaps origin)) := by
  rw [swapRoutes, swapPairs_eq, expandDistinct_eq_mapM (fun _ _ ↦ List.not_mem_nil) (hdistinct.of_map _),
    bridgeRoutes, bridgePairs_eq, declaredPairs_bridgingSwaps,
    expandDistinct_eq_mapM (fun _ _ ↦ List.not_mem_nil) hdistinct]
  apply follows_mapM
  intro declared hdeclared
  exact follows_swapLeg (hswapped declared hdeclared)

/-- A swap route shows the swapped token as it is known on the origin chain. -/
def Swap.Shows (context : Context) (origin : Origin) (declared : SwapPair) (swap : Swap) : Prop :=
  Token.resolve context.source context.hub declared.swapInput origin.chain =
    .ok ⟨origin.chain, swap.swapAddress, swap.swapSymbol, swap.swapHubAddress⟩

/-- A swap route matches a swap if its bridge matches the pair and it shows the swapped token. -/
theorem Swap.matches_iff (context : Context) (origin : Origin) (declared : SwapPair) (swap : Swap) :
    swap.Matches context origin declared ↔
      swap.bridge.Matches context (bridgingSwaps origin) declared.pair ∧
        swap.Shows context origin declared := by
  rw [Swap.Shows, Token.resolve_eq_ok_iff]
  constructor
  · intro hmatches
    exact ⟨{ hmatches.bridge with }, rfl, hmatches.swapSymbol, hmatches.swapAddress,
      hmatches.swapIdentity⟩
  · intro hboth
    obtain ⟨hbridge, -, hsymbol, haddress, hidentity⟩ := hboth
    exact ⟨{ hbridge with }, hsymbol, haddress, hidentity⟩

/-- Where all swapped tokens of an origin are known and its swaps lead to distinct bridges, these bridges are
the routes that the origin has if it declares them directly, one by one and in order. The expansions fail
together, at the same route and for the same cause, each naming its own kind of route. -/
theorem swaps_follow_direct_routes (context : Context) (origin : Origin)
    (hswapped : ∀ destination ∈ origin.destinations, ∀ swap ∈ destination.swaps,
      (Token.resolve context.source context.hub swap.swapInput origin.chain).isOk)
    (hdistinct : ((declaredSwaps origin).map SwapPair.pair).Nodup) :
    (∀ bridges, bridgeRoutes context (bridgingSwaps origin) = .ok bridges ↔
      ∃ swaps, swapRoutes context origin = .ok swaps ∧ swaps.map Swap.bridge = bridges) ∧
    (∀ swaps, swapRoutes context origin = .ok swaps ↔
      bridgeRoutes context (bridgingSwaps origin) = .ok (swaps.map Swap.bridge) ∧
        List.Forall₂ (fun declared swap ↦ swap.Shows context origin declared) (declaredSwaps origin)
          swaps) ∧
    (∀ fault, swapRoutes context origin = .error fault ↔ ∃ toChain cause,
      fault = .inRoute .swap origin.chain toChain cause ∧
        bridgeRoutes context (bridgingSwaps origin) =
          .error (.inRoute .bridge origin.chain toChain cause)) ∧
    ∀ fault, bridgeRoutes context (bridgingSwaps origin) = .error fault ↔ ∃ toChain cause,
      fault = .inRoute .bridge origin.chain toChain cause ∧
        swapRoutes context origin = .error (.inRoute .swap origin.chain toChain cause) := by
  have hfollows := follows_swapRoutes (forall_mem_declaredSwaps_iff.2 hswapped) hdistinct
  refine ⟨hfollows.eq_ok_iff, fun swaps ↦ ?_, hfollows.swapped_eq_error_iff,
    hfollows.direct_eq_error_iff⟩
  rw [swapRoutes_eq_ok_iff, bridgeRoutes_eq_ok_iff, declaredPairs_bridgingSwaps,
    List.forall₂_map_left_iff, List.forall₂_map_right_iff]
  simp only [Swap.matches_iff, forall₂_and_iff, hdistinct, hdistinct.of_map, true_and]

/-- Two swaps of one token, to bridges that arrive as the same token. -/
def swappingOrigin : Origin :=
  ⟨10, .replicate 0xc1, some "USDC",
    [⟨1, [.same "WETH"], [⟨"WETH", "USDC", "USDC"⟩, ⟨"WETH", "USDC.e", "USDC"⟩]⟩]⟩

/-- The same swaps and another one, to a bridge between different assets. -/
def mismatchingOrigin : Origin :=
  ⟨10, .replicate 0xc1, some "USDC",
    [⟨1, [.same "WETH"],
      [⟨"WETH", "USDC", "USDC"⟩, ⟨"WETH", "USDC.e", "USDC"⟩, ⟨"USDC.e", "WETH", "USDC"⟩]⟩]⟩

/-- Two swaps that are expanded, and a third one between different assets. -/
theorem swaps_follow_direct_routes_twoChain :
    (∃ swaps, swapRoutes ⟨twoChainRegistry.address?, 1, "USDC"⟩ swappingOrigin = .ok swaps ∧
      bridgeRoutes ⟨twoChainRegistry.address?, 1, "USDC"⟩ (bridgingSwaps swappingOrigin) =
        .ok (swaps.map Swap.bridge) ∧
      swaps.map (fun swap ↦ (swap.bridge.fromSymbol, swap.bridge.isNative)) =
        [("USDC", true), ("USDC.e", false)]) ∧
    swapRoutes ⟨twoChainRegistry.address?, 1, "USDC"⟩ mismatchingOrigin =
      .error (.inRoute .swap 10 1 (.differentAssets 10 1 "WETH" "USDC")) ∧
    bridgeRoutes ⟨twoChainRegistry.address?, 1, "USDC"⟩ (bridgingSwaps mismatchingOrigin) =
      .error (.inRoute .bridge 10 1 (.differentAssets 10 1 "WETH" "USDC")) := by
  obtain ⟨-, hmatching, -⟩ := swaps_follow_direct_routes ⟨twoChainRegistry.address?, 1, "USDC"⟩
    swappingOrigin (by decide) (by decide)
  obtain ⟨-, -, hmismatching, -⟩ := swaps_follow_direct_routes ⟨twoChainRegistry.address?, 1, "USDC"⟩
    mismatchingOrigin (by decide) (by decide)
  have hswaps : swapRoutes ⟨twoChainRegistry.address?, 1, "USDC"⟩ swappingOrigin = .ok _ := rfl
  have hfails : swapRoutes ⟨twoChainRegistry.address?, 1, "USDC"⟩ mismatchingOrigin =
      .error (.inRoute .swap 10 1 (.differentAssets 10 1 "WETH" "USDC")) := rfl
  obtain ⟨_, _, hfault, hdirect⟩ := (hmismatching _).1 hfails
  cases hfault
  exact ⟨⟨_, hswaps, ((hmatching _).1 hswaps).1, rfl⟩, hfails, hdirect⟩

end HubRoutes.Route
