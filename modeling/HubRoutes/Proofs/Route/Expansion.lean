import HubRoutes.Proofs.Result
import HubRoutes.Proofs.Route.Declared
import Mathlib.Data.List.Forall2
import Mathlib.Data.List.Nodup

/-!
# What an expansion yields

A route matches the declaration that it comes from if it repeats the declared chains and symbols and
all its addresses are answers of the registry. Looking up a leg yields exactly the matching route, and
expanding an origin yields exactly the lists of matching routes of declarations that are pairwise
distinct, one route for each declaration and in the same order.
-/

namespace HubRoutes

/-! ## Looking up one token -/

namespace Token

theorem resolve_eq_ok_iff (source : Source) (hub : ChainId) (symbol : String) (chain : ChainId)
    (record : Record) :
    resolve source hub symbol chain = .ok record ↔
      record.chain = chain ∧ record.symbol = symbol ∧ source symbol chain = some record.address ∧
        source (Alias.canonical symbol) hub = some record.hubAddress := by
  rcases record with ⟨recordChain, recordAddress, recordSymbol, recordHubAddress⟩
  unfold resolve
  cases source symbol chain with
  | none => simp
  | some address =>
    cases source (Alias.canonical symbol) hub with
    | none => simp
    | some hubAddress =>
      simp only [Except.ok.injEq, Record.mk.injEq, Option.some.injEq]
      rw [eq_comm (a := chain), eq_comm (a := symbol), and_left_comm (a := address = recordAddress)]

theorem ensureSameAsset_eq_ok_iff (input output : Record) (nothing : Unit) :
    ensureSameAsset input output = .ok nothing ↔ input.hubAddress = output.hubAddress := by
  unfold ensureSameAsset
  by_cases hsame : input.hubAddress = output.hubAddress
  · simp [hsame]
  · simp [hsame]

end Token

namespace Route

open Declaration (Origin)

theorem within_eq_ok_iff {α : Type} (kind : Kind) (fromChain toChain : ChainId)
    (result : Except Fault α) (value : α) :
    within kind fromChain toChain result = .ok value ↔ result = .ok value :=
  mapError_eq_ok_iff

/-! ## Looking up one route -/

/-- A bridge route repeats a declared pair of an origin, its addresses are those of the registry, and
both tokens have the route's hub address as their identity. -/
structure Bridge.Matches (context : Context) (origin : Origin) (pair : BridgePair) (bridge : Bridge) :
    Prop where
  fromChain : bridge.fromChain = origin.chain
  toChain : bridge.toChain = pair.toChain
  fromSymbol : bridge.fromSymbol = pair.input
  toSymbol : bridge.toSymbol = pair.output
  spoke : bridge.spoke = origin.spoke
  isNative : bridge.isNative = true ↔ pair.input = context.nativeSymbol
  fromAddress : context.source pair.input origin.chain = some bridge.fromAddress
  toAddress : context.source pair.output pair.toChain = some bridge.toAddress
  inputIdentity : context.source (Token.Alias.canonical pair.input) context.hub = some bridge.hubAddress
  outputIdentity : context.source (Token.Alias.canonical pair.output) context.hub = some bridge.hubAddress

/-- The bridge of a swap route matches the declared pair, and the swapped token is that of the origin
chain. -/
structure Swap.Matches (context : Context) (origin : Origin) (declared : SwapPair) (swap : Swap) :
    Prop where
  bridge : swap.bridge.Matches context origin declared.pair
  swapSymbol : swap.swapSymbol = declared.swapInput
  swapAddress : context.source declared.swapInput origin.chain = some swap.swapAddress
  swapIdentity :
    context.source (Token.Alias.canonical declared.swapInput) context.hub = some swap.swapHubAddress

/-- The route of a declared pair is the one that matches it. -/
theorem bridgeLeg_eq_ok_iff (context : Context) (origin : Origin) (pair : BridgePair)
    (bridge : Bridge) :
    bridgeLeg context origin pair = .ok bridge ↔ bridge.Matches context origin pair := by
  simp only [bridgeLeg, bind_eq_ok_iff, Token.resolve_eq_ok_iff, Token.ensureSameAsset_eq_ok_iff]
  constructor
  · intro hleg
    rcases hleg with ⟨input, hinput, output, houtput, -, hsame, hbridge⟩
    rcases hinput with ⟨-, hsymbol, haddress, hidentity⟩
    rcases houtput with ⟨-, hsymbol', haddress', hidentity'⟩
    cases hbridge
    exact {
      fromChain := rfl
      toChain := rfl
      fromSymbol := hsymbol
      toSymbol := hsymbol'
      spoke := rfl
      isNative := by simp [hsymbol]
      fromAddress := haddress
      toAddress := haddress'
      inputIdentity := hidentity
      outputIdentity := by rw [hidentity', hsame] }
  · intro hmatches
    have hnative : (pair.input == context.nativeSymbol) = bridge.isNative := by
      rw [Bool.eq_iff_iff, hmatches.isNative, beq_iff_eq]
    refine ⟨⟨origin.chain, bridge.fromAddress, pair.input, bridge.hubAddress⟩,
      ⟨rfl, rfl, hmatches.fromAddress, hmatches.inputIdentity⟩,
      ⟨pair.toChain, bridge.toAddress, pair.output, bridge.hubAddress⟩,
      ⟨rfl, rfl, hmatches.toAddress, hmatches.outputIdentity⟩, (), rfl, ?_⟩
    rw [hnative, ← hmatches.fromChain, ← hmatches.toChain, ← hmatches.spoke, ← hmatches.fromSymbol,
      ← hmatches.toSymbol]
    rfl

/-- The route of a declared swap is the one that matches it. -/
theorem swapLeg_eq_ok_iff (context : Context) (origin : Origin) (declared : SwapPair) (swap : Swap) :
    swapLeg context origin declared = .ok swap ↔ swap.Matches context origin declared := by
  simp only [swapLeg, bind_eq_ok_iff, Token.resolve_eq_ok_iff, bridgeLeg_eq_ok_iff]
  constructor
  · intro hleg
    rcases hleg with ⟨swapped, ⟨-, hsymbol, haddress, hidentity⟩, bridge, hbridge, hswap⟩
    cases hswap
    exact ⟨hbridge, hsymbol, haddress, hidentity⟩
  · intro hmatches
    refine ⟨⟨origin.chain, swap.swapAddress, declared.swapInput, swap.swapHubAddress⟩,
      ⟨rfl, rfl, hmatches.swapAddress, hmatches.swapIdentity⟩, swap.bridge, hmatches.bridge, ?_⟩
    rw [← hmatches.swapSymbol]
    rfl

/-! ## Expanding an origin -/

/-- What was seen before is carried along, so the declarations of a rest have to be new as well as
distinct. -/
theorem expandDistinct_eq_ok_iff {δ ρ : Type} [DecidableEq δ] (twice : δ → Fault)
    (expand : δ → Except Fault ρ) (seen declarations : List δ) (routes : List ρ) :
    expandDistinct twice expand seen declarations = .ok routes ↔
      (∀ declaration ∈ declarations, declaration ∉ seen) ∧ declarations.Nodup ∧
        List.Forall₂ (fun declaration route ↦ expand declaration = .ok route) declarations routes := by
  induction declarations generalizing seen routes with
  | nil => cases routes <;> simp [expandDistinct]
  | cons declaration rest ih =>
    by_cases hseen : declaration ∈ seen
    · simp [expandDistinct, hseen]
    · have hfresh : (∀ later ∈ rest, later ∉ declaration :: seen) ↔
          declaration ∉ rest ∧ ∀ later ∈ rest, later ∉ seen := by
        simp only [List.mem_cons, not_or]
        grind
      simp only [expandDistinct, hseen, if_false, bind_eq_ok_iff, ih]
      rw [hfresh, List.forall₂_cons_left_iff, List.forall_mem_cons, List.nodup_cons]
      constructor
      · intro hexpanded
        rcases hexpanded with ⟨route, hroute, others, ⟨⟨hnew, hothers⟩, hdistinct, hrest⟩, hroutes⟩
        cases hroutes
        exact ⟨⟨hseen, hothers⟩, ⟨hnew, hdistinct⟩, route, others, hroute, hrest, rfl⟩
      · intro hmatching
        rcases hmatching with ⟨⟨-, hothers⟩, ⟨hnew, hdistinct⟩, route, others, hroute, hrest, hroutes⟩
        subst hroutes
        exact ⟨route, hroute, others, ⟨⟨hnew, hothers⟩, hdistinct, hrest⟩, rfl⟩

/-- An origin is expanded to the routes that match its declared pairs in turn, if none is repeated. -/
theorem bridgeRoutes_eq_ok_iff (context : Context) (origin : Origin) (bridges : List Bridge) :
    bridgeRoutes context origin = .ok bridges ↔
      (declaredPairs origin).Nodup ∧
        List.Forall₂ (fun pair bridge ↦ bridge.Matches context origin pair) (declaredPairs origin)
          bridges := by
  rw [bridgeRoutes, bridgePairs_eq, expandDistinct_eq_ok_iff]
  simp [within_eq_ok_iff, bridgeLeg_eq_ok_iff]

/-- An origin is expanded to the routes that match its declared swaps in turn, if none is repeated. -/
theorem swapRoutes_eq_ok_iff (context : Context) (origin : Origin) (swaps : List Swap) :
    swapRoutes context origin = .ok swaps ↔
      (declaredSwaps origin).Nodup ∧
        List.Forall₂ (fun declared swap ↦ swap.Matches context origin declared) (declaredSwaps origin)
          swaps := by
  rw [swapRoutes, swapPairs_eq, expandDistinct_eq_ok_iff]
  simp [within_eq_ok_iff, swapLeg_eq_ok_iff]

end Route

end HubRoutes
