import HubRoutes.Proofs.Route.Compilation
import HubRoutes.Route.Format

/-!
# What a compilation depends on

The footprint of a hub is the list of all deployments that compiling it may ask a registry for: each
declared symbol on its own chain, and the canonical symbol of each of them on the hub chain. Two
compilations agree, in their table or in their fault, as soon as their documents agree in the one hub and
their registries on its footprint. Nothing else is ever asked for: a swapped token is not looked up on the
destination, and a bridged variant that ends no route on the hub chain is not looked up there.
-/

namespace HubRoutes.Route

open Declaration (Hub Origin)

/-- The deployment of a token, and the one that is its identity on the hub chain. -/
def tokenFootprint (key : ChainId) (symbol : String) (chain : ChainId) : List (String × ChainId) :=
  [(symbol, chain), (Token.Alias.canonical symbol, key)]

/-- The footprint of a declared pair: the input on the origin chain and the output on the destination. -/
def pairFootprint (key fromChain : ChainId) (pair : BridgePair) : List (String × ChainId) :=
  tokenFootprint key pair.input fromChain ++ tokenFootprint key pair.output pair.toChain

/-- The footprint of a declared swap: that of its pair and of the swapped token on the origin chain. -/
def swapFootprint (key fromChain : ChainId) (declared : SwapPair) : List (String × ChainId) :=
  tokenFootprint key declared.swapInput fromChain ++ pairFootprint key fromChain declared.pair

/-- The footprint of an origin: that of all its declarations. -/
def originFootprint (key : ChainId) (origin : Origin) : List (String × ChainId) :=
  (declaredPairs origin).flatMap (pairFootprint key origin.chain) ++
    (declaredSwaps origin).flatMap (swapFootprint key origin.chain)

/-- The footprint of a hub: its two tokens on the hub chain and the footprints of its origins. -/
def footprint (key : ChainId) (hub : Hub) : List (String × ChainId) :=
  tokenFootprint key hub.wrappedNativeSymbol key ++ tokenFootprint key hub.protocolSymbol key ++
    hub.origins.flatMap (originFootprint key)

/-- Two sources answer alike for all listed deployments. -/
def AgreeOn (source other : Token.Source) (deployments : List (String × ChainId)) : Prop :=
  ∀ deployment ∈ deployments, source deployment.1 deployment.2 = other deployment.1 deployment.2

section Steps

variable {source other : Token.Source}

theorem agreeOn_append_iff {first second : List (String × ChainId)} :
    AgreeOn source other (first ++ second) ↔
      AgreeOn source other first ∧ AgreeOn source other second :=
  List.forall_mem_append

theorem AgreeOn.of_mem_flatMap {δ : Type} {declarations : List δ}
    {footprintOf : δ → List (String × ChainId)}
    (hagree : AgreeOn source other (declarations.flatMap footprintOf)) :
    ∀ declaration ∈ declarations, AgreeOn source other (footprintOf declaration) := by
  intro declaration hdeclaration deployment hdeployment
  exact hagree deployment (List.mem_flatMap.2 ⟨declaration, hdeclaration, hdeployment⟩)

/-- A token is looked up at nothing but its footprint. -/
theorem resolve_congr {key : ChainId} {symbol : String} {chain : ChainId}
    (hagree : AgreeOn source other (tokenFootprint key symbol chain)) :
    Token.resolve source key symbol chain = Token.resolve other key symbol chain := by
  have htoken : source symbol chain = other symbol chain :=
    hagree (symbol, chain) List.mem_cons_self
  have hidentity : source (Token.Alias.canonical symbol) key =
      other (Token.Alias.canonical symbol) key :=
    hagree (Token.Alias.canonical symbol, key) (List.mem_cons_of_mem _ List.mem_cons_self)
  unfold Token.resolve
  rw [htoken, hidentity]

/-- The route of a declared pair depends on nothing but the footprint of the pair. -/
theorem bridgeLeg_congr {key : ChainId} (nativeSymbol : String) {origin : Origin} {pair : BridgePair}
    (hagree : AgreeOn source other (pairFootprint key origin.chain pair)) :
    bridgeLeg ⟨source, key, nativeSymbol⟩ origin pair =
      bridgeLeg ⟨other, key, nativeSymbol⟩ origin pair := by
  rcases agreeOn_append_iff.1 hagree with ⟨hinput, houtput⟩
  unfold bridgeLeg
  rw [resolve_congr hinput, resolve_congr houtput]

/-- The route of a declared swap depends on nothing but the footprint of the swap. -/
theorem swapLeg_congr {key : ChainId} (nativeSymbol : String) {origin : Origin} {declared : SwapPair}
    (hagree : AgreeOn source other (swapFootprint key origin.chain declared)) :
    swapLeg ⟨source, key, nativeSymbol⟩ origin declared =
      swapLeg ⟨other, key, nativeSymbol⟩ origin declared := by
  rcases agreeOn_append_iff.1 hagree with ⟨hswapped, hpair⟩
  unfold swapLeg
  rw [resolve_congr hswapped, bridgeLeg_congr nativeSymbol hpair]

theorem expandDistinct_congr {δ ρ : Type} [DecidableEq δ] (twice : δ → Fault)
    {expand expand' : δ → Except Fault ρ} (seen : List δ) {declarations : List δ}
    (hexpand : ∀ declaration ∈ declarations, expand declaration = expand' declaration) :
    expandDistinct twice expand seen declarations =
      expandDistinct twice expand' seen declarations := by
  induction declarations generalizing seen with
  | nil => rfl
  | cons declaration rest ih =>
    have hrest := fun later hlater ↦ hexpand later (List.mem_cons_of_mem _ hlater)
    unfold expandDistinct
    rw [hexpand declaration List.mem_cons_self, ih (declaration :: seen) hrest]

theorem bridgeRoutes_congr {key : ChainId} (nativeSymbol : String) {origin : Origin}
    (hagree : AgreeOn source other
      ((declaredPairs origin).flatMap (pairFootprint key origin.chain))) :
    bridgeRoutes ⟨source, key, nativeSymbol⟩ origin =
      bridgeRoutes ⟨other, key, nativeSymbol⟩ origin := by
  rw [bridgeRoutes, bridgeRoutes, bridgePairs_eq]
  apply expandDistinct_congr
  intro pair hpair
  rw [bridgeLeg_congr nativeSymbol (hagree.of_mem_flatMap pair hpair)]

theorem swapRoutes_congr {key : ChainId} (nativeSymbol : String) {origin : Origin}
    (hagree : AgreeOn source other
      ((declaredSwaps origin).flatMap (swapFootprint key origin.chain))) :
    swapRoutes ⟨source, key, nativeSymbol⟩ origin =
      swapRoutes ⟨other, key, nativeSymbol⟩ origin := by
  rw [swapRoutes, swapRoutes, swapPairs_eq]
  apply expandDistinct_congr
  intro declared hdeclared
  rw [swapLeg_congr nativeSymbol (hagree.of_mem_flatMap declared hdeclared)]

/-- The routes of origins depend on nothing but the footprints of their declarations. -/
theorem originRoutes_congr (hub : Hub) {origins : List Origin}
    (hagree : AgreeOn source other (origins.flatMap (originFootprint hub.chain))) :
    originRoutes source hub origins = originRoutes other hub origins := by
  induction origins with
  | nil => rfl
  | cons origin rest ih =>
    rcases agreeOn_append_iff.1 hagree with ⟨horigin, hrest⟩
    rcases agreeOn_append_iff.1 horigin with ⟨hbridges, hswaps⟩
    simp only [originRoutes, bridgeRoutes_congr _ hbridges, swapRoutes_congr _ hswaps, ih hrest]

theorem tableOf_congr (hub : Hub) (hagree : AgreeOn source other (footprint hub.chain hub)) :
    tableOf source hub.chain hub = tableOf other hub.chain hub := by
  rcases agreeOn_append_iff.1 hagree with ⟨htokens, horigins⟩
  rcases agreeOn_append_iff.1 htokens with ⟨hwrapped, hprotocol⟩
  unfold tableOf
  rw [resolve_congr hwrapped, resolve_congr hprotocol, originRoutes_congr hub horigins]

end Steps

/-- Documents with the same hub under a key compile alike with sources that agree on its footprint. -/
theorem compile_congr {document document' : Document} {source other : Token.Source} {key : ChainId}
    (hhub : document.hubs.find? key = document'.hubs.find? key)
    (hagree : ∀ hub, document.hubs.find? key = some hub →
      AgreeOn source other (footprint key hub)) :
    compile document source key = compile document' other key := by
  have hsame : document.hub key = document'.hub key := by
    unfold Document.hub
    rw [hhub]
  unfold compile
  rw [← hsame]
  cases hfound : document.hubs.find? key with
  | none =>
    have hnone : document.hub key = .error (.unsupportedHub key) := by rw [Document.hub, hfound]
    rw [hnone]
    rfl
  | some hub =>
    have hsome : document.hub key = .ok hub := (document.hub_eq_ok_iff key hub).2 hfound
    -- The origins are expanded for the hub's own chain, which is the key only since documents are valid.
    obtain rfl : hub.chain = key := (document.valid_of_find? hfound).chain_eq
    rw [hsome]
    exact tableOf_congr hub (hagree hub hfound)

/-- Compilations of one hub agree, as a table or as a fault, if the registries agree on the footprint of
the hub, whatever else the documents and the registries hold; so do the text and the name of the file.
In particular a deployment outside of the footprint may be added, changed or removed. -/
theorem compile_eq_of_agreeOn_footprint (document document' : Document) (source other : Token.Source)
    (key : ChainId) (hhub : document.hubs.find? key = document'.hubs.find? key)
    (hagree : ∀ hub, document.hubs.find? key = some hub →
      AgreeOn source other (footprint key hub)) :
    compile document source key = compile document' other key ∧
    (compile document source key).map (fun table ↦ (table.fileName, table.render)) =
      (compile document' other key).map (fun table ↦ (table.fileName, table.render)) ∧
    ∀ symbol chain answer,
      (∀ hub, document.hubs.find? key = some hub → (symbol, chain) ∉ footprint key hub) →
      compile document source key =
        compile document'
          (fun symbol' chain' ↦
            if symbol' = symbol ∧ chain' = chain then answer else source symbol' chain') key := by
  have hcompiled := compile_congr hhub hagree
  refine ⟨hcompiled, by rw [hcompiled], ?_⟩
  intro symbol chain answer houtside
  apply compile_congr hhub
  intro hub hfound deployment hdeployment
  have hother : ¬(deployment.1 = symbol ∧ deployment.2 = chain) := by
    intro hsame
    apply houtside hub hfound
    rw [← hsame.1, ← hsame.2]
    exact hdeployment
  exact (if_neg hother).symm

/-- The hub of `twoChainDocument` beside another one. -/
def twoHubDocument : Document :=
  ⟨OrderedMap.ofList [(1, twoChainHub), (10, { twoChainHub with chain := 10 })], by decide⟩

/-- Another hub, and an address of an alias on the hub chain, make no difference. -/
theorem compile_eq_of_agreeOn_footprint_twoChain :
    ("USDC.e", 1) ∉ footprint 1 twoChainHub ∧
      compile twoChainDocument twoChainRegistry.address? 1 =
        compile twoHubDocument (twoChainRegistry.insert "USDC.e" 1 (.replicate 0x51)).address? 1 := by
  have hagree : ∀ hub, twoChainDocument.hubs.find? 1 = some hub →
      AgreeOn twoChainRegistry.address?
        (twoChainRegistry.insert "USDC.e" 1 (.replicate 0x51)).address? (footprint 1 hub) := by
    intro hub hfound
    obtain rfl : twoChainHub = hub := Option.some.inj hfound
    unfold AgreeOn
    decide
  exact ⟨by decide,
    (compile_eq_of_agreeOn_footprint twoChainDocument twoHubDocument _ _ 1 rfl hagree).1⟩

end HubRoutes.Route
