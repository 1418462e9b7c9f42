import HubRoutes.Proofs.Route.Compilation

/-!
# Registries that know more

A registry extends another one if it repeats all its answers and perhaps has answers where the other
has none. Compiling against the extension either has the same result, table or fault, or the smaller
registry lacked a token that the compilation came to ask for. This relation between two results is
carried along the whole compilation: both runs reach every step with the same declarations seen before,
and a step can part them only by an answer that the smaller registry does not have.
-/

namespace HubRoutes

/-- Every answer of the smaller source is an answer of the larger one. -/
def Token.Source.Extends (larger smaller : Token.Source) : Prop :=
  ∀ symbol chain address, smaller symbol chain = some address → larger symbol chain = some address

/-- A registry is extended by a deployment of a token on a chain where none was known. -/
theorem Token.Registry.extends_insert (registry : Token.Registry) (symbol : String) (chain : ChainId)
    (address : Address) (hnew : registry.address? symbol chain = none) :
    Token.Source.Extends (registry.insert symbol chain address).address? registry.address? := by
  intro other place known hknown
  have hother : ¬(other = symbol ∧ place = chain) := by
    intro hsame
    rw [hsame.1, hsame.2, hnew] at hknown
    cases hknown
  rw [Token.Registry.address?_insert, if_neg hother]
  exact hknown

namespace Route

open Declaration (Hub Origin)

/-- Whether a fault comes from a token that is not known, on its own chain or on the hub chain. -/
def Fault.lacksToken (fault : Fault) : Bool :=
  match fault.root with
  | .unknownToken .. => true
  | .unknownHubToken .. => true
  | _ => false

@[simp] theorem Fault.lacksToken_inRoute (kind : Kind) (fromChain toChain : ChainId) (cause : Fault) :
    (Fault.inRoute kind fromChain toChain cause).lacksToken = cause.lacksToken := rfl

/-! ## Results that an extension keeps -/

/-- The second result is the first one, unless the first one is the lack of a token. -/
def Kept {α : Type} (first second : Except Fault α) : Prop :=
  second = first ∨ ∃ fault, first = .error fault ∧ fault.lacksToken = true

theorem Kept.refl {α : Type} (result : Except Fault α) : Kept result result := .inl rfl

/-- A chain of steps keeps its result if each of its steps does. -/
theorem Kept.bind {α β : Type} {first second : Except Fault α} {next next' : α → Except Fault β}
    (hresult : Kept first second) (hnext : ∀ value, Kept (next value) (next' value)) :
    Kept (first >>= next) (second >>= next') := by
  rcases hresult with rfl | ⟨fault, rfl, hlacks⟩
  · cases second with
    | ok value => exact hnext value
    | error fault => exact .refl (.error fault)
  · exact .inr ⟨fault, rfl, hlacks⟩

theorem Kept.within {α : Type} {first second : Except Fault α} (kind : Kind)
    (fromChain toChain : ChainId) (hresult : Kept first second) :
    Kept (within kind fromChain toChain first) (within kind fromChain toChain second) := by
  rcases hresult with rfl | ⟨fault, rfl, hlacks⟩
  · exact .refl _
  · exact .inr ⟨.inRoute kind fromChain toChain fault, rfl, hlacks⟩

/-- Both runs refuse the same repetitions, since what they have seen does not depend on the answers. -/
theorem kept_expandDistinct {δ ρ : Type} [DecidableEq δ] (twice : δ → Fault)
    {expand expand' : δ → Except Fault ρ}
    (hexpand : ∀ declaration, Kept (expand declaration) (expand' declaration))
    (seen declarations : List δ) :
    Kept (expandDistinct twice expand seen declarations)
      (expandDistinct twice expand' seen declarations) := by
  induction declarations generalizing seen with
  | nil => exact .refl _
  | cons declaration rest ih =>
    unfold expandDistinct
    by_cases hseen : declaration ∈ seen
    · rw [if_pos hseen, if_pos hseen]
      exact .refl _
    · rw [if_neg hseen, if_neg hseen]
      apply (hexpand declaration).bind
      intro route
      apply (ih (declaration :: seen)).bind
      intro routes
      exact .refl _

/-! ## The compilation -/

section Steps

variable {source larger : Token.Source} (hextends : Token.Source.Extends larger source)
include hextends

theorem kept_resolve (key : ChainId) (symbol : String) (chain : ChainId) :
    Kept (Token.resolve source key symbol chain) (Token.resolve larger key symbol chain) := by
  unfold Token.resolve
  cases haddress : source symbol chain with
  | none => exact .inr ⟨.unknownToken symbol chain, rfl, rfl⟩
  | some address =>
    rw [hextends symbol chain address haddress]
    cases hidentity : source (Token.Alias.canonical symbol) key with
    | none => exact .inr ⟨.unknownHubToken symbol key, rfl, rfl⟩
    | some hubAddress =>
      rw [hextends (Token.Alias.canonical symbol) key hubAddress hidentity]
      exact .refl _

theorem kept_bridgeLeg (key : ChainId) (nativeSymbol : String) (origin : Origin) (pair : BridgePair) :
    Kept (bridgeLeg ⟨source, key, nativeSymbol⟩ origin pair)
      (bridgeLeg ⟨larger, key, nativeSymbol⟩ origin pair) := by
  apply (kept_resolve hextends key pair.input origin.chain).bind
  intro input
  apply (kept_resolve hextends key pair.output pair.toChain).bind
  intro output
  exact .refl _

theorem kept_swapLeg (key : ChainId) (nativeSymbol : String) (origin : Origin) (declared : SwapPair) :
    Kept (swapLeg ⟨source, key, nativeSymbol⟩ origin declared)
      (swapLeg ⟨larger, key, nativeSymbol⟩ origin declared) := by
  apply (kept_resolve hextends key declared.swapInput origin.chain).bind
  intro swapped
  apply (kept_bridgeLeg hextends key nativeSymbol origin declared.pair).bind
  intro bridge
  exact .refl _

theorem kept_bridgeRoutes (key : ChainId) (nativeSymbol : String) (origin : Origin) :
    Kept (bridgeRoutes ⟨source, key, nativeSymbol⟩ origin)
      (bridgeRoutes ⟨larger, key, nativeSymbol⟩ origin) := by
  apply kept_expandDistinct
  intro pair
  exact (kept_bridgeLeg hextends key nativeSymbol origin pair).within _ _ _

theorem kept_swapRoutes (key : ChainId) (nativeSymbol : String) (origin : Origin) :
    Kept (swapRoutes ⟨source, key, nativeSymbol⟩ origin)
      (swapRoutes ⟨larger, key, nativeSymbol⟩ origin) := by
  apply kept_expandDistinct
  intro declared
  exact (kept_swapLeg hextends key nativeSymbol origin declared).within _ _ _

theorem kept_originRoutes (hub : Hub) (origins : List Origin) :
    Kept (originRoutes source hub origins) (originRoutes larger hub origins) := by
  induction origins with
  | nil => exact .refl _
  | cons origin rest ih =>
    apply (kept_bridgeRoutes hextends hub.chain (hub.nativeSymbolOf origin) origin).bind
    intro bridges
    apply (kept_swapRoutes hextends hub.chain (hub.nativeSymbolOf origin) origin).bind
    intro swaps
    apply ih.bind
    intro later
    exact .refl _

/-- More answers keep the result of a compilation, unless it lacked a token. -/
theorem kept_compile (document : Document) (key : ChainId) :
    Kept (compile document source key) (compile document larger key) := by
  apply (Kept.refl (document.hub key)).bind
  intro hub
  apply (kept_resolve hextends key hub.wrappedNativeSymbol key).bind
  intro wrappedNative
  apply (kept_resolve hextends key hub.protocolSymbol key).bind
  intro protocolToken
  apply (kept_originRoutes hextends hub hub.origins).bind
  intro routes
  exact .refl _

end Steps

/-- A fault is the lack of a token exactly if its root is an unknown token, on its own chain or on the hub chain. -/
theorem Fault.lacksToken_eq_true_iff (fault : Fault) :
    fault.lacksToken = true ↔ (∃ symbol chain, fault.root = .unknownToken symbol chain) ∨
      ∃ symbol hub, fault.root = .unknownHubToken symbol hub := by
  unfold Fault.lacksToken
  cases fault.root <;> simp

/-- Against a larger registry a table is compiled to the same table, and a hub that is not supported, a
repeated declaration and a pair of different assets stay the same fault. Only the lack of a token may
become another result. -/
theorem compile_eq_of_extends (document : Document) (source larger : Token.Source) (key : ChainId)
    (hextends : Token.Source.Extends larger source) :
    (∀ table, compile document source key = .ok table → compile document larger key = .ok table) ∧
    (∀ fault, compile document source key = .error fault →
      ((∃ hub, fault.root = .unsupportedHub hub) ∨
        (∃ kind fromChain toChain input output,
          fault.root = .duplicate kind fromChain toChain input output) ∨
        ∃ originChain destinationChain input output,
          fault.root = .differentAssets originChain destinationChain input output) →
      compile document larger key = .error fault) ∧
    (compile document larger key ≠ compile document source key →
      ∃ fault, compile document source key = .error fault ∧
        ((∃ symbol chain, fault.root = .unknownToken symbol chain) ∨
          ∃ symbol hub, fault.root = .unknownHubToken symbol hub)) := by
  have hkept := kept_compile hextends document key
  refine ⟨?_, ?_, ?_⟩
  · intro table hcompiled
    rcases hkept with hsame | ⟨fault, hfault, -⟩
    · rw [hsame, hcompiled]
    · rw [hcompiled] at hfault
      cases hfault
  · intro fault hfailed hroot
    have hknown : fault.lacksToken = false := by
      unfold Fault.lacksToken
      rcases hroot with ⟨_, hroot⟩ | ⟨_, _, _, _, _, hroot⟩ | ⟨_, _, _, _, hroot⟩
      · rw [hroot]
      · rw [hroot]
      · rw [hroot]
    rcases hkept with hsame | ⟨other, hother, hlacks⟩
    · rw [hsame, hfailed]
    · obtain rfl : fault = other := Except.error.inj (hfailed.symm.trans hother)
      rw [hknown] at hlacks
      cases hlacks
  · intro hdiffers
    rcases hkept with hsame | ⟨fault, hfault, hlacks⟩
    · exact absurd hsame hdiffers
    · exact ⟨fault, hfault, (Fault.lacksToken_eq_true_iff fault).1 hlacks⟩

/-- One more token changes neither a table nor the refusal of a chain without a hub. -/
theorem compile_eq_of_extends_twoChain :
    Token.Source.Extends (twoChainRegistry.insert "DAI" 1 (.replicate 0x41)).address?
        twoChainRegistry.address? ∧
      (∃ table, compile twoChainDocument twoChainRegistry.address? 1 = .ok table ∧
        compile twoChainDocument (twoChainRegistry.insert "DAI" 1 (.replicate 0x41)).address? 1 =
          .ok table) ∧
      compile twoChainDocument (twoChainRegistry.insert "DAI" 1 (.replicate 0x41)).address? 7 =
        .error (.unsupportedHub 7) := by
  have hextends := twoChainRegistry.extends_insert "DAI" 1 (.replicate 0x41) (by rfl)
  refine ⟨hextends, ⟨_, rfl, ?_⟩, ?_⟩
  · exact (compile_eq_of_extends twoChainDocument _ _ 1 hextends).1 _ rfl
  · exact (compile_eq_of_extends twoChainDocument _ _ 7 hextends).2.1 _ rfl (.inl ⟨7, rfl⟩)

end Route

end HubRoutes
