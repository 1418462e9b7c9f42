import HubRoutes.Proofs.Declaration.Validity
import HubRoutes.Proofs.Route.Expansion
import HubRoutes.Route.Table
import Mathlib.Data.List.Infix

/-!
# The first fault of a compilation

A compilation is read as a scan of independent steps: the look-up of the hub, the two tokens of the hub,
then for each origin its declared pairs and after them its declared swaps. Each step has a fault of its
own or none, told from the registry's answers and from the declarations before it. Compiling fails
exactly if some step has a fault, and then with that of the first such step, whatever comes later.

A fault of a declaration is named by the route exactly once, also where a swap reuses the bridge's
look-ups; the refusal of a repeated declaration and the faults of the hub itself are not wrapped.
-/

namespace HubRoutes.Route

open Declaration (Hub Origin)

/-! ## The steps of the scan -/

/-- A token is unknown on its chain, or else its identity is unknown on the hub chain. -/
def tokenFault? (source : Token.Source) (key : ChainId) (symbol : String) (chain : ChainId) :
    Option Fault :=
  if source symbol chain = none then some (.unknownToken symbol chain)
  else if source (Token.Alias.canonical symbol) key = none then some (.unknownHubToken symbol key)
  else none

/-- The input has a fault, or else the output, or else they are different assets. -/
def pairFault? (source : Token.Source) (key fromChain : ChainId) (pair : BridgePair) : Option Fault :=
  (tokenFault? source key pair.input fromChain).or <|
  (tokenFault? source key pair.output pair.toChain).or <|
  if source (Token.Alias.canonical pair.input) key = source (Token.Alias.canonical pair.output) key
  then none
  else some (.differentAssets fromChain pair.toChain pair.input pair.output)

/-- A step of the scan. A declaration comes with those of its origin and kind that were made earlier. -/
inductive Step
  | hub
  | hubToken (symbol : String)
  | bridge (fromChain : ChainId) (earlier : List BridgePair) (pair : BridgePair)
  | swap (fromChain : ChainId) (earlier : List SwapPair) (declared : SwapPair)

/-- The fault of a step, whatever the other steps have. -/
def Step.fault? (document : Document) (source : Token.Source) (key : ChainId) : Step → Option Fault
  | .hub => if document.hubs.find? key = none then some (.unsupportedHub key) else none
  | .hubToken symbol => tokenFault? source key symbol key
  | .bridge fromChain earlier pair =>
    if pair ∈ earlier then
      some (.duplicate .bridge fromChain pair.toChain pair.input pair.output)
    else (pairFault? source key fromChain pair).map (.inRoute .bridge fromChain pair.toChain)
  | .swap fromChain earlier ⟨swapInput, pair⟩ =>
    if ⟨swapInput, pair⟩ ∈ earlier then
      some (.duplicate .swap fromChain pair.toChain (pair.input ++ " (via " ++ swapInput ++ ")")
        pair.output)
    else
      ((tokenFault? source key swapInput fromChain).or (pairFault? source key fromChain pair)).map
        (.inRoute .swap fromChain pair.toChain)

/-- How a fault names its step: by one wrapper with the kind and chains of a declaration that is new,
and by none otherwise. -/
def Step.Labels : Step → Fault → Prop
  | .hub, fault | .hubToken _, fault => fault.isWrapped = false
  | .bridge fromChain earlier pair, fault =>
    if pair ∈ earlier then fault.isWrapped = false
    else ∃ cause, fault = .inRoute .bridge fromChain pair.toChain cause ∧ cause.isWrapped = false
  | .swap fromChain earlier declared, fault =>
    if declared ∈ earlier then fault.isWrapped = false
    else ∃ cause, fault = .inRoute .swap fromChain declared.pair.toChain cause ∧
      cause.isWrapped = false

/-- The bridge steps of an origin: its declared pairs by destination and position. -/
def bridgeSteps (origin : Origin) : List Step :=
  ((declaredPairs origin).inits.zip (declaredPairs origin)).map fun (earlier, pair) ↦
    .bridge origin.chain earlier pair

def swapSteps (origin : Origin) : List Step :=
  ((declaredSwaps origin).inits.zip (declaredSwaps origin)).map fun (earlier, declared) ↦
    .swap origin.chain earlier declared

/-- The steps of a compilation in their order. -/
def scan (document : Document) (key : ChainId) : List Step :=
  .hub :: match document.hubs.find? key with
    | none => []
    | some hub => .hubToken hub.wrappedNativeSymbol :: .hubToken hub.protocolSymbol ::
        hub.origins.flatMap fun origin ↦ bridgeSteps origin ++ swapSteps origin

theorem isWrapped_of_tokenFault? {source : Token.Source} {key : ChainId} {symbol : String}
    {chain : ChainId} {fault : Fault} (hfault : tokenFault? source key symbol chain = some fault) :
    fault.isWrapped = false := by
  unfold tokenFault? at hfault
  split_ifs at hfault
  · cases hfault
    rfl
  · cases hfault
    rfl

theorem isWrapped_of_pairFault? {source : Token.Source} {key fromChain : ChainId} {pair : BridgePair}
    {fault : Fault} (hfault : pairFault? source key fromChain pair = some fault) :
    fault.isWrapped = false := by
  simp only [pairFault?, Option.or_eq_some_iff] at hfault
  rcases hfault with hinput | ⟨-, houtput | ⟨-, hidentity⟩⟩
  · exact isWrapped_of_tokenFault? hinput
  · exact isWrapped_of_tokenFault? houtput
  · split_ifs at hidentity
    cases hidentity
    rfl

/-- The fault of a step names it by one wrapper, or by none if the declaration is a repeated one. -/
theorem Step.labels_of_fault? {document : Document} {source : Token.Source} {key : ChainId}
    {step : Step} {fault : Fault} (hfault : step.fault? document source key = some fault) :
    step.Labels fault := by
  cases step with
  | hub =>
    simp only [Step.fault?] at hfault
    split_ifs at hfault
    cases hfault
    rfl
  | hubToken symbol => exact isWrapped_of_tokenFault? hfault
  | bridge fromChain earlier pair =>
    simp only [Step.fault?] at hfault
    by_cases hearlier : pair ∈ earlier
    · rw [if_pos hearlier] at hfault
      cases hfault
      rw [Step.Labels, if_pos hearlier]
      rfl
    · rw [if_neg hearlier] at hfault
      rcases Option.map_eq_some_iff.1 hfault with ⟨cause, hcause, hwrapped⟩
      rw [Step.Labels, if_neg hearlier]
      exact ⟨cause, hwrapped.symm, isWrapped_of_pairFault? hcause⟩
  | swap fromChain earlier declared =>
    rcases declared with ⟨swapInput, pair⟩
    simp only [Step.fault?] at hfault
    by_cases hearlier : ⟨swapInput, pair⟩ ∈ earlier
    · rw [if_pos hearlier] at hfault
      cases hfault
      rw [Step.Labels, if_pos hearlier]
      rfl
    · rw [if_neg hearlier] at hfault
      rcases Option.map_eq_some_iff.1 hfault with ⟨cause, hcause, hwrapped⟩
      rw [Step.Labels, if_neg hearlier]
      rcases Option.or_eq_some_iff.1 hcause with hswapped | ⟨-, hpair⟩
      · exact ⟨cause, hwrapped.symm, isWrapped_of_tokenFault? hswapped⟩
      · exact ⟨cause, hwrapped.symm, isWrapped_of_pairFault? hpair⟩

/-! ## The fault of a result -/

/-- The fault of a result that has one. -/
def faultOf {α : Type} : Except Fault α → Option Fault
  | .ok _ => none
  | .error fault => some fault

@[simp] theorem faultOf_ok {α : Type} (value : α) : faultOf (.ok value) = none := rfl

@[simp] theorem faultOf_error {α : Type} (fault : Fault) :
    faultOf (.error fault : Except Fault α) = some fault := rfl

theorem faultOf_eq_some_iff {α : Type} {result : Except Fault α} {fault : Fault} :
    faultOf result = some fault ↔ result = .error fault := by
  cases result <;> simp

/-- The fault of two results in a row is that of the first one, or else that of the second. -/
theorem faultOf_bind {α β : Type} (result : Except Fault α) (next : α → Except Fault β)
    {later : Option Fault} (hlater : ∀ value, result = .ok value → faultOf (next value) = later) :
    faultOf (result >>= next) = (faultOf result).or later := by
  cases result with
  | ok value => exact hlater value rfl
  | error fault => rfl

theorem faultOf_within {α : Type} (kind : Kind) (fromChain toChain : ChainId)
    (result : Except Fault α) :
    faultOf (within kind fromChain toChain result) =
      (faultOf result).map (.inRoute kind fromChain toChain) := by
  cases result <;> rfl

theorem faultOf_resolve (source : Token.Source) (key : ChainId) (symbol : String) (chain : ChainId) :
    faultOf (Token.resolve source key symbol chain) = tokenFault? source key symbol chain := by
  unfold Token.resolve tokenFault?
  cases source symbol chain with
  | none => rfl
  | some address => cases source (Token.Alias.canonical symbol) key <;> simp

/-- A declared pair fails with the first fault of its input, its output and their identity. -/
theorem faultOf_bridgeLeg (context : Context) (origin : Origin) (pair : BridgePair) :
    faultOf (bridgeLeg context origin pair) =
      pairFault? context.source context.hub origin.chain pair := by
  rw [pairFault?, ← faultOf_resolve, ← faultOf_resolve]
  apply faultOf_bind
  intro input hinput
  apply faultOf_bind
  intro output houtput
  rcases (Token.resolve_eq_ok_iff ..).1 hinput with ⟨hchain, hsymbol, -, hidentity⟩
  rcases (Token.resolve_eq_ok_iff ..).1 houtput with ⟨hchain', hsymbol', -, hidentity'⟩
  rw [hidentity, hidentity', ← hchain, ← hchain', ← hsymbol, ← hsymbol']
  by_cases hsame : input.hubAddress = output.hubAddress
  · rw [(Token.ensureSameAsset_eq_ok_iff input output ()).2 hsame, hsame, if_pos rfl]
    rfl
  · have hrefused : Token.ensureSameAsset input output =
        .error (.differentAssets input.chain output.chain input.symbol output.symbol) := by
      rw [Token.ensureSameAsset, if_neg (by simpa using hsame)]
    rw [hrefused, if_neg (by simpa using hsame)]
    rfl

/-- A declared swap fails with the fault of its swapped token, or else with that of its pair. -/
theorem faultOf_swapLeg (context : Context) (origin : Origin) (declared : SwapPair) :
    faultOf (swapLeg context origin declared) =
      (tokenFault? context.source context.hub declared.swapInput origin.chain).or
        (pairFault? context.source context.hub origin.chain declared.pair) := by
  calc
    faultOf (swapLeg context origin declared) =
        (faultOf (Token.resolve context.source context.hub declared.swapInput origin.chain)).or
          (faultOf (bridgeLeg context origin declared.pair)) := by
      apply faultOf_bind
      intro swapped _
      cases bridgeLeg context origin declared.pair <;> rfl
    _ = (tokenFault? context.source context.hub declared.swapInput origin.chain).or
        (pairFault? context.source context.hub origin.chain declared.pair) := by
      rw [faultOf_resolve, faultOf_bridgeLeg]

/-! ## The fault of a scan -/

/-- A declaration is compared with those that were seen before and with those that stand before it. -/
theorem faultOf_expandDistinct {δ ρ : Type} [DecidableEq δ] (twice : δ → Fault)
    (expand : δ → Except Fault ρ) (seen declarations : List δ) :
    faultOf (expandDistinct twice expand seen declarations) =
      (declarations.inits.zip declarations).findSome? fun (earlier, declaration) ↦
        if declaration ∈ seen ∨ declaration ∈ earlier then some (twice declaration)
        else faultOf (expand declaration) := by
  induction declarations generalizing seen with
  | nil => rfl
  | cons declaration rest ih =>
    -- The head is either in every later prefix or in all that was seen; no comparison tells which.
    have hrest : ((rest.inits.map (declaration :: ·)).zip rest).findSome? (fun (earlier, later) ↦
          if later ∈ seen ∨ later ∈ earlier then some (twice later) else faultOf (expand later)) =
        faultOf (expandDistinct twice expand (declaration :: seen) rest) := by
      rw [ih, List.zip_map_left, List.findSome?_map]
      congr 1
      funext ⟨earlier, later⟩
      simp only [Function.comp_apply, Prod.map_apply, id_eq, List.mem_cons]
      congr 1
      rw [eq_iff_iff, or_assoc, or_left_comm]
    rw [List.inits_cons, List.zip_cons_cons, List.findSome?_cons, hrest]
    by_cases hseen : declaration ∈ seen
    · simp [expandDistinct, hseen]
    · calc
        faultOf (expandDistinct twice expand seen (declaration :: rest)) =
            (faultOf (expand declaration)).or
              (faultOf (expandDistinct twice expand (declaration :: seen) rest)) := by
          rw [expandDistinct, if_neg hseen]
          apply faultOf_bind
          intro route _
          cases expandDistinct twice expand (declaration :: seen) rest <;> rfl
        _ = _ := by
          simp only [hseen, List.not_mem_nil, or_self, if_false]
          cases faultOf (expand declaration) <;> rfl

/-- The bridge routes of an origin fail with the first fault of its bridge steps. -/
theorem faultOf_bridgeRoutes (document : Document) (source : Token.Source) (key : ChainId)
    (nativeSymbol : String) (origin : Origin) :
    faultOf (bridgeRoutes ⟨source, key, nativeSymbol⟩ origin) =
      (bridgeSteps origin).findSome? (Step.fault? document source key) := by
  rw [bridgeRoutes, bridgePairs_eq, faultOf_expandDistinct, bridgeSteps, List.findSome?_map]
  congr 1
  funext step
  obtain ⟨earlier, pair⟩ := step
  simp only [Function.comp_apply, Step.fault?, faultOf_within, faultOf_bridgeLeg, List.not_mem_nil,
    false_or]

/-- The swap routes of an origin fail with the first fault of its swap steps. -/
theorem faultOf_swapRoutes (document : Document) (source : Token.Source) (key : ChainId)
    (nativeSymbol : String) (origin : Origin) :
    faultOf (swapRoutes ⟨source, key, nativeSymbol⟩ origin) =
      (swapSteps origin).findSome? (Step.fault? document source key) := by
  rw [swapRoutes, swapPairs_eq, faultOf_expandDistinct, swapSteps, List.findSome?_map]
  congr 1
  funext step
  obtain ⟨earlier, declared⟩ := step
  simp only [Function.comp_apply, Step.fault?, faultOf_within, faultOf_swapLeg, duplicateSwap,
    List.not_mem_nil, false_or]

/-- The swap steps of an origin come before the bridge steps of the next one. -/
theorem faultOf_originRoutes (document : Document) (source : Token.Source) (hub : Hub)
    (origins : List Origin) :
    faultOf (originRoutes source hub origins) =
      (origins.flatMap fun origin ↦ bridgeSteps origin ++ swapSteps origin).findSome?
        (Step.fault? document source hub.chain) := by
  induction origins with
  | nil => rfl
  | cons origin rest ih =>
    calc
      faultOf (originRoutes source hub (origin :: rest)) =
          (faultOf (bridgeRoutes ⟨source, hub.chain, hub.nativeSymbolOf origin⟩ origin)).or
            ((faultOf (swapRoutes ⟨source, hub.chain, hub.nativeSymbolOf origin⟩ origin)).or
              (faultOf (originRoutes source hub rest))) := by
        apply faultOf_bind
        intro bridges _
        apply faultOf_bind
        intro swaps _
        cases originRoutes source hub rest <;> rfl
      _ = (bridgeSteps origin ++ (swapSteps origin ++
            rest.flatMap fun later ↦ bridgeSteps later ++ swapSteps later)).findSome?
              (Step.fault? document source hub.chain) := by
        rw [faultOf_bridgeRoutes document, faultOf_swapRoutes document, ih, List.findSome?_append,
          List.findSome?_append]
      _ = _ := by rw [List.flatMap_cons, List.append_assoc]

theorem faultOf_tableOf (document : Document) (source : Token.Source) (hub : Hub) :
    faultOf (tableOf source hub.chain hub) =
      (.hubToken hub.wrappedNativeSymbol :: .hubToken hub.protocolSymbol ::
        hub.origins.flatMap fun origin ↦ bridgeSteps origin ++ swapSteps origin).findSome?
          (Step.fault? document source hub.chain) := by
  have hcons (step : Step) (rest : List Step) :
      (step :: rest).findSome? (Step.fault? document source hub.chain) =
        (step.fault? document source hub.chain).or
          (rest.findSome? (Step.fault? document source hub.chain)) := by
    rw [List.findSome?_cons]
    cases step.fault? document source hub.chain <;> rfl
  calc
    faultOf (tableOf source hub.chain hub) =
        (faultOf (Token.resolve source hub.chain hub.wrappedNativeSymbol hub.chain)).or
          ((faultOf (Token.resolve source hub.chain hub.protocolSymbol hub.chain)).or
            (faultOf (originRoutes source hub hub.origins))) := by
      apply faultOf_bind
      intro wrapped _
      apply faultOf_bind
      intro protocol _
      cases originRoutes source hub hub.origins <;> rfl
    _ = (Step.fault? document source hub.chain (.hubToken hub.wrappedNativeSymbol)).or
          ((Step.fault? document source hub.chain (.hubToken hub.protocolSymbol)).or
            ((hub.origins.flatMap fun origin ↦ bridgeSteps origin ++ swapSteps origin).findSome?
              (Step.fault? document source hub.chain))) := by
      rw [faultOf_resolve, faultOf_resolve, faultOf_originRoutes document, Step.fault?, Step.fault?]
    _ = _ := by rw [hcons, hcons]

/-- A compilation fails with the first fault of its scan. -/
theorem faultOf_compile (document : Document) (source : Token.Source) (key : ChainId) :
    faultOf (compile document source key) =
      (scan document key).findSome? (Step.fault? document source key) := by
  rw [scan, List.findSome?_cons]
  cases hfound : document.hubs.find? key with
  | none =>
    have hhub : document.hub key = .error (.unsupportedHub key) := by rw [Document.hub, hfound]
    simp [compile, hhub, Step.fault?, hfound, Bind.bind, Except.bind]
  | some hub =>
    have hhub : document.hub key = .ok hub := (document.hub_eq_ok_iff key hub).2 hfound
    -- The routes are expanded for the hub's own chain, which is the key only since documents are valid.
    have hkey : hub.chain = key := (document.valid_of_find? hfound).chain_eq
    subst hkey
    have hpassed : Step.fault? document source hub.chain .hub = none := by simp [Step.fault?, hfound]
    rw [hpassed]
    calc
      faultOf (compile document source hub.chain) = faultOf (tableOf source hub.chain hub) := by
        rw [compile, hhub]
        rfl
      _ = _ := faultOf_tableOf document source hub

/-- Compiling fails exactly if a step of the scan has a fault, and then with the fault of the first such
step, which names that step as its label says. -/
theorem compile_eq_error_iff_first_fault (document : Document) (source : Token.Source) (key : ChainId)
    (fault : Fault) :
    compile document source key = .error fault ↔
      ∃ passed step later, scan document key = passed ++ step :: later ∧
        (∀ earlier ∈ passed, earlier.fault? document source key = none) ∧
        step.fault? document source key = some fault ∧ step.Labels fault := by
  rw [← faultOf_eq_some_iff, faultOf_compile, List.findSome?_eq_some_iff]
  constructor
  · intro hfirst
    rcases hfirst with ⟨passed, step, later, hscan, hfault, hpassed⟩
    exact ⟨passed, step, later, hscan, hpassed, hfault, Step.labels_of_fault? hfault⟩
  · intro hfirst
    rcases hfirst with ⟨passed, step, later, hscan, hpassed, hfault, -⟩
    exact ⟨passed, step, later, hscan, hfault, hpassed⟩

end HubRoutes.Route
