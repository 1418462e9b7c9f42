import HubRoutes.Proofs.Route.AssetIdentity
import HubRoutes.Proofs.Route.FirstFault

/-!
# One asset along every path

Routes of all tables that are compiled for one hub chain against one registry are taken together, whatever
documents the tables come from. A route has one hub address, and it is the registry's answer for the canonical
symbol of either end. So routes that meet in a canonical symbol carry one asset, and by induction so do all
routes of a path, through any number of chains, variants of a token and kinds of routes.

For the same reason a pair of tokens is refused as different assets on account of its two canonical symbols
alone. The chains only decide whether the two tokens are known.
-/

namespace HubRoutes

/-! ## Canonical symbols -/

namespace Token.Alias

/-- What a variant stands for is never a variant itself. -/
theorem lookup_eq_none_of_mem {entry : String × String} (hentry : entry ∈ variants) :
    variants.lookup entry.2 = none := by
  have hall : ∀ entry ∈ variants, variants.lookup entry.2 = none := by decide
  exact hall entry hentry

theorem mem_variants_of_lookup {symbol other : String} (hfound : variants.lookup symbol = some other) :
    (symbol, other) ∈ variants := by
  rcases List.lookup_eq_some_iff.1 hfound with ⟨before, after, hsplit, -⟩
  rw [hsplit]
  exact List.mem_append_right before List.mem_cons_self

/-- A symbol is canonical, or it is a variant of a symbol that is. -/
theorem lookup_canonical (symbol : String) : variants.lookup (canonical symbol) = none := by
  cases hfound : variants.lookup symbol with
  | none => rw [canonical, hfound, Option.getD_none, hfound]
  | some other =>
    rw [canonical, hfound, Option.getD_some]
    exact lookup_eq_none_of_mem (mem_variants_of_lookup hfound)

/-- The symbol that a variant stands for is no variant itself. -/
@[simp] theorem canonical_canonical (symbol : String) : canonical (canonical symbol) = canonical symbol := by
  rw [canonical, lookup_canonical, Option.getD_none]

/-- The variants are the symbols that are known under another one. -/
theorem isAlias_eq_true_iff (symbol : String) : isAlias symbol = true ↔ canonical symbol ≠ symbol := by
  cases hfound : variants.lookup symbol with
  | none => simp [isAlias, canonical, hfound]
  | some other =>
    have hother := lookup_eq_none_of_mem (mem_variants_of_lookup hfound)
    have hne : other ≠ symbol := by
      rintro rfl
      rw [hfound] at hother
      cases hother
    simp [isAlias, canonical, hfound, hne]

end Token.Alias

namespace Route

open Declaration (Origin)
open Token.Alias (canonical)

/-! ## Routes and paths -/

/-- The symbols at the two ends of a route. -/
def Bridge.symbols (bridge : Bridge) : List String := [bridge.fromSymbol, bridge.toSymbol]

/-- A route or the bridge of a swap route in a table that some document is compiled to. -/
def IsCompiled (source : Token.Source) (key : ChainId) (leg : Bridge) : Prop :=
  ∃ document table, compile document source key = .ok table ∧ leg ∈ table.legs

/-- A route starts where an earlier one ends, or at a symbol with the same canonical form. -/
def Bridge.Continues (earlier later : Bridge) : Prop :=
  (later.fromChain = earlier.toChain ∧ later.fromSymbol = earlier.toSymbol) ∨
    canonical later.fromSymbol = canonical earlier.toSymbol

theorem Bridge.Continues.canonical_eq {earlier later : Bridge} (hcontinues : earlier.Continues later) :
    canonical earlier.toSymbol = canonical later.fromSymbol := by
  rcases hcontinues with ⟨-, hsymbol⟩ | hcanonical
  · rw [hsymbol]
  · exact hcanonical.symm

/-- The hub address of a route is the registry's answer for the canonical symbol of either end. -/
theorem IsCompiled.identity {source : Token.Source} {key : ChainId} {leg : Bridge}
    (hcompiled : IsCompiled source key leg) {symbol : String} (hsymbol : symbol ∈ leg.symbols) :
    source (canonical symbol) key = some leg.hubAddress := by
  rcases hcompiled with ⟨document, table, htable, hleg⟩
  have hidentified := identified_of_mem_legs htable hleg
  simp only [Bridge.symbols, List.mem_cons, List.not_mem_nil, or_false] at hsymbol
  rcases hsymbol with rfl | rfl
  · exact hidentified.fromIdentity
  · exact hidentified.toIdentity

/-- Two legs with symbols of one token have one identity. -/
theorem hubAddress_eq_of_canonical_eq {source : Token.Source} {key : ChainId} {first second : Bridge}
    (hfirst : IsCompiled source key first) (hsecond : IsCompiled source key second)
    {symbol other : String} (hsymbol : symbol ∈ first.symbols) (hother : other ∈ second.symbols)
    (hcanonical : canonical symbol = canonical other) : first.hubAddress = second.hubAddress := by
  have hidentity := hfirst.identity hsymbol
  rw [hcanonical, hsecond.identity hother] at hidentity
  exact (Option.some.inj hidentity).symm

/-- Every route of a path carries the asset that the path starts with. -/
theorem hubAddress_eq_of_isChain {source : Token.Source} {key : ChainId} {start : Bridge}
    {path : List Bridge} (hcompiled : ∀ leg ∈ start :: path, IsCompiled source key leg)
    (hpath : (start :: path).IsChain Bridge.Continues) :
    ∀ leg ∈ start :: path, leg.hubAddress = start.hubAddress := by
  induction path generalizing start with
  | nil =>
    intro leg hleg
    rw [List.mem_singleton.1 hleg]
  | cons next rest ih =>
    obtain ⟨hcontinues, hrest⟩ := List.isChain_cons_cons.1 hpath
    have hlater : ∀ leg ∈ next :: rest, IsCompiled source key leg :=
      fun leg hleg ↦ hcompiled leg (List.mem_cons_of_mem _ hleg)
    have hmeet : start.hubAddress = next.hubAddress :=
      hubAddress_eq_of_canonical_eq (hcompiled start List.mem_cons_self)
        (hlater next List.mem_cons_self) (by simp [Bridge.symbols]) (by simp [Bridge.symbols])
        hcontinues.canonical_eq
    refine List.forall_mem_cons.2 ⟨rfl, fun leg hleg ↦ ?_⟩
    rw [ih hlater hrest leg hleg, hmeet]

/-! ## Refused pairs -/

/-- A result is the refusal of a pair of different assets. -/
def RefusesAssets {α : Type} (result : Except Fault α) : Prop :=
  ∃ originChain destinationChain input output,
    result = .error (.differentAssets originChain destinationChain input output)

/-- A token has no fault exactly if it is known. -/
theorem tokenFault?_eq_none_iff (source : Token.Source) (key : ChainId) (symbol : String)
    (chain : ChainId) : tokenFault? source key symbol chain = none ↔ Known source key symbol chain := by
  unfold tokenFault? Known
  cases source symbol chain with
  | none => simp
  | some address => cases source (canonical symbol) key <;> simp

theorem tokenFault?_ne_differentAssets {source : Token.Source} {key : ChainId} {symbol : String}
    {chain originChain destinationChain : ChainId} {input output : String} :
    tokenFault? source key symbol chain ≠
      some (.differentAssets originChain destinationChain input output) := by
  unfold tokenFault?
  split_ifs <;> simp

/-- A pair is refused as different assets exactly if both tokens are known and their canonical symbols have
different answers on the hub chain. -/
theorem refusesAssets_bridgeLeg_iff (context : Context) (origin : Origin) (pair : BridgePair) :
    RefusesAssets (bridgeLeg context origin pair) ↔
      Known context.source context.hub pair.input origin.chain ∧
      Known context.source context.hub pair.output pair.toChain ∧
      context.source (canonical pair.input) context.hub ≠
        context.source (canonical pair.output) context.hub := by
  simp only [RefusesAssets, ← faultOf_eq_some_iff, faultOf_bridgeLeg, pairFault?,
    Option.or_eq_some_iff, tokenFault?_ne_differentAssets, tokenFault?_eq_none_iff, false_or]
  constructor
  · intro hrefused
    rcases hrefused with ⟨_, _, _, _, hinput, houtput, hidentity⟩
    refine ⟨hinput, houtput, fun hsame ↦ ?_⟩
    rw [if_pos hsame] at hidentity
    cases hidentity
  · intro hknown
    rcases hknown with ⟨hinput, houtput, hidentity⟩
    exact ⟨_, _, _, _, hinput, houtput, if_neg hidentity⟩

/-- A swap is refused for its assets where its token is known and its pair is refused for them. -/
theorem refusesAssets_swapLeg_iff (context : Context) (origin : Origin) (declared : SwapPair) :
    RefusesAssets (swapLeg context origin declared) ↔
      Known context.source context.hub declared.swapInput origin.chain ∧
        RefusesAssets (bridgeLeg context origin declared.pair) := by
  simp only [RefusesAssets, ← faultOf_eq_some_iff, faultOf_swapLeg, faultOf_bridgeLeg,
    Option.or_eq_some_iff, tokenFault?_ne_differentAssets, tokenFault?_eq_none_iff, false_or,
    exists_and_left]

/-! ## Paths of compiled routes -/

/-- Among all routes that are compiled for one hub chain against one registry, those that share a canonical
symbol at any of their ends have one hub address, and so have all routes of a path. A declared pair, also
behind a swap, is refused as different assets on account of its canonical symbols alone: on no chains if they
are one symbol, and on some chains exactly if on all chains where its tokens are known. The canonical form of
a symbol is canonical, and the variants are the symbols that differ from it. -/
theorem one_asset_along_every_path (source : Token.Source) (key : ChainId) :
    (∀ first second, IsCompiled source key first → IsCompiled source key second →
      ∀ symbol ∈ first.symbols, ∀ other ∈ second.symbols,
        canonical symbol = canonical other → first.hubAddress = second.hubAddress) ∧
    (∀ path : List Bridge, (∀ leg ∈ path, IsCompiled source key leg) →
      path.IsChain Bridge.Continues →
        ∀ first ∈ path, ∀ second ∈ path, first.hubAddress = second.hubAddress) ∧
    (∀ (nativeSymbol : String) (origin : Origin) (pair : BridgePair),
      Known source key pair.input origin.chain → Known source key pair.output pair.toChain →
      (canonical pair.input = canonical pair.output →
        ¬RefusesAssets (bridgeLeg ⟨source, key, nativeSymbol⟩ origin pair)) ∧
      (RefusesAssets (bridgeLeg ⟨source, key, nativeSymbol⟩ origin pair) ↔
        ∀ (nativeSymbol' : String) (origin' : Origin) (pair' : BridgePair),
          canonical pair'.input = canonical pair.input →
          canonical pair'.output = canonical pair.output →
          Known source key pair'.input origin'.chain → Known source key pair'.output pair'.toChain →
          RefusesAssets (bridgeLeg ⟨source, key, nativeSymbol'⟩ origin' pair')) ∧
      ∀ swapInput, Known source key swapInput origin.chain →
        (RefusesAssets (swapLeg ⟨source, key, nativeSymbol⟩ origin ⟨swapInput, pair⟩) ↔
          RefusesAssets (bridgeLeg ⟨source, key, nativeSymbol⟩ origin pair))) ∧
    ∀ symbol, canonical (canonical symbol) = canonical symbol ∧
      (Token.Alias.isAlias symbol = true ↔ canonical symbol ≠ symbol) := by
  refine ⟨?_, ?_, ?_, ?_⟩
  · intro first second hfirst hsecond symbol hsymbol other hother hcanonical
    exact hubAddress_eq_of_canonical_eq hfirst hsecond hsymbol hother hcanonical
  · intro path hcompiled hpath first hfirst second hsecond
    cases path with
    | nil => cases hfirst
    | cons start rest =>
      have hstart := hubAddress_eq_of_isChain hcompiled hpath
      rw [hstart first hfirst, hstart second hsecond]
  · intro nativeSymbol origin pair hinput houtput
    simp only [refusesAssets_swapLeg_iff, refusesAssets_bridgeLeg_iff]
    refine ⟨?_, ?_, ?_⟩
    · intro hcanonical hrefused
      exact hrefused.2.2 (by rw [hcanonical])
    · constructor
      · intro hrefused _ origin' pair' hsameInput hsameOutput hinput' houtput'
        rw [hsameInput, hsameOutput]
        exact ⟨hinput', houtput', hrefused.2.2⟩
      · intro hall
        exact hall nativeSymbol origin pair rfl rfl hinput houtput
    · intro swapInput hswapped
      exact and_iff_right hswapped
  · intro symbol
    exact ⟨Token.Alias.canonical_canonical symbol, Token.Alias.isAlias_eq_true_iff symbol⟩

/-- From the second chain to the hub chain and back, and then once more from the token that the bridged
variant stands for. -/
def twoChainPath : List Bridge :=
  [⟨10, 1, .replicate 0x13, .replicate 0x11, .replicate 0xc1, "USDC.e", "USDC", false, .replicate 0x11⟩,
    ⟨1, 10, .replicate 0x11, .replicate 0x13, .replicate 0xc2, "USDC", "USDC.e", false, .replicate 0x11⟩,
    ⟨10, 1, .replicate 0x12, .replicate 0x11, .replicate 0xc1, "USDC", "USDC", false, .replicate 0x11⟩]

/-- A path over an alias, a swap of another token into it, and a pair of two assets that is refused. -/
theorem one_asset_along_every_path_twoChain :
    ((∀ leg ∈ twoChainPath, IsCompiled twoChainRegistry.address? 1 leg) ∧
      twoChainPath.IsChain Bridge.Continues ∧
      ∀ first ∈ twoChainPath, ∀ second ∈ twoChainPath, first.hubAddress = second.hubAddress) ∧
    ∀ (nativeSymbol : String) (origin : Origin), origin.chain = 10 →
      ¬RefusesAssets (swapLeg ⟨twoChainRegistry.address?, 1, nativeSymbol⟩ origin
        ⟨"WETH", ⟨1, "USDC.e", "USDC"⟩⟩) ∧
      RefusesAssets (bridgeLeg ⟨twoChainRegistry.address?, 1, nativeSymbol⟩ origin
        ⟨10, "WETH", "USDC.e"⟩) := by
  obtain ⟨-, hpath, hpairs, -⟩ := one_asset_along_every_path twoChainRegistry.address? 1
  have hcompiled : ∀ leg ∈ twoChainPath, IsCompiled twoChainRegistry.address? 1 leg := by
    have htable : compile twoChainDocument twoChainRegistry.address? 1 = .ok _ := rfl
    intro leg hleg
    refine ⟨twoChainDocument, _, htable, ?_⟩
    revert leg
    decide
  have hchain : twoChainPath.IsChain Bridge.Continues :=
    .cons_cons (.inl ⟨rfl, rfl⟩) (.cons_cons (.inr (by decide)) (.singleton _))
  have hknown : ∀ deployment ∈ [("WETH", 1), ("WETH", 10), ("USDC.e", 10), ("USDC", 1)],
      Known twoChainRegistry.address? 1 deployment.1 deployment.2 := by
    unfold Known
    decide
  refine ⟨⟨hcompiled, hchain, hpath twoChainPath hcompiled hchain⟩, fun nativeSymbol origin horigin ↦ ?_⟩
  have hweth : Known twoChainRegistry.address? 1 "WETH" origin.chain :=
    horigin ▸ hknown ("WETH", 10) (by decide)
  have hvariant : Known twoChainRegistry.address? 1 "USDC.e" origin.chain :=
    horigin ▸ hknown ("USDC.e", 10) (by decide)
  obtain ⟨hsame, -, hswap⟩ := hpairs nativeSymbol origin ⟨1, "USDC.e", "USDC"⟩ hvariant
    (hknown ("USDC", 1) (by decide))
  refine ⟨fun hrefused ↦ hsame (by decide) ((hswap "WETH" hweth).1 hrefused), ?_⟩
  -- The pair is refused between the chains of one route, hence between all chains that know its tokens.
  have hrefused : RefusesAssets (bridgeLeg ⟨twoChainRegistry.address?, 1, nativeSymbol⟩
      ⟨1, .replicate 0xc2, none, []⟩ ⟨1, "WETH", "USDC"⟩) := ⟨1, 1, "WETH", "USDC", rfl⟩
  exact (hpairs nativeSymbol ⟨1, .replicate 0xc2, none, []⟩ ⟨1, "WETH", "USDC"⟩
    (hknown ("WETH", 1) (by decide)) (hknown ("USDC", 1) (by decide))).2.1.1 hrefused nativeSymbol
    origin ⟨10, "WETH", "USDC.e"⟩ (by decide) (by decide) hweth (hknown ("USDC.e", 10) (by decide))

end Route

end HubRoutes
