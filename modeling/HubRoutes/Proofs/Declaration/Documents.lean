import HubRoutes.Proofs.Declaration.Filing
import HubRoutes.Proofs.Declaration.Spelling
import HubRoutes.Proofs.Schema.Acceptance
import HubRoutes.Proofs.Schema.RoundTrip

/-!
# The documents of declarations

How hubs and registries are written down, field by field: addresses by their checksummed texts, chains by numbers
and as keys by decimal texts, a token by its symbol or by the pair of its symbols, and an absent field not at all or
as null. The entries of objects may be in any order. Whatever a hub holds, each of its documents is read to exactly
this hub, and nothing else than the documents of tokens is accepted among tokens.
-/

namespace HubRoutes.Declaration

open Schema (Accepts Denotes Loose)
open Schema.Fields (Denote)

/-! ## Documents of tokens -/

/-- A document stands for a declared token: a symbol for the token with this symbol on both chains, and a pair for
the token with these symbols, which are named in an object or listed in their order. -/
inductive WritesToken : Json → Token → Prop
  | same (symbol : String) : WritesToken (.text symbol) (.same symbol)
  | pair {document : Json} {input output : String}
    (hentries : document.HasEntries [("inputTokenSymbol", .text input), ("outputTokenSymbol", .text output)]) :
    WritesToken document (.pair input output)
  | listed (input output : String) : WritesToken (.list [.text input, .text output]) (.pair input output)

/-- Only a text has the shape of a text. -/
theorem loose_eq_text_iff {document : Json} {content : String} :
    document.loose = .text content ↔ document = .text content := by
  cases document with
  | number value => cases value <;> simp [Json.loose]
  | _ => simp [Json.loose]

theorem looseItems_eq_map (items : List Json) : Json.looseItems items = items.map Json.loose := by
  induction items with
  | nil => rfl
  | cons item rest ih => rw [Json.looseItems, List.map_cons, ih]

theorem looseEntries_eq_map (entries : List (String × Json)) :
    Json.looseEntries entries = entries.map fun entry ↦ (.text entry.1, entry.2.loose) := by
  induction entries with
  | nil => rfl
  | cons entry rest ih => rw [Json.looseEntries, List.map_cons, ih]

theorem pairField?_text_eq_true_iff {name : String} :
    pairField? (.text name) = some true ↔ name = "inputTokenSymbol" := by
  by_cases hinput : name = "inputTokenSymbol"
  · simp [pairField?, hinput]
  · by_cases houtput : name = "outputTokenSymbol" <;> simp [pairField?, hinput, houtput]

theorem pairField?_text_eq_false_iff {name : String} :
    pairField? (.text name) = some false ↔ name = "outputTokenSymbol" := by
  by_cases hinput : name = "inputTokenSymbol"
  · simp [pairField?, hinput]
  · by_cases houtput : name = "outputTokenSymbol" <;> simp [pairField?, hinput, houtput]

/-- Two entries with texts are recognised by their shapes. -/
theorem looseEntries_eq_pair_iff {entries : List (String × Json)} {key key' : Loose} {symbol symbol' : String} :
    Json.looseEntries entries = [(key, .text symbol), (key', .text symbol')] ↔
      ∃ name name', key = .text name ∧ key' = .text name' ∧
        entries = [(name, .text symbol), (name', .text symbol')] := by
  rw [looseEntries_eq_map]
  simp only [List.map_eq_cons_iff, List.map_eq_nil_iff, Prod.mk.injEq, loose_eq_text_iff]
  constructor
  · rintro ⟨⟨name, _⟩, _, rfl, ⟨hkey, rfl⟩, ⟨name', _⟩, _, rfl, ⟨hkey', rfl⟩, rfl⟩
    exact ⟨name, name', hkey.symm, hkey'.symm, rfl⟩
  · rintro ⟨name, name', rfl, rfl, rfl⟩
    exact ⟨_, _, rfl, ⟨rfl, rfl⟩, _, _, rfl, ⟨rfl, rfl⟩, rfl⟩

/-- An object is a pair of symbols if it has the two fields in some order and nothing else. -/
theorem pairOfEntries?_looseEntries_eq_some_iff {entries : List (String × Json)} {token : Token} :
    pairOfEntries? none none (Json.looseEntries entries) = some token ↔
      ∃ input output, entries.Perm [("inputTokenSymbol", .text input), ("outputTokenSymbol", .text output)] ∧
        .pair input output = token := by
  rw [pairOfEntries?_eq_some_iff]
  simp only [List.perm_pair, looseEntries_eq_pair_iff]
  constructor
  · rintro ⟨_, _, input, output, hinput, houtput, ⟨name, name', rfl, rfl, rfl⟩ | ⟨name', name, rfl, rfl, rfl⟩, rfl⟩
    · obtain rfl := pairField?_text_eq_true_iff.1 hinput
      obtain rfl := pairField?_text_eq_false_iff.1 houtput
      exact ⟨input, output, .inl rfl, rfl⟩
    · obtain rfl := pairField?_text_eq_true_iff.1 hinput
      obtain rfl := pairField?_text_eq_false_iff.1 houtput
      exact ⟨input, output, .inr rfl, rfl⟩
  · rintro ⟨input, output, rfl | rfl, rfl⟩
    · exact ⟨_, _, input, output, rfl, rfl, .inl ⟨_, _, rfl, rfl, rfl⟩, rfl⟩
    · exact ⟨_, _, input, output, rfl, rfl, .inr ⟨_, _, rfl, rfl, rfl⟩, rfl⟩

/-- A list is a pair of symbols if it holds two texts. -/
theorem tokenOfLoose?_looseItems_eq_some_iff {items : List Json} {token : Token} :
    tokenOfLoose? (.list (Json.looseItems items)) = some token ↔
      ∃ input output, items = [.text input, .text output] ∧ .pair input output = token := by
  have hshapes (input output : String) : Json.looseItems items = [.text input, .text output] ↔
      items = [.text input, .text output] := by
    rw [looseItems_eq_map]
    simp only [List.map_eq_cons_iff, List.map_eq_nil_iff, loose_eq_text_iff]
    constructor
    · rintro ⟨_, _, rfl, rfl, _, _, rfl, rfl, rfl⟩
      rfl
    · rintro rfl
      exact ⟨_, _, rfl, rfl, _, _, rfl, rfl, rfl⟩
  simp only [← hshapes]
  constructor
  · intro hchosen
    unfold tokenOfLoose? at hchosen
    split at hchosen
    case h_2 input output hlist => exact ⟨input, output, Loose.list.inj hlist, Option.some.inj hchosen⟩
    all_goals contradiction
  · rintro ⟨input, output, hlist, rfl⟩
    rw [hlist, tokenOfLoose?]

/-- The documents of a token are all that is taken for the token. -/
theorem tokenOfLoose?_eq_some_iff {document : Json} {token : Token} :
    tokenOfLoose? document.loose = some token ↔ WritesToken document token := by
  cases document with
  | text symbol =>
    rw [Json.loose, tokenOfLoose?, Option.some.injEq]
    constructor
    · rintro rfl
      exact .same symbol
    · rintro (_ | ⟨_, hobject, -⟩)
      · rfl
      · cases hobject
  | list items =>
    rw [Json.loose, tokenOfLoose?_looseItems_eq_some_iff]
    constructor
    · rintro ⟨input, output, rfl, rfl⟩
      exact .listed input output
    · rintro (_ | ⟨_, hobject, -⟩ | ⟨input, output⟩)
      · cases hobject
      · exact ⟨input, output, rfl, rfl⟩
  | object entries =>
    rw [Json.loose, tokenOfLoose?, pairOfEntries?_looseEntries_eq_some_iff]
    constructor
    · rintro ⟨input, output, hperm, rfl⟩
      exact .pair ⟨entries, rfl, hperm⟩
    · rintro (_ | ⟨_, hobject, hperm⟩)
      cases hobject
      exact ⟨_, _, hperm, rfl⟩
  | number value =>
    have hnone : tokenOfLoose? (Json.loose (.number value)) = none := by cases value <;> rfl
    constructor
    · rw [hnone]
      intro hchosen
      cases hchosen
    · rintro (_ | ⟨_, hobject, -⟩)
      cases hobject
  | _ =>
    constructor
    · intro hchosen
      cases hchosen
    · rintro (_ | ⟨_, hobject, -⟩)
      cases hobject

/-- A document is read as a token exactly if it stands for the token. -/
theorem read_tokenSchema_eq_ok_iff {place : Schema.Path} {document : Json} {token : Token} :
    tokenSchema.read Json.format place document = .ok token ↔ WritesToken document token := by
  rw [tokenSchema, Schema.read_choice_eq_ok_iff]
  exact ⟨fun ⟨_, rfl, hchosen⟩ ↦ tokenOfLoose?_eq_some_iff.1 hchosen,
    fun hwrites ↦ ⟨_, rfl, tokenOfLoose?_eq_some_iff.2 hwrites⟩⟩

/-! ## Documents of records -/

/-- The entries for an optional value: its document under the name, or for an absent value nothing or null. -/
def WritesOptional {α : Type} (name : String) (writes : Json → α → Prop) (entries : List (String × Json)) :
    Option α → Prop
  | none => entries = [] ∨ entries = [(name, .null)]
  | some value => ∃ document, writes document value ∧ entries = [(name, document)]

def WritesPool (document : Json) (pool : Pool) : Prop :=
  document.HasEntries [("tokenSymbol", .text pool.tokenSymbol), ("isNative", .flag pool.isNative)]

def WritesVerifier (document : Json) (verifier : Verifier) : Prop :=
  document.HasEntries [("address", .text verifier.address.text),
    ("enabledChains", .list (verifier.enabledChains.map fun chain ↦ .natural chain.toNat))]

def WritesSwap (document : Json) (swap : Swap) : Prop :=
  document.HasEntries [("swapInputTokenSymbol", .text swap.swapInput),
    ("acrossInputTokenSymbol", .text swap.bridgeInput), ("acrossOutputTokenSymbol", .text swap.bridgeOutput)]

def WritesDestination (document : Json) (destination : Destination) : Prop :=
  ∃ tokens swaps, List.Forall₂ WritesToken tokens destination.tokens ∧
    List.Forall₂ WritesSwap swaps destination.swaps ∧
    document.HasEntries [("chainId", .natural destination.chain.toNat), ("tokens", .list tokens),
      ("swapTokens", .list swaps)]

def WritesSymbol (document : Json) (symbol : String) : Prop := document = .text symbol

def WritesOrigin (document : Json) (origin : Origin) : Prop :=
  ∃ nativeSymbol destinations,
    WritesOptional "nativeTokenSymbol" WritesSymbol nativeSymbol origin.nativeSymbol ∧
    List.Forall₂ WritesDestination destinations origin.destinations ∧
    document.HasEntries ([("fromChain", .natural origin.chain.toNat), ("fromSpokeAddress", .text origin.spoke.text)] ++
      nativeSymbol ++ [("toChains", .list destinations)])

/-- The addresses of contracts under the decimal texts of their chains. -/
def WritesContracts (document : Json) (contracts : OrderedMap ChainId Address) : Prop :=
  document.HasEntries (contracts.entries.map fun entry ↦ (entry.1.text, .text entry.2.text))

def WritesRouters (document : Json) (routers : Routers) : Prop :=
  ∃ providers, List.Forall₂ (fun entry pair ↦ entry.1 = pair.1 ∧ WritesContracts entry.2 pair.2) providers
    routers.entries ∧ document.HasEntries providers

/-- A document of a hub, with its fields under their names. -/
def WritesHub (document : Json) (hub : Hub) : Prop :=
  ∃ routers pools verifier origins, WritesRouters routers hub.routers ∧ List.Forall₂ WritesPool pools hub.pools ∧
    WritesOptional "spokePoolVerifier" WritesVerifier verifier hub.verifier ∧
    List.Forall₂ WritesOrigin origins hub.origins ∧
    document.HasEntries ([("hubPoolChain", .natural hub.chain.toNat), ("hubPoolAddress", .text hub.pool.text),
      ("acrossConfigStoreAddress", .text hub.configStore.text),
      ("acceleratingDistributorAddress", .text hub.acceleratingDistributor.text),
      ("merkleDistributorAddress", .text hub.merkleDistributor.text),
      ("claimAndStakeAddress", .text hub.claimAndStake.text),
      ("wrappedNativeTokenSymbol", .text hub.wrappedNativeSymbol), ("protocolTokenSymbol", .text hub.protocolSymbol),
      ("nativeTokenSymbol", .text hub.nativeSymbol), ("swapAndBridgeAddresses", routers), ("pools", .list pools)] ++
      verifier ++ [("routes", .list origins)])

/-- A document of a registry: for each symbol the addresses of its deployments. -/
def WritesRegistry (document : Json) (registry : Token.Registry) : Prop :=
  ∃ tokens, List.Forall₂ (fun entry pair ↦ entry.1 = pair.1 ∧ ∃ addresses, WritesContracts addresses pair.2 ∧
    entry.2.HasEntries [("addresses", addresses)]) tokens registry.tokens.entries ∧ document.HasEntries tokens

/-! ## Every value has a document -/

theorem exists_documents {α β : Type} {writes : β → α → Prop} (hwrites : ∀ value, ∃ document, writes document value)
    (values : List α) : ∃ documents, List.Forall₂ writes documents values := by
  -- The documents are chosen along the values, so the relation is turned round.
  have heach : ∀ value ∈ values, ∃ document, flip writes value document := fun value _ ↦ hwrites value
  obtain ⟨documents, hdocuments⟩ := exists_forall₂_iff.2 heach
  exact ⟨documents, hdocuments.flip⟩

theorem exists_hasEntries (entries : List (String × Json)) : ∃ document : Json, document.HasEntries entries :=
  ⟨_, _, rfl, .refl _⟩

theorem exists_writesOptional {α : Type} (name : String) {writes : Json → α → Prop}
    (hwrites : ∀ value, ∃ document, writes document value) (value : Option α) :
    ∃ entries, WritesOptional name writes entries value := by
  cases value with
  | none => exact ⟨[], .inl rfl⟩
  | some value =>
    obtain ⟨document, hdocument⟩ := hwrites value
    exact ⟨_, document, hdocument, rfl⟩

/-- Every token has a document. -/
theorem exists_writesToken (token : Token) : ∃ document, WritesToken document token := by
  cases token with
  | same symbol => exact ⟨_, .same symbol⟩
  | pair input output =>
    obtain ⟨document, hentries⟩ := exists_hasEntries _
    exact ⟨document, .pair hentries⟩

/-- Every destination has a document. -/
theorem exists_writesDestination (destination : Destination) :
    ∃ document, WritesDestination document destination := by
  obtain ⟨tokens, htokens⟩ := exists_documents exists_writesToken destination.tokens
  obtain ⟨swaps, hswaps⟩ := exists_documents (fun _ ↦ exists_hasEntries _) destination.swaps
  obtain ⟨document, hentries⟩ := exists_hasEntries _
  exact ⟨document, tokens, swaps, htokens, hswaps, hentries⟩

/-- Every origin has a document. -/
theorem exists_writesOrigin (origin : Origin) : ∃ document, WritesOrigin document origin := by
  have hsymbol (symbol : String) : ∃ document, WritesSymbol document symbol := ⟨_, rfl⟩
  obtain ⟨nativeSymbol, hnative⟩ := exists_writesOptional "nativeTokenSymbol" hsymbol origin.nativeSymbol
  obtain ⟨destinations, hdestinations⟩ := exists_documents exists_writesDestination origin.destinations
  obtain ⟨document, hentries⟩ := exists_hasEntries _
  exact ⟨document, nativeSymbol, destinations, hnative, hdestinations, hentries⟩

theorem exists_namedDocuments {α : Type} {writes : Json → α → Prop}
    (hwrites : ∀ value, ∃ document, writes document value) (entries : List (String × α)) :
    ∃ documents, List.Forall₂ (fun (entry : String × Json) pair ↦ entry.1 = pair.1 ∧ writes entry.2 pair.2) documents
      entries := by
  apply exists_documents
  intro pair
  obtain ⟨document, hdocument⟩ := hwrites pair.2
  exact ⟨(pair.1, document), rfl, hdocument⟩

/-- Every hub can be written down. -/
theorem exists_writesHub (hub : Hub) : ∃ document, WritesHub document hub := by
  have hcontracts (contracts : OrderedMap ChainId Address) : ∃ document, WritesContracts document contracts :=
    exists_hasEntries _
  obtain ⟨providers, hproviders⟩ := exists_namedDocuments hcontracts hub.routers.entries
  obtain ⟨routers, hrouters⟩ := exists_hasEntries providers
  obtain ⟨pools, hpools⟩ := exists_documents (fun _ ↦ exists_hasEntries _) hub.pools
  obtain ⟨verifier, hverifier⟩ := exists_writesOptional "spokePoolVerifier" (fun _ ↦ exists_hasEntries _) hub.verifier
  obtain ⟨origins, horigins⟩ := exists_documents exists_writesOrigin hub.origins
  obtain ⟨document, hentries⟩ := exists_hasEntries _
  exact ⟨document, routers, pools, verifier, origins, ⟨providers, hproviders, hrouters⟩, hpools, hverifier, horigins,
    hentries⟩

/-- Every registry can be written down. -/
theorem exists_writesRegistry (registry : Token.Registry) : ∃ document, WritesRegistry document registry := by
  have hdeployments (deployments : Token.Deployments) : ∃ document : Json, ∃ addresses,
      WritesContracts addresses deployments ∧ document.HasEntries [("addresses", addresses)] := by
    obtain ⟨addresses, haddresses⟩ := exists_hasEntries _
    obtain ⟨document, hentries⟩ := exists_hasEntries _
    exact ⟨document, addresses, haddresses, hentries⟩
  obtain ⟨tokens, htokens⟩ := exists_namedDocuments hdeployments registry.tokens.entries
  obtain ⟨document, hentries⟩ := exists_hasEntries tokens
  exact ⟨document, tokens, htokens, hentries⟩

/-! ## Documents by schema -/

/-- An optional entry stands for a value that its document stands for, and if left out or null for none. -/
theorem denote_omittable {α τ : Type} {name : String} {schema : Schema α} {rest : Schema.Fields τ}
    {writes : Json → α → Prop} {front later : List (String × Json)} {value : Option α} {values : τ}
    (hvalue : WritesOptional name writes front value)
    (hdenotes : ∀ document value, writes document value → document ≠ .null ∧ schema.Denotes document value)
    (hrest : rest.Denote later values) :
    (Schema.Fields.omittable name schema rest).Denote (front ++ later) (value, values) := by
  cases value with
  | none =>
    obtain rfl | rfl := hvalue
    · exact ⟨later, .inl rfl, hrest⟩
    · exact ⟨later, .inr rfl, hrest⟩
  | some value =>
    obtain ⟨document, hwrites, rfl⟩ := hvalue
    obtain ⟨hpresent, hdocument⟩ := hdenotes document value hwrites
    exact ⟨document, later, rfl, hpresent, hdocument, hrest⟩

theorem denotes_chains (chains : List ChainId) :
    (Schema.list .chain).Denotes (.list (chains.map fun chain ↦ .natural chain.toNat)) chains := by
  have hchain (chain : ChainId) : Schema.chain.Denotes (.natural chain.toNat) chain := rfl
  exact ⟨_, rfl, Schema.forall₂_map_self hchain chains⟩

theorem denotes_pool {document : Json} {pool : Pool} (hwrites : WritesPool document pool) :
    poolSchema.Denotes document pool :=
  ⟨_, hwrites, _, _, rfl, rfl, _, _, rfl, rfl, rfl⟩

theorem denotes_verifier {document : Json} {verifier : Verifier} (hwrites : WritesVerifier document verifier) :
    verifierSchema.Denotes document verifier :=
  ⟨_, hwrites, _, _, rfl, rfl, _, _, rfl, denotes_chains verifier.enabledChains, rfl⟩

theorem denotes_swap {document : Json} {swap : Swap} (hwrites : WritesSwap document swap) :
    swapSchema.Denotes document swap :=
  ⟨_, hwrites, _, _, rfl, rfl, _, _, rfl, rfl, _, _, rfl, rfl, rfl⟩

theorem denotes_token {document : Json} {token : Token} (hwrites : WritesToken document token) :
    tokenSchema.Denotes document token :=
  tokenOfLoose?_eq_some_iff.2 hwrites

/-- A document of a destination is one in the sense of its schema. -/
theorem denotes_destination {document : Json} {destination : Destination}
    (hwrites : WritesDestination document destination) : destinationSchema.Denotes document destination := by
  obtain ⟨tokens, swaps, htokens, hswaps, hentries⟩ := hwrites
  have htokenList : (Schema.list tokenSchema).Denotes (.list tokens) destination.tokens :=
    ⟨tokens, rfl, htokens.imp fun _ _ ↦ denotes_token⟩
  have hswapList : (Schema.list swapSchema).Denotes (.list swaps) destination.swaps :=
    ⟨swaps, rfl, hswaps.imp fun _ _ ↦ denotes_swap⟩
  exact ⟨_, hentries, _, _, rfl, rfl, _, _, rfl, htokenList, _, _, rfl, hswapList, rfl⟩

/-- A document of an origin is one in the sense of its schema. -/
theorem denotes_origin {document : Json} {origin : Origin} (hwrites : WritesOrigin document origin) :
    originSchema.Denotes document origin := by
  obtain ⟨nativeSymbol, destinations, hnative, hdestinations, hentries⟩ := hwrites
  have hdestinationList : (Schema.list destinationSchema).Denotes (.list destinations) origin.destinations :=
    ⟨destinations, rfl, hdestinations.imp fun _ _ ↦ denotes_destination⟩
  refine ⟨_, hentries, _, _, rfl, rfl, _, _, rfl, rfl, denote_omittable hnative ?_ ⟨_, _, rfl, hdestinationList, rfl⟩⟩
  rintro _ symbol rfl
  exact ⟨nofun, rfl⟩

theorem denotes_contracts {document : Json} {contracts : OrderedMap ChainId Address}
    (hwrites : WritesContracts document contracts) : (Schema.byChain .address).Denotes document contracts :=
  ⟨_, hwrites, Schema.forall₂_map_self (fun _ ↦ ⟨rfl, rfl⟩) contracts.entries⟩

theorem denotes_routers {document : Json} {routers : Routers} (hwrites : WritesRouters document routers) :
    routersSchema.Denotes document routers := by
  obtain ⟨providers, hproviders, hentries⟩ := hwrites
  exact ⟨providers, hentries, hproviders.imp fun _ _ hprovider ↦ ⟨hprovider.1, denotes_contracts hprovider.2⟩⟩

/-- A document of a hub is one in the sense of its schema, whatever the order of its entries is. -/
theorem denotes_hub {document : Json} {hub : Hub} (hwrites : WritesHub document hub) :
    hubSchema.Denotes document hub := by
  obtain ⟨routers, pools, verifier, origins, hrouters, hpools, hverifier, horigins, hentries⟩ := hwrites
  have hpoolList : (Schema.list poolSchema).Denotes (.list pools) hub.pools :=
    ⟨pools, rfl, hpools.imp fun _ _ ↦ denotes_pool⟩
  have horiginList : (Schema.list originSchema).Denotes (.list origins) hub.origins :=
    ⟨origins, rfl, horigins.imp fun _ _ ↦ denotes_origin⟩
  have hpresent (document : Json) (verifier : Verifier) (hwrites : WritesVerifier document verifier) :
      document ≠ .null ∧ verifierSchema.Denotes document verifier := by
    refine ⟨?_, denotes_verifier hwrites⟩
    obtain ⟨_, rfl, -⟩ := hwrites
    nofun
  exact ⟨_, hentries, _, _, rfl, rfl, _, _, rfl, rfl, _, _, rfl, rfl, _, _, rfl, rfl, _, _, rfl, rfl, _, _, rfl, rfl,
    _, _, rfl, rfl, _, _, rfl, rfl, _, _, rfl, rfl, _, _, rfl, denotes_routers hrouters, _, _, rfl, hpoolList,
    denote_omittable hverifier hpresent ⟨_, _, rfl, horiginList, rfl⟩⟩

/-- A document of a registry is one in the sense of its schema. -/
theorem denotes_registry {document : Json} {registry : Token.Registry} (hwrites : WritesRegistry document registry) :
    Token.registrySchema.Denotes document registry.tokens := by
  obtain ⟨tokens, htokens, hentries⟩ := hwrites
  refine ⟨tokens, hentries, htokens.imp ?_⟩
  rintro entry pair ⟨hsymbol, addresses, haddresses, hobject⟩
  exact ⟨hsymbol, _, hobject, _, _, rfl, denotes_contracts haddresses, rfl⟩

/-! ## Reading the documents -/

/-- A written token tells the symbol of both chains from the pair of a symbol with itself. -/
theorem isLossless_tokenSchema : tokenSchema.IsLossless := by
  intro token
  cases token <;> rfl

theorem isLossless_poolSchema : poolSchema.IsLossless := by
  refine ⟨by decide, ?_, fun _ ↦ rfl⟩
  simp [Schema.Fields.AreLossless, Schema.IsLossless]

theorem isLossless_verifierSchema : verifierSchema.IsLossless := by
  refine ⟨by decide, ?_, fun _ ↦ rfl⟩
  simp [Schema.Fields.AreLossless, Schema.IsLossless]

theorem write_verifierSchema_ne_null (verifier : Verifier) : verifierSchema.write verifier ≠ .null := nofun

theorem isLossless_destinationSchema : destinationSchema.IsLossless := by
  refine ⟨by decide, ⟨trivial, isLossless_tokenSchema, ?_, trivial⟩, fun _ ↦ rfl⟩
  exact ⟨by decide, ⟨trivial, trivial, trivial, trivial⟩, fun _ ↦ rfl⟩

theorem isLossless_originSchema : originSchema.IsLossless :=
  ⟨by decide, ⟨trivial, trivial, trivial, nofun, isLossless_destinationSchema, trivial⟩, fun _ ↦ rfl⟩

/-- Two hubs never have one written document. -/
theorem isLossless_hubSchema : hubSchema.IsLossless := by
  refine ⟨by decide, ?_, fun _ ↦ rfl⟩
  simp [Schema.Fields.AreLossless, Schema.IsLossless, routersSchema, isLossless_poolSchema, isLossless_verifierSchema,
    isLossless_originSchema, write_verifierSchema_ne_null]

/-- Two registries never have one written document. -/
theorem isLossless_registrySchema : Token.registrySchema.IsLossless :=
  ⟨by decide, ⟨trivial, trivial⟩, fun _ ↦ rfl⟩

/-- An entry of the tokens of some destination in the document of a hub. -/
def HasTokenEntry (document entry : Json) : Prop :=
  ∃ origins origin destinations destination tokens, document.HasField "routes" 12 origins ∧ origins.HasItem origin ∧
    origin.HasField "toChains" 3 destinations ∧ destinations.HasItem destination ∧
    destination.HasField "tokens" 1 tokens ∧ tokens.HasItem entry

theorem accepts_origins {document origins : Json} (haccepts : hubSchema.Accepts document)
    (hfield : document.HasField "routes" 12 origins) : (Schema.list originSchema).Accepts origins := by
  simpa using haccepts.field (by decide) rfl hfield

theorem accepts_destinations {document destinations : Json} (haccepts : originSchema.Accepts document)
    (hfield : document.HasField "toChains" 3 destinations) : (Schema.list destinationSchema).Accepts destinations := by
  simpa using haccepts.field (by decide) rfl hfield

/-- Where a destination is accepted, so is the list of its tokens. -/
theorem accepts_tokens {document tokens : Json} (haccepts : destinationSchema.Accepts document)
    (hfield : document.HasField "tokens" 1 tokens) : (Schema.list tokenSchema).Accepts tokens := by
  simpa using haccepts.field (by decide) rfl hfield

/-- Whatever stands among the tokens of an accepted hub is the document of a token. -/
theorem exists_writesToken_of_accepts {document entry : Json} (haccepts : hubSchema.Accepts document)
    (hentry : HasTokenEntry document entry) : ∃ token, WritesToken entry token := by
  obtain ⟨origins, origin, destinations, destination, tokens, horigins, horigin, hdestinations, hdestination, htokens,
    htoken⟩ := hentry
  have horiginAccepted := (accepts_origins haccepts horigins).item horigin
  have hdestinationAccepted := (accepts_destinations horiginAccepted hdestinations).item hdestination
  obtain ⟨place, token, hread⟩ := (accepts_tokens hdestinationAccepted htokens).item htoken
  exact ⟨token, read_tokenSchema_eq_ok_iff.1 hread⟩

/-- A document of a hub is read as the hub. -/
theorem decode_of_writesHub {document : Json} {hub : Hub} (hwrites : WritesHub document hub) :
    Json.decode hubSchema document = .ok hub :=
  hubSchema.readsDenoted isLossless_hubSchema [] document hub (denotes_hub hwrites)

/-- A list of documents of hubs is read as the list of the hubs. -/
theorem decode_of_writesHubs {documents : List Json} {hubs : List Hub}
    (hwrites : List.Forall₂ WritesHub documents hubs) :
    Json.decode hubListSchema (.list documents) = .ok hubs :=
  hubListSchema.readsDenoted isLossless_hubSchema [] _ hubs ⟨documents, rfl, hwrites.imp fun _ _ ↦ denotes_hub⟩

/-- A document of a registry is read as its tokens. -/
theorem decode_of_writesRegistry {document : Json} {registry : Token.Registry}
    (hwrites : WritesRegistry document registry) :
    Json.decode Token.registrySchema document = .ok registry.tokens :=
  Token.registrySchema.readsDenoted isLossless_registrySchema [] document _ (denotes_registry hwrites)

/-- Every hub, every list of hubs and every registry can be written down, and each of its documents is read to
exactly what was written. A document is read as a token just if it stands for the token, so no document stands for
two tokens, not even for a symbol and the pair of it with itself; and a hub with anything else among its tokens is
refused. -/
theorem written_declarations_are_read_back :
    (∀ hub, (∃ document, WritesHub document hub) ∧
      ∀ document, WritesHub document hub → Json.decode hubSchema document = .ok hub) ∧
    (∀ hubs, (∃ documents, List.Forall₂ WritesHub documents hubs) ∧
      ∀ documents, List.Forall₂ WritesHub documents hubs → Json.decode hubListSchema (.list documents) = .ok hubs) ∧
    (∀ registry, (∃ document, WritesRegistry document registry) ∧ ∀ document, WritesRegistry document registry →
      (Json.decode Token.registrySchema document).map Token.Registry.mk = .ok registry) ∧
    (∀ document token, Json.decode tokenSchema document = .ok token ↔ WritesToken document token) ∧
    (∀ document symbol, WritesToken document (.same symbol) → ¬WritesToken document (.pair symbol symbol)) ∧
    ∀ document entry, HasTokenEntry document entry → (∀ token, ¬WritesToken entry token) →
      ∃ fault, Json.decode hubSchema document = .error fault := by
  refine ⟨fun hub ↦ ⟨exists_writesHub hub, fun _ ↦ decode_of_writesHub⟩,
    fun hubs ↦ ⟨exists_documents exists_writesHub hubs, fun _ ↦ decode_of_writesHubs⟩,
    fun registry ↦ ⟨exists_writesRegistry registry, fun document hwrites ↦ ?_⟩,
    fun document token ↦ read_tokenSchema_eq_ok_iff, fun document symbol hsame hpair ↦ ?_,
    fun document entry hentry hrefused ↦ ?_⟩
  · rw [decode_of_writesRegistry hwrites]
    rfl
  · have hread : Json.decode tokenSchema document = .ok (.same symbol) := read_tokenSchema_eq_ok_iff.2 hsame
    have hread' : Json.decode tokenSchema document = .ok (.pair symbol symbol) := read_tokenSchema_eq_ok_iff.2 hpair
    rw [hread] at hread'
    cases hread'
  · refine Schema.exists_fault_of_not_accepts fun haccepts ↦ ?_
    obtain ⟨token, hwrites⟩ := exists_writesToken_of_accepts haccepts hentry
    exact hrefused token hwrites

def mixedDestination : Destination := ⟨1, [.same "USDC", .pair "USDC" "USDC", .pair "USDC" "DAI"], []⟩

def mixedHub : Hub := { Document.bareHub with origins := [⟨10, .replicate 0xa1, none, [mixedDestination]⟩] }

/-- A document of the tokens: the first pair is an object, the second a list. -/
def mixedTokens : List Json :=
  [.text "USDC", .object [("outputTokenSymbol", .text "USDC"), ("inputTokenSymbol", .text "USDC")],
    .list [.text "USDC", .text "DAI"]]

def destinationDocument (tokens : List Json) : Json :=
  .object [("swapTokens", .list []), ("chainId", .natural 1), ("tokens", .list tokens)]

def originDocument (tokens : List Json) : Json :=
  .object [("toChains", .list [destinationDocument tokens]), ("fromChain", .natural 10),
    ("fromSpokeAddress", .text (Address.text (.replicate 0xa1)))]

/-- A document of a hub with some tokens. Every object has its last field first. -/
def hubDocument (tokens : List Json) : Json :=
  let address := Json.text (Address.text (.replicate 0xa1))
  .object [("routes", .list [originDocument tokens]), ("hubPoolChain", .natural 1), ("hubPoolAddress", address),
    ("acrossConfigStoreAddress", address), ("acceleratingDistributorAddress", address),
    ("merkleDistributorAddress", address), ("claimAndStakeAddress", address),
    ("wrappedNativeTokenSymbol", .text "WETH"), ("protocolTokenSymbol", .text "ACX"),
    ("nativeTokenSymbol", .text "ETH"), ("swapAndBridgeAddresses", .object []), ("pools", .list []),
    ("spokePoolVerifier", .null)]

def registryDocument : Json :=
  .object [("USDC", .object [("addresses", .object [("10", .text (Address.text (.replicate 0xa1)))])])]

theorem hasEntries_last_first (entry : String × Json) (entries : List (String × Json)) :
    (Json.object (entry :: entries)).HasEntries (entries ++ [entry]) :=
  ⟨_, rfl, (List.perm_append_singleton entry entries).symm⟩

theorem writesHub_mixedHub : WritesHub (hubDocument mixedTokens) mixedHub := by
  have htokens : List.Forall₂ WritesToken mixedTokens mixedDestination.tokens :=
    .cons (.same _) (.cons (.pair (hasEntries_last_first _ [_])) (.cons (.listed ..) .nil))
  have hdestination : WritesDestination (destinationDocument mixedTokens) mixedDestination :=
    ⟨mixedTokens, [], htokens, .nil, hasEntries_last_first _ [_, _]⟩
  have horigin : WritesOrigin (originDocument mixedTokens) ⟨10, .replicate 0xa1, none, [mixedDestination]⟩ :=
    ⟨[], _, .inl rfl, .cons hdestination .nil, hasEntries_last_first _ [_, _]⟩
  exact ⟨.object [], [], [("spokePoolVerifier", .null)], _, ⟨[], .nil, _, rfl, .refl _⟩, .nil, .inr rfl,
    .cons horigin .nil, hasEntries_last_first _ [_, _, _, _, _, _, _, _, _, _, _, _]⟩

theorem writesRegistry_registryDocument :
    WritesRegistry registryDocument (Token.Registry.empty.insert "USDC" 10 (.replicate 0xa1)) := by
  have hcontracts : WritesContracts (.object [("10", .text (Address.text (.replicate 0xa1)))])
      ((∅ : Token.Deployments).insert 10 (.replicate 0xa1)) := ⟨_, rfl, .refl _⟩
  exact ⟨_, .cons ⟨rfl, _, hcontracts, _, rfl, .refl _⟩ .nil, _, rfl, .refl _⟩

/-- What stands among the tokens of the one destination is an entry of the hub. -/
theorem hasTokenEntry_hubDocument {tokens : List Json} {entry : Json} (hentry : entry ∈ tokens) :
    HasTokenEntry (hubDocument tokens) entry :=
  ⟨_, _, _, _, _, .inl ⟨_, rfl, .head _⟩, ⟨_, rfl, .head _⟩, .inl ⟨_, rfl, .head _⟩, ⟨_, rfl, .head _⟩,
    .inl ⟨_, rfl, by simp⟩, _, rfl, hentry⟩

/-- A hub with a symbol and two kinds of pairs among its tokens, alone and in a list, and a registry. -/
theorem written_declarations_are_read_back_mixedHub :
    Json.decode hubSchema (hubDocument mixedTokens) = .ok mixedHub ∧
      Json.decode hubListSchema (.list [hubDocument mixedTokens]) = .ok [mixedHub] ∧
      (Json.decode Token.registrySchema registryDocument).map Token.Registry.mk =
        .ok (Token.Registry.empty.insert "USDC" 10 (.replicate 0xa1)) ∧
      ¬WritesToken (.text "USDC") (.pair "USDC" "USDC") ∧
      ∃ fault, Json.decode hubSchema (hubDocument [.flag true]) = .error fault := by
  obtain ⟨hhub, hhubs, hregistry, -, hdistinct, hrefused⟩ := written_declarations_are_read_back
  have hflag (token : Token) : ¬WritesToken (.flag true) token := by
    rintro (_ | ⟨_, hobject, -⟩)
    cases hobject
  exact ⟨(hhub _).2 _ writesHub_mixedHub, (hhubs _).2 _ (.cons writesHub_mixedHub .nil),
    (hregistry _).2 _ writesRegistry_registryDocument, hdistinct _ _ (.same _),
    hrefused _ (.flag true) (hasTokenEntry_hubDocument List.mem_cons_self) hflag⟩

end HubRoutes.Declaration
