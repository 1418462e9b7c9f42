import HubRoutes.Proofs.Declaration.Spelling
import HubRoutes.Proofs.Route.Compilation
import HubRoutes.Route.Format
import Mathlib.Logic.Relation

/-!
# The presentation of documents does not reach the tables

Nothing in a table tells how the documents were written that it was compiled from. Entries are read into ordered
maps and records, addresses into bytes, and the two ways of writing a token that has one symbol are declared
pairs with the same symbols. A document may be respelt in any number of rounds: it stays valid, and for every hub
chain the result of the compilation, table or fault, stays the same, with the text and the name of its file.
-/

namespace HubRoutes.Route

open Declaration (Hub Origin SpellsOut)
open Yaml (Tree)

/-! ## Routes of spelled-out declarations -/

theorem bridgePairs_spelledOut (origin : Origin) : bridgePairs origin.spelledOut = bridgePairs origin := by
  simp only [bridgePairs, Origin.spelledOut, Declaration.Destination.spelledOut, List.flatMap_map,
    List.map_map]
  rfl

theorem swapPairs_spelledOut (origin : Origin) : swapPairs origin.spelledOut = swapPairs origin := by
  simp only [swapPairs, Origin.spelledOut, Declaration.Destination.spelledOut, List.flatMap_map]

/-- The bridge routes of an origin do not depend on how its tokens are written. -/
theorem bridgeRoutes_spelledOut (context : Context) (origin : Origin) :
    bridgeRoutes context origin.spelledOut = bridgeRoutes context origin := by
  rw [bridgeRoutes, bridgePairs_spelledOut]
  rfl

/-- The swap routes of an origin do not depend on how its tokens are written. -/
theorem swapRoutes_spelledOut (context : Context) (origin : Origin) :
    swapRoutes context origin.spelledOut = swapRoutes context origin := by
  rw [swapRoutes, swapPairs_spelledOut]
  rfl

theorem originRoutes_spelledOut (source : Token.Source) (hub : Hub) (origins : List Origin) :
    originRoutes source hub.spelledOut (origins.map Origin.spelledOut) =
      originRoutes source hub origins := by
  induction origins with
  | nil => rfl
  | cons origin rest ih =>
    simp only [List.map_cons, originRoutes, bridgeRoutes_spelledOut, swapRoutes_spelledOut, ih]
    rfl

/-- The table of a hub does not depend on how its tokens are written. -/
theorem tableOf_spelledOut (source : Token.Source) (key : ChainId) (hub : Hub) :
    tableOf source key hub.spelledOut = tableOf source key hub := by
  have hroutes : originRoutes source hub.spelledOut hub.spelledOut.origins =
      originRoutes source hub hub.origins := originRoutes_spelledOut source hub hub.origins
  rw [tableOf, hroutes]
  rfl

/-! ## Hubs that compile alike -/

/-- Two maps of hubs have the same fault, if any, and the same tables. -/
structure CompileAlike (hubs hubs' : OrderedMap ChainId Hub) : Prop where
  fault : Declaration.hubsFault? hubs' = Declaration.hubsFault? hubs
  table : ∀ source key,
    (hubs'.find? key).map (tableOf source key) = (hubs.find? key).map (tableOf source key)

theorem CompileAlike.refl (hubs : OrderedMap ChainId Hub) : CompileAlike hubs hubs :=
  ⟨rfl, fun _ _ ↦ rfl⟩

theorem CompileAlike.trans {hubs hubs' hubs'' : OrderedMap ChainId Hub} (hfirst : CompileAlike hubs hubs')
    (hsecond : CompileAlike hubs' hubs'') : CompileAlike hubs hubs'' :=
  ⟨hsecond.fault.trans hfirst.fault,
    fun source key ↦ (hsecond.table source key).trans (hfirst.table source key)⟩

/-- Hubs that are alike are compiled alike. -/
theorem compileAlike_of_alike (hubs hubs' : OrderedMap ChainId Hub)
    (halike : Declaration.hubMapSchema.Alike SpellsOut hubs hubs') : CompileAlike hubs hubs' := by
  have hsame : hubs.Pointwise (fun hub hub' ↦ hub'.spelledOut = hub.spelledOut) hubs' :=
    List.Forall₂.imp (fun _ _ hentry ↦ hentry.imp_right (Hub.spelledOut_eq_of_alike _ _)) halike
  refine ⟨Declaration.hubsFault?_eq_of_spelledOut hsame, fun source key ↦ ?_⟩
  have hfound := hsame.rel_find? key
  generalize hubs.find? key = found, hubs'.find? key = found' at hfound ⊢
  cases hfound with
  | none => rfl
  | some hhub =>
    rw [Option.map_some, Option.map_some, ← tableOf_spelledOut, hhub, tableOf_spelledOut]

theorem compile_eq_of_compileAlike {document document' : Document}
    (halike : CompileAlike document.hubs document'.hubs) (source : Token.Source) (key : ChainId) :
    compile document' source key = compile document source key := by
  have htable := halike.table source key
  simp only [compile, Document.hub]
  generalize document.hubs.find? key = found, document'.hubs.find? key = found' at htable ⊢
  cases found with
  | none =>
    cases found' with
    | none => rfl
    | some _ => cases htable
  | some _ =>
    cases found' with
    | none => cases htable
    | some _ => exact Option.some.inj htable

/-! ## Documents that are respelt -/

/-- A tree is changed in any number of rounds. -/
def Respelt {α : Type} (schema : Schema α) : Tree → Tree → Prop :=
  Relation.ReflTransGen (schema.Respells SpellsOut)

/-- What holds of alike values holds of the values that a tree and the respelt tree are read to. -/
theorem exists_decode_of_respelt {α : Type} {schema : Schema α} (hunderstands : schema.Understands SpellsOut)
    {R : α → α → Prop} (hrefl : ∀ value, R value value)
    (htrans : ∀ value value' value'', R value value' → R value' value'' → R value value'')
    (halike : ∀ value value', schema.Alike SpellsOut value value' → R value value') {tree tree' : Tree}
    (hrespelt : Respelt schema tree tree') {value : α} (hread : Tree.decode schema tree = .ok value) :
    ∃ value', Tree.decode schema tree' = .ok value' ∧ R value value' := by
  induction hrespelt with
  | refl => exact ⟨value, hread, hrefl value⟩
  | tail _ hchange ih =>
    obtain ⟨value', hread', hrelated⟩ := ih
    obtain ⟨value'', hread'', hvalues⟩ := schema.carries hunderstands [] _ _ value' hchange hread'
    exact ⟨value'', hread'', htrans value value' value'' hrelated (halike value' value'' hvalues)⟩

theorem understands_registrySchema : Token.registrySchema.Understands SpellsOut :=
  ⟨by decide, trivial, trivial⟩

/-! ## A document in two spellings -/

def plainScalar (content : String) : Tree := .scalar none content.toList .plain true

def mappingOf (entries : List (String × Tree)) : Tree :=
  .mapping none (entries.map fun entry ↦ (plainScalar entry.1, entry.2))

def addressScalar : Tree := plainScalar "0xa1a1a1a1a1a1a1a1a1a1a1a1a1a1a1a1a1a1a1a1"

def respeltAddressScalar : Tree := plainScalar " A1A1a1a1a1a1a1a1a1a1a1a1a1a1a1a1a1a1a1a1"

def smallDestination (token : Tree) : Tree :=
  mappingOf [("chainId", plainScalar "1"), ("tokens", .sequence none [token])]

def smallOrigin (token : Tree) : Tree :=
  mappingOf [("fromChain", plainScalar "10"), ("fromSpokeAddress", addressScalar),
    ("toChains", .sequence none [smallDestination token])]

/-- The entries of a hub with one origin, whose contracts all have one address. -/
def smallHubEntries (pool token : Tree) : List (String × Tree) :=
  [("hubPoolChain", plainScalar "1"), ("hubPoolAddress", pool), ("acrossConfigStoreAddress", addressScalar),
    ("acceleratingDistributorAddress", addressScalar), ("merkleDistributorAddress", addressScalar),
    ("claimAndStakeAddress", addressScalar), ("routes", .sequence none [smallOrigin token])]

def smallSpec (entries : List (String × Tree)) : Tree := mappingOf [("1", mappingOf entries)]

/-- The pair that stands for the one token of the hub. -/
def smallPair : Tree :=
  mappingOf [("inputTokenSymbol", plainScalar "USDC"), ("outputTokenSymbol", plainScalar "USDC")]

/-- The entries of the hub with another text of an address, a pair in place of a symbol, and a default. -/
def respeltHubEntries : List (String × Tree) :=
  ("nativeTokenSymbol", plainScalar "ETH") :: smallHubEntries respeltAddressScalar smallPair

/-- The entries of a registry of three tokens, one of them on two chains. -/
def smallRegistryEntries : List (String × Tree) :=
  [("USDC", mappingOf [("addresses", mappingOf [("1", addressScalar), ("10", addressScalar)])]),
    ("WETH", mappingOf [("addresses", mappingOf [("1", addressScalar)])]),
    ("ACX", mappingOf [("addresses", mappingOf [("1", addressScalar)])])]

theorem asText_plainScalar (expected content : String) : (plainScalar content).asText expected = .ok content :=
  congrArg Except.ok String.ofList_toList

theorem reorders_mappingOf (expected : String) {entries entries' : List (String × Tree)}
    (hperm : entries.Perm entries') (hdistinct : (entries.map Prod.fst).Nodup) :
    (mappingOf entries).Reorders (Tree.asText expected) (mappingOf entries') := by
  refine ⟨none, _, _, rfl, rfl, hperm.map _, ?_⟩
  have hkeys : (entries.map fun entry ↦ (plainScalar entry.1, entry.2)).map
      (fun entry ↦ entry.1.asText expected) = (entries.map Prod.fst).map .ok := by
    simp only [List.map_map, Function.comp_def, asText_plainScalar]
  rw [hkeys]
  exact hdistinct.map fun _ _ ↦ Except.ok.inj

theorem writesOut_mappingOf {τ : Type} {fields : Schema.Fields τ} {entries : List (String × Tree)}
    {name : String} {value : Tree} (hnew : name ∉ entries.map Prod.fst)
    (habsence : fields.StandsForAbsence name value) :
    fields.WritesOut (mappingOf entries) (mappingOf ((name, value) :: entries)) := by
  refine ⟨none, _, plainScalar name, value, name, rfl, rfl, asText_plainScalar "field identifier" name, ?_,
    habsence⟩
  rw [List.forall_mem_map]
  intro entry hentry hsame
  have hname : Tree.format.fieldName (plainScalar entry.1) = .ok entry.1 :=
    asText_plainScalar "field identifier" entry.1
  rw [hname] at hsame
  exact hnew (Except.ok.inj hsame ▸ List.mem_map_of_mem hentry)

/-- A hub is respelt where an address and a token of it are. -/
theorem respells_smallHub {pool pool' token token' : Tree} (hpool : pool.RewritesAddress pool')
    (htoken : Declaration.tokenSchema.Respells SpellsOut token token') :
    Declaration.hubSchema.Respells SpellsOut (mappingOf (smallHubEntries pool token))
      (mappingOf (smallHubEntries pool' token')) := by
  have hdestination : Declaration.destinationSchema.Respells SpellsOut (smallDestination token)
      (smallDestination token') := by
    refine .inr (.inl ⟨none, _, _, rfl, rfl, .cons ⟨rfl, .inl rfl⟩
      (.cons ⟨rfl, .inr ⟨"tokens", asText_plainScalar "field identifier" _, ?_⟩⟩ .nil)⟩)
    rw [Schema.Fields.respellsField_required_of_ne (by decide), Schema.Fields.respellsField_defaulted_self]
    exact ⟨none, _, _, rfl, rfl, .cons (.inr htoken) .nil⟩
  have horigin : Declaration.originSchema.Respells SpellsOut (smallOrigin token) (smallOrigin token') := by
    refine .inr (.inl ⟨none, _, _, rfl, rfl, .cons ⟨rfl, .inl rfl⟩ (.cons ⟨rfl, .inl rfl⟩
      (.cons ⟨rfl, .inr ⟨"toChains", asText_plainScalar "field identifier" _, ?_⟩⟩ .nil))⟩)
    iterate 2 rw [Schema.Fields.respellsField_required_of_ne (by decide)]
    rw [Schema.Fields.respellsField_omittable_of_ne (by decide), Schema.Fields.respellsField_required_self]
    exact ⟨none, _, _, rfl, rfl, .cons (.inr hdestination) .nil⟩
  refine .inr (.inl ⟨none, _, _, rfl, rfl, .cons ⟨rfl, .inl rfl⟩
    (.cons ⟨rfl, .inr ⟨"hubPoolAddress", asText_plainScalar "field identifier" _, ?_⟩⟩
    (.cons ⟨rfl, .inl rfl⟩ (.cons ⟨rfl, .inl rfl⟩ (.cons ⟨rfl, .inl rfl⟩ (.cons ⟨rfl, .inl rfl⟩
      (.cons ⟨rfl, .inr ⟨"routes", asText_plainScalar "field identifier" _, ?_⟩⟩ .nil))))))⟩)
  · rw [Schema.Fields.respellsField_required_of_ne (by decide), Schema.Fields.respellsField_required_self]
    exact hpool
  · iterate 6 rw [Schema.Fields.respellsField_required_of_ne (by decide)]
    iterate 5 rw [Schema.Fields.respellsField_defaulted_of_ne (by decide)]
    rw [Schema.Fields.respellsField_omittable_of_ne (by decide), Schema.Fields.respellsField_required_self]
    exact ⟨none, _, _, rfl, rfl, .cons (.inr horigin) .nil⟩

def smallHub : Hub where
  chain := 1
  pool := .replicate 0xa1
  configStore := .replicate 0xa1
  acceleratingDistributor := .replicate 0xa1
  merkleDistributor := .replicate 0xa1
  claimAndStake := .replicate 0xa1
  wrappedNativeSymbol := "WETH"
  protocolSymbol := "ACX"
  nativeSymbol := "ETH"
  routers := ∅
  pools := []
  verifier := none
  origins := [⟨10, .replicate 0xa1, none, [⟨1, [.same "USDC"], []⟩]⟩]

def smallTokens : OrderedMap String Token.Deployments :=
  OrderedMap.ofList [("USDC", OrderedMap.ofList [(1, .replicate 0xa1), (10, .replicate 0xa1)]),
    ("WETH", OrderedMap.ofList [(1, .replicate 0xa1)]), ("ACX", OrderedMap.ofList [(1, .replicate 0xa1)])]

theorem respelt_smallSpec :
    Respelt Declaration.hubMapSchema (smallSpec (smallHubEntries addressScalar (plainScalar "USDC")))
      (smallSpec respeltHubEntries.reverse) := by
  have hinHub : ∀ entries entries',
      Declaration.hubSchema.Respells SpellsOut (mappingOf entries) (mappingOf entries') →
      Declaration.hubMapSchema.Respells SpellsOut (smallSpec entries) (smallSpec entries') := by
    intro entries entries' hchange
    exact .inr ⟨none, _, _, rfl, rfl, .cons ⟨rfl, .inr hchange⟩ .nil⟩
  have haddress : addressScalar.RewritesAddress respeltAddressScalar :=
    ⟨_, _, .replicate 0xa1, asText_plainScalar _ _, asText_plainScalar _ _, by decide +kernel,
      by decide +kernel⟩
  have htoken : Declaration.tokenSchema.Respells SpellsOut (plainScalar "USDC") smallPair :=
    .inr ⟨.text "USDC",
      .map [(.text "inputTokenSymbol", .text "USDC"), (.text "outputTokenSymbol", .text "USDC")],
      fun _ ↦ rfl, fun _ ↦ rfl, .pair "USDC"⟩
  have hvalues := respells_smallHub haddress htoken
  have hwritten : Declaration.hubSchema.Respells SpellsOut
      (mappingOf (smallHubEntries respeltAddressScalar smallPair)) (mappingOf respeltHubEntries) := by
    refine .inr (.inr (writesOut_mappingOf (by decide) ?_))
    iterate 6 rw [Schema.Fields.standsForAbsence_required_of_ne (by decide)]
    iterate 2 rw [Schema.Fields.standsForAbsence_defaulted_of_ne (by decide)]
    rw [Schema.Fields.StandsForAbsence, if_pos rfl]
    intro place
    exact congrArg (Schema.locate place) (asText_plainScalar "a string" "ETH")
  have hreordered : Declaration.hubSchema.Respells SpellsOut (mappingOf respeltHubEntries)
      (mappingOf respeltHubEntries.reverse) :=
    .inl (reorders_mappingOf "field identifier" (List.reverse_perm _).symm (by decide))
  exact ((Relation.ReflTransGen.single (hinHub _ _ hvalues)).tail (hinHub _ _ hwritten)).tail
    (hinHub _ _ hreordered)

/-! ## Tables of respelt documents -/

/-- However the trees of a valid document and of a registry are respelt, they are read to a valid document and
to a registry again, and every hub chain has the same table or the same fault as before, and the same text and
name of its file. -/
theorem compile_eq_of_respelt (spec spec' registry registry' : Tree)
    (hspec : Respelt Declaration.hubMapSchema spec spec')
    (hregistry : Respelt Token.registrySchema registry registry') (hubs : OrderedMap ChainId Hub)
    (document : Document) (tokens : OrderedMap String Token.Deployments)
    (hhubs : Tree.decode Declaration.hubMapSchema spec = .ok hubs)
    (hdocument : Document.ofHubs hubs = .ok document)
    (htokens : Tree.decode Token.registrySchema registry = .ok tokens) :
    ∃ hubs' document' tokens', Tree.decode Declaration.hubMapSchema spec' = .ok hubs' ∧
      Document.ofHubs hubs' = .ok document' ∧
      Tree.decode Token.registrySchema registry' = .ok tokens' ∧
      ∀ key,
        compile document' (Token.Registry.mk tokens').address? key =
          compile document (Token.Registry.mk tokens).address? key ∧
        (compile document' (Token.Registry.mk tokens').address? key).map
            (fun table ↦ (table.fileName, table.render)) =
          (compile document (Token.Registry.mk tokens).address? key).map
            fun table ↦ (table.fileName, table.render) := by
  -- Hubs may differ in the two ways of writing a token, so they are not equal but compile alike.
  obtain ⟨hubs', hhubs', halike⟩ := exists_decode_of_respelt Declaration.understands_hubMapSchema
    CompileAlike.refl (fun _ _ _ ↦ CompileAlike.trans) compileAlike_of_alike hspec hhubs
  obtain ⟨tokens', htokens', rfl⟩ := exists_decode_of_respelt understands_registrySchema
    (R := fun tokens tokens' ↦ tokens' = tokens) (fun _ ↦ rfl)
    (fun _ _ _ hfirst hsecond ↦ hsecond.trans hfirst)
    (Token.registrySchema.eq_of_alike ⟨trivial, trivial⟩) hregistry htokens
  obtain ⟨rfl, hvalid⟩ := (Document.ofHubs_eq_ok_iff hubs document).1 hdocument
  have hvalid' : Declaration.hubsFault? hubs' = none := halike.fault.trans hvalid
  refine ⟨hubs', ⟨hubs', hvalid'⟩, tokens', hhubs', (Document.ofHubs_eq_ok_iff _ _).2 ⟨rfl, hvalid'⟩,
    htokens', fun key ↦ ?_⟩
  have hdocuments : CompileAlike document.hubs (Document.mk hubs' hvalid').hubs := halike
  have hcompiled := compile_eq_of_compileAlike hdocuments (Token.Registry.mk tokens').address? key
  exact ⟨hcompiled, by rw [hcompiled]⟩

/-- Reversed entries, another text of an address, a pair in place of a symbol, and a default written out. -/
theorem compile_eq_of_respelt_smallSpec :
    Respelt Declaration.hubMapSchema (smallSpec (smallHubEntries addressScalar (plainScalar "USDC")))
        (smallSpec respeltHubEntries.reverse) ∧
      ∃ hubs' document' tokens' table,
        Tree.decode Declaration.hubMapSchema (smallSpec respeltHubEntries.reverse) = .ok hubs' ∧
        Document.ofHubs hubs' = .ok document' ∧
        Tree.decode Token.registrySchema (mappingOf smallRegistryEntries.reverse) = .ok tokens' ∧
        compile document' (Token.Registry.mk tokens').address? 1 = .ok table ∧ table.bridges.length = 1 := by
  have hregistry : Respelt Token.registrySchema (mappingOf smallRegistryEntries)
      (mappingOf smallRegistryEntries.reverse) :=
    .single (.inl (reorders_mappingOf "a string" (List.reverse_perm _).symm (by decide)))
  have hvalid : Declaration.hubsFault? (OrderedMap.ofList [(1, smallHub)]) = none := by decide
  obtain ⟨hubs', document', tokens', hhubs', hdocument', htokens', hcompiled⟩ :=
    compile_eq_of_respelt _ _ _ _ respelt_smallSpec hregistry (OrderedMap.ofList [(1, smallHub)])
      ⟨OrderedMap.ofList [(1, smallHub)], hvalid⟩ smallTokens (by decide +kernel)
      ((Document.ofHubs_eq_ok_iff _ _).2 ⟨rfl, hvalid⟩) (by decide +kernel)
  exact ⟨respelt_smallSpec, hubs', document', tokens', _, hhubs', hdocument', htokens', (hcompiled 1).1, rfl⟩

end HubRoutes.Route
