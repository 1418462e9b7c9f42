import HubRoutes.Document.Loading
import HubRoutes.Proofs.Route.Presentation
import HubRoutes.Proofs.Schema.WellFormed

/-!
# Malformed declarations are refused

The schemas of declarations and registries are strict. A declared token may be read from texts of other shapes, but
as a mapping it has one entry for each of its two symbols and no other entry. So wherever in a document a mapping
stands for a record, a misspelt field, a field that comes twice and a missing one make the whole document refused.
-/

namespace HubRoutes

open Schema (AddsOrRemoves CountsEntries Loose Path)
open Route (mappingOf plainScalar addressScalar asText_plainScalar smallDestination smallOrigin smallHubEntries
  smallSpec smallPair smallHub)
open Yaml (Tree)
open Yaml.Tree (format)

namespace Declaration

/-! ## Mappings that stand for a pair of symbols -/

/-- A key is that of the input symbol of a pair, or that of its output symbol. -/
def NamesPairField (isInput : Bool) (key : Tree) : Prop :=
  ∃ place shape, key.loose place = .ok shape ∧ pairField? shape = some isInput

/-- A mapping has one entry for each symbol of a pair and nothing else. -/
def StandsForPair (entries : List (Tree × Tree)) : Prop :=
  ∃ inputKey outputKey input output, entries.Perm [(inputKey, input), (outputKey, output)] ∧
    NamesPairField true inputKey ∧ NamesPairField false outputKey

theorem StandsForPair.length_eq {entries : List (Tree × Tree)} (hpair : StandsForPair entries) :
    entries.length = 2 := by
  obtain ⟨_, _, _, _, hentries, -⟩ := hpair
  exact hentries.length_eq

/-- A pair with one entry more or less is no pair. -/
theorem countsEntries_standsForPair : CountsEntries StandsForPair := by
  intro entries entries' hpair hchange hpair'
  exact hchange.length_ne (hpair'.length_eq.trans hpair.length_eq.symm)

/-- A token is chosen for nothing but the mappings that stand for a pair. -/
theorem standsForPair_of_pairOfEntries {entries : List (Tree × Tree)} {place : Path}
    {shapes : List (Loose × Loose)} {token : Token} (hshapes : Tree.looseEntries entries place = .ok shapes)
    (hchosen : pairOfEntries? none none shapes = some token) : StandsForPair entries := by
  obtain ⟨inputKey, outputKey, input, output, hinput, houtput, hperm, -⟩ := pairOfEntries?_eq_some_iff.1 hchosen
  have hmatch := ((Schema.looseEntries_eq_ok_iff entries place shapes).1 hshapes).flip
  obtain ⟨ordered, hordered, hentries⟩ := List.perm_comp_forall₂ hperm.symm hmatch
  match ordered, hordered with
  | [(first, _), (second, _)], .cons hfirst (.cons hsecond .nil) =>
    exact ⟨first, second, _, _, hentries.symm, ⟨place, _, hfirst.1, hinput⟩, ⟨place, _, hsecond.1, houtput⟩⟩

/-! ## Strict schemas -/

/-- A mapping is read as a token only if it has one entry for each symbol and nothing else. -/
theorem isStrict_tokenSchema : tokenSchema.IsStrict StandsForPair := by
  intro place tag entries shape token hshape hchosen
  simp only [format, Tree.loose, bind_eq_ok_iff, pure_eq_ok_iff] at hshape
  obtain ⟨-, -, shapes, hshapes, rfl⟩ := hshape
  exact standsForPair_of_pairOfEntries hshapes hchosen

theorem isStrict_swapSchema : swapSchema.IsStrict StandsForPair := ⟨rfl, trivial, trivial, trivial, trivial⟩

theorem isStrict_destinationSchema : destinationSchema.IsStrict StandsForPair :=
  ⟨rfl, trivial, isStrict_tokenSchema, isStrict_swapSchema, trivial⟩

theorem isStrict_originSchema : originSchema.IsStrict StandsForPair :=
  ⟨rfl, trivial, trivial, trivial, isStrict_destinationSchema, trivial⟩

theorem isStrict_poolSchema : poolSchema.IsStrict StandsForPair := ⟨rfl, trivial, trivial, trivial⟩

theorem isStrict_verifierSchema : verifierSchema.IsStrict StandsForPair := ⟨rfl, trivial, trivial, trivial⟩

/-- No record of a document may have an unknown field, a field twice, or lack one that is required. -/
theorem isStrict_hubMapSchema : hubMapSchema.IsStrict StandsForPair :=
  ⟨rfl, trivial, trivial, trivial, trivial, trivial, trivial, trivial, trivial, trivial, trivial,
    isStrict_poolSchema, isStrict_verifierSchema, isStrict_originSchema, trivial⟩

/-- No record of a registry may have an unknown field or a field twice. -/
theorem isStrict_registrySchema : Token.registrySchema.IsStrict StandsForPair := ⟨rfl, trivial, trivial⟩

end Declaration

/-! ## Two trees that are spoiled -/

def crowdedPair : Tree :=
  mappingOf [("inputTokenSymbol", plainScalar "USDC"), ("outputTokenSymbol", plainScalar "USDC"),
    ("tokenSymbol", plainScalar "USDC")]

/-- The text of a document with one hub, whose only pair of symbols has a third entry. -/
def crowdedPairText : String := "
  1:
   hubPoolChain: 1
   hubPoolAddress: 0xa1a1a1a1a1a1a1a1a1a1a1a1a1a1a1a1a1a1a1a1
   acrossConfigStoreAddress: 0xa1a1a1a1a1a1a1a1a1a1a1a1a1a1a1a1a1a1a1a1
   acceleratingDistributorAddress: 0xa1a1a1a1a1a1a1a1a1a1a1a1a1a1a1a1a1a1a1a1
   merkleDistributorAddress: 0xa1a1a1a1a1a1a1a1a1a1a1a1a1a1a1a1a1a1a1a1
   claimAndStakeAddress: 0xa1a1a1a1a1a1a1a1a1a1a1a1a1a1a1a1a1a1a1a1
   routes:
   - fromChain: 10
     fromSpokeAddress: 0xa1a1a1a1a1a1a1a1a1a1a1a1a1a1a1a1a1a1a1a1
     toChains:
     - chainId: 1
       tokens:
       - inputTokenSymbol: USDC
         outputTokenSymbol: USDC
         tokenSymbol: USDC"

-- The literal is a long list of characters for the unifier.
set_option maxRecDepth 4000 in
theorem ofText_crowdedPairText :
    Tree.ofText? crowdedPairText.toList = some (smallSpec (smallHubEntries addressScalar crowdedPair)) := by
  have htext : crowdedPairText.toList = _ := String.toList_ofList
  rw [htext]
  decide +kernel

def misspeltRegistryText : String := "USDC:\n adresses:"

theorem ofText_misspeltRegistryText :
    Tree.ofText? misspeltRegistryText.toList =
      some (mappingOf [("USDC", mappingOf [("adresses", plainScalar "")])]) := by
  have htext : misspeltRegistryText.toList = _ := String.toList_ofList
  rw [htext]
  decide +kernel

/-- A hub is spoiled where one of its tokens is. -/
theorem spoils_smallHub {pool token token' : Tree} (htoken : Declaration.tokenSchema.Spoils token token') :
    Declaration.hubSchema.Spoils (mappingOf (smallHubEntries pool token))
      (mappingOf (smallHubEntries pool token')) := by
  have hdestination : Declaration.destinationSchema.Spoils (smallDestination token) (smallDestination token') := by
    refine .inr ⟨none, [_], [], _, _, _, rfl, rfl, "tokens", asText_plainScalar "field identifier" _, ?_⟩
    rw [Schema.Fields.SpoilsField, if_neg (by decide), Schema.Fields.SpoilsField, if_pos rfl]
    exact ⟨none, [], [], _, _, rfl, rfl, htoken⟩
  have horigin : Declaration.originSchema.Spoils (smallOrigin token) (smallOrigin token') := by
    refine .inr ⟨none, [_, _], [], _, _, _, rfl, rfl, "toChains", asText_plainScalar "field identifier" _, ?_⟩
    iterate 3 rw [Schema.Fields.SpoilsField, if_neg (by decide)]
    rw [Schema.Fields.SpoilsField, if_pos rfl]
    exact ⟨none, [], [], _, _, rfl, rfl, hdestination⟩
  refine .inr ⟨none, [_, _, _, _, _, _], [], _, _, _, rfl, rfl, "routes",
    asText_plainScalar "field identifier" _, ?_⟩
  iterate 12 rw [Schema.Fields.SpoilsField, if_neg (by decide)]
  rw [Schema.Fields.SpoilsField, if_pos rfl]
  exact ⟨none, [], [], _, _, rfl, rfl, horigin⟩

theorem spoils_crowdedPair :
    Declaration.hubMapSchema.Spoils (smallSpec (smallHubEntries addressScalar smallPair))
      (smallSpec (smallHubEntries addressScalar crowdedPair)) := by
  have htoken : Declaration.tokenSchema.Spoils smallPair crowdedPair :=
    ⟨none, _, _, rfl, rfl, .adds [_, _] [] _⟩
  exact ⟨none, [], [], _, _, _, rfl, rfl, spoils_smallHub htoken⟩

theorem spoils_misspeltRegistry :
    Token.registrySchema.Spoils (mappingOf [("USDC", mappingOf [])])
      (mappingOf [("USDC", mappingOf [("adresses", plainScalar "")])]) := by
  refine ⟨none, [], [], _, _, _, rfl, rfl, .inl ⟨none, [], [_], rfl, rfl, .unknown [] [] _ _ ?_⟩⟩
  intro name hname
  obtain rfl : "adresses" = name := Except.ok.inj ((asText_plainScalar "field identifier" _).symm.trans hname)
  decide

/-- The hub of the document with the pair as it should be. -/
def pairedHub : Declaration.Hub :=
  { smallHub with origins := [⟨10, .replicate 0xa1, none, [⟨1, [.pair "USDC" "USDC"], []⟩]⟩] }

/-! ## Documents that are refused -/

/-- What is read is well formed, and nothing is read from a tree or from its text any more when the tree is
spoiled. -/
structure RefusesSpoiled {α : Type} (schema : Schema α) (tree : Tree) : Prop where
  wellFormed : schema.WellFormed Declaration.StandsForPair tree
  tree_refused : ∀ tree', schema.Spoils tree tree' → ∃ fault, Tree.decode schema tree' = .error fault
  text_refused : ∀ tree', schema.Spoils tree tree' → ∀ text, Tree.ofText? text.toList = some tree' →
    ∃ cause, readYaml schema text = .error cause

/-- What a strict schema has read is refused once it is spoiled. -/
theorem refusesSpoiled_of_decode {α : Type} {schema : Schema α}
    (hstrict : schema.IsStrict Declaration.StandsForPair) {tree : Tree} {value : α}
    (hread : Tree.decode schema tree = .ok value) : RefusesSpoiled schema tree := by
  have hrefused (tree' : Tree) (hspoils : schema.Spoils tree tree') :
      ∃ fault, Tree.decode schema tree' = .error fault :=
    Schema.exists_fault_of_spoils Declaration.countsEntries_standsForPair hstrict hread hspoils
  refine ⟨schema.wellFormed_of_read hstrict hread, hrefused, fun tree' hspoils text htree ↦ ?_⟩
  obtain ⟨fault, hfault⟩ := hrefused tree' hspoils
  rw [readYaml, htree]
  dsimp only
  rw [hfault]
  exact ⟨_, rfl⟩

/-- Every mapping in an accepted document or registry that stands for a record, at any depth, holds fields of the
record only, each once, and all that are required. Spoil one of them, by an entry with another name, by a second
entry of a name, or by taking a required entry away, and the document or registry is refused, as a tree and as a
text. -/
theorem spoiled_documents_are_refused :
    (∀ spec hubs, Tree.decode Declaration.hubMapSchema spec = .ok hubs →
      RefusesSpoiled Declaration.hubMapSchema spec ∧
      ∀ spec', Declaration.hubMapSchema.Spoils spec spec' → ∀ text, Tree.ofText? text.toList = some spec' →
        ∃ failure, Document.ofText text = .error failure) ∧
    ∀ registry tokens, Tree.decode Token.registrySchema registry = .ok tokens →
      RefusesSpoiled Token.registrySchema registry ∧
      ∀ registry', Token.registrySchema.Spoils registry registry' → ∀ text,
        Tree.ofText? text.toList = some registry' → ∃ failure, Token.Registry.ofText text = .error failure := by
  constructor
  · intro spec hubs hread
    have hrefuses := refusesSpoiled_of_decode Declaration.isStrict_hubMapSchema hread
    refine ⟨hrefuses, fun spec' hspoils text htree ↦ ?_⟩
    obtain ⟨cause, hcause⟩ := hrefuses.text_refused spec' hspoils text htree
    exact ⟨_, by rw [Document.ofText, hcause]⟩
  · intro registry tokens hread
    have hrefuses := refusesSpoiled_of_decode Declaration.isStrict_registrySchema hread
    refine ⟨hrefuses, fun registry' hspoils text htree ↦ ?_⟩
    obtain ⟨cause, hcause⟩ := hrefuses.text_refused registry' hspoils text htree
    exact ⟨_, by rw [Token.Registry.ofText, hcause]⟩

/-- A pair with a third entry, and a registry with a misspelt field. -/
theorem spoiled_documents_are_refused_crowdedPair :
    Tree.decode Declaration.hubMapSchema (smallSpec (smallHubEntries addressScalar smallPair)) =
        .ok (OrderedMap.ofList [(1, pairedHub)]) ∧
      (∃ fault, Tree.decode Declaration.hubMapSchema (smallSpec (smallHubEntries addressScalar crowdedPair)) =
        .error fault) ∧
      (∃ failure, Document.ofText crowdedPairText = .error failure) ∧
      Tree.decode Token.registrySchema (mappingOf [("USDC", mappingOf [])]) =
        .ok (OrderedMap.ofList [("USDC", ∅)]) ∧
      ∃ failure, Token.Registry.ofText misspeltRegistryText = .error failure := by
  have hspec : Tree.decode Declaration.hubMapSchema (smallSpec (smallHubEntries addressScalar smallPair)) =
      .ok (OrderedMap.ofList [(1, pairedHub)]) := by decide +kernel
  have hregistry : Tree.decode Token.registrySchema (mappingOf [("USDC", mappingOf [])]) =
      .ok (OrderedMap.ofList [("USDC", ∅)]) := by decide +kernel
  obtain ⟨hrefused, htext⟩ := spoiled_documents_are_refused.1 _ _ hspec
  obtain ⟨-, hregistryText⟩ := spoiled_documents_are_refused.2 _ _ hregistry
  exact ⟨hspec, hrefused.tree_refused _ spoils_crowdedPair,
    htext _ spoils_crowdedPair _ ofText_crowdedPairText, hregistry,
    hregistryText _ spoils_misspeltRegistry _ ofText_misspeltRegistryText⟩

end HubRoutes
