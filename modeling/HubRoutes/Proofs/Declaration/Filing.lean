import HubRoutes.Proofs.Declaration.FirstFault
import HubRoutes.Proofs.OrderedMap
import HubRoutes.Proofs.Schema.Entries

/-!
# The hubs of a list and the hubs of a text

Hubs are filed by chain in two ways. In a list no chain may come twice. In a text a chain may, and then the later
hub takes the place of the earlier one, which leaves no trace. So a text is as good as the list of the last hubs
of its chains, and the two ways agree on all hubs exactly as long as no chain comes twice.
-/

namespace HubRoutes.Document

open Declaration (Hub hubSchema hubMapSchema)
open Yaml (Tree)
open Yaml.Tree (format)

variable {hub : Hub} {hubs : List Hub} {filed filed' : OrderedMap ChainId Hub} {text : String}
  {characters : List Char}

/-! ## Two ways of filing hubs -/

/-- Files hubs one after the other, each in place of an earlier one of its chain. -/
def fileLast (filed : OrderedMap ChainId Hub) (hubs : List Hub) : OrderedMap ChainId Hub :=
  hubs.foldl (fun filed hub ↦ filed.insert hub.chain hub) filed

/-- The hubs without those whose chain comes again. -/
def lastOfEach : List Hub → List Hub
  | [] => []
  | hub :: rest => if hub.chain ∈ rest.map Hub.chain then lastOfEach rest else hub :: lastOfEach rest

/-- What is filed under the chains of the hubs before has no effect. -/
theorem fileLast_eq_of_agree
    (hagree : ∀ chain, chain ∉ hubs.map Hub.chain → filed.find? chain = filed'.find? chain) :
    fileLast filed hubs = fileLast filed' hubs := by
  induction hubs generalizing filed filed' with
  | nil => exact OrderedMap.ext_find? fun chain ↦ hagree chain List.not_mem_nil
  | cons hub rest ih =>
    refine ih fun chain hchain ↦ ?_
    rw [OrderedMap.find?_insert, OrderedMap.find?_insert]
    by_cases hsame : chain = hub.chain
    · rw [if_pos hsame, if_pos hsame]
    · rw [if_neg hsame, if_neg hsame, hagree chain (by simp [hsame, hchain])]

/-- Leaving out the hubs whose chain comes again does not change what is filed in the end. -/
theorem fileLast_lastOfEach (filed : OrderedMap ChainId Hub) (hubs : List Hub) :
    fileLast filed (lastOfEach hubs) = fileLast filed hubs := by
  induction hubs generalizing filed with
  | nil => rfl
  | cons hub rest ih =>
    rw [lastOfEach]
    split
    next hagain =>
      rw [ih]
      refine fileLast_eq_of_agree fun chain hchain ↦ ?_
      have hother : chain ≠ hub.chain := by
        rintro rfl
        exact hchain hagain
      rw [OrderedMap.find?_insert, if_neg hother]
    next => exact ih _

/-- The last hubs of all chains are among the hubs. -/
theorem subset_lastOfEach (hubs : List Hub) : lastOfEach hubs ⊆ hubs := by
  induction hubs with
  | nil => exact List.Subset.refl _
  | cons hub rest ih =>
    rw [lastOfEach]
    split
    · exact List.subset_cons_of_subset hub ih
    · exact List.cons_subset_cons hub ih

/-- There is one last hub for each chain. -/
theorem nodup_lastOfEach (hubs : List Hub) : ((lastOfEach hubs).map Hub.chain).Nodup := by
  induction hubs with
  | nil => exact .nil
  | cons hub rest ih =>
    rw [lastOfEach]
    split
    next => exact ih
    next hlast => exact .cons (fun hmem ↦ hlast (List.map_subset Hub.chain (subset_lastOfEach rest) hmem)) ih

/-- Every hub is the last one of its chain if no chain comes twice. -/
theorem lastOfEach_of_nodup (hdistinct : (hubs.map Hub.chain).Nodup) : lastOfEach hubs = hubs := by
  induction hubs with
  | nil => rfl
  | cons hub rest ih =>
    obtain ⟨hlast, hrest⟩ := List.nodup_cons.1 hdistinct
    rw [lastOfEach, if_neg hlast, ih hrest]

/-! ## A chain that comes twice in a list -/

/-- Distinct chains, under none of which a hub is filed. -/
def AreNew (filed : OrderedMap ChainId Hub) (hubs : List Hub) : Prop :=
  (∀ hub ∈ hubs, filed.find? hub.chain = none) ∧ (hubs.map Hub.chain).Nodup

theorem areNew_cons_iff (hnew : filed.find? hub.chain = none) :
    AreNew filed (hub :: hubs) ↔ AreNew (filed.insert hub.chain hub) hubs := by
  simp only [AreNew, List.forall_mem_cons, List.map_cons, List.nodup_cons, OrderedMap.find?_insert, List.mem_map,
    hnew, true_and]
  constructor
  · rintro ⟨hnone, hfirst, hdistinct⟩
    refine ⟨fun other hother ↦ ?_, hdistinct⟩
    rw [if_neg fun hsame ↦ hfirst ⟨other, hother, hsame⟩]
    exact hnone other hother
  · rintro ⟨hnone, hdistinct⟩
    refine ⟨fun other hother ↦ ?_, ?_, hdistinct⟩
    · have hother := hnone other hother
      split at hother
      · cases hother
      · exact hother
    · rintro ⟨other, hother, hsame⟩
      have hother := hnone other hother
      rw [if_pos hsame] at hother
      cases hother

/-- Hubs with new chains are filed, and all others are refused for a chain that comes twice. -/
theorem fileHubs_eq (filed : OrderedMap ChainId Hub) (hubs : List Hub) :
    AreNew filed hubs ∧ fileHubs filed hubs = .ok (fileLast filed hubs) ∨
      ¬AreNew filed hubs ∧ ∃ chain, fileHubs filed hubs = .error (.hubTwice chain) := by
  induction hubs generalizing filed with
  | nil => exact .inl ⟨⟨nofun, .nil⟩, rfl⟩
  | cons hub rest ih =>
    rw [fileHubs]
    cases hfound : filed.find? hub.chain with
    | some earlier =>
      refine .inr ⟨fun hnew ↦ ?_, hub.chain, rfl⟩
      rw [hnew.1 hub List.mem_cons_self] at hfound
      cases hfound
    | none =>
      rw [areNew_cons_iff hfound]
      exact ih (filed.insert hub.chain hub)

theorem areNew_empty_iff : AreNew ∅ hubs ↔ (hubs.map Hub.chain).Nodup :=
  and_iff_right fun _ _ ↦ rfl

/-- A list without a repeated chain is filed as a whole and checked then. -/
theorem ofList_of_nodup (hdistinct : (hubs.map Hub.chain).Nodup) : ofList hubs = ofHubs (fileLast ∅ hubs) := by
  obtain ⟨-, hfiled⟩ | ⟨hrepeated, -⟩ := fileHubs_eq ∅ hubs
  · rw [ofList, hfiled]
  · exact absurd (areNew_empty_iff.2 hdistinct) hrepeated

/-- A list with a repeated chain is refused for a chain that was declared twice. -/
theorem ofList_of_not_nodup (hrepeated : ¬(hubs.map Hub.chain).Nodup) :
    ∃ chain, ofList hubs = .error (.hubTwice chain) := by
  obtain ⟨hdistinct, -⟩ | ⟨-, chain, hfiled⟩ := fileHubs_eq ∅ hubs
  · exact absurd (areNew_empty_iff.1 hdistinct) hrepeated
  · exact ⟨chain, by rw [ofList, hfiled]⟩

/-! ## The hubs of a text -/

/-- An entry has the chain of a hub as its key and the hub as its value. -/
def FilesHub (entry : Tree × Tree) (hub : Hub) : Prop :=
  Schema.ReadsEntry format.step format.chainKey (fun place tree ↦ hubSchema.read format place tree) []
    entry (hub.chain, hub)

instance (entry : Tree × Tree) (hub : Hub) : Decidable (FilesHub entry hub) :=
  inferInstanceAs (Decidable (_ ∧ _))

/-- A text is a mapping of hubs, each of them filed under its own chain. -/
def Lists (text : String) (hubs : List Hub) : Prop :=
  ∃ tree entries, Tree.ofText? text.toList = some tree ∧ format.entries "a map" tree = .ok entries ∧
    List.Forall₂ FilesHub entries hubs

theorem lists_of_eval (htext : text.toList = characters)
    (heval : (do
      let tree ← Tree.ofText? characters
      let entries ← (format.entries "a map" tree).toOption
      return decide (List.Forall₂ FilesHub entries hubs)) = some true) : Lists text hubs := by
  simp only [Option.bind_eq_bind, Option.bind_eq_some_iff, Option.pure_def, Option.some.injEq,
    decide_eq_true_eq] at heval
  obtain ⟨tree, htree, entries, hentries, hfiles⟩ := heval
  refine ⟨tree, entries, htext ▸ htree, ?_, hfiles⟩
  cases hread : format.entries "a map" tree with
  | error cause =>
    rw [hread] at hentries
    cases hentries
  | ok read =>
    rw [hread] at hentries
    cases hentries
    rfl

/-- A mapping of hubs is read to a map with the last hub of each chain. -/
theorem decode_of_files {tree : Tree} {entries : List (Tree × Tree)}
    (hentries : format.entries "a map" tree = .ok entries) (hfiles : List.Forall₂ FilesHub entries hubs) :
    Tree.decode hubMapSchema tree = .ok (fileLast ∅ hubs) := by
  simp only [Tree.decode, hubMapSchema, Schema.read, bind_eq_ok_iff, Schema.locate_eq_ok_iff,
    Schema.readEntries_eq_ok_iff]
  refine ⟨entries, hentries, hubs.map fun hub : Hub ↦ (hub.chain, hub), ?_, ?_⟩
  · rw [List.forall₂_map_right_iff]
    exact hfiles
  · rw [List.foldl_map]
    rfl

/-- A text of hubs is made a document of from what is filed in the end. -/
theorem ofText_of_lists (hlists : Lists text hubs) :
    ofText text = (ofHubs (fileLast ∅ hubs)).mapError fun fault ↦ ⟨[], .declaration fault⟩ := by
  obtain ⟨tree, entries, htree, hentries, hfiles⟩ := hlists
  have hread : readYaml hubMapSchema text = .ok (fileLast ∅ hubs) := by
    rw [readYaml, htree]
    dsimp only
    rw [decode_of_files hentries hfiles]
  rw [ofText, hread]

/-! ## Texts of one and of two hubs -/

def oneHubText : String := "
  1:
   hubPoolChain: 1
   hubPoolAddress: &pool a1a1a1a1a1a1a1a1a1a1a1a1a1a1a1a1a1a1a1a1
   acrossConfigStoreAddress: *pool
   acceleratingDistributorAddress: *pool
   merkleDistributorAddress: *pool
   claimAndStakeAddress: *pool
   routes: []"

/-- A text with that hub and another one of the same chain, which has another native token. -/
def repeatedChainText : String := "
  1:
   hubPoolChain: 1
   hubPoolAddress: &pool a1a1a1a1a1a1a1a1a1a1a1a1a1a1a1a1a1a1a1a1
   acrossConfigStoreAddress: *pool
   acceleratingDistributorAddress: *pool
   merkleDistributorAddress: *pool
   claimAndStakeAddress: *pool
   routes: []
  1:
   hubPoolChain: 1
   hubPoolAddress: *pool
   acrossConfigStoreAddress: *pool
   acceleratingDistributorAddress: *pool
   merkleDistributorAddress: *pool
   claimAndStakeAddress: *pool
   nativeTokenSymbol: MATIC
   routes: []"

def bareHub : Hub where
  chain := 1
  pool := .replicate 0xa1
  configStore := .replicate 0xa1
  acceleratingDistributor := .replicate 0xa1
  merkleDistributor := .replicate 0xa1
  claimAndStake := .replicate 0xa1
  wrappedNativeSymbol := "WETH"
  protocolSymbol := "ACX"
  nativeSymbol := "ETH"
  routers := ∅
  pools := []
  verifier := none
  origins := []

def laterHub : Hub := { bareHub with nativeSymbol := "MATIC" }

-- The literals are long lists of characters for the unifier.
set_option maxRecDepth 4000 in
theorem lists_oneHubText : Lists oneHubText [bareHub] :=
  lists_of_eval String.toList_ofList (by decide +kernel)

set_option maxRecDepth 4000 in
theorem lists_repeatedChainText : Lists repeatedChainText [bareHub, laterHub] :=
  lists_of_eval String.toList_ofList (by decide +kernel)

/-! ## The document of a text and of a list -/

/-- A text of hubs is made a document of as the list of the last hubs of its chains is, with the same document or
the same fault. That is the list of all its hubs if no chain comes twice. If one does, the list of all hubs is
refused, whatever becomes of the text. -/
theorem ofText_eq_ofList_lastOfEach (text : String) (hubs : List Hub) (hlists : Lists text hubs) :
    ofText text = (ofList (lastOfEach hubs)).mapError (fun fault ↦ ⟨[], .declaration fault⟩) ∧
      ((hubs.map Hub.chain).Nodup →
        ofText text = (ofList hubs).mapError fun fault ↦ ⟨[], .declaration fault⟩) ∧
      (¬(hubs.map Hub.chain).Nodup → ∃ chain, ofList hubs = .error (.hubTwice chain)) := by
  have hlast : ofText text = (ofList (lastOfEach hubs)).mapError fun fault ↦ ⟨[], .declaration fault⟩ := by
    rw [ofText_of_lists hlists, ofList_of_nodup (nodup_lastOfEach hubs), fileLast_lastOfEach]
  refine ⟨hlast, fun hdistinct ↦ ?_, ofList_of_not_nodup⟩
  rw [hlast, lastOfEach_of_nodup hdistinct]

/-- A text with two hubs of one chain, the list of both, and a text with one of them. -/
theorem ofText_eq_ofList_lastOfEach_repeatedChain :
    ofText repeatedChainText = (ofList [laterHub]).mapError (fun fault ↦ ⟨[], .declaration fault⟩) ∧
      (∃ chain, ofList [bareHub, laterHub] = .error (.hubTwice chain)) ∧
      ofText oneHubText = (ofList [bareHub]).mapError fun fault ↦ ⟨[], .declaration fault⟩ := by
  obtain ⟨hlast, -, hrefused⟩ := ofText_eq_ofList_lastOfEach _ _ lists_repeatedChainText
  obtain ⟨-, hsame, -⟩ := ofText_eq_ofList_lastOfEach _ _ lists_oneHubText
  exact ⟨hlast, hrefused (by decide), hsame (by decide)⟩

/-- A text and the list of its hubs do not always make the same document: the text of two hubs of one chain is
accepted, with the later hub, and the list is refused. -/
theorem ofText_ne_ofList_repeatedChain :
    ¬∀ text hubs, Lists text hubs → ∀ document, ofText text = .ok document ↔ ofList hubs = .ok document := by
  intro hagree
  have haccepted : ∃ document, ofText repeatedChainText = .ok document := by
    rw [ofText_of_lists lists_repeatedChainText]
    exact ⟨⟨fileLast ∅ [bareHub, laterHub], by decide⟩, rfl⟩
  obtain ⟨document, haccepted⟩ := haccepted
  have hlisted := (hagree _ _ lists_repeatedChainText document).1 haccepted
  cases hlisted

end HubRoutes.Document
