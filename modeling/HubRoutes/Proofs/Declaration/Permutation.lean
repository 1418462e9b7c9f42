import HubRoutes.Proofs.Declaration.Filing

/-!
# Hubs in any order

A document is made of a list of hubs in two steps: the hubs are filed, which a repeated chain puts an end to, and
then they are searched for faults by ascending chain. The first step leaves no trace of the order of the list and
the second one does not see it. So a list with distinct chains makes the same document in any order, or is refused
for the same fault, that of the faulty hub with the least chain; and a repeated chain comes before all other faults.
-/

namespace HubRoutes

/-! ## Searches and repetitions -/

section

variable {α β : Type}

/-- In a sorted list a search finds what is found at a part, provided that nothing is found at any lesser part. -/
theorem findSome?_eq_some_iff_of_pairwise {R : α → α → Prop} (hasymm : ∀ first second, R first second → ¬R second first)
    {list : List α} (hsorted : list.Pairwise R) {check : α → Option β} {answer : β} :
    list.findSome? check = some answer ↔
      ∃ part ∈ list, check part = some answer ∧ ∀ other ∈ list, R other part → check other = none := by
  rw [List.findSome?_eq_some_iff]
  constructor
  · rintro ⟨before, part, after, rfl, hpart, hbefore⟩
    refine ⟨part, by simp, hpart, fun other hother hless ↦ ?_⟩
    obtain ⟨-, hafter, -⟩ := List.pairwise_append.1 hsorted
    have habove := (List.pairwise_cons.1 hafter).1
    rcases List.mem_append.1 hother with hother | hother
    · exact hbefore other hother
    · rcases List.mem_cons.1 hother with rfl | hother
      · exact absurd hless (hasymm _ _ hless)
      · exact absurd (habove other hother) (hasymm _ _ hless)
  · rintro ⟨part, hmem, hpart, hless⟩
    obtain ⟨before, after, rfl⟩ := List.append_of_mem hmem
    refine ⟨before, part, after, rfl, hpart, fun other hother ↦ hless other (by simp [hother]) ?_⟩
    exact (List.pairwise_append.1 hsorted).2.2 other hother part List.mem_cons_self

/-- Where keys repeat there is a first part whose key came before. -/
theorem exists_first_repetition {key : α → β} {list : List α} (hrepeated : ¬(list.map key).Nodup) :
    ∃ front part back, list = front ++ part :: back ∧ (front.map key).Nodup ∧ key part ∈ front.map key := by
  induction list using List.reverseRecOn with
  | nil => exact absurd .nil hrepeated
  | append_singleton front last ih =>
    by_cases hfront : (front.map key).Nodup
    · refine ⟨front, last, [], rfl, hfront, ?_⟩
      by_contra hnew
      refine hrepeated ?_
      rw [List.map_append, List.map_singleton, List.nodup_append_comm, List.singleton_append]
      exact .cons hnew hfront
    · obtain ⟨front', part, back, rfl, hdistinct, hmem⟩ := ih hfront
      exact ⟨front', part, back ++ [last], by simp, hdistinct, hmem⟩

end

namespace Document

open Declaration (Hub IsFirstMessage hubRules)

variable {filed : OrderedMap ChainId Hub} {hub : Hub} {hubs hubs' front back : List Hub}

/-! ## What is filed -/

theorem fileLast_eq_ofList (hubs : List Hub) :
    fileLast ∅ hubs = OrderedMap.ofList (hubs.map fun hub ↦ (hub.chain, hub)) := by
  rw [OrderedMap.ofList, List.foldl_map]
  rfl

theorem map_fst_map_chain (hubs : List Hub) :
    (hubs.map fun hub ↦ (hub.chain, hub)).map Prod.fst = hubs.map Hub.chain := by
  rw [List.map_map]
  rfl

/-- Hubs of distinct chains are filed alike in any order. -/
theorem fileLast_perm (hdistinct : (hubs.map Hub.chain).Nodup) (hperm : hubs.Perm hubs') :
    fileLast ∅ hubs = fileLast ∅ hubs' := by
  rw [fileLast_eq_ofList, fileLast_eq_ofList]
  apply OrderedMap.foldl_insert_perm (hperm.map _)
  rwa [map_fst_map_chain]

/-- Hubs with distinct chains are all filed. -/
theorem mem_entries_fileLast (hdistinct : (hubs.map Hub.chain).Nodup) {chain : ChainId} :
    (chain, hub) ∈ (fileLast ∅ hubs).entries ↔ hub ∈ hubs ∧ hub.chain = chain := by
  rw [← map_fst_map_chain] at hdistinct
  have hlisted : (fileLast ∅ hubs).entries.Perm (hubs.map fun hub ↦ (hub.chain, hub)) := by
    rw [fileLast_eq_ofList]
    exact OrderedMap.entries_foldl_insert_perm .empty hdistinct
  rw [hlisted.mem_iff, List.mem_map]
  constructor
  · rintro ⟨hub, hhub, hsame⟩
    cases hsame
    exact ⟨hhub, rfl⟩
  · rintro ⟨hhub, rfl⟩
    exact ⟨hub, hhub, rfl⟩

/-- Filing goes on behind hubs that are filed without a fault. -/
theorem fileHubs_append (hnew : AreNew filed front) :
    fileHubs filed (front ++ back) = fileHubs (fileLast filed front) back := by
  induction front generalizing filed with
  | nil => rfl
  | cons hub rest ih =>
    have hnone := hnew.1 hub List.mem_cons_self
    rw [List.cons_append, fileHubs, hnone]
    exact ih ((areNew_cons_iff hnone).1 hnew)

/-- Whatever else is wrong in a list, it is refused for the first chain that comes again. -/
theorem ofList_of_repetition (hdistinct : (front.map Hub.chain).Nodup) (hrepeated : hub.chain ∈ front.map Hub.chain) :
    ofList (front ++ hub :: back) = .error (.hubTwice hub.chain) := by
  obtain ⟨earlier, hearlier, hchain⟩ := List.mem_map.1 hrepeated
  have hfound : (fileLast ∅ front).find? hub.chain = some earlier :=
    OrderedMap.find?_eq_some_iff.2 ((mem_entries_fileLast hdistinct).2 ⟨hearlier, hchain⟩)
  rw [ofList, fileHubs_append (areNew_empty_iff.2 hdistinct), fileHubs, hfound]

/-! ## What is found -/

/-- The fault of a list with distinct chains is that of the faulty hub with the least chain. -/
theorem ofList_eq_error_iff (hdistinct : (hubs.map Hub.chain).Nodup) (fault : Declaration.Fault) :
    ofList hubs = .error fault ↔ ∃ hub ∈ hubs, hub.fault? hub.chain = some fault ∧
      ∀ other ∈ hubs, other.chain < hub.chain → other.Valid other.chain := by
  have hasymm : ∀ first second : ChainId × Hub, compare first.1 second.1 = .lt → ¬compare second.1 first.1 = .lt := by
    intro first second hless
    rw [Std.OrientedCmp.gt_of_lt hless]
    nofun
  have hless (first second : ChainId) : compare first second = .lt ↔ first < second := compareOfLessAndEq_eq_lt
  rw [ofList_of_nodup hdistinct, ofHubs_eq_error_iff, Declaration.hubsFault?,
    findSome?_eq_some_iff_of_pairwise hasymm (fileLast ∅ hubs).ascending]
  simp only [Prod.exists, Prod.forall, mem_entries_fileLast hdistinct, hless, Hub.fault?_eq_none_iff]
  constructor
  · rintro ⟨_, hub, ⟨hhub, rfl⟩, hfault, hothers⟩
    exact ⟨hub, hhub, hfault, fun other hother hless ↦ hothers _ other ⟨hother, rfl⟩ hless⟩
  · rintro ⟨hub, hhub, hfault, hothers⟩
    refine ⟨_, hub, ⟨hhub, rfl⟩, hfault, ?_⟩
    rintro _ other ⟨hother, rfl⟩ hless
    exact hothers other hother hless

/-- The first message about a hub is that of its fault. -/
theorem isFirstMessage_hubRules_iff {key : ChainId} {message : String} :
    IsFirstMessage (hubRules key hub) message ↔ ∃ fault, hub.fault? key = some fault ∧ fault.message = message := by
  have hfirst := List.findSome?_eq_some_iff (f := Declaration.Rule.message?) (l := hubRules key hub) (b := message)
  rw [Declaration.findSome?_hubRules, Option.map_eq_some_iff] at hfirst
  rw [hfirst, IsFirstMessage]
  simp only [and_comm]

/-- The hubs of a document make the document. -/
theorem ofList_of_perm_entries {document : Document} (hperm : hubs.Perm (document.hubs.entries.map Prod.snd)) :
    ofList hubs = .ok document := by
  have hvalid := (Declaration.hubsFault?_eq_none_iff document.hubs).1 document.valid
  have hentries : (document.hubs.entries.map Prod.snd).map (fun hub ↦ (hub.chain, hub)) = document.hubs.entries := by
    rw [List.map_map, List.map_congr_left fun entry hentry ↦ ?_, List.map_id]
    exact Prod.ext (hvalid entry hentry).chain_eq rfl
  have hdistinct : ((document.hubs.entries.map Prod.snd).map Hub.chain).Nodup := by
    rw [← map_fst_map_chain, hentries]
    exact document.hubs.nodup_keys
  have hfiled : fileLast ∅ (document.hubs.entries.map Prod.snd) = document.hubs := by
    rw [fileLast_eq_ofList, hentries, OrderedMap.ofList_entries]
  rw [ofList_of_nodup ((hperm.map Hub.chain).symm.nodup hdistinct),
    fileLast_perm ((hperm.map Hub.chain).symm.nodup hdistinct) hperm, hfiled, ofHubs_eq_ok_iff]
  exact ⟨rfl, document.valid⟩

/-! ## The order of a list is irrelevant -/

/-- Hubs with distinct chains make the same document in any order, or are refused for the same fault; what is said
then is what the first broken rule of the faulty hub with the least chain says. Hubs with a repeated chain are refused
in any order, whatever else is wrong, for the first chain that comes again. The hubs of a document make that document
in any order. -/
theorem order_of_hubs_is_irrelevant :
    (∀ hubs hubs' : List Hub, (hubs.map Hub.chain).Nodup → hubs.Perm hubs' → ofList hubs' = ofList hubs ∧
      ∀ message, (∃ fault, ofList hubs = .error fault ∧ fault.message = message) ↔
        ∃ hub ∈ hubs, IsFirstMessage (hubRules hub.chain hub) message ∧
          ∀ other ∈ hubs, other.chain < hub.chain → other.Valid other.chain) ∧
    (∀ hubs hubs' : List Hub, ¬(hubs.map Hub.chain).Nodup → hubs.Perm hubs' →
      ∃ front hub back fault, hubs' = front ++ hub :: back ∧ (front.map Hub.chain).Nodup ∧
        hub.chain ∈ front.map Hub.chain ∧ ofList hubs' = .error fault ∧
        fault.message = "hub chain " ++ hub.chain.text ++ " declared twice") ∧
    ∀ (document : Document) (hubs : List Hub), hubs.Perm (document.hubs.entries.map Prod.snd) →
      ofList hubs = .ok document := by
  refine ⟨fun hubs hubs' hdistinct hperm ↦ ⟨?_, fun message ↦ ?_⟩, fun hubs hubs' hrepeated hperm ↦ ?_,
    fun _ _ ↦ ofList_of_perm_entries⟩
  · rw [ofList_of_nodup hdistinct, ofList_of_nodup ((hperm.map Hub.chain).nodup hdistinct),
      fileLast_perm hdistinct hperm]
  · simp only [ofList_eq_error_iff hdistinct, isFirstMessage_hubRules_iff]
    constructor
    · rintro ⟨fault, ⟨hub, hhub, hfault, hothers⟩, hmessage⟩
      exact ⟨hub, hhub, ⟨fault, hfault, hmessage⟩, hothers⟩
    · rintro ⟨hub, hhub, ⟨fault, hfault, hmessage⟩, hothers⟩
      exact ⟨fault, ⟨hub, hhub, hfault, hothers⟩, hmessage⟩
  · have hrepeated' : ¬(hubs'.map Hub.chain).Nodup := fun hdistinct ↦
      hrepeated ((hperm.map Hub.chain).symm.nodup hdistinct)
    obtain ⟨front, hub, back, rfl, hdistinct, hmem⟩ := exists_first_repetition hrepeated'
    exact ⟨front, hub, back, _, rfl, hdistinct, hmem, ofList_of_repetition hdistinct hmem, rfl⟩

def symbollessHub : Hub := { Route.twoChainHub with chain := 5, nativeSymbol := "" }

/-- A faulty hub in front of a valid one and behind it, and a valid one that comes twice. -/
theorem order_of_hubs_is_irrelevant_symbollessHub :
    ofList [symbollessHub, Route.twoChainHub] = ofList [Route.twoChainHub, symbollessHub] ∧
    (∃ fault, ofList [Route.twoChainHub, symbollessHub] = .error fault ∧
      fault.message = "hub 5: empty token symbol") ∧
    (∃ front hub back fault,
      [symbollessHub, Route.twoChainHub, Route.twoChainHub] = front ++ hub :: back ∧
        (front.map Hub.chain).Nodup ∧ hub.chain ∈ front.map Hub.chain ∧
        ofList [symbollessHub, Route.twoChainHub, Route.twoChainHub] = .error fault ∧
        fault.message = "hub chain " ++ hub.chain.text ++ " declared twice") ∧
    ofList [Route.twoChainHub] = .ok Route.twoChainDocument := by
  obtain ⟨hsame, hrepeated, hdocument⟩ := order_of_hubs_is_irrelevant
  obtain ⟨hequal, hmessage⟩ := hsame [Route.twoChainHub, symbollessHub] _ (by decide) (.swap ..)
  refine ⟨hequal, (hmessage _).2 ⟨symbollessHub, by simp, ?_, ?_⟩, ?_, hdocument _ _ (.refl _)⟩
  · exact isFirstMessage_hubRules_iff.2 ⟨.emptySymbol 5, by rfl, by rfl⟩
  · simp only [← Hub.fault?_eq_none_iff]
    decide
  · exact hrepeated [Route.twoChainHub, symbollessHub, Route.twoChainHub] _ (by decide) (.swap ..)

end Document

end HubRoutes
