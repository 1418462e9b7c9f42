import HubRoutes.Document.Loading
import HubRoutes.Proofs.Route.Compilation
import Mathlib.Data.List.Infix

/-!
# The first fault of declarations

The rules that declarations have to meet are listed in the order in which they are tried, each with all that
decides about it: a rule against repetition comes with the parts that are declared before. The list is taken
from the declarations alone, so each rule is kept or broken whatever the other rules are. Declarations are
refused exactly if a rule is broken, and then with the message of the first broken one.

Every document is made of declarations that break no rule, whichever way it is made.
-/

namespace HubRoutes.Declaration

/-! ## The rules -/

/-- A rule about one part of the declarations that are filed under a key. -/
inductive Rule
  | hubKey (key declared : ChainId)
  | hubSymbol (key : ChainId) (symbol : String)
  | originOnce (key : ChainId) (earlier : List Origin) (origin : Origin)
  | originSymbol (key : ChainId) (origin : Origin)
  | otherChain (key : ChainId) (origin : Origin) (destination : Destination)
  | destinationOnce (key : ChainId) (origin : Origin) (earlier : List Destination)
      (destination : Destination)
  | tokenSymbols (key : ChainId) (origin : Origin) (destination : Destination) (token : Token)
  | swapSymbols (key : ChainId) (origin : Origin) (destination : Destination) (swap : Swap)

/-- The words in front of what is said about a hub. -/
def hubContext (key : ChainId) : String := "hub " ++ key.text ++ ": "

def originContext (key : ChainId) (origin : Origin) : String :=
  hubContext key ++ "origin chain " ++ origin.chain.text ++ ": "

def destinationContext (key : ChainId) (origin : Origin) (destination : Destination) : String :=
  originContext key origin ++ "destination chain " ++ destination.chain.text

/-- What is said about a rule that is broken. -/
def Rule.message? : Rule → Option String
  | .hubKey key declared =>
    if declared ≠ key then
      some ("hub entry " ++ key.text ++ " declares hubPoolChain " ++ declared.text)
    else none
  | .hubSymbol key symbol =>
    if symbol = "" then some (hubContext key ++ "empty token symbol") else none
  | .originOnce key earlier origin =>
    if origin.chain ∈ earlier.map Origin.chain then
      some (hubContext key ++ "origin chain " ++ origin.chain.text ++ " declared twice")
    else none
  | .originSymbol key origin =>
    if origin.nativeSymbol = some "" then
      some (originContext key origin ++ "empty nativeTokenSymbol")
    else none
  | .otherChain key origin destination =>
    if destination.chain = origin.chain then
      some (destinationContext key origin destination ++ " equals its origin")
    else none
  | .destinationOnce key origin earlier destination =>
    if destination.chain ∈ earlier.map Destination.chain then
      some (destinationContext key origin destination ++ " declared twice")
    else none
  | .tokenSymbols key origin destination token =>
    if token.input = "" ∨ token.output = "" then
      some (destinationContext key origin destination ++ ": empty token symbol")
    else none
  | .swapSymbols key origin destination swap =>
    if swap.swapInput = "" ∨ swap.bridgeInput = "" ∨ swap.bridgeOutput = "" then
      some (destinationContext key origin destination ++ ": empty swap token symbol")
    else none

def destinationRules (key : ChainId) (origin : Origin) (earlier : List Destination)
    (destination : Destination) : List Rule :=
  .otherChain key origin destination :: .destinationOnce key origin earlier destination ::
    (destination.tokens.map (.tokenSymbols key origin destination) ++
      destination.swaps.map (.swapSymbols key origin destination))

def originRules (key : ChainId) (earlier : List Origin) (origin : Origin) : List Rule :=
  .originOnce key earlier origin :: .originSymbol key origin ::
    (origin.destinations.inits.zip origin.destinations).flatMap fun (earlier, destination) ↦
      destinationRules key origin earlier destination

def hubRules (key : ChainId) (hub : Hub) : List Rule :=
  .hubKey key hub.chain :: .hubSymbol key hub.wrappedNativeSymbol ::
    .hubSymbol key hub.protocolSymbol :: .hubSymbol key hub.nativeSymbol ::
      (hub.origins.inits.zip hub.origins).flatMap fun (earlier, origin) ↦
        originRules key earlier origin

/-- The rules about all hubs by ascending key. -/
def rules (hubs : OrderedMap ChainId Hub) : List Rule :=
  hubs.entries.flatMap fun entry ↦ hubRules entry.1 entry.2

/-- A message is that of the first broken rule of a list. -/
def IsFirstMessage (list : List Rule) (message : String) : Prop :=
  ∃ passed rule later, list = passed ++ rule :: later ∧
    (∀ earlier ∈ passed, earlier.message? = none) ∧ rule.message? = some message

/-! ## Searches -/

section Search

variable {α β γ : Type}

theorem findSome?_flatMap (parts : α → List β) (check : β → Option γ) (list : List α) :
    (list.flatMap parts).findSome? check = list.findSome? fun whole ↦ (parts whole).findSome? check := by
  induction list with
  | nil => rfl
  | cons first rest ih =>
    rw [List.flatMap_cons, List.findSome?_append, ih, List.findSome?_cons]
    cases (parts first).findSome? check <;> rfl

theorem findSome?_cons_or (check : α → Option β) (first : α) (rest : List α) :
    (first :: rest).findSome? check = (check first).or (rest.findSome? check) := by
  rw [List.findSome?_cons]
  cases check first <;> rfl

/-- A search that says the same of all that it finds tells whether there is something to find. -/
theorem findSome?_eq_ite_any {check : α → Option β} {bad : α → Bool} {answer : β}
    (hcheck : ∀ value, check value = if bad value then some answer else none) (list : List α) :
    list.findSome? check = if list.any bad then some answer else none := by
  induction list with
  | nil => rfl
  | cons first rest ih =>
    rw [findSome?_cons_or, ih, hcheck, List.any_cons]
    cases bad first <;> simp

/-- A search that carries the chains of the parts before along asks about each part with the parts before
it, as long as a chain counts once and in any order. -/
theorem search_eq_findSome? (chainOf : α → ChainId) (check : List ChainId → α → Option β)
    (search : List ChainId → List α → Option β) (hnil : ∀ earlier, search earlier [] = none)
    (hcons : ∀ earlier part rest,
      search earlier (part :: rest) = (check earlier part).or (search (chainOf part :: earlier) rest))
    (hcheck : ∀ earlier earlier' part, (∀ chain, chain ∈ earlier ↔ chain ∈ earlier') →
      check earlier part = check earlier' part)
    (earlier : List ChainId) (parts : List α) :
    search earlier parts = (parts.inits.zip parts).findSome? fun (before, part) ↦
      check (before.map chainOf ++ earlier) part := by
  induction parts generalizing earlier with
  | nil => exact hnil earlier
  | cons part rest ih =>
    rw [hcons, ih, List.inits_cons, List.zip_cons_cons, List.zip_map_left, findSome?_cons_or,
      List.findSome?_map]
    congr 2
    funext ⟨before, later⟩
    apply hcheck
    intro chain
    change chain ∈ before.map chainOf ++ chainOf part :: earlier ↔
      chain ∈ chainOf part :: before.map chainOf ++ earlier
    simp only [List.mem_append, List.mem_cons]
    rw [or_left_comm, or_assoc]

end Search

/-! ## The search for faults -/

/-- What is said about a fault of an origin of the hub that is filed under a key. -/
def messageIn (key : ChainId) (origin : Origin) (fault : OriginFault) : String :=
  (Fault.inOrigin key origin.chain fault).message

theorem messageIn_eq (key : ChainId) (origin : Origin) (fault : OriginFault) :
    messageIn key origin fault = originContext key origin ++ fault.message := by
  simp [messageIn, Fault.message, originContext, hubContext, String.append_assoc]

/-- The message of a fault at a destination, from the wording of the fault. -/
theorem messageIn_destination {key : ChainId} {origin : Origin} (destination : Destination)
    {fault : OriginFault} {ending : String}
    (hmessage : fault.message = "destination chain " ++ destination.chain.text ++ ending) :
    messageIn key origin fault = destinationContext key origin destination ++ ending := by
  rw [messageIn_eq, hmessage, destinationContext, String.append_assoc, String.append_assoc,
    String.append_assoc]

theorem findSome?_destinationRules (key : ChainId) (origin : Origin) (earlier : List Destination)
    (destination : Destination) :
    (destinationRules key origin earlier destination).findSome? Rule.message? =
      (destination.fault? origin.chain (earlier.map Destination.chain)).map
        (messageIn key origin) := by
  have htokens : (destination.tokens.map (.tokenSymbols key origin destination)).findSome?
      Rule.message? = if destination.tokens.any Token.lacksSymbol then
        some (messageIn key origin (.emptyTokenSymbol destination.chain)) else none := by
    rw [List.findSome?_map, messageIn_destination destination rfl]
    apply findSome?_eq_ite_any
    intro token
    simp [Rule.message?, Token.lacksSymbol]
  have hswaps : (destination.swaps.map (.swapSymbols key origin destination)).findSome?
      Rule.message? = if destination.swaps.any Swap.lacksSymbol then
        some (messageIn key origin (.emptySwapSymbol destination.chain)) else none := by
    rw [List.findSome?_map, messageIn_destination destination rfl]
    apply findSome?_eq_ite_any
    intro swap
    simp [Rule.message?, Swap.lacksSymbol, or_assoc]
  have hself : (Rule.otherChain key origin destination).message? =
      if destination.chain = origin.chain then
        some (messageIn key origin (.destinationIsOrigin destination.chain)) else none := by
    rw [messageIn_destination destination rfl]
    rfl
  have htwice : (Rule.destinationOnce key origin earlier destination).message? =
      if destination.chain ∈ earlier.map Destination.chain then
        some (messageIn key origin (.destinationTwice destination.chain)) else none := by
    rw [messageIn_destination destination rfl]
    rfl
  rw [destinationRules, findSome?_cons_or, findSome?_cons_or, List.findSome?_append, htokens,
    hswaps, hself, htwice, Destination.fault?]
  split_ifs <;> rfl

/-- The first fault of the destinations is the first broken rule about any of them. -/
theorem findSome?_destinations (key : ChainId) (origin : Origin) :
    (destinationsFault? origin.chain [] origin.destinations).map (messageIn key origin) =
      ((origin.destinations.inits.zip origin.destinations).flatMap fun (earlier, destination) ↦
        destinationRules key origin earlier destination).findSome? Rule.message? := by
  rw [findSome?_flatMap]
  simp only [findSome?_destinationRules]
  have hsearch := search_eq_findSome? Destination.chain
    (fun earlier destination ↦ (destination.fault? origin.chain earlier).map (messageIn key origin))
    (fun earlier destinations ↦
      (destinationsFault? origin.chain earlier destinations).map (messageIn key origin))
    (fun _ ↦ rfl) ?_ ?_ [] origin.destinations
  · simpa only [List.append_nil] using hsearch
  · intro earlier destination rest
    rw [destinationsFault?]
    cases destination.fault? origin.chain earlier <;> rfl
  · intro earlier earlier' destination hsame
    simp only [Destination.fault?, hsame]

/-- The rules of an origin find its repetition before the search looks into the origin. -/
theorem findSome?_originRules (key : ChainId) (earlier : List Origin) (origin : Origin) :
    (originRules key earlier origin).findSome? Rule.message? =
      if origin.chain ∈ earlier.map Origin.chain then
        some (Fault.originTwice key origin.chain).message
      else origin.fault?.map (messageIn key origin) := by
  have htwice : (Rule.originOnce key earlier origin).message? =
      if origin.chain ∈ earlier.map Origin.chain then
        some (Fault.originTwice key origin.chain).message else none := by
    simp [Rule.message?, Fault.message, hubContext, String.append_assoc]
  have hsymbol : (Rule.originSymbol key origin).message? =
      if origin.nativeSymbol = some "" then
        some (messageIn key origin .emptyNativeSymbol) else none := by
    rw [messageIn_eq]
    rfl
  rw [originRules, findSome?_cons_or, findSome?_cons_or, htwice, hsymbol, ← findSome?_destinations,
    Origin.fault?]
  split_ifs <;> rfl

/-- The first fault of the origins is the first broken rule about any of them. -/
theorem findSome?_origins (key : ChainId) (origins : List Origin) :
    (originsFault? key [] origins).map Fault.message =
      ((origins.inits.zip origins).flatMap fun (earlier, origin) ↦
        originRules key earlier origin).findSome? Rule.message? := by
  rw [findSome?_flatMap]
  simp only [findSome?_originRules]
  have hsearch := search_eq_findSome? Origin.chain
    (fun earlier origin ↦
      if origin.chain ∈ earlier then some (Fault.originTwice key origin.chain).message
      else origin.fault?.map (messageIn key origin))
    (fun earlier origins ↦ (originsFault? key earlier origins).map Fault.message)
    (fun _ ↦ rfl) ?_ ?_ [] origins
  · simpa only [List.append_nil] using hsearch
  · intro earlier origin rest
    rw [originsFault?]
    by_cases hmet : origin.chain ∈ earlier
    · simp [hmet]
    · simp only [hmet, if_false]
      cases origin.fault? <;> rfl
  · intro earlier earlier' origin hsame
    simp only [hsame]

/-- The fault of a hub is what is said about the first of its rules that is broken. -/
theorem findSome?_hubRules (key : ChainId) (hub : Hub) :
    (hubRules key hub).findSome? Rule.message? = (hub.fault? key).map Fault.message := by
  have hkey : (Rule.hubKey key hub.chain).message? =
      if hub.chain ≠ key then some (Fault.hubMismatch key hub.chain).message else none := by
    simp [Rule.message?, Fault.message]
  have hsymbol (symbol : String) : (Rule.hubSymbol key symbol).message? =
      if symbol = "" then some (Fault.emptySymbol key).message else none := by
    simp [Rule.message?, Fault.message, hubContext, String.append_assoc]
  rw [hubRules, findSome?_cons_or, findSome?_cons_or, findSome?_cons_or, findSome?_cons_or,
    ← findSome?_origins, hkey, hsymbol, hsymbol, hsymbol, Hub.fault?, Hub.lacksSymbol]
  by_cases hmismatch : hub.chain = key
  · by_cases hwrapped : hub.wrappedNativeSymbol = ""
    · simp [hmismatch, hwrapped]
    · by_cases hprotocol : hub.protocolSymbol = ""
      · simp [hmismatch, hwrapped, hprotocol]
      · by_cases hnative : hub.nativeSymbol = ""
        · simp [hmismatch, hwrapped, hprotocol, hnative]
        · simp [hmismatch, hwrapped, hprotocol, hnative]
  · simp [hmismatch]

/-- The search says what the first broken rule says. -/
theorem message_hubsFault? (hubs : OrderedMap ChainId Hub) :
    (hubsFault? hubs).map Fault.message = (rules hubs).findSome? Rule.message? := by
  rw [rules, findSome?_flatMap, hubsFault?]
  simp only [findSome?_hubRules]
  exact List.map_findSome?

/-- The first message of all rules is that of the first fault among the hubs. -/
theorem isFirstMessage_iff (hubs : OrderedMap ChainId Hub) (message : String) :
    IsFirstMessage (rules hubs) message ↔
      ∃ fault, hubsFault? hubs = some fault ∧ fault.message = message := by
  have hfirst := List.findSome?_eq_some_iff (f := Rule.message?) (l := rules hubs) (b := message)
  rw [← message_hubsFault?, Option.map_eq_some_iff] at hfirst
  rw [hfirst, IsFirstMessage]
  simp only [and_comm]

end HubRoutes.Declaration

namespace HubRoutes.Document

open Declaration (Hub IsFirstMessage)

/-! ## Documents and the ways to make them -/

/-- Filing hubs keeps what is filed, and each hub is found under its own chain. -/
theorem find?_of_fileHubs {filed result : OrderedMap ChainId Hub} {hubs : List Hub}
    (hfiled : fileHubs filed hubs = .ok result) :
    (∀ chain hub, filed.find? chain = some hub → result.find? chain = some hub) ∧
      ∀ hub ∈ hubs, result.find? hub.chain = some hub := by
  induction hubs generalizing filed with
  | nil =>
    cases hfiled
    exact ⟨fun _ _ hfound ↦ hfound, nofun⟩
  | cons hub rest ih =>
    rw [fileHubs] at hfiled
    cases hbefore : filed.find? hub.chain with
    | some earlier =>
      rw [hbefore] at hfiled
      cases hfiled
    | none =>
      rw [hbefore] at hfiled
      obtain ⟨hkept, hrest⟩ := ih hfiled
      refine ⟨fun chain other hfound ↦ hkept chain other ?_, List.forall_mem_cons.2 ⟨?_, hrest⟩⟩
      · have hother : chain ≠ hub.chain := by
          rintro rfl
          rw [hbefore] at hfound
          cases hfound
        rw [OrderedMap.find?_insert, if_neg hother, hfound]
      · exact hkept hub.chain hub (by rw [OrderedMap.find?_insert, if_pos rfl])

/-- A result is a document of exactly the given hubs if these are valid, and otherwise a fault with the
message of the first broken rule. -/
structure IsVerdict {ε : Type} (hubs : OrderedMap ChainId Hub) (message : ε → String)
    (result : Except ε Document) : Prop where
  accepted_iff : (∃ document, result = .ok document) ↔ ∀ entry ∈ hubs.entries, entry.2.Valid entry.1
  hubs_eq : ∀ document, result = .ok document → document.hubs = hubs
  refused_iff : ∀ text, (∃ fault, result = .error fault ∧ message fault = text) ↔
    IsFirstMessage (Declaration.rules hubs) text

/-- The check of filed hubs is a verdict on them. -/
theorem isVerdict_ofHubs (hubs : OrderedMap ChainId Hub) :
    IsVerdict hubs Declaration.Fault.message (ofHubs hubs) where
  accepted_iff := by
    simp only [← Declaration.hubsFault?_eq_none_iff, ofHubs_eq_ok_iff]
    exact ⟨fun ⟨_, _, hvalid⟩ ↦ hvalid, fun hvalid ↦ ⟨⟨hubs, hvalid⟩, rfl, hvalid⟩⟩
  hubs_eq document hmade := ((ofHubs_eq_ok_iff hubs document).1 hmade).1
  refused_iff text := by
    rw [Declaration.isFirstMessage_iff]
    simp only [ofHubs_eq_error_iff]

/-- A verdict stays one in another place, if the place does not change what is said. -/
theorem IsVerdict.mapError {ε ε' : Type} {hubs : OrderedMap ChainId Hub} {message : ε → String}
    {message' : ε' → String} {result : Except ε Document} {wrap : ε → ε'}
    (hwrap : ∀ fault, message' (wrap fault) = message fault) (hverdict : IsVerdict hubs message result) :
    IsVerdict hubs message' (result.mapError wrap) := by
  rcases hverdict with ⟨haccepted, hhubs, hrefused⟩
  cases result with
  | ok document => exact ⟨by simpa [Except.mapError] using haccepted,
      by simpa [Except.mapError] using hhubs, by simpa [Except.mapError] using hrefused⟩
  | error fault => exact ⟨by simpa [Except.mapError] using haccepted, by simp [Except.mapError],
      by simpa [Except.mapError, hwrap] using hrefused⟩

theorem message_declaration (fault : Declaration.Fault) :
    (Failure.mk [] (.declaration fault)).message = fault.message := by
  simp [Failure.message, Failure.Cause.message?]

/-- Loading a document leaves the file tree alone. -/
theorem run_load (path : String) (tree : FileTree) : (load FileTree.system path).run tree =
    (match tree.readText path with
      | .error fault => .error ⟨[.loadRouteSpec, .readRouteSpec path], .file fault⟩
      | .ok text => (ofText text).mapError (Failure.within [.loadRouteSpec, .load path]), tree) := by
  change (match tree.readText path with
    | .error fault => pure (.error ⟨[.loadRouteSpec, .readRouteSpec path], .file fault⟩)
    | .ok text => pure ((ofText text).mapError (Failure.within [.loadRouteSpec, .load path])) :
      StateM FileTree (Except Failure Document)).run tree = _
  cases tree.readText path <;> rfl

/-- A loaded document is that of the text in the file. -/
theorem exists_text_of_load {path : String} {tree after : FileTree} {document : Document}
    (hloaded : (load FileTree.system path).run tree = (.ok document, after)) :
    ∃ text, tree.readText path = .ok text ∧ ofText text = .ok document := by
  rw [run_load] at hloaded
  cases hread : tree.readText path with
  | error fault =>
    rw [hread] at hloaded
    cases hloaded
  | ok text =>
    rw [hread] at hloaded
    dsimp only at hloaded
    cases hmade : ofText text with
    | error failure =>
      rw [hmade] at hloaded
      cases hloaded
    | ok other =>
      rw [hmade] at hloaded
      cases hloaded
      exact ⟨text, rfl, hmade⟩

/-- Validation accepts hubs exactly if all of them are valid, and otherwise answers the message of the first
broken rule. A document of listed hubs, of a text or of a file is the verdict on what was read, so in every
document, the empty one included, all hubs are valid and a hub is found under its own chain. -/
theorem validation_is_exact :
    (∀ hubs, IsVerdict hubs Declaration.Fault.message (ofHubs hubs)) ∧
    (∀ list, match fileHubs ∅ list with
      | .error fault => ofList list = .error fault
      | .ok filed => IsVerdict filed Declaration.Fault.message (ofList list) ∧
          ∀ hub ∈ list, filed.find? hub.chain = some hub) ∧
    (∀ text, match readYaml Declaration.hubMapSchema text with
      | .error cause => ofText text = .error ⟨[.parseRouteSpec], cause⟩
      | .ok hubs => IsVerdict hubs Failure.message (ofText text)) ∧
    (∀ path tree document after, (load FileTree.system path).run tree = (.ok document, after) →
      ∃ text, tree.readText path = .ok text ∧ ofText text = .ok document) ∧
    ∀ document : Document, (∀ entry ∈ document.hubs.entries, entry.2.Valid entry.1) ∧
      ∀ chain hub, document.hub chain = .ok hub → hub.chain = chain ∧ hub.Valid chain := by
  refine ⟨isVerdict_ofHubs, fun list ↦ ?_, fun text ↦ ?_, fun _ _ _ _ ↦ exists_text_of_load,
    fun document ↦ ⟨?_, fun chain hub hfound ↦ ?_⟩⟩
  · cases hfiled : fileHubs ∅ list with
    | error fault => simp [ofList, hfiled]
    | ok filed =>
      dsimp only
      rw [ofList, hfiled]
      exact ⟨isVerdict_ofHubs filed, (find?_of_fileHubs hfiled).2⟩
  · cases hread : readYaml Declaration.hubMapSchema text with
    | error cause => simp [ofText, hread]
    | ok hubs =>
      dsimp only
      rw [ofText, hread]
      exact (isVerdict_ofHubs hubs).mapError message_declaration
  · exact (Declaration.hubsFault?_eq_none_iff document.hubs).1 document.valid
  · have hvalid := document.valid_of_find? ((document.hub_eq_ok_iff chain hub).1 hfound)
    exact ⟨hvalid.chain_eq, hvalid⟩

/-- A hub whose first origin comes back at the end. -/
def repeatedHub : Hub :=
  { Route.twoChainHub with origins := Route.twoChainHub.origins ++ Route.twoChainHub.origins }

/-- A hub with a repeated origin chain and the message about it, and a hub that is accepted. -/
theorem validation_is_exact_repeatedHub :
    IsFirstMessage (Declaration.rules (OrderedMap.ofList [(1, repeatedHub)]))
        "hub 1: origin chain 10 declared twice" ∧
      (∀ document, ofList [repeatedHub] ≠ .ok document) ∧
      Route.twoChainDocument.hub 1 = .ok Route.twoChainHub ∧ Route.twoChainHub.Valid 1 := by
  obtain ⟨hverdict, hlisted, -, -, hfound⟩ := validation_is_exact
  have hrefused : ofHubs (OrderedMap.ofList [(1, repeatedHub)]) = .error (.originTwice 1 10) := by rfl
  refine ⟨((hverdict _).refused_iff _).1 ⟨_, hrefused, by rfl⟩, ?_, by rfl, ?_⟩
  · intro document hmade
    cases hmade
  · exact ((hfound Route.twoChainDocument).2 1 Route.twoChainHub rfl).2

end HubRoutes.Document
