import HubRoutes.Declaration.Validity
import HubRoutes.Route.Fault

/-!
# Documents

A document holds the declarations of any number of hub chains. Every document is valid: it can only
be made from declarations without fault.
-/

namespace HubRoutes

open Declaration (Hub)

/-- Valid declarations, filed by hub chain. -/
structure Document where
  hubs : OrderedMap ChainId Hub
  valid : Declaration.hubsFault? hubs = none
deriving DecidableEq

namespace Document

def empty : Document := ⟨∅, rfl⟩

instance : Inhabited Document := ⟨empty⟩

/-- The document with hubs filed under the given keys. -/
def ofHubs (hubs : OrderedMap ChainId Hub) : Except Declaration.Fault Document :=
  match valid : Declaration.hubsFault? hubs with
  | none => .ok ⟨hubs, valid⟩
  | some fault => .error fault

/-- Files hubs one after the other, each under its own chain; a chain may be filed once only. -/
def fileHubs : OrderedMap ChainId Hub → List Hub →
    Except Declaration.Fault (OrderedMap ChainId Hub)
  | filed, [] => .ok filed
  | filed, hub :: rest =>
    match filed.find? hub.chain with
    | some _ => .error (.hubTwice hub.chain)
    | none => fileHubs (filed.insert hub.chain hub) rest

/-- The document of a list of hubs, each filed under its own chain. -/
def ofList (hubs : List Hub) : Except Declaration.Fault Document :=
  match fileHubs ∅ hubs with
  | .ok filed => ofHubs filed
  | .error fault => .error fault

def hub (document : Document) (chain : ChainId) : Except Route.Fault Hub :=
  match document.hubs.find? chain with
  | some hub => .ok hub
  | none => .error (.unsupportedHub chain)

def hubChains (document : Document) : List ChainId := document.hubs.keys

end Document

end HubRoutes
