import HubRoutes.Declaration.Format
import HubRoutes.Document
import HubRoutes.Failure
import HubRoutes.FileSystem
import HubRoutes.Yaml.Format

/-!
# Loading documents and registries

Declarations and registries are Yaml texts. A text that is no well-formed document is refused for
that alone; a well-formed one is read by its schema, and declarations have to be valid besides.
-/

namespace HubRoutes

/-- Reads the value of a Yaml text by a schema. A tree that has too many levels at a place that the
schema reads is as malformed as a text without a tree. -/
def readYaml {α : Type} (schema : Schema α) (text : String) : Except Failure.Cause α :=
  match Yaml.Tree.ofText? text.toList with
  | none => .error .malformedText
  | some tree =>
    match Yaml.Tree.decode schema tree with
    | .ok value => .ok value
    | .error fault =>
      .error (if fault.cause = .tooManyLevels then .malformedText else .schema fault)

namespace Document

def ofText (text : String) : Except Failure Document :=
  match readYaml Declaration.hubMapSchema text with
  | .error cause => .error ⟨[.parseRouteSpec], cause⟩
  | .ok hubs => (ofHubs hubs).mapError fun fault ↦ ⟨[], .declaration fault⟩

def load {m : Type → Type} [Monad m] (files : FileSystem m) (path : String) :
    m (Except Failure Document) := do
  match ← files.readText path with
  | .error fault => return .error ⟨[.loadRouteSpec, .readRouteSpec path], .file fault⟩
  | .ok text => return (ofText text).mapError (Failure.within [.loadRouteSpec, .load path])

end Document

namespace Token.Registry

def ofText (text : String) : Except Failure Registry :=
  match readYaml registrySchema text with
  | .error cause => .error ⟨[.parseTokenRegistry], cause⟩
  | .ok tokens => .ok ⟨tokens⟩

def load {m : Type → Type} [Monad m] (files : FileSystem m) (path : String) :
    m (Except Failure Registry) := do
  match ← files.readText path with
  | .error fault => return .error ⟨[.loadTokenRegistry, .readTokenRegistry path], .file fault⟩
  | .ok text => return (ofText text).mapError (Failure.within [.loadTokenRegistry, .load path])

end Token.Registry

end HubRoutes
