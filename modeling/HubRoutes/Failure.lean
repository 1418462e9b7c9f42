import HubRoutes.Declaration.Validity
import HubRoutes.FileTree
import HubRoutes.Route.Fault
import HubRoutes.Schema.Fault
import HubRoutes.Settings

/-!
# Failures

A failure tells what was being done, the outermost activity first, and why it did not succeed.
-/

namespace HubRoutes

inductive Activity
  | readSettings
  | loadRouteSpec
  | loadTokenRegistry
  | readRouteSpec (path : String)
  | readTokenRegistry (path : String)
  | load (path : String)
  | parseRouteSpec
  | parseTokenRegistry
  | compileRoutes (hub : ChainId)
  | createOutputDirectory (path : String)
  | write (path : String)
  | moveIntoPlace (path : String)
deriving DecidableEq

def Activity.text : Activity → String
  | .readSettings => "load configuration from environment"
  | .loadRouteSpec => "load route spec"
  | .loadTokenRegistry => "load token registry"
  | .readRouteSpec path => "read route spec " ++ path
  | .readTokenRegistry path => "read token registry " ++ path
  | .load path => "load " ++ path
  | .parseRouteSpec => "parse route spec"
  | .parseTokenRegistry => "parse token registry"
  | .compileRoutes hub => "compile routes for hub chain " ++ hub.text
  | .createOutputDirectory path => "create output dir " ++ path
  | .write path => "write " ++ path
  | .moveIntoPlace path => "move " ++ path ++ " into place"

/-- Why an activity does not succeed. -/
inductive Failure.Cause
  | malformedText
  | schema (fault : Schema.Fault)
  | declaration (fault : Declaration.Fault)
  | route (fault : Route.Fault)
  | file (fault : FileTree.Fault)
  | settings (fault : Settings.Fault)
deriving DecidableEq

/-- The wording of a cause; for a malformed text there is none beyond the activity. -/
def Failure.Cause.message? : Failure.Cause → Option String
  | .malformedText => none
  | .schema fault => some fault.message
  | .declaration fault => some fault.message
  | .route fault => some fault.message
  | .file fault => some fault.message
  | .settings fault => some fault.message

/-- A cause within activities, the outermost first. -/
structure Failure where
  activities : List Activity
  cause : Failure.Cause
deriving DecidableEq

namespace Failure

/-- The failure within further activities around it. -/
def within (outer : List Activity) (failure : Failure) : Failure :=
  ⟨outer ++ failure.activities, failure.cause⟩

def message (failure : Failure) : String :=
  ": ".intercalate (failure.activities.map Activity.text ++ failure.cause.message?.toList)

end Failure

end HubRoutes
