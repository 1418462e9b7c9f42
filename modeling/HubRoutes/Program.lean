import HubRoutes.CommandLine
import HubRoutes.Document.Loading
import HubRoutes.Route.Output

/-!
# The program

A run reads the settings from the environment and the hub chain from the arguments, loads the
document and the registry, and writes the route table of the hub chain.
-/

namespace HubRoutes.Program

/-- Compiles the table that the settings ask for and writes it. The result is its path. -/
def compile {m : Type → Type} [Monad m] (files : FileSystem m) (settings : Settings) :
    m (Except Failure String) := do
  match ← Document.load files settings.routeSpec with
  | .error failure => return .error failure
  | .ok document =>
    match ← Token.Registry.load files settings.tokenRegistry with
    | .error failure => return .error failure
    | .ok registry =>
      Route.compileAndSave files settings.outputDirectory document registry.address? settings.hub

/-- Compiles the table that the environment asks for, or that of the given hub chain. -/
def compileFor {m : Type → Type} [Monad m] (files : FileSystem m)
    (environment : Settings.Environment) (hub : Option ChainId) : m (Except Failure String) :=
  match Settings.ofEnvironment environment with
  | .error fault => return .error ⟨[.readSettings], .settings fault⟩
  | .ok settings => compile files (settings.withHub hub)

/-- Whether colours are wanted although nobody may be looking. A wish for no colours comes first. -/
def forcesColours (environment : Settings.Environment) : Bool :=
  (environment.lookup "NO_COLOR").getD "" == ""
    && (environment.lookup "CLICOLOR_FORCE").getD "0" != "0"

/-- How a run ends: its exit code and what it says on its two outputs. -/
structure Outcome where
  exitCode : Nat
  output : String
  complaint : String
deriving DecidableEq

def run {m : Type → Type} [Monad m] (files : FileSystem m) (environment : Settings.Environment)
    (arguments : List String) : m Outcome := do
  let say := Text.Terminal.write (forcesColours environment)
  match CommandLine.read arguments with
  | .error fault => return ⟨2, "", say fault.message⟩
  | .ok .help => return ⟨0, say CommandLine.helpText, ""⟩
  | .ok .version => return ⟨0, say CommandLine.versionText, ""⟩
  | .ok (.compile hub) =>
    match ← compileFor files environment hub with
    | .error failure => return ⟨1, "", failure.message ++ "\n"⟩
    | .ok _ => return ⟨0, "", ""⟩

end HubRoutes.Program
