import HubRoutes.Failure
import HubRoutes.FileSystem
import HubRoutes.Route.Format

/-!
# Writing route tables

A table is written to a temporary file beside its place and then moved there, so that a table which
is there before is either kept or replaced as a whole. If the move fails the temporary file is
removed.
-/

namespace HubRoutes.Route

def Table.temporaryName (table : Table) : String := "." ++ table.fileName ++ ".tmp"

/-- Writes the file of a table in a directory, which is made if it is missing. The result is the
path of the file. -/
def Table.save {m : Type → Type} [Monad m] (files : FileSystem m) (directory : String)
    (table : Table) : m (Except Failure String) := do
  match ← files.makeDirectories directory with
  | .error fault => return .error ⟨[.createOutputDirectory directory], .file fault⟩
  | .ok () =>
    let path := FileTree.joinText directory table.fileName
    let temporary := FileTree.joinText directory table.temporaryName
    match ← files.writeText temporary table.render with
    | .error fault => return .error ⟨[.write temporary], .file fault⟩
    | .ok () =>
      match ← files.moveFile temporary path with
      | .error fault =>
        files.removeFile temporary
        return .error ⟨[.moveIntoPlace path], .file fault⟩
      | .ok () => return .ok path

/-- Compiles the table of a hub chain and writes its file. Nothing is done with files unless the
compilation succeeds. -/
def compileAndSave {m : Type → Type} [Monad m] (files : FileSystem m) (directory : String)
    (document : Document) (source : Token.Source) (hub : ChainId) : m (Except Failure String) :=
  match compile document source hub with
  | .error fault => return .error ⟨[.compileRoutes hub], .route fault⟩
  | .ok table => table.save files directory

end HubRoutes.Route
