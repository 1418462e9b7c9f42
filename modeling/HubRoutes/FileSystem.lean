import HubRoutes.FileTree

/-!
# File systems

The five operations on files that a run needs, in any monad that offers them. A file tree that is
carried along as a state is one such system.
-/

namespace HubRoutes

/-- Operations on files by path text. The removal of a file is tried and its faults do not matter.
-/
structure FileSystem (m : Type → Type) where
  readText : String → m (Except FileTree.Fault String)
  makeDirectories : String → m (Except FileTree.Fault Unit)
  writeText : String → String → m (Except FileTree.Fault Unit)
  moveFile : String → String → m (Except FileTree.Fault Unit)
  removeFile : String → m Unit

namespace FileTree

/-- Goes on with a changed tree, or with the same tree after a fault. -/
def advance (tree : FileTree) : Except Fault FileTree → Except Fault Unit × FileTree
  | .ok changed => (.ok (), changed)
  | .error fault => (.error fault, tree)

/-- The operations on a file tree. -/
def system : FileSystem (StateM FileTree) where
  readText path := fun tree ↦ (tree.readText path, tree)
  makeDirectories path := fun tree ↦ tree.makeDirectories path
  writeText path content := fun tree ↦ tree.advance (tree.writeFile path content.toUTF8)
  moveFile source target := fun tree ↦ tree.advance (tree.moveFile source target)
  removeFile path := fun tree ↦ ((), (tree.advance (tree.removeFile path)).2)

end FileTree

end HubRoutes
