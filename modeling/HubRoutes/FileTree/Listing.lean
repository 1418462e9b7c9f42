import HubRoutes.FileTree

/-!
# Whole trees

Building a tree around a working directory, and the view of all that is below it.
-/

namespace HubRoutes.FileTree

/-- The tree that holds nothing but a working directory and the directories around it. -/
def emptyAt : Place → FileTree
  | [] => ⟨∅, []⟩
  | name :: outer => { (emptyAt outer).put (name :: outer) .directory with
      workingDirectory := name :: outer }

/-- The names that lead from one place to a place below it, the first name first. -/
def namesBelow (directory place : Place) : Option (List String) :=
  if place.length ≤ directory.length then none
  else if place.drop (place.length - directory.length) = directory then
    some (place.take (place.length - directory.length)).reverse
  else none

/-- The text of a place below the working directory, seen from there. -/
def relativeText (tree : FileTree) (place : Place) : Option String :=
  (namesBelow tree.workingDirectory place).map fun names ↦ "/".intercalate names

/-- The entries below the working directory with their texts, in ascending order of the texts. -/
def listing (tree : FileTree) : List (String × Entry) :=
  let found := tree.entries.entries.filterMap fun (place, entry) ↦
    (tree.relativeText place).map fun text ↦
      (if entry.isDirectory then text ++ "/" else text, entry)
  (OrderedMap.ofList found).entries

def files (tree : FileTree) : List (String × ByteArray) :=
  tree.listing.filterMap fun (text, entry) ↦
    match entry with
    | .file content => some (text, content)
    | .directory => none

/-- Writes a file after the directories around it are made. -/
def writeWithDirectories (tree : FileTree) (text : String) (content : ByteArray) :
    Except Fault Unit × FileTree :=
  let location := Location.ofText text
  match tree.makeDirectoriesAt location.isAbsolute location.outer.parts .name with
  | (.error fault, tree) => (.error fault, tree)
  | (.ok (), tree) =>
    match tree.writeFile text content with
    | .ok changed => (.ok (), changed)
    | .error fault => (.error fault, tree)

/-- Removes a file, or a directory with everything below it. -/
def removeAll (tree : FileTree) (text : String) : Except Fault FileTree := do
  let place ← tree.find (← locationOf text)
  return tree.entries.keys.foldl
    (fun tree other ↦
      if other = place ∨ (namesBelow place other).isSome then tree.erase other else tree) tree

end HubRoutes.FileTree
