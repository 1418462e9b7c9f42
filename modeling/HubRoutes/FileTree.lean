import HubRoutes.OrderedMap
import HubRoutes.Text.Numeral

/-!
# File trees

A tree of directories and regular files, seen from a working directory. An operation names its file
by a path text: parts between slashes, where a point stands for the directory itself and two points
for the directory around it. An operation fails only through the shape of the tree and the text of
the path, and then it changes nothing.
-/

namespace HubRoutes

/-- A place in a tree: the names on the way to it from the root, the last name first. -/
abbrev FileTree.Place := List String

inductive FileTree.Entry
  | file (content : ByteArray)
  | directory

def FileTree.Entry.isDirectory : FileTree.Entry → Bool
  | .file _ => false
  | .directory => true

/-- The entries of a tree below its root, and the working directory. -/
structure FileTree where
  entries : OrderedMap FileTree.Place FileTree.Entry
  workingDirectory : FileTree.Place

namespace FileTree

/-- Why an operation fails. The last cause is any other fault of an operating system; the shape of a
tree is never the reason for it. -/
inductive Fault
  | notFound
  | exists
  | notDirectory
  | isDirectory
  | nameTooLong
  | nulInName
  | notText
  | other (number : Nat)
deriving DecidableEq

/-- The wording of a fault; most have the number that the operating system gives them. -/
def Fault.message : Fault → String
  | .notFound => "os error 2"
  | .exists => "os error 17"
  | .notDirectory => "os error 20"
  | .isDirectory => "os error 21"
  | .nameTooLong => "os error 36"
  | .nulInName => "file name contained an unexpected NUL byte"
  | .notText => "stream did not contain valid UTF-8"
  | .other number => "os error " ++ Text.Numeral.text number

/-! ## Path texts -/

/-- How a path text ends: with a name, with a slash behind it, or with a point as its last part. -/
inductive Ending
  | name
  | slash
  | point
deriving DecidableEq

/-- What a path text says: whether it starts at the root, and its parts other than points, the last
part first. -/
structure Location where
  isAbsolute : Bool
  parts : List String
  ending : Ending
deriving DecidableEq

namespace Location

def splitSlashes : List Char → List (List Char)
  | [] => [[]]
  | character :: rest =>
    if character = '/' then [] :: splitSlashes rest
    else
      match splitSlashes rest with
      | [] => [[character]]
      | first :: others => (character :: first) :: others

/-- The way in which the parts of a text end. -/
def endingOf (parts : List (List Char)) : Ending :=
  match parts.reverse.dropWhile List.isEmpty with
  | ['.'] :: _ => .point
  | _ => if parts.getLast? = some [] then .slash else .name

/-- The location that a text stands for, before any limit is checked. -/
def ofText (text : String) : Location :=
  let parts := splitSlashes text.toList
  let isNamed := fun (part : List Char) ↦ !part.isEmpty && part != ['.']
  ⟨text.toList.head? == some '/', (parts.filter isNamed).reverse.map String.ofList, endingOf parts⟩

def outer (location : Location) : Location := ⟨location.isAbsolute, location.parts.tail, .name⟩

end Location

def maxTextSize : Nat := 4095

def maxNameSize : Nat := 255

/-- The location that a text stands for, as an operation is given it. -/
def locationOf (text : String) : Except Fault Location :=
  if text.toList.contains '\x00' then .error .nulInName
  else if text = "" then .error .notFound
  else if maxTextSize < text.utf8ByteSize then .error .nameTooLong
  else .ok (.ofText text)

/-- The text of a name within a directory that is given by a text. -/
def joinText (directory name : String) : String :=
  if directory = "" then name
  else if directory.toList.getLast? = some '/' then directory ++ name
  else directory ++ "/" ++ name

/-! ## Looking around -/

/-- What stands at a place. The root is always a directory. -/
def get? (tree : FileTree) : Place → Option Entry
  | [] => some .directory
  | name :: outer => tree.entries.find? (name :: outer)

def content? (tree : FileTree) (place : Place) : Option ByteArray :=
  match tree.get? place with
  | some (.file content) => some content
  | _ => none

def isDirectoryAt (tree : FileTree) (place : Place) : Bool :=
  (tree.get? place).any Entry.isDirectory

/-- The place of a name in a directory, whether anything stands there or not. -/
def placeIn (tree : FileTree) (directory : Place) (name : String) : Except Fault Place :=
  if tree.isDirectoryAt directory then
    if maxNameSize < name.utf8ByteSize then .error .nameTooLong else .ok (name :: directory)
  else .error .notDirectory

/-- Goes from a directory along the parts of a location. -/
def walk (tree : FileTree) (start : Place) : List String → Except Fault Place
  | [] => .ok start
  | part :: outer => do
    let directory ← tree.walk start outer
    if part = ".." then
      if tree.isDirectoryAt directory then return directory.tail else throw .notDirectory
    else
      let place ← tree.placeIn directory part
      if (tree.get? place).isSome then return place else throw .notFound

/-- The directory in which a location starts. -/
def startOf (tree : FileTree) (location : Location) : Place :=
  if location.isAbsolute then [] else tree.workingDirectory

/-- The place of something that stands at a location. -/
def find (tree : FileTree) (location : Location) : Except Fault Place := do
  let place ← tree.walk (tree.startOf location) location.parts
  if location.ending = .name ∨ tree.isDirectoryAt place then return place else throw .notDirectory

/-- The place for something new at a location. The location has to name it within a directory. -/
def findNew (tree : FileTree) (location : Location) (unnamed : Fault) : Except Fault Place :=
  match location.parts with
  | [] => .error unnamed
  | part :: outer => do
    let start := tree.startOf location
    if location.ending = .point then
      let place ← tree.walk start (part :: outer)
      if tree.isDirectoryAt place then throw unnamed else throw .notDirectory
    else
      let directory ← tree.walk start outer
      if part = ".." then
        if tree.isDirectoryAt directory then throw unnamed else throw .notDirectory
      else tree.placeIn directory part

def isDirectory (tree : FileTree) (text : String) : Bool :=
  match locationOf text with
  | .error _ => false
  | .ok location =>
    match tree.find location with
    | .error _ => false
    | .ok place => tree.isDirectoryAt place

/-! ## Operations -/

def put (tree : FileTree) (place : Place) (entry : Entry) : FileTree :=
  { tree with entries := tree.entries.insert place entry }

def erase (tree : FileTree) (place : Place) : FileTree :=
  { tree with entries := tree.entries.erase place }

/-- After an entry is put at a place below the root, it stands there and all else is as before. -/
theorem get?_put (tree : FileTree) (name : String) (outer other : Place) (entry : Entry) :
    (tree.put (name :: outer) entry).get? other =
      if other = name :: outer then some entry else tree.get? other := by
  cases other with
  | nil => rfl
  | cons last rest =>
    exact OrderedMap.find?_insert tree.entries (name :: outer) (last :: rest) entry

/-- After a place below the root is cleared, nothing stands there and all else is as before. -/
theorem get?_erase (tree : FileTree) (name : String) (outer other : Place) :
    (tree.erase (name :: outer)).get? other =
      if other = name :: outer then none else tree.get? other := by
  cases other with
  | nil => rfl
  | cons last rest => exact OrderedMap.find?_erase tree.entries (name :: outer) (last :: rest)

def readFile (tree : FileTree) (text : String) : Except Fault ByteArray := do
  let place ← tree.find (← locationOf text)
  match tree.get? place with
  | some (.file content) => return content
  | some .directory => throw .isDirectory
  | none => throw .notFound

def readText (tree : FileTree) (text : String) : Except Fault String := do
  match String.fromUTF8? (← tree.readFile text) with
  | some content => return content
  | none => throw .notText

/-- Writes a file in place of an earlier one. -/
def writeFile (tree : FileTree) (text : String) (content : ByteArray) : Except Fault FileTree := do
  let location ← locationOf text
  let place ← tree.findNew location .isDirectory
  if location.ending ≠ .name ∨ tree.isDirectoryAt place then throw .isDirectory
  return tree.put place (.file content)

/-- Makes a directory at a location within a directory. -/
def makeDirectoryAt (tree : FileTree) (location : Location) : Except Fault FileTree := do
  let place ← tree.findNew location .exists
  if (tree.get? place).isSome then throw .exists
  return tree.put place .directory

def hasDirectoryAt (tree : FileTree) (location : Location) : Bool :=
  match tree.find location with
  | .ok place => tree.isDirectoryAt place
  | .error _ => false

/-- Makes a directory unless there is one. -/
def ensureDirectoryAt (tree : FileTree) (location : Location) : Except Fault FileTree :=
  match tree.makeDirectoryAt location with
  | .ok tree => .ok tree
  | .error fault => if tree.hasDirectoryAt location then .ok tree else .error fault

/-- Makes a directory and all directories around it that are missing. What was made before a fault
stays. -/
def makeDirectoriesAt (tree : FileTree) (isAbsolute : Bool) :
    List String → Ending → Except Fault Unit × FileTree
  | [], ending =>
    if isAbsolute ∨ ending ≠ .name then
      match tree.ensureDirectoryAt ⟨isAbsolute, [], ending⟩ with
      | .ok tree => (.ok (), tree)
      | .error fault => (.error fault, tree)
    else (.ok (), tree)
  | part :: outer, ending =>
    let location : Location := ⟨isAbsolute, part :: outer, ending⟩
    match tree.makeDirectoryAt location with
    | .ok tree => (.ok (), tree)
    | .error .notFound =>
      match tree.makeDirectoriesAt isAbsolute outer .name with
      | (.error fault, tree) => (.error fault, tree)
      | (.ok (), tree) =>
        match tree.ensureDirectoryAt location with
        | .ok tree => (.ok (), tree)
        | .error fault => (.error fault, tree)
    | .error fault =>
      if tree.hasDirectoryAt location then (.ok (), tree) else (.error fault, tree)

/-- Makes the directory of a text with all that are missing around it; the empty text is the working
directory. -/
def makeDirectories (tree : FileTree) (text : String) : Except Fault Unit × FileTree :=
  if text = "" then (.ok (), tree)
  else
    match locationOf text with
    | .error fault => (.error fault, tree)
    | .ok location => tree.makeDirectoriesAt location.isAbsolute location.parts location.ending

/-- Moves a file to a new place, where an earlier file is gone but a directory is not. -/
def moveFile (tree : FileTree) (source target : String) : Except Fault FileTree := do
  let place ← tree.find (← locationOf source)
  match tree.get? place with
  | some (.file content) =>
    let location ← locationOf target
    let newPlace ← tree.findNew location .exists
    if tree.isDirectoryAt newPlace then throw .isDirectory
    if location.ending ≠ .name then throw .notDirectory
    return (tree.erase place).put newPlace (.file content)
  | some .directory => throw .isDirectory
  | none => throw .notFound

def removeFile (tree : FileTree) (text : String) : Except Fault FileTree := do
  let place ← tree.find (← locationOf text)
  if tree.isDirectoryAt place then throw .isDirectory else return tree.erase place

end FileTree

end HubRoutes
