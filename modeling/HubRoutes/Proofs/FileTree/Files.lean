import HubRoutes.Proofs.FileTree.Alike
import HubRoutes.Proofs.FileTree.Paths

/-!
# Files in a directory

Files are written, moved, removed and read under plain names within one directory. Which of these
operations succeed depends on the directories of the tree alone, and an operation that succeeds changes
nothing but the places of the names that it is given.
-/

namespace HubRoutes.FileTree

variable {tree other after : FileTree} {directory name source target : String}
  {place outer : Place} {content : ByteArray} {unnamed : Fault}

/-- The text of a directory leads to a directory, in which a file may have a name. -/
structure Names (tree : FileTree) (directory name : String) (outer : Place) : Prop where
  text : locationOf (joinText directory name) = .ok (.ofText (joinText directory name))
  reached : tree.reached directory = .ok outer
  isDirectory : tree.isDirectoryAt outer = true
  short : name.utf8ByteSize ≤ maxNameSize

/-- A file may be written under a name in the directory of a text: no directory has the name. -/
structure Admits (tree : FileTree) (directory name : String) (outer : Place) : Prop
    extends Names tree directory name outer where
  free : tree.isDirectoryAt (name :: outer) = false

/-! ## The place of a name -/

/-- A name may be new in the directory that the text in front of it leads to. -/
theorem findNew_joinText (hname : IsPlain name) :
    tree.findNew (.ofText (joinText directory name)) unnamed = .ok place ↔
      ∃ outer, tree.reached directory = .ok outer ∧ tree.isDirectoryAt outer = true ∧
        name.utf8ByteSize ≤ maxNameSize ∧ place = name :: outer := by
  rw [findNew_eq_ok_iff, Location.ofText_joinText directory hname]
  constructor
  · rintro ⟨-, part, parts, outer, hparts, -, hreached, hdirectory, hshort, rfl⟩
    obtain ⟨rfl, rfl⟩ := List.cons.inj hparts
    exact ⟨outer, hreached, hdirectory, hshort, rfl⟩
  · rintro ⟨outer, hreached, hdirectory, hshort, rfl⟩
    exact ⟨nofun, name, _, outer, rfl, hname.ne_points, hreached, hdirectory, hshort, rfl⟩

theorem Names.findNew_eq (hnames : tree.Names directory name outer) (hname : IsPlain name) :
    tree.findNew (.ofText (joinText directory name)) unnamed = .ok (name :: outer) :=
  (findNew_joinText hname).2 ⟨outer, hnames.reached, hnames.isDirectory, hnames.short, rfl⟩

/-- A name is found in its directory exactly if something stands there. -/
theorem Names.find_eq (hnames : tree.Names directory name outer) (hname : IsPlain name) :
    tree.find (.ofText (joinText directory name)) =
      if (tree.get? (name :: outer)).isSome then .ok (name :: outer) else .error .notFound := by
  have hplace : tree.placeIn outer name = .ok (name :: outer) :=
    placeIn_eq_ok_iff.2 ⟨hnames.isDirectory, hnames.short, rfl⟩
  have hreached : tree.walk (tree.startOf ⟨(Location.ofText directory).isAbsolute,
      name :: (Location.ofText directory).parts, .name⟩) (Location.ofText directory).parts =
        .ok outer := hnames.reached
  rw [find, Location.ofText_joinText directory hname, walk, hreached, ok_bind,
    if_neg hname.ne_points, hplace, ok_bind]
  by_cases hthere : (tree.get? (name :: outer)).isSome = true
  · rw [if_pos hthere, if_pos hthere]
    rfl
  · rw [if_neg hthere, if_neg hthere]
    rfl

theorem Names.find_file (hnames : tree.Names directory name outer) (hname : IsPlain name)
    (hfile : tree.get? (name :: outer) = some (.file content)) :
    tree.find (.ofText (joinText directory name)) = .ok (name :: outer) := by
  rw [hnames.find_eq hname, hfile]
  rfl

/-- The text of a name in a directory keeps within the limit of a path text if there is room for the name
behind a slash. -/
theorem locationOf_joinText (hname : IsPlain name) (hdirectory : '\x00' ∉ directory.toList)
    (hnul : '\x00' ∉ name.toList) (hroom : directory.utf8ByteSize + name.utf8ByteSize < maxTextSize) :
    locationOf (joinText directory name) = .ok (.ofText (joinText directory name)) := by
  have hslash : "/".utf8ByteSize = 1 := by decide
  have hnoNul : '\x00' ∉ (joinText directory name).toList := by
    unfold joinText
    split_ifs <;> simp [hdirectory, hnul]
  have hpresent : joinText directory name ≠ "" := by
    unfold joinText
    split_ifs <;> simp [hname.ne_empty]
  have hsize : (joinText directory name).utf8ByteSize ≤ maxTextSize := by
    unfold joinText
    split_ifs
    · omega
    · rw [String.utf8ByteSize_append]
      omega
    · rw [String.utf8ByteSize_append, String.utf8ByteSize_append, hslash]
      omega
  rw [locationOf, if_neg (by simpa using hnoNul), if_neg hpresent, if_neg (Nat.not_lt.2 hsize)]

/-! ## Operations on a name -/

/-- Writing succeeds exactly if the name is admitted, and then puts the file at its place. -/
theorem writeFile_eq_ok_iff (hname : IsPlain name) :
    tree.writeFile (joinText directory name) content = .ok after ↔
      ∃ outer, tree.Admits directory name outer ∧
        tree.put (name :: outer) (.file content) = after := by
  have hending : (Location.ofText (joinText directory name)).ending = .name := by
    rw [Location.ofText_joinText directory hname]
  rw [writeFile, bind_eq_ok_iff]
  simp only [bind_eq_ok_iff, throw_bind, throw_ite_eq_ok_iff, pure_eq_ok_iff, not_or, not_not,
    Bool.not_eq_true]
  constructor
  · rintro ⟨location, hlocation, place, hfound, ⟨-, hfree⟩, rfl⟩
    obtain rfl := eq_ofText_of_locationOf hlocation
    obtain ⟨outer, hreached, hdirectory, hshort, rfl⟩ := (findNew_joinText hname).1 hfound
    exact ⟨outer, ⟨⟨hlocation, hreached, hdirectory, hshort⟩, hfree⟩, rfl⟩
  · rintro ⟨outer, hadmits, rfl⟩
    exact ⟨_, hadmits.text, _, hadmits.toNames.findNew_eq hname, ⟨hending, hadmits.free⟩, rfl⟩

/-- Moving a file to another name of its directory succeeds exactly if that name is admitted. -/
theorem moveFile_eq_ok_iff (hsource : IsPlain source) (htarget : IsPlain target)
    (hnames : tree.Names directory source outer)
    (hfile : tree.get? (source :: outer) = some (.file content)) :
    tree.moveFile (joinText directory source) (joinText directory target) = .ok after ↔
      tree.Admits directory target outer ∧
        (tree.erase (source :: outer)).put (target :: outer) (.file content) = after := by
  have hending : (Location.ofText (joinText directory target)).ending = .name := by
    rw [Location.ofText_joinText directory htarget]
  rw [moveFile, hnames.text, ok_bind, hnames.find_file hsource hfile, ok_bind, hfile]
  simp only [bind_eq_ok_iff, throw_bind, throw_ite_eq_ok_iff, pure_eq_ok_iff, not_not,
    Bool.not_eq_true]
  constructor
  · rintro ⟨location, hlocation, place, hfound, hfree, -, rfl⟩
    obtain rfl := eq_ofText_of_locationOf hlocation
    obtain ⟨found, hreached, hdirectory, hshort, rfl⟩ := (findNew_joinText htarget).1 hfound
    obtain rfl : outer = found := Except.ok.inj (hnames.reached.symm.trans hreached)
    exact ⟨⟨⟨hlocation, hreached, hdirectory, hshort⟩, hfree⟩, rfl⟩
  · rintro ⟨hadmits, rfl⟩
    exact ⟨_, hadmits.text, _, hadmits.toNames.findNew_eq htarget, hadmits.free, hending, rfl⟩

/-- Removing a file that stands at its place clears the place. -/
theorem removeFile_eq (hname : IsPlain name) (hnames : tree.Names directory name outer)
    (hfile : tree.get? (name :: outer) = some (.file content)) :
    tree.removeFile (joinText directory name) = .ok (tree.erase (name :: outer)) := by
  have hfree : tree.isDirectoryAt (name :: outer) = false := by
    rw [isDirectoryAt, hfile]
    rfl
  rw [removeFile, hnames.text, ok_bind, hnames.find_file hname hfile, ok_bind, hfree]
  rfl

/-- Reading a file yields the content at its place. -/
theorem readFile_eq (hname : IsPlain name) (hnames : tree.Names directory name outer)
    (hfile : tree.get? (name :: outer) = some (.file content)) :
    tree.readFile (joinText directory name) = .ok content := by
  rw [readFile, hnames.text, ok_bind, hnames.find_file hname hfile, ok_bind, hfile]
  rfl

/-- Reading at a place where nothing stands is refused. -/
theorem readFile_eq_notFound (hname : IsPlain name) (hnames : tree.Names directory name outer)
    (hnone : tree.get? (name :: outer) = none) :
    tree.readFile (joinText directory name) = .error .notFound := by
  rw [readFile, hnames.text, ok_bind, hnames.find_eq hname, hnone]
  rfl

/-! ## Trees with the same directories -/

/-- Two trees have the same directories and are seen from the same one. -/
structure SameDirectories (tree other : FileTree) : Prop where
  workingDirectory : other.workingDirectory = tree.workingDirectory
  directories : ∀ place, other.isDirectoryAt place = tree.isDirectoryAt place

theorem SameDirectories.refl (tree : FileTree) : SameDirectories tree tree :=
  ⟨rfl, fun _ ↦ rfl⟩

theorem SameDirectories.keeps (hsame : SameDirectories tree other) : KeepsDirectories tree other :=
  ⟨hsame.workingDirectory, fun place hplace ↦ (hsame.directories place).trans hplace⟩

theorem SameDirectories.trans {last : FileTree} (hfirst : SameDirectories tree other)
    (hlast : SameDirectories other last) : SameDirectories tree last :=
  ⟨hlast.workingDirectory.trans hfirst.workingDirectory,
    fun place ↦ (hlast.directories place).trans (hfirst.directories place)⟩

theorem SameDirectories.symm (hsame : SameDirectories tree other) : SameDirectories other tree :=
  ⟨hsame.workingDirectory.symm, fun place ↦ (hsame.directories place).symm⟩

theorem SameDirectories.names (hsame : SameDirectories tree other)
    (hnames : tree.Names directory name outer) : other.Names directory name outer :=
  ⟨hnames.text, hsame.keeps.reached_eq hnames.reached hnames.isDirectory,
    (hsame.directories outer).trans hnames.isDirectory, hnames.short⟩

/-- Whether a file may be written depends on the directories alone. -/
theorem SameDirectories.admits_iff (hsame : SameDirectories tree other) :
    other.Admits directory name outer ↔ tree.Admits directory name outer :=
  ⟨fun hadmits ↦ ⟨hsame.symm.names hadmits.toNames,
      (hsame.directories _).symm.trans hadmits.free⟩,
    fun hadmits ↦ ⟨hsame.names hadmits.toNames, (hsame.directories _).trans hadmits.free⟩⟩

theorem AlikeBut.sameDirectories {spared : Place → Prop} (halike : AlikeBut spared tree other) :
    SameDirectories tree other :=
  ⟨halike.workingDirectory, halike.isDirectoryAt_eq⟩

/-- Writing a file leaves the directories alone. -/
theorem sameDirectories_put (hfree : tree.isDirectoryAt (name :: outer) = false) :
    SameDirectories tree (tree.put (name :: outer) (.file content)) := by
  refine ⟨rfl, fun place ↦ ?_⟩
  by_cases hplace : place = name :: outer
  · rw [hplace, hfree, isDirectoryAt, get?_put, if_pos rfl]
    rfl
  · rw [isDirectoryAt, isDirectoryAt, get?_put, if_neg hplace]

/-- Removing a file leaves the directories alone. -/
theorem sameDirectories_erase (hfree : tree.isDirectoryAt (name :: outer) = false) :
    SameDirectories tree (tree.erase (name :: outer)) := by
  refine ⟨rfl, fun place ↦ ?_⟩
  by_cases hplace : place = name :: outer
  · rw [hplace, hfree, isDirectoryAt, get?_erase, if_pos rfl]
    rfl
  · rw [isDirectoryAt, isDirectoryAt, get?_erase, if_neg hplace]

/-! ## Trees that hold the same -/

/-- Two trees have the same entry at every place and are seen from the same directory. -/
structure HoldsSame (tree other : FileTree) : Prop where
  workingDirectory : other.workingDirectory = tree.workingDirectory
  places : ∀ place, other.get? place = tree.get? place

theorem HoldsSame.sameDirectories (hsame : HoldsSame tree other) : SameDirectories tree other :=
  ⟨hsame.workingDirectory, fun place ↦ by rw [isDirectoryAt, isDirectoryAt, hsame.places]⟩

end HubRoutes.FileTree
