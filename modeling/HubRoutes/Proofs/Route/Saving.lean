import HubRoutes.Proofs.FileTree.Files
import HubRoutes.Proofs.Route.FileName

/-!
# Saving a table is all or nothing

A table is compiled before anything is done with files, so a failed compilation leaves the tree alone. A
failed writing leaves all files as they were, but for a temporary file of an earlier run: what it may add
are directories on the way to the output directory. A successful writing puts the file of the table in its
place and clears that of the temporary file. How it ends does not depend on the files that are in these two
places before, and writing again changes nothing.
-/

namespace HubRoutes.Route

open FileTree (joinText Place Location IsPlain AlikeBut SameDirectories HoldsSame Grown Avoids)

/-! ## The steps of a run -/

def Table.path (table : Table) (directory : String) : String := joinText directory table.fileName

def Table.temporaryPath (table : Table) (directory : String) : String :=
  joinText directory table.temporaryName

theorem run_bind {α β : Type} (first : StateM FileTree α) (next : α → StateM FileTree β)
    (tree : FileTree) :
    (first >>= next).run tree = (next (first.run tree).1).run (first.run tree).2 := rfl

/-- The directories are made first, then the temporary file is written and moved; what fails ends the run. -/
theorem run_save (table : Table) (directory : String) (tree : FileTree) :
    (table.save FileTree.system directory).run tree =
      match tree.makeDirectories directory with
      | (.error fault, made) => (.error ⟨[.createOutputDirectory directory], .file fault⟩, made)
      | (.ok (), made) =>
        match made.writeFile (table.temporaryPath directory) table.render.toUTF8 with
        | .error fault => (.error ⟨[.write (table.temporaryPath directory)], .file fault⟩, made)
        | .ok written =>
          match written.moveFile (table.temporaryPath directory) (table.path directory) with
          | .error fault =>
            (.error ⟨[.moveIntoPlace (table.path directory)], .file fault⟩,
              (written.advance (written.removeFile (table.temporaryPath directory))).2)
          | .ok moved => (.ok (table.path directory), moved) := by
  have hmake : (FileTree.system.makeDirectories directory).run tree =
      tree.makeDirectories directory := rfl
  have hwrite (made : FileTree) :
      (FileTree.system.writeText (table.temporaryPath directory) table.render).run made =
        made.advance (made.writeFile (table.temporaryPath directory) table.render.toUTF8) := rfl
  have hmove (written : FileTree) :
      (FileTree.system.moveFile (table.temporaryPath directory) (table.path directory)).run written =
        written.advance
          (written.moveFile (table.temporaryPath directory) (table.path directory)) := rfl
  rw [Table.save, run_bind, hmake]
  obtain ⟨result, made⟩ := tree.makeDirectories directory
  cases result with
  | error fault => rfl
  | ok nothing =>
    dsimp only
    rw [← Table.temporaryPath, ← Table.path, run_bind, hwrite]
    cases made.writeFile (table.temporaryPath directory) table.render.toUTF8 with
    | error fault => rfl
    | ok written =>
      dsimp only [FileTree.advance]
      rw [run_bind, hmove]
      cases written.moveFile (table.temporaryPath directory) (table.path directory) with
      | error fault => rfl
      | ok moved => rfl

/-! ## How a run ends -/

/-- The file of a table as an entry of a tree. -/
def Table.file (table : Table) : FileTree.Entry := .file table.render.toUTF8

/-- The tree after the temporary file was written into a directory and is gone again. -/
def Table.withdrawn (table : Table) (made : FileTree) (outer : Place) : FileTree :=
  (made.put (table.temporaryName :: outer) table.file).erase (table.temporaryName :: outer)

/-- The tree after the temporary file was moved to the place of the file of a table. -/
def Table.stored (table : Table) (made : FileTree) (outer : Place) : FileTree :=
  (table.withdrawn made outer).put (table.fileName :: outer) table.file

/-- The ends of a run: before there is a temporary file, after it was withdrawn, or with the file of the
table in its place. The directories on the way are made in each case. -/
inductive Ends (table : Table) (directory : String) (tree : FileTree) :
    Except Failure String × FileTree → Prop
  | unwritten (failure : Failure)
    (hfailure : failure.activities ≠ [.moveIntoPlace (table.path directory)]) :
    Ends table directory tree (.error failure, (tree.makeDirectories directory).2)
  | withdrawn {made : FileTree} {outer : Place} (fault : FileTree.Fault)
    (hmade : tree.makeDirectories directory = (.ok (), made))
    (htemporary : made.Admits directory table.temporaryName outer) :
    Ends table directory tree (.error ⟨[.moveIntoPlace (table.path directory)], .file fault⟩,
      table.withdrawn made outer)
  | stored {made : FileTree} {outer : Place} (hmade : tree.makeDirectories directory = (.ok (), made))
    (htemporary : made.Admits directory table.temporaryName outer)
    (hfile : made.Admits directory table.fileName outer) :
    Ends table directory tree (.ok (table.path directory), table.stored made outer)

section

variable {table : Table} {directory : String} {tree made other : FileTree} {outer place : Place}

theorem get?_withdrawn :
    (table.withdrawn made outer).get? place =
      if place = table.temporaryName :: outer then none else made.get? place := by
  rw [Table.withdrawn, FileTree.get?_erase, FileTree.get?_put]
  split <;> rfl

theorem get?_stored :
    (table.stored made outer).get? place =
      if place = table.fileName :: outer then some table.file
      else if place = table.temporaryName :: outer then none else made.get? place := by
  rw [Table.stored, FileTree.get?_put, get?_withdrawn]

theorem sameDirectories_withdrawn (htemporary : made.Admits directory table.temporaryName outer) :
    SameDirectories made (table.withdrawn made outer) := by
  have hput : SameDirectories made (made.put (table.temporaryName :: outer) table.file) :=
    FileTree.sameDirectories_put htemporary.free
  exact hput.trans
    (FileTree.sameDirectories_erase ((hput.directories _).trans htemporary.free))

theorem sameDirectories_stored (htemporary : made.Admits directory table.temporaryName outer)
    (hfile : made.Admits directory table.fileName outer) :
    SameDirectories made (table.stored made outer) := by
  have hwithdrawn := sameDirectories_withdrawn htemporary
  exact hwithdrawn.trans
    (FileTree.sameDirectories_put ((hwithdrawn.directories _).trans hfile.free))

/-- Once the temporary file is written, moving it succeeds exactly if the file of the table is admitted. -/
theorem moveFile_written_eq_ok_iff {moved : FileTree}
    (htemporary : made.Admits directory table.temporaryName outer) :
    (made.put (table.temporaryName :: outer) table.file).moveFile (table.temporaryPath directory)
        (table.path directory) = .ok moved ↔
      made.Admits directory table.fileName outer ∧ table.stored made outer = moved := by
  have hput : SameDirectories made (made.put (table.temporaryName :: outer) table.file) :=
    FileTree.sameDirectories_put htemporary.free
  have hfile : (made.put (table.temporaryName :: outer) table.file).get?
      (table.temporaryName :: outer) = some (.file table.render.toUTF8) := by
    rw [FileTree.get?_put, if_pos rfl, Table.file]
  rw [Table.temporaryPath, Table.path, FileTree.moveFile_eq_ok_iff (isPlain_temporaryName table)
    (isPlain_fileName table) (hput.names htemporary.toNames) hfile, hput.admits_iff]
  rfl

theorem removeFile_written (htemporary : made.Admits directory table.temporaryName outer) :
    (made.put (table.temporaryName :: outer) table.file).removeFile (table.temporaryPath directory) =
      .ok (table.withdrawn made outer) := by
  have hput : SameDirectories made (made.put (table.temporaryName :: outer) table.file) :=
    FileTree.sameDirectories_put htemporary.free
  have hfile : (made.put (table.temporaryName :: outer) table.file).get?
      (table.temporaryName :: outer) = some (.file table.render.toUTF8) := by
    rw [FileTree.get?_put, if_pos rfl, Table.file]
  exact FileTree.removeFile_eq (isPlain_temporaryName table) (hput.names htemporary.toNames) hfile

/-- Every run has one of these ends. -/
theorem ends_save (table : Table) (directory : String) (tree : FileTree) :
    Ends table directory tree ((table.save FileTree.system directory).run tree) := by
  rw [run_save]
  cases hmade : tree.makeDirectories directory with
  | mk result made =>
    have hsecond : made = (tree.makeDirectories directory).2 := by rw [hmade]
    cases result with
    | error fault =>
      dsimp only
      rw [hsecond]
      exact .unwritten _ (by simp)
    | ok nothing =>
      dsimp only
      cases hwritten : made.writeFile (table.temporaryPath directory) table.render.toUTF8 with
      | error fault =>
        dsimp only
        rw [hsecond]
        exact .unwritten _ (by simp)
      | ok written =>
        obtain ⟨outer, htemporary, rfl⟩ :=
          (FileTree.writeFile_eq_ok_iff (isPlain_temporaryName table)).1 hwritten
        dsimp only
        rw [← Table.file]
        cases hmoved : (made.put (table.temporaryName :: outer) table.file).moveFile
            (table.temporaryPath directory) (table.path directory) with
        | error fault =>
          dsimp only
          rw [removeFile_written htemporary]
          exact .withdrawn fault hmade htemporary
        | ok moved =>
          obtain ⟨hfile, rfl⟩ := (moveFile_written_eq_ok_iff htemporary).1 hmoved
          exact .stored hmade htemporary hfile

/-- A run succeeds if the directories can be made and both names are admitted then. -/
theorem run_save_of_admits (hmade : tree.makeDirectories directory = (.ok (), made))
    (htemporary : made.Admits directory table.temporaryName outer)
    (hfile : made.Admits directory table.fileName outer) :
    (table.save FileTree.system directory).run tree =
      (.ok (table.path directory), table.stored made outer) := by
  have hwritten : made.writeFile (table.temporaryPath directory) table.render.toUTF8 =
      .ok (made.put (table.temporaryName :: outer) table.file) :=
    (FileTree.writeFile_eq_ok_iff (isPlain_temporaryName table)).2 ⟨outer, htemporary, rfl⟩
  have hmoved := (moveFile_written_eq_ok_iff htemporary).2 ⟨hfile, rfl⟩
  rw [run_save, hmade]
  dsimp only
  rw [hwritten]
  dsimp only
  rw [hmoved]

/-- The names of a table are never to blame: in a directory that leaves room for them in a path text both are
admitted, unless there is a directory of that name. -/
theorem admits_of_reached (hnul : '\x00' ∉ directory.toList)
    (hroom : directory.utf8ByteSize + 80 < FileTree.maxTextSize) (hreached : made.reached directory = .ok outer)
    (hdirectory : made.isDirectoryAt outer = true)
    (hfree : ∀ name, name = table.fileName ∨ name = table.temporaryName →
      made.isDirectoryAt (name :: outer) = false) :
    made.Admits directory table.temporaryName outer ∧ made.Admits directory table.fileName outer := by
  have hadmits (name : String) (hplain : IsPlain name) (hcharacters : name.toList ⊆ nameAlphabet)
      (hsize : name.utf8ByteSize ≤ 80) (hname : name = table.fileName ∨ name = table.temporaryName) :
      made.Admits directory name outer := by
    have hnoNul : '\x00' ∉ name.toList := fun hmem ↦ absurd (hcharacters hmem) (by decide)
    have hshort : name.utf8ByteSize ≤ FileTree.maxNameSize := hsize.trans (by decide)
    have htext := FileTree.locationOf_joinText hplain hnul hnoNul
      (Nat.lt_of_le_of_lt (Nat.add_le_add_left hsize _) hroom)
    exact ⟨⟨htext, hreached, hdirectory, hshort⟩, hfree name hname⟩
  constructor
  · exact hadmits _ (isPlain_temporaryName table) (fun _ hmem ↦ mem_nameAlphabet_of_mem_temporaryName hmem)
      (utf8ByteSize_temporaryName_le table) (.inr rfl)
  · exact hadmits _ (isPlain_fileName table) (fun _ hmem ↦ mem_nameAlphabet_of_mem_fileName hmem)
      ((utf8ByteSize_fileName_le table).trans (by decide)) (.inl rfl)

/-- Saving succeeds exactly if the directories can be made and a file may be written then under both
names. -/
theorem save_succeeds_iff :
    (∃ path after, (table.save FileTree.system directory).run tree = (.ok path, after)) ↔
      ∃ made outer, tree.makeDirectories directory = (.ok (), made) ∧
        made.Admits directory table.temporaryName outer ∧
          made.Admits directory table.fileName outer := by
  constructor
  · rintro ⟨path, after, hrun⟩
    have hends := ends_save table directory tree
    rw [hrun] at hends
    cases hends with
    | stored hmade htemporary hfile => exact ⟨_, _, hmade, htemporary, hfile⟩
  · rintro ⟨made, outer, hmade, htemporary, hfile⟩
    exact ⟨_, _, run_save_of_admits hmade htemporary hfile⟩

end

/-! ## What a run leaves behind -/

/-- Whether a first part of the text of a directory leads to a place. -/
def OnTheWay (tree : FileTree) (directory : String) (place : Place) : Prop :=
  ∃ firsts, firsts <:+ (Location.ofText directory).parts ∧
    tree.walk (tree.startOf (.ofText directory)) firsts = .ok place

/-- What a failed writing leaves behind: the files and directories that were there, but for the temporary
file if it was the move that failed, and perhaps new directories on the way to the output directory. -/
structure LeftAsBefore (table : Table) (directory : String) (tree : FileTree) (failure : Failure)
    (after : FileTree) : Prop where
  workingDirectory : after.workingDirectory = tree.workingDirectory
  noFileAdded : ∀ place content,
    after.get? place = some (.file content) → tree.get? place = some (.file content)
  filesKept : ∀ place content, tree.get? place = some (.file content) →
    after.get? place = some (.file content) ∨
      failure.activities = [.moveIntoPlace (table.path directory)] ∧
        ∃ outer, after.reached directory = .ok outer ∧ place = table.temporaryName :: outer
  directoriesKept : ∀ place, tree.get? place = some .directory → after.get? place = some .directory
  directoriesAdded : ∀ place, after.get? place = some .directory →
    tree.get? place = some .directory ∨ tree.get? place = none ∧ OnTheWay after directory place
  temporaryRemoved : failure.activities = [.moveIntoPlace (table.path directory)] →
    after.readFile (table.temporaryPath directory) = .error .notFound

/-- What a successful writing leaves behind: the file of the table, no temporary file, and all else as
before, but perhaps new directories on the way to the output directory. -/
structure Stored (table : Table) (directory : String) (tree : FileTree) (path : String)
    (after : FileTree) (outer : Place) : Prop where
  path_eq : path = joinText directory table.fileName
  text : after.readText path = .ok table.render
  noTemporary : after.readFile (table.temporaryPath directory) = .error .notFound
  workingDirectory : after.workingDirectory = tree.workingDirectory
  reached : after.reached directory = .ok outer
  file : after.get? (table.fileName :: outer) = some (.file table.render.toUTF8)
  temporary : after.get? (table.temporaryName :: outer) = none
  others : ∀ place, place ≠ table.fileName :: outer → place ≠ table.temporaryName :: outer →
    after.get? place = tree.get? place ∨
      tree.get? place = none ∧ after.get? place = some .directory ∧ OnTheWay after directory place

section

variable {table : Table} {directory : String} {tree made after other : FileTree} {outer place : Place}

/-- The directories that were made are on the way, also after files were written in them. -/
theorem places_of_grown
    (hgrown : Grown (tree.startOf (.ofText directory)) (Location.ofText directory).parts tree made)
    (hsame : SameDirectories made after) (place : Place) :
    made.get? place = tree.get? place ∨
      tree.get? place = none ∧ made.get? place = some .directory ∧ OnTheWay after directory place := by
  obtain hplace | ⟨hnone, hdirectory, firsts, hfirsts, hwalk⟩ := hgrown.places place
  · exact .inl hplace
  · rw [← hgrown.keepsDirectories.startOf_eq, ← hsame.keeps.startOf_eq] at hwalk
    have hstays := hsame.keeps.walk_eq_ok hwalk (FileTree.isDirectoryAt_eq_true_iff.2 hdirectory)
    exact .inr ⟨hnone, hdirectory, firsts, hfirsts, hstays⟩

theorem fromUTF8?_toUTF8 (text : String) : String.fromUTF8? text.toUTF8 = some text := by
  have hvalid : text.toUTF8.IsValidUTF8 := text.isValidUTF8
  rw [String.fromUTF8?, dif_pos hvalid]
  rfl

/-- The text of a file is read from its bytes. -/
theorem readText_of_readFile {path text : String} (hfile : tree.readFile path = .ok text.toUTF8) :
    tree.readText path = .ok text := by
  rw [FileTree.readText, hfile, ok_bind, fromUTF8?_toUTF8]
  rfl

/-- Each place is as before, has a new directory, or has lost the temporary file. -/
theorem leftAsBefore_of_places {failure : Failure}
    (hworking : after.workingDirectory = tree.workingDirectory)
    (hplaces : ∀ place, after.get? place = tree.get? place ∨
      (tree.get? place = none ∧ after.get? place = some .directory ∧
        OnTheWay after directory place) ∨
      (after.get? place = none ∧ tree.get? place ≠ some .directory ∧
        failure.activities = [.moveIntoPlace (table.path directory)] ∧
          ∃ outer, after.reached directory = .ok outer ∧ place = table.temporaryName :: outer))
    (hremoved : failure.activities = [.moveIntoPlace (table.path directory)] →
      after.readFile (table.temporaryPath directory) = .error .notFound) :
    LeftAsBefore table directory tree failure after := by
  refine ⟨hworking, ?_, ?_, ?_, ?_, hremoved⟩
  · intro place content hfile
    obtain hsame | ⟨-, hdirectory, -⟩ | ⟨hnone, -⟩ := hplaces place
    · rw [← hsame, hfile]
    · rw [hfile] at hdirectory
      cases hdirectory
    · rw [hfile] at hnone
      cases hnone
  · intro place content hfile
    obtain hsame | ⟨hnone, -⟩ | ⟨-, -, htemporary⟩ := hplaces place
    · rw [hsame]
      exact .inl hfile
    · rw [hfile] at hnone
      cases hnone
    · exact .inr htemporary
  · intro place hdirectory
    obtain hsame | ⟨hnone, -⟩ | ⟨-, hfree, -⟩ := hplaces place
    · rw [hsame, hdirectory]
    · rw [hdirectory] at hnone
      cases hnone
    · exact absurd hdirectory hfree
  · intro place hdirectory
    obtain hsame | ⟨hnone, -, hway⟩ | ⟨hnone, -⟩ := hplaces place
    · rw [← hsame]
      exact .inl hdirectory
    · exact .inr ⟨hnone, hway⟩
    · rw [hdirectory] at hnone
      cases hnone

/-- Directories that were made leave all files as before. -/
theorem leftAsBefore_of_made {failure : Failure}
    (hfailure : failure.activities ≠ [.moveIntoPlace (table.path directory)]) :
    LeftAsBefore table directory tree failure (tree.makeDirectories directory).2 := by
  have hgrown := FileTree.grown_makeDirectories tree directory
  refine leftAsBefore_of_places hgrown.workingDirectory (fun place ↦ ?_)
    (fun hmove ↦ absurd hmove hfailure)
  obtain hsame | hadded := places_of_grown hgrown (SameDirectories.refl _) place
  · exact .inl hsame
  · exact .inr (.inl hadded)

/-- A withdrawn temporary file leaves all other files as before. -/
theorem leftAsBefore_of_withdrawn {fault : FileTree.Fault}
    (hmade : tree.makeDirectories directory = (.ok (), made))
    (htemporary : made.Admits directory table.temporaryName outer) :
    LeftAsBefore table directory tree ⟨[.moveIntoPlace (table.path directory)], .file fault⟩
      (table.withdrawn made outer) := by
  have hgrown := FileTree.grown_makeDirectories tree directory
  rw [hmade] at hgrown
  have hsame := sameDirectories_withdrawn htemporary
  have hnames := hsame.names htemporary.toNames
  have hgone : (table.withdrawn made outer).get? (table.temporaryName :: outer) = none := by
    rw [get?_withdrawn, if_pos rfl]
  refine leftAsBefore_of_places (hsame.workingDirectory.trans hgrown.workingDirectory)
    (fun place ↦ ?_)
    (fun _ ↦ FileTree.readFile_eq_notFound (isPlain_temporaryName table) hnames hgone)
  by_cases hplace : place = table.temporaryName :: outer
  · subst hplace
    have hfree : tree.get? (table.temporaryName :: outer) ≠ some .directory := by
      intro hdirectory
      have hstays := FileTree.isDirectoryAt_eq_true_iff.2 (hgrown.get?_eq_some hdirectory)
      rw [htemporary.free] at hstays
      cases hstays
    exact .inr (.inr ⟨hgone, hfree, rfl, outer, hnames.reached, rfl⟩)
  · rw [get?_withdrawn, if_neg hplace]
    obtain hkept | hadded := places_of_grown hgrown hsame place
    · exact .inl hkept
    · exact .inr (.inl hadded)

/-- A moved temporary file stands in the place of the file of the table. -/
theorem stored_of_admits (hmade : tree.makeDirectories directory = (.ok (), made))
    (htemporary : made.Admits directory table.temporaryName outer)
    (hfile : made.Admits directory table.fileName outer) :
    Stored table directory tree (table.path directory) (table.stored made outer) outer := by
  have hgrown := FileTree.grown_makeDirectories tree directory
  rw [hmade] at hgrown
  have hsame := sameDirectories_stored htemporary hfile
  have hnames := hsame.names hfile.toNames
  have hdifferent : table.temporaryName :: outer ≠ table.fileName :: outer := by
    intro hequal
    exact fileName_ne_temporaryName table table (List.cons.inj hequal).1.symm
  have hthere : (table.stored made outer).get? (table.fileName :: outer) =
      some (.file table.render.toUTF8) := by
    rw [get?_stored, if_pos rfl, Table.file]
  have hgone : (table.stored made outer).get? (table.temporaryName :: outer) = none := by
    rw [get?_stored, if_neg hdifferent, if_pos rfl]
  refine ⟨rfl, ?_, ?_, hsame.workingDirectory.trans hgrown.workingDirectory, hnames.reached, hthere,
    hgone, fun place hnotFile hnotTemporary ↦ ?_⟩
  · exact readText_of_readFile (FileTree.readFile_eq (isPlain_fileName table) hnames hthere)
  · exact FileTree.readFile_eq_notFound (isPlain_temporaryName table)
      (hsame.names htemporary.toNames) hgone
  · rw [get?_stored, if_neg hnotFile, if_neg hnotTemporary]
    exact places_of_grown hgrown hsame place

/-! ## Writing again -/

/-- The places of the file and the temporary file of a table in the directory at a place. -/
def Table.OwnPlace (table : Table) (outer place : Place) : Prop :=
  place = table.fileName :: outer ∨ place = table.temporaryName :: outer

/-- Where the file of a table stands already, it is written again and nothing changes. -/
theorem run_save_of_stored (hmade : tree.makeDirectories directory = (.ok (), made))
    (htemporary : made.Admits directory table.temporaryName outer)
    (hfile : made.Admits directory table.fileName outer)
    (hholds : HoldsSame (table.stored made outer) other) :
    ∃ again, (table.save FileTree.system directory).run other = (.ok (table.path directory), again) ∧
      HoldsSame (table.stored made outer) again := by
  have hsame : SameDirectories made other :=
    (sameDirectories_stored htemporary hfile).trans hholds.sameDirectories
  have htemporaryAgain := hsame.admits_iff.2 htemporary
  have hready : other.makeDirectories directory = (.ok (), other) :=
    FileTree.makeDirectories_of_reached (congrArg Prod.fst hmade) htemporaryAgain.reached
      htemporaryAgain.isDirectory
  refine ⟨_, run_save_of_admits hready htemporaryAgain (hsame.admits_iff.2 hfile),
    hholds.workingDirectory, fun place ↦ ?_⟩
  rw [get?_stored, hholds.places, get?_stored]
  split
  · rfl
  · split <;> rfl

/-- Which files stand in the two places before does not matter. -/
theorem run_save_of_alikeBut (hmade : tree.makeDirectories directory = (.ok (), made))
    (htemporary : made.Admits directory table.temporaryName outer)
    (hfile : made.Admits directory table.fileName outer)
    (halike : AlikeBut (table.OwnPlace outer) tree other) :
    ∃ again, (table.save FileTree.system directory).run other = (.ok (table.path directory), again) ∧
      HoldsSame (table.stored made outer) again := by
  have hgrown := FileTree.grown_makeDirectories tree directory
  rw [hmade] at hgrown
  have havoids : Avoids (table.OwnPlace outer) (tree.startOf (.ofText directory))
      (Location.ofText directory).parts := by
    intro firsts hfirsts hown
    have hpassed := FileTree.isDirectoryAt_destination htemporary.reached htemporary.isDirectory hfirsts
    rw [hgrown.keepsDirectories.startOf_eq] at hpassed
    obtain hplace | hplace := hown
    · rw [hplace, hfile.free] at hpassed
      cases hpassed
    · rw [hplace, htemporary.free] at hpassed
      cases hpassed
  obtain ⟨hresult, hmiddle⟩ := halike.makeDirectories havoids
  rw [hmade] at hresult hmiddle
  have hready : other.makeDirectories directory = (.ok (), (other.makeDirectories directory).2) :=
    Prod.ext hresult rfl
  have hsame := hmiddle.sameDirectories
  refine ⟨_, run_save_of_admits hready (hsame.admits_iff.2 htemporary) (hsame.admits_iff.2 hfile),
    hmiddle.workingDirectory, fun place ↦ ?_⟩
  rw [get?_stored, get?_stored]
  by_cases hnotFile : place = table.fileName :: outer
  · rw [if_pos hnotFile, if_pos hnotFile]
  · by_cases hnotTemporary : place = table.temporaryName :: outer
    · rw [if_neg hnotFile, if_neg hnotFile, if_pos hnotTemporary, if_pos hnotTemporary]
    · rw [if_neg hnotFile, if_neg hnotFile, if_neg hnotTemporary, if_neg hnotTemporary]
      exact hmiddle.places place (not_or.2 ⟨hnotFile, hnotTemporary⟩)

/-- Saving is all or nothing. If the compilation fails the tree is left alone, and otherwise the compiled
table is written. If the writing fails all files are left as before, but for the temporary file; if it
succeeds the file of the table stands in its place, and all else is left as before. In both cases the only
new entries beside it are directories on the way to the output directory. The tree that results from a
success is the one that writing again results in, and it does not depend on which files stood at the places
of the table before. Nothing but the shape of the tree decides: the writing succeeds exactly if the
directories can be made and a file may be written then under both names. -/
theorem save_all_or_nothing (directory : String) (tree : FileTree) :
    (∀ (document : Document) (source : Token.Source) (hub : ChainId),
      match compile document source hub with
      | .error fault =>
        (compileAndSave FileTree.system directory document source hub).run tree =
          (.error ⟨[.compileRoutes hub], .route fault⟩, tree)
      | .ok table =>
        (compileAndSave FileTree.system directory document source hub).run tree =
          (table.save FileTree.system directory).run tree) ∧
      ∀ table : Table,
        (match (table.save FileTree.system directory).run tree with
        | (.error failure, after) => LeftAsBefore table directory tree failure after
        | (.ok path, after) => ∃ outer, Stored table directory tree path after outer ∧
          ∀ other, HoldsSame after other ∨ AlikeBut (table.OwnPlace outer) tree other →
            ∃ again, (table.save FileTree.system directory).run other = (.ok path, again) ∧
              HoldsSame after again) ∧
        ((∃ path after, (table.save FileTree.system directory).run tree = (.ok path, after)) ↔
          ∃ made outer, tree.makeDirectories directory = (.ok (), made) ∧
            made.Admits directory table.temporaryName outer ∧
              made.Admits directory table.fileName outer) := by
  refine ⟨fun document source hub ↦ ?_, fun table ↦ ⟨?_, save_succeeds_iff⟩⟩
  · cases hcompiled : compile document source hub with
    | error fault =>
      dsimp only
      rw [compileAndSave, hcompiled]
      rfl
    | ok table =>
      dsimp only
      rw [compileAndSave, hcompiled]
  · have hends := ends_save table directory tree
    generalize (table.save FileTree.system directory).run tree = finish at hends
    cases hends with
    | unwritten failure hfailure => exact leftAsBefore_of_made hfailure
    | withdrawn fault hmade htemporary => exact leftAsBefore_of_withdrawn hmade htemporary
    | stored hmade htemporary hfile =>
      refine ⟨_, stored_of_admits hmade htemporary hfile, fun other hother ↦ ?_⟩
      obtain hholds | halike := hother
      · exact run_save_of_stored hmade htemporary hfile hholds
      · exact run_save_of_alikeBut hmade htemporary hfile halike

end

end HubRoutes.Route
