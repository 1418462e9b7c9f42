import HubRoutes.FileSystem
import HubRoutes.Proofs.Result
import Mathlib.Tactic.Common
import Mathlib.Tactic.SplitIfs

/-!
# Ways along directories

All but the last place on a way are directories, so a way that ends at a directory is determined by the
directories of a tree: files do not matter. Making directories adds directories on the way and nothing
else, and a tree in which the way leads to a directory already stays as it is.
-/

namespace HubRoutes.FileTree

variable {tree other after : FileTree} {start place directory : Place} {part name : String}
  {parts outer : List String} {location : Location}

/-- A place is that of a directory if a directory is its entry. -/
theorem isDirectoryAt_eq_true_iff :
    tree.isDirectoryAt place = true ↔ tree.get? place = some .directory := by
  unfold isDirectoryAt
  cases tree.get? place with
  | none => simp
  | some entry =>
    cases entry with
    | file content => simp [Entry.isDirectory]
    | directory => simp [Entry.isDirectory]

theorem isSome_of_isDirectoryAt (hplace : tree.isDirectoryAt place = true) :
    (tree.get? place).isSome := by
  rw [isDirectoryAt_eq_true_iff.1 hplace]
  rfl

/-! ## One step of a way -/

theorem placeIn_eq_ok_iff :
    tree.placeIn directory name = .ok place ↔
      tree.isDirectoryAt directory = true ∧ name.utf8ByteSize ≤ maxNameSize ∧
        place = name :: directory := by
  unfold placeIn
  by_cases hdirectory : tree.isDirectoryAt directory = true
  · by_cases hsize : maxNameSize < name.utf8ByteSize
    · simp [hdirectory, hsize, Nat.not_le.2 hsize]
    · simp [hdirectory, hsize, Nat.not_lt.1 hsize, eq_comm]
  · simp [hdirectory]

/-- A way goes on from a directory only: outwards, or to something that stands in it. -/
theorem walk_cons_eq_ok_iff :
    tree.walk start (part :: outer) = .ok place ↔
      ∃ directory, tree.walk start outer = .ok directory ∧ tree.isDirectoryAt directory = true ∧
        (part = ".." ∧ place = directory.tail ∨
          part ≠ ".." ∧ part.utf8ByteSize ≤ maxNameSize ∧ place = part :: directory ∧
            (tree.get? place).isSome = true) := by
  rw [walk, bind_eq_ok_iff]
  refine exists_congr fun directory ↦ and_congr_right fun _ ↦ ?_
  by_cases hpart : part = ".."
  · rw [if_pos hpart, ite_throw_eq_ok_iff, pure_eq_ok_iff]
    simp only [hpart, true_and, ne_eq, not_true_eq_false, false_and, or_false, eq_comm]
  · rw [if_neg hpart, bind_eq_ok_iff]
    simp only [ite_throw_eq_ok_iff, pure_eq_ok_iff, placeIn_eq_ok_iff]
    constructor
    · rintro ⟨found, ⟨hdirectory, hsize, rfl⟩, hthere, rfl⟩
      exact ⟨hdirectory, .inr ⟨hpart, hsize, rfl, hthere⟩⟩
    · rintro ⟨hdirectory, ⟨hpoints, -⟩ | ⟨-, hsize, rfl, hthere⟩⟩
      · exact absurd hpoints hpart
      · exact ⟨_, ⟨hdirectory, hsize, rfl⟩, hthere, rfl⟩

/-- Something new has to be named, in a directory that the way before the name leads to. -/
theorem findNew_eq_ok_iff {unnamed : Fault} :
    tree.findNew location unnamed = .ok place ↔
      location.ending ≠ .point ∧ ∃ part outer directory, location.parts = part :: outer ∧
        part ≠ ".." ∧ tree.walk (tree.startOf location) outer = .ok directory ∧
          tree.isDirectoryAt directory = true ∧ part.utf8ByteSize ≤ maxNameSize ∧
            place = part :: directory := by
  unfold findNew
  cases hparts : location.parts with
  | nil => simp
  | cons part outer =>
    by_cases hpoint : location.ending = .point
    · simp [hpoint, bind_eq_ok_iff, ite_throw_eq_ok_iff]
    · by_cases hpart : part = ".."
      · simp [hpoint, hpart, bind_eq_ok_iff, ite_throw_eq_ok_iff]
      · simp [hpoint, hpart, bind_eq_ok_iff, placeIn_eq_ok_iff]

/-! ## Ways and directories -/

/-- Every directory of a tree is one of another tree, seen from the same working directory. -/
structure KeepsDirectories (tree other : FileTree) : Prop where
  workingDirectory : other.workingDirectory = tree.workingDirectory
  directories : ∀ place, tree.isDirectoryAt place = true → other.isDirectoryAt place = true

/-- Where a location starts does not depend on the entries. -/
theorem KeepsDirectories.startOf_eq (hkeeps : KeepsDirectories tree other) (location : Location) :
    other.startOf location = tree.startOf location := by
  rw [startOf, startOf, hkeeps.workingDirectory]

theorem KeepsDirectories.trans {last : FileTree} (hfirst : KeepsDirectories tree other)
    (hlast : KeepsDirectories other last) : KeepsDirectories tree last :=
  ⟨hlast.workingDirectory.trans hfirst.workingDirectory,
    fun place hplace ↦ hlast.directories place (hfirst.directories place hplace)⟩

/-- A way to a directory stays as long as the directories do. -/
theorem KeepsDirectories.walk_eq_ok (hkeeps : KeepsDirectories tree other)
    (hwalk : tree.walk start parts = .ok place) (hplace : tree.isDirectoryAt place = true) :
    other.walk start parts = .ok place := by
  induction parts generalizing place with
  | nil => exact hwalk
  | cons part outer ih =>
    obtain ⟨directory, houter, hdirectory, hstep⟩ := walk_cons_eq_ok_iff.1 hwalk
    refine walk_cons_eq_ok_iff.2
      ⟨directory, ih houter hdirectory, hkeeps.directories directory hdirectory, ?_⟩
    obtain ⟨hpart, rfl⟩ | ⟨hpart, hsize, rfl, -⟩ := hstep
    · exact .inl ⟨hpart, rfl⟩
    · exact .inr ⟨hpart, hsize, rfl, isSome_of_isDirectoryAt (hkeeps.directories _ hplace)⟩

/-! ## Making directories -/

/-- What making directories on a way does to a tree: each place is as before, or it was empty, has a
directory now and is one that a first part of the way leads to. -/
structure Grown (start : Place) (parts : List String) (tree after : FileTree) : Prop where
  workingDirectory : after.workingDirectory = tree.workingDirectory
  places : ∀ place, after.get? place = tree.get? place ∨
    tree.get? place = none ∧ after.get? place = some .directory ∧
      ∃ firsts, firsts <:+ parts ∧ after.walk start firsts = .ok place

theorem Grown.refl (start : Place) (parts : List String) (tree : FileTree) :
    Grown start parts tree tree :=
  ⟨rfl, fun _ ↦ .inl rfl⟩

/-- What was there stays when directories are made. -/
theorem Grown.get?_eq_some (hgrown : Grown start parts tree after) {entry : Entry}
    (hplace : tree.get? place = some entry) : after.get? place = some entry := by
  obtain hsame | ⟨hnone, -⟩ := hgrown.places place
  · rw [hsame, hplace]
  · rw [hplace] at hnone
    cases hnone

/-- Making directories leaves exactly the files that were there. -/
theorem Grown.get?_eq_file_iff (hgrown : Grown start parts tree after) {content : ByteArray} :
    after.get? place = some (.file content) ↔ tree.get? place = some (.file content) := by
  refine ⟨fun hfile ↦ ?_, hgrown.get?_eq_some⟩
  obtain hsame | ⟨-, hdirectory, -⟩ := hgrown.places place
  · rw [← hsame, hfile]
  · rw [hfile] at hdirectory
    cases hdirectory

/-- Making directories removes none. -/
theorem Grown.keepsDirectories (hgrown : Grown start parts tree after) :
    KeepsDirectories tree after := by
  refine ⟨hgrown.workingDirectory, fun place hplace ↦ ?_⟩
  rw [isDirectoryAt_eq_true_iff] at hplace ⊢
  exact hgrown.get?_eq_some hplace

/-- Directories that are made on a first part of a way are made on the way. -/
theorem Grown.trans {first last : List String} {middle : FileTree}
    (hfirst : Grown start first tree middle) (hlast : Grown start last middle after)
    (hfirstParts : first <:+ parts) (hlastParts : last <:+ parts) : Grown start parts tree after := by
  refine ⟨hlast.workingDirectory.trans hfirst.workingDirectory, fun place ↦ ?_⟩
  obtain hsame | ⟨hnone, hdirectory, firsts, hfirsts, hwalk⟩ := hlast.places place
  · rw [hsame]
    obtain hkept | ⟨hnone, hdirectory, firsts, hfirsts, hwalk⟩ := hfirst.places place
    · exact .inl hkept
    · have hstays := hlast.keepsDirectories.walk_eq_ok hwalk (isDirectoryAt_eq_true_iff.2 hdirectory)
      exact .inr ⟨hnone, hdirectory, firsts, hfirsts.trans hfirstParts, hstays⟩
  · refine .inr ⟨?_, hdirectory, firsts, hfirsts.trans hlastParts, hwalk⟩
    cases hplace : tree.get? place with
    | none => rfl
    | some entry => exact absurd (hfirst.get?_eq_some hplace) (by simp [hnone])

/-- A directory is made exactly at a new place where nothing stands. -/
theorem makeDirectoryAt_eq_ok_iff :
    tree.makeDirectoryAt location = .ok after ↔
      ∃ place, tree.findNew location .exists = .ok place ∧ tree.get? place = none ∧
        tree.put place .directory = after := by
  rw [makeDirectoryAt, bind_eq_ok_iff]
  simp only [throw_bind, throw_ite_eq_ok_iff, pure_eq_ok_iff, Option.not_isSome_iff_eq_none]

theorem makeDirectoriesAt_nil (tree : FileTree) (isAbsolute : Bool) (ending : Ending) :
    tree.makeDirectoriesAt isAbsolute [] ending =
      if isAbsolute ∨ ending ≠ .name then
        tree.advance (tree.ensureDirectoryAt ⟨isAbsolute, [], ending⟩)
      else (.ok (), tree) := by
  rw [makeDirectoriesAt]
  rfl

/-- If something is missing around a directory, that is made first. -/
theorem makeDirectoriesAt_cons_of_missing {isAbsolute : Bool} {ending : Ending}
    (hmissing : tree.makeDirectoryAt ⟨isAbsolute, part :: outer, ending⟩ = .error .notFound) :
    tree.makeDirectoriesAt isAbsolute (part :: outer) ending =
      match tree.makeDirectoriesAt isAbsolute outer .name with
      | (.error fault, middle) => (.error fault, middle)
      | (.ok (), middle) =>
        middle.advance (middle.ensureDirectoryAt ⟨isAbsolute, part :: outer, ending⟩) := by
  rw [makeDirectoriesAt, hmissing]
  rfl

/-- No directory around is made unless the one that is asked for lacks it. -/
theorem makeDirectoriesAt_cons_of_present {isAbsolute : Bool} {ending : Ending}
    (hpresent : tree.makeDirectoryAt ⟨isAbsolute, part :: outer, ending⟩ ≠ .error .notFound) :
    tree.makeDirectoriesAt isAbsolute (part :: outer) ending =
      tree.advance (tree.ensureDirectoryAt ⟨isAbsolute, part :: outer, ending⟩) := by
  rw [makeDirectoriesAt, ensureDirectoryAt]
  split
  next made hmade => rw [hmade]; rfl
  next hmissing => exact absurd hmissing hpresent
  next fault _ hfault =>
    rw [hfault]
    dsimp only
    split
    · rfl
    · rfl

/-- Making one directory adds that directory and nothing else. -/
theorem grown_of_makeDirectoryAt (hmade : tree.makeDirectoryAt location = .ok after) :
    Grown (tree.startOf location) location.parts tree after := by
  obtain ⟨place, hfound, hnone, rfl⟩ := makeDirectoryAt_eq_ok_iff.1 hmade
  obtain ⟨-, part, outer, directory, hparts, hpart, hwalk, hdirectory, hsize, rfl⟩ :=
    findNew_eq_ok_iff.1 hfound
  have hget := tree.get?_put part directory
  have hkeeps : KeepsDirectories tree (tree.put (part :: directory) .directory) := by
    refine ⟨rfl, fun place hplace ↦ ?_⟩
    rw [isDirectoryAt_eq_true_iff] at hplace ⊢
    rw [hget]
    split
    · rfl
    · exact hplace
  refine ⟨rfl, fun place ↦ ?_⟩
  by_cases hplace : place = part :: directory
  · subst hplace
    have hmade : (tree.put (part :: directory) .directory).get? (part :: directory) =
        some .directory := by
      rw [hget, if_pos rfl]
    refine .inr ⟨hnone, hmade, location.parts, List.suffix_refl _, ?_⟩
    rw [hparts, walk_cons_eq_ok_iff]
    exact ⟨directory, hkeeps.walk_eq_ok hwalk hdirectory, hkeeps.directories directory hdirectory,
      .inr ⟨hpart, hsize, rfl, by rw [hmade]; rfl⟩⟩
  · exact .inl (by rw [hget, if_neg hplace])

theorem grown_ensureDirectoryAt (tree : FileTree) (location : Location) :
    Grown (tree.startOf location) location.parts tree
      (tree.advance (tree.ensureDirectoryAt location)).2 := by
  unfold ensureDirectoryAt
  cases hmade : tree.makeDirectoryAt location with
  | ok made => exact grown_of_makeDirectoryAt hmade
  | error fault =>
    dsimp only
    split
    · exact .refl _ _ _
    · exact .refl _ _ _

/-- Whether it succeeds or not, making the directories of a way adds directories on the way and nothing
else. -/
theorem grown_makeDirectoriesAt (tree : FileTree) (isAbsolute : Bool) (parts : List String)
    (ending : Ending) :
    Grown (tree.startOf ⟨isAbsolute, parts, ending⟩) parts tree
      (tree.makeDirectoriesAt isAbsolute parts ending).2 := by
  induction parts generalizing ending with
  | nil =>
    rw [makeDirectoriesAt_nil]
    split
    · exact grown_ensureDirectoryAt tree _
    · exact .refl _ _ _
  | cons part outer ih =>
    by_cases hmissing : tree.makeDirectoryAt ⟨isAbsolute, part :: outer, ending⟩ = .error .notFound
    · have hlonger : outer <:+ part :: outer := List.suffix_cons part outer
      have houter := ih .name
      rw [makeDirectoriesAt_cons_of_missing hmissing]
      generalize tree.makeDirectoriesAt isAbsolute outer .name = run at houter
      obtain ⟨result, middle⟩ := run
      cases result with
      | error fault => exact houter.trans (.refl _ outer _) hlonger hlonger
      | ok nothing =>
        have hlast := grown_ensureDirectoryAt middle ⟨isAbsolute, part :: outer, ending⟩
        rw [houter.keepsDirectories.startOf_eq] at hlast
        exact houter.trans hlast hlonger (List.suffix_refl _)
    · rw [makeDirectoriesAt_cons_of_present hmissing]
      exact grown_ensureDirectoryAt tree _

/-! ## Ways that lead to a directory already -/

theorem find_eq_ok_of_walk (hwalk : tree.walk (tree.startOf location) location.parts = .ok place)
    (hplace : tree.isDirectoryAt place = true) : tree.find location = .ok place := by
  rw [find, bind_eq_ok_iff]
  exact ⟨place, hwalk, if_pos (.inr hplace)⟩

theorem hasDirectoryAt_of_walk (hwalk : tree.walk (tree.startOf location) location.parts = .ok place)
    (hplace : tree.isDirectoryAt place = true) : tree.hasDirectoryAt location = true := by
  rw [hasDirectoryAt, find_eq_ok_of_walk hwalk hplace]
  exact hplace

/-- Where a directory stands already none can be made, and that is the cause that is reported. -/
theorem makeDirectoryAt_of_walk (hwalk : tree.walk (tree.startOf location) location.parts = .ok place)
    (hplace : tree.isDirectoryAt place = true) : tree.makeDirectoryAt location = .error .exists := by
  have hfound : tree.findNew location .exists = .error .exists ∨
      tree.findNew location .exists = .ok place := by
    unfold findNew
    cases hparts : location.parts with
    | nil => exact .inl rfl
    | cons part outer =>
      rw [hparts] at hwalk
      obtain ⟨directory, houter, hdirectory, hstep⟩ := walk_cons_eq_ok_iff.1 hwalk
      by_cases hpoint : location.ending = .point
      · left
        simp only [hpoint, if_true, hwalk, ok_bind, hplace]
        rfl
      · obtain ⟨rfl, -⟩ | ⟨hpart, hsize, rfl, -⟩ := hstep
        · left
          simp only [hpoint, if_false, houter, ok_bind, if_true, hdirectory]
          rfl
        · right
          simp only [hpoint, if_false, houter, ok_bind, hpart]
          exact placeIn_eq_ok_iff.2 ⟨hdirectory, hsize, rfl⟩
  obtain hfault | hsame := hfound
  · rw [makeDirectoryAt, hfault]
    rfl
  · rw [makeDirectoryAt, hsame, ok_bind]
    exact if_pos (isSome_of_isDirectoryAt hplace)

/-- If the way leads to a directory already there is nothing to be made. -/
theorem makeDirectoriesAt_of_walk {isAbsolute : Bool} {ending : Ending}
    (hwalk : tree.walk (tree.startOf ⟨isAbsolute, parts, ending⟩) parts = .ok place)
    (hplace : tree.isDirectoryAt place = true) :
    tree.makeDirectoriesAt isAbsolute parts ending = (.ok (), tree) := by
  have hmake := makeDirectoryAt_of_walk hwalk hplace
  have hensure : tree.ensureDirectoryAt ⟨isAbsolute, parts, ending⟩ = .ok tree := by
    rw [ensureDirectoryAt, hmake]
    exact if_pos (hasDirectoryAt_of_walk hwalk hplace)
  cases parts with
  | nil =>
    rw [makeDirectoriesAt_nil, hensure]
    exact ite_self _
  | cons part outer =>
    rw [makeDirectoriesAt_cons_of_present (by simp [hmake]), hensure]
    rfl

/-! ## The directory of a text -/

/-- The place that the text of a directory leads to. -/
def reached (tree : FileTree) (directory : String) : Except Fault Place :=
  tree.walk (tree.startOf (.ofText directory)) (Location.ofText directory).parts

/-- A directory that a text leads to is still reached when there are more directories. -/
theorem KeepsDirectories.reached_eq (hkeeps : KeepsDirectories tree other) {text : String}
    (hreached : tree.reached text = .ok place) (hdirectory : tree.isDirectoryAt place = true) :
    other.reached text = .ok place := by
  rw [reached, hkeeps.startOf_eq]
  exact hkeeps.walk_eq_ok hreached hdirectory

theorem eq_ofText_of_locationOf {text : String} (hlocation : locationOf text = .ok location) :
    location = .ofText text := by
  unfold locationOf at hlocation
  split_ifs at hlocation
  cases hlocation
  rfl

/-- Making directories adds directories on the way and nothing else, also where it fails. -/
theorem grown_makeDirectories (tree : FileTree) (text : String) :
    Grown (tree.startOf (.ofText text)) (Location.ofText text).parts tree
      (tree.makeDirectories text).2 := by
  unfold makeDirectories
  split
  · exact .refl _ _ _
  · split
    · exact .refl _ _ _
    next location hlocation =>
      rw [eq_ofText_of_locationOf hlocation]
      exact grown_makeDirectoriesAt tree _ _ _

/-- If the directory of a text could be made once and stands there, there is nothing to be made. -/
theorem makeDirectories_of_reached {text : String}
    (hmade : (other.makeDirectories text).1 = .ok ()) (hreached : tree.reached text = .ok place)
    (hplace : tree.isDirectoryAt place = true) : tree.makeDirectories text = (.ok (), tree) := by
  unfold makeDirectories at hmade ⊢
  split
  · rfl
  next hpresent =>
    rw [if_neg hpresent] at hmade
    split
    next fault hlocation =>
      rw [hlocation] at hmade
      cases hmade
    next location hlocation =>
      rw [eq_ofText_of_locationOf hlocation]
      exact makeDirectoriesAt_of_walk hreached hplace

end HubRoutes.FileTree
