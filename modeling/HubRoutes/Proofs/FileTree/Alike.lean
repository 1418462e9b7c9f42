import HubRoutes.Proofs.FileTree.Directories

/-!
# Trees that are alike on a way

A way passes the place that each of its first parts stands for. If two trees have the same entries at these
places, and the same directories anywhere, the way leads to the same in both, and making its directories
takes the same steps: the trees stay alike, and what is reported is the same.
-/

namespace HubRoutes.FileTree

variable {tree other : FileTree} {start place directory : Place} {part name : String}
  {parts outer : List String} {location : Location} {spared : Place → Prop}

/-! ## The places on a way -/

/-- The place that a way leads to if every name on it is that of a directory. -/
def destination (start : Place) : List String → Place
  | [] => start
  | part :: outer =>
    if part = ".." then (destination start outer).tail else part :: destination start outer

/-- A walk that does not fail ends where the names on the way lead. -/
theorem eq_destination_of_walk (hwalk : tree.walk start parts = .ok place) :
    place = destination start parts := by
  induction parts generalizing place with
  | nil => exact (Except.ok.inj hwalk).symm
  | cons part outer ih =>
    obtain ⟨directory, houter, -, ⟨hpart, rfl⟩ | ⟨hpart, -, rfl, -⟩⟩ := walk_cons_eq_ok_iff.1 hwalk
    · rw [destination, if_pos hpart, ih houter]
    · rw [destination, if_neg hpart, ih houter]

/-- The place that the text of a directory leads to once all directories on the way are there. -/
def placeOf (tree : FileTree) (directory : String) : Place :=
  destination (tree.startOf (.ofText directory)) (Location.ofText directory).parts

theorem eq_placeOf_of_reached {directory : String} (hreached : tree.reached directory = .ok place) :
    place = tree.placeOf directory :=
  eq_destination_of_walk hreached

/-- More directories do not change the place of a directory text. -/
theorem KeepsDirectories.placeOf_eq (hkeeps : KeepsDirectories tree other) (directory : String) :
    other.placeOf directory = tree.placeOf directory := by
  rw [placeOf, placeOf, hkeeps.startOf_eq]

/-- A way to a directory passes directories only. -/
theorem isDirectoryAt_destination (hwalk : tree.walk start parts = .ok place)
    (hplace : tree.isDirectoryAt place = true) {firsts : List String} (hfirsts : firsts <:+ parts) :
    tree.isDirectoryAt (destination start firsts) = true := by
  induction parts generalizing place with
  | nil =>
    obtain rfl := List.suffix_nil.1 hfirsts
    rw [← eq_destination_of_walk hwalk]
    exact hplace
  | cons part outer ih =>
    obtain rfl | hfirsts := List.suffix_cons_iff.1 hfirsts
    · rw [← eq_destination_of_walk hwalk]
      exact hplace
    · obtain ⟨directory, houter, hdirectory, -⟩ := walk_cons_eq_ok_iff.1 hwalk
      exact ih houter hdirectory hfirsts

/-! ## Alike trees -/

/-- Two trees are alike but for spared places, which hold no directory in either of them. -/
structure AlikeBut (spared : Place → Prop) (tree other : FileTree) : Prop where
  workingDirectory : other.workingDirectory = tree.workingDirectory
  places : ∀ place, ¬spared place → other.get? place = tree.get? place
  noDirectory : ∀ place, spared place →
    tree.isDirectoryAt place = false ∧ other.isDirectoryAt place = false

/-- A way that does not touch any of the spared places. -/
def Avoids (spared : Place → Prop) (start : Place) (parts : List String) : Prop :=
  ∀ firsts, firsts <:+ parts → ¬spared (destination start firsts)

/-- Two operations either fail alike or have alike trees as results. -/
inductive AlikeResults (spared : Place → Prop) : Except Fault FileTree → Except Fault FileTree → Prop
  | fault (fault : Fault) : AlikeResults spared (.error fault) (.error fault)
  | changed {tree other : FileTree} (alike : AlikeBut spared tree other) :
    AlikeResults spared (.ok tree) (.ok other)

theorem Avoids.of_cons (havoids : Avoids spared start (part :: outer)) : Avoids spared start outer :=
  fun firsts hfirsts ↦ havoids firsts (hfirsts.trans (List.suffix_cons part outer))

theorem AlikeBut.isDirectoryAt_eq (halike : AlikeBut spared tree other) (place : Place) :
    other.isDirectoryAt place = tree.isDirectoryAt place := by
  by_cases hspared : spared place
  · obtain ⟨htree, hother⟩ := halike.noDirectory place hspared
    rw [htree, hother]
  · rw [isDirectoryAt, isDirectoryAt, halike.places place hspared]

theorem AlikeBut.startOf_eq (halike : AlikeBut spared tree other) (location : Location) :
    other.startOf location = tree.startOf location := by
  rw [startOf, startOf, halike.workingDirectory]

theorem AlikeBut.placeIn_eq (halike : AlikeBut spared tree other) (directory : Place)
    (name : String) : other.placeIn directory name = tree.placeIn directory name := by
  rw [placeIn, placeIn, halike.isDirectoryAt_eq]

/-- A way that avoids the spared places leads to the same place in both trees. -/
theorem AlikeBut.walk_eq (halike : AlikeBut spared tree other)
    (havoids : Avoids spared start parts) : other.walk start parts = tree.walk start parts := by
  induction parts with
  | nil => rfl
  | cons part outer ih =>
    rw [walk, walk, ih havoids.of_cons]
    cases houter : tree.walk start outer with
    | error fault => rfl
    | ok directory =>
      simp only [ok_bind, halike.isDirectoryAt_eq, halike.placeIn_eq]
      split
      · rfl
      next hpart =>
        have hplace : part :: directory = destination start (part :: outer) := by
          rw [destination, if_neg hpart, eq_destination_of_walk houter]
        have hsame : other.get? (part :: directory) = tree.get? (part :: directory) := by
          apply halike.places
          rw [hplace]
          exact havoids _ (List.suffix_refl _)
        cases hstep : tree.placeIn directory part with
        | error fault => rfl
        | ok place =>
          obtain ⟨-, -, rfl⟩ := placeIn_eq_ok_iff.1 hstep
          rw [ok_bind, ok_bind, hsame]

/-- A new place is found alike in both trees, or refused alike. -/
theorem AlikeBut.findNew_eq (halike : AlikeBut spared tree other) {unnamed : Fault}
    (havoids : Avoids spared (tree.startOf location) location.parts) :
    other.findNew location unnamed = tree.findNew location unnamed := by
  unfold findNew
  cases hparts : location.parts with
  | nil => rfl
  | cons part outer =>
    rw [hparts] at havoids
    simp only [halike.startOf_eq, halike.walk_eq havoids, halike.walk_eq havoids.of_cons,
      halike.isDirectoryAt_eq, halike.placeIn_eq]

theorem AlikeBut.hasDirectoryAt_eq (halike : AlikeBut spared tree other)
    (havoids : Avoids spared (tree.startOf location) location.parts) :
    other.hasDirectoryAt location = tree.hasDirectoryAt location := by
  simp only [hasDirectoryAt, find, halike.startOf_eq, halike.walk_eq havoids,
    halike.isDirectoryAt_eq]

theorem AlikeBut.put (halike : AlikeBut spared tree other)
    (hspared : ¬spared (name :: directory)) {entry : Entry} :
    AlikeBut spared (tree.put (name :: directory) entry) (other.put (name :: directory) entry) := by
  refine ⟨halike.workingDirectory, fun place hplace ↦ ?_, fun place hplace ↦ ?_⟩
  · rw [get?_put, get?_put, halike.places place hplace]
  · have hdifferent : place ≠ name :: directory := by
      rintro rfl
      exact hspared hplace
    simpa only [isDirectoryAt, get?_put, hdifferent, if_false] using
      halike.noDirectory place hplace

/-- Making a directory fails alike in both trees or leaves them alike. -/
theorem AlikeBut.makeDirectoryAt (halike : AlikeBut spared tree other)
    (havoids : Avoids spared (tree.startOf location) location.parts) :
    AlikeResults spared (tree.makeDirectoryAt location) (other.makeDirectoryAt location) := by
  unfold FileTree.makeDirectoryAt
  rw [halike.findNew_eq havoids]
  cases hfound : tree.findNew location .exists with
  | error fault => exact .fault fault
  | ok place =>
    obtain ⟨-, part, outer, directory, hparts, hpart, hwalk, -, -, rfl⟩ :=
      findNew_eq_ok_iff.1 hfound
    have hspared : ¬spared (part :: directory) := by
      have hplace : part :: directory = destination (tree.startOf location) location.parts := by
        rw [hparts, destination, if_neg hpart, eq_destination_of_walk hwalk]
      rw [hplace]
      exact havoids _ (List.suffix_refl _)
    rw [ok_bind, ok_bind, halike.places _ hspared]
    by_cases hthere : (tree.get? (part :: directory)).isSome = true
    · simp only [hthere, if_true]
      exact .fault .exists
    · simp only [hthere]
      exact .changed (halike.put hspared)

theorem AlikeBut.ensureDirectoryAt (halike : AlikeBut spared tree other)
    (havoids : Avoids spared (tree.startOf location) location.parts) :
    AlikeResults spared (tree.ensureDirectoryAt location) (other.ensureDirectoryAt location) := by
  have hmade := halike.makeDirectoryAt havoids
  unfold FileTree.ensureDirectoryAt
  rw [halike.hasDirectoryAt_eq havoids]
  generalize tree.makeDirectoryAt location = first at hmade
  generalize other.makeDirectoryAt location = second at hmade
  cases hmade with
  | changed halike => exact .changed halike
  | fault fault =>
    by_cases hpresent : tree.hasDirectoryAt location = true
    · simp only [hpresent, if_true]
      exact .changed halike
    · simp only [hpresent]
      exact .fault fault

/-- Two runs report the same and leave alike trees behind. -/
def AlikeRuns (spared : Place → Prop) (first second : Except Fault Unit × FileTree) : Prop :=
  second.1 = first.1 ∧ AlikeBut spared first.2 second.2

theorem AlikeResults.advance {first second : Except Fault FileTree}
    (hresults : AlikeResults spared first second) (halike : AlikeBut spared tree other) :
    AlikeRuns spared (tree.advance first) (other.advance second) := by
  cases hresults with
  | fault fault => exact ⟨rfl, halike⟩
  | changed hchanged => exact ⟨rfl, hchanged⟩

theorem AlikeResults.eq_error_iff {first second : Except Fault FileTree}
    (hresults : AlikeResults spared first second) (fault : Fault) :
    second = .error fault ↔ first = .error fault := by
  cases hresults with
  | fault fault => simp
  | changed halike => simp

/-- On trees that are alike on a way the directories of the way are made alike. -/
theorem AlikeBut.makeDirectoriesAt (halike : AlikeBut spared tree other) {isAbsolute : Bool}
    (ending : Ending)
    (havoids : Avoids spared (tree.startOf ⟨isAbsolute, parts, ending⟩) parts) :
    AlikeRuns spared (tree.makeDirectoriesAt isAbsolute parts ending)
      (other.makeDirectoriesAt isAbsolute parts ending) := by
  induction parts generalizing ending with
  | nil =>
    rw [makeDirectoriesAt_nil, makeDirectoriesAt_nil]
    split
    · exact (halike.ensureDirectoryAt havoids).advance halike
    · exact ⟨rfl, halike⟩
  | cons part outer ih =>
    have hmade := (halike.makeDirectoryAt havoids).eq_error_iff .notFound
    by_cases hmissing : tree.makeDirectoryAt ⟨isAbsolute, part :: outer, ending⟩ = .error .notFound
    · have hkeeps := (grown_makeDirectoriesAt tree isAbsolute outer .name).keepsDirectories
      have houter := ih .name havoids.of_cons
      rw [makeDirectoriesAt_cons_of_missing hmissing,
        makeDirectoriesAt_cons_of_missing (hmade.2 hmissing)]
      generalize tree.makeDirectoriesAt isAbsolute outer .name = run at houter hkeeps
      generalize other.makeDirectoriesAt isAbsolute outer .name = otherRun at houter
      obtain ⟨result, middle⟩ := run
      obtain ⟨otherResult, otherMiddle⟩ := otherRun
      obtain ⟨hresult, hmiddle⟩ := houter
      obtain rfl : otherResult = result := hresult
      cases otherResult with
      | error fault => exact ⟨rfl, hmiddle⟩
      | ok nothing =>
        rw [← hkeeps.startOf_eq] at havoids
        exact (hmiddle.ensureDirectoryAt havoids).advance hmiddle
    · rw [makeDirectoriesAt_cons_of_present hmissing,
        makeDirectoriesAt_cons_of_present (hmissing ∘ hmade.1)]
      exact (halike.ensureDirectoryAt havoids).advance halike

/-- Making directories reports the same in both trees and leaves them alike. -/
theorem AlikeBut.makeDirectories (halike : AlikeBut spared tree other)
    {text : String} (havoids : Avoids spared (tree.startOf (.ofText text)) (Location.ofText text).parts) :
    AlikeRuns spared (tree.makeDirectories text) (other.makeDirectories text) := by
  unfold FileTree.makeDirectories
  split
  · exact ⟨rfl, halike⟩
  · split
    · exact ⟨rfl, halike⟩
    next location hlocation =>
      rw [eq_ofText_of_locationOf hlocation]
      exact halike.makeDirectoriesAt _ havoids

end HubRoutes.FileTree
