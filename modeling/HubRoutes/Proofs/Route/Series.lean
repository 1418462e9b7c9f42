import HubRoutes.FileTree.Listing
import HubRoutes.Proofs.Route.Compilation
import HubRoutes.Proofs.Route.Saving

/-!
# A series of tables in one directory

One table after the other is compiled and saved in a directory; some of them may fail. Each save leaves the files
of other hub pools alone, and one that fails leaves its own file alone as well. So the files in the directory are
at any time those of the last tables that were saved, one for each hub pool, and there is no temporary file.
-/

namespace HubRoutes.Route

open FileTree (Place)

/-! ## Requests and what they write -/

/-- What one table is compiled from. -/
structure Request where
  document : Document
  source : Token.Source
  hub : ChainId

def Request.table (request : Request) : Except Fault Table :=
  compile request.document request.source request.hub

def Request.save (directory : String) (request : Request) : StateM FileTree (Except Failure String) :=
  compileAndSave FileTree.system directory request.document request.source request.hub

/-- Compiles and saves the tables of requests one after the other, whatever becomes of each. -/
def saveEach (directory : String) (requests : List Request) :
    StateM FileTree (List (Except Failure String)) :=
  requests.mapM (Request.save directory)

/-- The table that a request has written, given how its save ended. -/
def Request.written? (request : Request) : Except Failure String → Option Table
  | .ok _ => request.table.toOption
  | .error _ => none

/-- The tables that were written, in the order of their requests. -/
def written (requests : List Request) (results : List (Except Failure String)) : List Table :=
  (requests.zip results).filterMap fun (request, result) ↦ request.written? result

/-- The last table of a hub pool. -/
def lastOf? (tables : List Table) (hub : ChainId) (hubPool : Address) : Option Table :=
  tables.reverse.find? fun table ↦ table.hub = hub ∧ table.hubPool = hubPool

/-- The files in the directory at a place are those of the last tables of their hub pools. -/
def HoldsLast (tables : List Table) (outer : Place) (tree : FileTree) : Prop :=
  ∀ name content, tree.get? (name :: outer) = some (.file content) ↔
    ∃ table, lastOf? tables table.hub table.hubPool = some table ∧ table.fileName = name ∧
      table.render.toUTF8 = content

variable {directory : String} {outer : Place} {tree made after : FileTree} {tables : List Table}
  {table : Table}

/-! ## One save -/

/-- A table that comes last is the last one of its hub pool. -/
theorem lastOf?_append_singleton (tables : List Table) (table : Table) (hub : ChainId) (hubPool : Address) :
    lastOf? (tables ++ [table]) hub hubPool =
      if table.hub = hub ∧ table.hubPool = hubPool then some table else lastOf? tables hub hubPool := by
  rw [lastOf?, List.reverse_append, List.reverse_singleton, List.singleton_append, List.find?_cons]
  by_cases hsame : table.hub = hub ∧ table.hubPool = hubPool
  · simp [hsame]
  · simp [hsame, lastOf?]

theorem exists_lastOf? (htable : table ∈ tables) :
    ∃ last, lastOf? tables table.hub table.hubPool = some last ∧ last.hub = table.hub ∧
      last.hubPool = table.hubPool := by
  cases hlast : lastOf? tables table.hub table.hubPool with
  | some last => exact ⟨last, rfl, by simpa using List.find?_some hlast⟩
  | none => exact absurd (List.find?_eq_none.1 hlast table (List.mem_reverse.2 htable)) (by simp)

/-- Where only last tables are held there is no temporary file. -/
theorem HoldsLast.no_temporary (hholds : HoldsLast tables outer tree) (table : Table) (content : ByteArray) :
    tree.get? (table.temporaryName :: outer) ≠ some (.file content) := by
  intro hfile
  obtain ⟨other, -, hname, -⟩ := (hholds _ _).1 hfile
  exact fileName_ne_temporaryName other table hname

theorem HoldsLast.of_files (hholds : HoldsLast tables outer tree)
    (hfiles : ∀ name content,
      after.get? (name :: outer) = some (.file content) ↔ tree.get? (name :: outer) = some (.file content)) :
    HoldsLast tables outer after :=
  fun name content ↦ (hfiles name content).trans (hholds name content)

/-- A temporary file that is withdrawn leaves the files of last tables as they were. -/
theorem HoldsLast.withdrawn (hholds : HoldsLast tables outer made) (table : Table) :
    HoldsLast tables outer (table.withdrawn made outer) := by
  refine hholds.of_files fun name content ↦ ?_
  rw [get?_withdrawn]
  split
  next hplace =>
    obtain ⟨rfl, -⟩ := List.cons.inj hplace
    exact ⟨nofun, fun hfile ↦ absurd hfile (hholds.no_temporary table content)⟩
  next => rfl

/-- A stored table is the last one of its hub pool, and the last tables of other hub pools stay. -/
theorem HoldsLast.stored (hholds : HoldsLast tables outer made) (table : Table) :
    HoldsLast (tables ++ [table]) outer (table.stored made outer) := by
  intro name content
  have hlast (other : Table) : lastOf? (tables ++ [table]) other.hub other.hubPool =
      if table.fileName = other.fileName then some table else lastOf? tables other.hub other.hubPool := by
    rw [lastOf?_append_singleton]
    simp only [fileName_eq_iff]
  simp only [hlast]
  rw [Table.stored, FileTree.get?_put]
  by_cases hname : name = table.fileName
  · subst hname
    rw [if_pos rfl, Table.file]
    constructor
    · intro hfile
      cases hfile
      exact ⟨table, if_pos rfl, rfl, rfl⟩
    · rintro ⟨other, hother, hname, rfl⟩
      rw [if_pos hname.symm] at hother
      cases hother
      rfl
  · have hplace : name :: outer ≠ table.fileName :: outer := fun hsame ↦ hname (List.cons.inj hsame).1
    rw [if_neg hplace, hholds.withdrawn table name content]
    apply exists_congr
    intro other
    rw [and_congr_left_iff]
    rintro ⟨rfl, -⟩
    rw [if_neg (Ne.symm hname)]

theorem outer_eq_placeOf {name : String} (hmade : tree.makeDirectories directory = (.ok (), made))
    (hnames : made.Names directory name outer) : outer = tree.placeOf directory := by
  have hgrown := FileTree.grown_makeDirectories tree directory
  rw [hmade] at hgrown
  rw [← hgrown.keepsDirectories.placeOf_eq, FileTree.eq_placeOf_of_reached hnames.reached]

/-- Whether it succeeds or not, a save leaves the files of the last tables behind. -/
theorem HoldsLast.save (hholds : HoldsLast tables (tree.placeOf directory) tree) (table : Table) :
    match (table.save FileTree.system directory).run tree with
    | (.error _, after) => HoldsLast tables (tree.placeOf directory) after
    | (.ok _, after) => HoldsLast (tables ++ [table]) (tree.placeOf directory) after := by
  have hgrown := FileTree.grown_makeDirectories tree directory
  have hkept := hholds.of_files fun name content ↦ hgrown.get?_eq_file_iff
  have hends := ends_save table directory tree
  generalize (table.save FileTree.system directory).run tree = finish at hends
  cases hends with
  | unwritten failure hfailure => exact hkept
  | withdrawn fault hmade htemporary =>
    rw [hmade, ← outer_eq_placeOf hmade htemporary.toNames] at hkept
    rw [← outer_eq_placeOf hmade htemporary.toNames]
    exact hkept.withdrawn table
  | stored hmade htemporary hfile =>
    rw [hmade, ← outer_eq_placeOf hmade htemporary.toNames] at hkept
    rw [← outer_eq_placeOf hmade htemporary.toNames]
    exact hkept.stored table

/-- A save leaves the working directory and all other directories where they are. -/
theorem keepsDirectories_save (table : Table) (directory : String) (tree : FileTree) :
    tree.KeepsDirectories ((table.save FileTree.system directory).run tree).2 := by
  have hgrown := (FileTree.grown_makeDirectories tree directory).keepsDirectories
  have hends := ends_save table directory tree
  generalize (table.save FileTree.system directory).run tree = finish at hends
  cases hends with
  | unwritten failure hfailure => exact hgrown
  | withdrawn fault hmade htemporary =>
    rw [hmade] at hgrown
    exact hgrown.trans (sameDirectories_withdrawn htemporary).keeps
  | stored hmade htemporary hfile =>
    rw [hmade] at hgrown
    exact hgrown.trans (sameDirectories_stored htemporary hfile).keeps

/-! ## A series of saves -/

theorem run_save_request (directory : String) (request : Request) (tree : FileTree) :
    (request.save directory).run tree =
      match request.table with
      | .error fault => (.error ⟨[.compileRoutes request.hub], .route fault⟩, tree)
      | .ok table => (table.save FileTree.system directory).run tree := by
  rw [Request.save, compileAndSave, Request.table]
  cases compile request.document request.source request.hub <;> rfl

/-- One request adds the table that it has written, if any, to the tables whose files the directory holds. -/
theorem HoldsLast.request (hholds : HoldsLast tables (tree.placeOf directory) tree) (request : Request)
    {result : Except Failure String} (hrun : (request.save directory).run tree = (result, after)) :
    HoldsLast (tables ++ (request.written? result).toList) (after.placeOf directory) after ∧
      after.placeOf directory = tree.placeOf directory := by
  rw [run_save_request] at hrun
  cases htable : request.table with
  | error fault =>
    rw [htable] at hrun
    cases hrun
    simpa [Request.written?] using hholds
  | ok table =>
    rw [htable] at hrun
    dsimp only at hrun
    have hsaved := hholds.save table
    have hplace := (keepsDirectories_save table directory tree).placeOf_eq directory
    rw [hrun] at hsaved hplace
    rw [hplace]
    refine ⟨?_, rfl⟩
    cases result with
    | error failure => simpa [Request.written?] using hsaved
    | ok path => simpa [Request.written?, htable, Except.toOption] using hsaved

/-- The requests behind the first one are run on the tree that it leaves behind. -/
theorem run_saveEach_cons (directory : String) (request : Request) (rest : List Request) (tree : FileTree) :
    (saveEach directory (request :: rest)).run tree =
      (((request.save directory).run tree).1 ::
          ((saveEach directory rest).run ((request.save directory).run tree).2).1,
        ((saveEach directory rest).run ((request.save directory).run tree).2).2) := by
  rw [saveEach, List.mapM_cons]
  rfl

theorem written_cons (request : Request) (rest : List Request) (result : Except Failure String)
    (results : List (Except Failure String)) :
    written (request :: rest) (result :: results) = (request.written? result).toList ++ written rest results := by
  rw [written, List.zip_cons_cons, List.filterMap_cons]
  dsimp only
  cases request.written? result with
  | none => rfl
  | some table => rfl

/-- However long a series is, the directory holds the files of the last of all its tables. -/
theorem HoldsLast.saveEach (hholds : HoldsLast tables (tree.placeOf directory) tree) (requests : List Request) :
    HoldsLast (tables ++ written requests ((saveEach directory requests).run tree).1) (tree.placeOf directory)
      ((saveEach directory requests).run tree).2 := by
  induction requests generalizing tables tree with
  | nil =>
    have hrun : (Route.saveEach directory []).run tree = ([], tree) := rfl
    rw [hrun, written, List.zip_nil_left, List.filterMap_nil, List.append_nil]
    exact hholds
  | cons request rest ih =>
    obtain ⟨hfirst, hplace⟩ := hholds.request request rfl
    have hlater := ih hfirst
    rw [run_saveEach_cons, written_cons, ← List.append_assoc, ← hplace]
    exact hlater

/-- The name of a table's file tells the hub pool and nothing else, and the name of a temporary file is never that
of a table. So after any series of saves in a directory without files, whatever becomes of each of them, the files
in the directory are those of the tables that were written, one for each hub pool with the text of the last of its
tables, and no temporary file is left. -/
theorem each_hub_pool_keeps_its_last_table :
    (∀ first second : Table,
      (first.fileName = second.fileName ↔ first.hub = second.hub ∧ first.hubPool = second.hubPool) ∧
      first.temporaryName ≠ second.fileName ∧
      (first.temporaryName = second.temporaryName ↔ first.fileName = second.fileName)) ∧
    ∀ (directory : String) (tree : FileTree) (requests : List Request),
      (∀ name content, tree.get? (name :: tree.placeOf directory) ≠ some (.file content)) →
      match (saveEach directory requests).run tree with
      | (results, after) =>
        HoldsLast (written requests results) (tree.placeOf directory) after ∧
        (∀ table ∈ written requests results, ∃ last,
          lastOf? (written requests results) table.hub table.hubPool = some last ∧
          after.get? (table.fileName :: tree.placeOf directory) = some last.file) ∧
        ∀ (table : Table) (content : ByteArray),
          after.get? (table.temporaryName :: tree.placeOf directory) ≠ some (.file content) := by
  refine ⟨fun first second ↦ ⟨fileName_eq_iff, (fileName_ne_temporaryName second first).symm,
    temporaryName_eq_iff⟩, fun directory tree requests hempty ↦ ?_⟩
  have hstart : HoldsLast [] (tree.placeOf directory) tree :=
    fun name content ↦ ⟨fun hfile ↦ absurd hfile (hempty name content), fun ⟨_, hlast, _⟩ ↦ nomatch hlast⟩
  have hend := hstart.saveEach requests
  rw [List.nil_append] at hend
  generalize (saveEach directory requests).run tree = finish at hend ⊢
  refine ⟨hend, fun table htable ↦ ?_, fun table content ↦ hend.no_temporary table content⟩
  obtain ⟨last, hlast, hhub, hpool⟩ := exists_lastOf? htable
  refine ⟨last, hlast, ?_⟩
  rw [Table.file, fileName_eq_iff.2 ⟨hhub.symm, hpool.symm⟩, hend]
  rw [← hhub, ← hpool] at hlast
  exact ⟨last, hlast, rfl, rfl⟩

/-- A request that is written, and one for a chain that has no hub. -/
theorem each_hub_pool_keeps_its_last_table_twoChain :
    ∃ table path failure after, compile twoChainDocument twoChainRegistry.address? 1 = .ok table ∧
      (saveEach "out" [⟨twoChainDocument, twoChainRegistry.address?, 1⟩,
        ⟨twoChainDocument, twoChainRegistry.address?, 7⟩]).run (.emptyAt []) =
          ([.ok path, .error failure], after) ∧
      after.get? [table.fileName, "out"] = some table.file := by
  obtain ⟨table, hcompiled⟩ : ∃ table, compile twoChainDocument twoChainRegistry.address? 1 = .ok table :=
    ⟨_, rfl⟩
  let first : Request := ⟨twoChainDocument, twoChainRegistry.address?, 1⟩
  let second : Request := ⟨twoChainDocument, twoChainRegistry.address?, 7⟩
  have hmade : (FileTree.emptyAt []).makeDirectories "out" =
      (.ok (), (FileTree.emptyAt []).put ["out"] .directory) := rfl
  have hfree (name : String) : ((FileTree.emptyAt []).put ["out"] .directory).isDirectoryAt [name, "out"] =
      false := by
    rw [FileTree.isDirectoryAt, FileTree.get?_put, if_neg (by simp)]
    rfl
  obtain ⟨htemporary, hfile⟩ : _ ∧ FileTree.Admits _ "out" table.fileName ["out"] :=
    admits_of_reached (by decide) (by decide) rfl rfl fun name _ ↦ hfree name
  have hfirst : (first.save "out").run (.emptyAt []) =
      (.ok (table.path "out"), table.stored ((FileTree.emptyAt []).put ["out"] .directory) ["out"]) := by
    rw [run_save_request, Request.table, hcompiled]
    exact run_save_of_admits hmade htemporary hfile
  have hsecond (tree : FileTree) : (second.save "out").run tree =
      (.error ⟨[.compileRoutes 7], .route (.unsupportedHub 7)⟩, tree) := rfl
  have hrun : (saveEach "out" [first, second]).run (.emptyAt []) =
      ([.ok (table.path "out"), .error ⟨[.compileRoutes 7], .route (.unsupportedHub 7)⟩],
        table.stored ((FileTree.emptyAt []).put ["out"] .directory) ["out"]) := by
    rw [run_saveEach_cons, hfirst, run_saveEach_cons, hsecond]
    rfl
  have hheld := each_hub_pool_keeps_its_last_table.2 "out" (.emptyAt []) [first, second]
    (fun name content hentry ↦ by cases hentry)
  rw [hrun] at hheld
  have hwritten : written [first, second]
      [.ok (table.path "out"), .error ⟨[.compileRoutes 7], .route (.unsupportedHub 7)⟩] = [table] := by
    simp [written, Request.written?, Request.table, first, hcompiled, Except.toOption]
  obtain ⟨last, hlast, hkept⟩ := hheld.2.1 table (by rw [hwritten]; exact List.mem_singleton_self table)
  obtain rfl : table = last := by
    rw [hwritten] at hlast
    simpa [lastOf?] using hlast
  exact ⟨table, _, _, _, hcompiled, hrun, hkept⟩

end HubRoutes.Route
