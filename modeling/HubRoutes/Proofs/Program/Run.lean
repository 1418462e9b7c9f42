import HubRoutes.FileTree.Listing
import HubRoutes.Program
import HubRoutes.Proofs.Declaration.Filing
import HubRoutes.Proofs.Program.Request
import HubRoutes.Proofs.Route.Saving

/-!
# A run is all or nothing

A run goes through stages: the settings, the two documents, the compilation and the writing of the table. All but
the last only look at the files. So a run either publishes the file of one table and says so with its exit code, or
leaves no file behind that was not there before. How much is logged is not its concern.
-/

namespace HubRoutes.Program

open CommandLine (AsksFor)
open FileTree (Place)
open Route (Table run_bind)
open Settings (Environment withoutLog)

variable {environment : Environment} {hub : Option ChainId} {tree after : FileTree} {settings : Settings}
  {table : Table}

/-! ## The stages before the writing -/

/-- The stages before the writing succeed. The settings are those of the environment, but that the hub chain which is
asked for stands in the place of theirs; the table is compiled from the two documents which they name. -/
structure Prepares (environment : Environment) (hub : Option ChainId) (tree : FileTree) (settings : Settings)
    (table : Table) : Prop where
  configured : ∃ base, Settings.ofEnvironment environment = .ok base ∧
    settings = { base with hub := hub.getD base.hub }
  compiled : ∃ document registry,
    ((Document.load FileTree.system settings.routeSpec).run tree).1 = .ok document ∧
    ((Token.Registry.load FileTree.system settings.tokenRegistry).run tree).1 = .ok registry ∧
    Route.compile document registry.address? settings.hub = .ok table

/-- What the stages before the writing yield, or the failure of the first one that fails. -/
def prepare (environment : Environment) (hub : Option ChainId) (tree : FileTree) :
    Except Failure (Settings × Table) := do
  let settings ← ((Settings.ofEnvironment environment).map fun base ↦ { base with hub := hub.getD base.hub }).mapError
    fun fault ↦ ⟨[.readSettings], .settings fault⟩
  let document ← ((Document.load FileTree.system settings.routeSpec).run tree).1
  let registry ← ((Token.Registry.load FileTree.system settings.tokenRegistry).run tree).1
  let table ← (Route.compile document registry.address? settings.hub).mapError
    fun fault ↦ ⟨[.compileRoutes settings.hub], .route fault⟩
  return (settings, table)

/-- The stages succeed exactly with the settings and the table that are prepared. -/
theorem prepare_eq_ok_iff :
    prepare environment hub tree = .ok (settings, table) ↔ Prepares environment hub tree settings table := by
  simp only [prepare, bind_eq_ok_iff, mapError_eq_ok_iff, map_eq_ok_iff, pure_eq_ok_iff, Prod.mk.injEq]
  constructor
  · rintro ⟨_, hsettings, document, hdocument, registry, hregistry, _, htable, rfl, rfl⟩
    exact ⟨hsettings, document, registry, hdocument, hregistry, htable⟩
  · rintro ⟨hsettings, document, registry, hdocument, hregistry, htable⟩
    exact ⟨_, hsettings, document, hdocument, registry, hregistry, _, htable, rfl, rfl⟩

/-- An environment, a request and a tree prepare at most one table. -/
theorem Prepares.unique {settings' : Settings} {table' : Table}
    (hprepares : Prepares environment hub tree settings table)
    (hprepares' : Prepares environment hub tree settings' table') : settings' = settings ∧ table' = table := by
  have hsame := (prepare_eq_ok_iff.2 hprepares').symm.trans (prepare_eq_ok_iff.2 hprepares)
  exact Prod.mk.inj (Except.ok.inj hsame)

theorem run_document_load (path : String) (tree : FileTree) :
    (Document.load FileTree.system path).run tree =
      (((Document.load FileTree.system path).run tree).1, tree) := by
  rw [Document.run_load]

theorem run_registry_load (path : String) (tree : FileTree) :
    (Token.Registry.load FileTree.system path).run tree =
      (((Token.Registry.load FileTree.system path).run tree).1, tree) := by
  have hread : (FileTree.system.readText path).run tree = (tree.readText path, tree) := rfl
  rw [Token.Registry.load, run_bind, hread]
  dsimp only
  cases tree.readText path <;> rfl

/-- The stages before the writing leave the tree alone. -/
theorem run_compileFor (environment : Environment) (hub : Option ChainId) (tree : FileTree) :
    (compileFor FileTree.system environment hub).run tree =
      match prepare environment hub tree with
      | .error failure => (.error failure, tree)
      | .ok (settings, table) => (table.save FileTree.system settings.outputDirectory).run tree := by
  rw [compileFor, prepare]
  cases Settings.ofEnvironment environment with
  | error fault => rfl
  | ok base =>
    have hsettings : ((Except.ok base).map fun base ↦ { base with hub := hub.getD base.hub }).mapError
        (fun fault : Settings.Fault ↦ Failure.mk [.readSettings] (.settings fault)) =
          .ok (base.withHub hub) := by
      rw [Settings.withHub_eq]
      rfl
    rw [hsettings, ok_bind]
    dsimp only
    generalize base.withHub hub = settings
    rw [compile, run_bind, run_document_load]
    dsimp only
    cases ((Document.load FileTree.system settings.routeSpec).run tree).1 with
    | error failure => rfl
    | ok document =>
      dsimp only
      rw [ok_bind, run_bind, run_registry_load]
      dsimp only
      cases ((Token.Registry.load FileTree.system settings.tokenRegistry).run tree).1 with
      | error failure => rfl
      | ok registry =>
        dsimp only
        rw [ok_bind, Route.compileAndSave]
        cases Route.compile document registry.address? settings.hub <;> rfl

/-! ## What a run leaves behind -/

/-- The file of a table is the only one that was added or changed, and only the temporary file of the table may be
gone. -/
structure Publishes (table : Table) (directory : String) (tree after : FileTree) : Prop where
  text : after.readText (FileTree.joinText directory table.fileName) = .ok table.render
  places : ∃ outer, after.reached directory = .ok outer ∧
    after.get? (table.fileName :: outer) = some (.file table.render.toUTF8) ∧
    (∀ place content, place ≠ table.fileName :: outer →
      after.get? place = some (.file content) → tree.get? place = some (.file content)) ∧
    ∀ place content, place ≠ table.fileName :: outer → place ≠ table.temporaryName :: outer →
      tree.get? place = some (.file content) → after.get? place = some (.file content)

/-- Every file was there before with the same content, and none is gone unless it is the temporary file of the
table that could not be published. -/
structure Withholds (environment : Environment) (hub : Option ChainId) (tree after : FileTree) : Prop where
  noFileAdded : ∀ place content,
    after.get? place = some (.file content) → tree.get? place = some (.file content)
  filesKept : ∀ place content, tree.get? place = some (.file content) →
    after.get? place = some (.file content) ∨
      ∃ settings table outer, Prepares environment hub tree settings table ∧
        after.reached settings.outputDirectory = .ok outer ∧ place = table.temporaryName :: outer

/-- What a successful writing leaves behind is a published table. -/
theorem publishes_of_stored {path : String} {outer : Place} {directory : String}
    (hstored : Route.Stored table directory tree path after outer) :
    Publishes table directory tree after := by
  refine ⟨hstored.path_eq ▸ hstored.text, outer, hstored.reached, hstored.file, ?_, ?_⟩
  · intro place content hplace hfile
    have htemporary : place ≠ table.temporaryName :: outer := by
      rintro rfl
      rw [hstored.temporary] at hfile
      cases hfile
    obtain hsame | ⟨-, hdirectory, -⟩ := hstored.others place hplace htemporary
    · rw [← hsame, hfile]
    · rw [hfile] at hdirectory
      cases hdirectory
  · intro place content hplace htemporary hfile
    obtain hsame | ⟨hnone, -⟩ := hstored.others place hplace htemporary
    · rw [hsame, hfile]
    · rw [hfile] at hnone
      cases hnone

/-- What a failed writing leaves behind is no table. -/
theorem withholds_of_leftAsBefore {failure : Failure} (hprepares : Prepares environment hub tree settings table)
    (hleft : Route.LeftAsBefore table settings.outputDirectory tree failure after) :
    Withholds environment hub tree after := by
  refine ⟨hleft.noFileAdded, fun place content hfile ↦ ?_⟩
  obtain hkept | ⟨-, outer, hreached, hplace⟩ := hleft.filesKept place content hfile
  · exact .inl hkept
  · exact .inr ⟨settings, table, outer, hprepares, hreached, hplace⟩

/-- The ends of a run that is asked for a table. -/
inductive Ends (environment : Environment) (hub : Option ChainId) (tree : FileTree) :
    Except Failure String × FileTree → Prop
  | unprepared {failure : Failure} (hprepare : prepare environment hub tree = .error failure) :
    Ends environment hub tree (.error failure, tree)
  | unwritten {settings : Settings} {table : Table} {failure : Failure} {after : FileTree}
    (hprepares : Prepares environment hub tree settings table)
    (hsave : (table.save FileTree.system settings.outputDirectory).run tree = (.error failure, after))
    (hleft : Route.LeftAsBefore table settings.outputDirectory tree failure after) :
    Ends environment hub tree (.error failure, after)
  | published {settings : Settings} {table : Table} {path : String} {after : FileTree} {outer : Place}
    (hprepares : Prepares environment hub tree settings table)
    (hsave : (table.save FileTree.system settings.outputDirectory).run tree = (.ok path, after))
    (hstored : Route.Stored table settings.outputDirectory tree path after outer) :
    Ends environment hub tree (.ok path, after)

/-- A run fails before anything is written, fails in the writing, or publishes its table. -/
theorem ends_compileFor (environment : Environment) (hub : Option ChainId) (tree : FileTree) :
    Ends environment hub tree ((compileFor FileTree.system environment hub).run tree) := by
  rw [run_compileFor]
  cases hprepare : prepare environment hub tree with
  | error failure => exact .unprepared hprepare
  | ok prepared =>
    obtain ⟨settings, table⟩ := prepared
    have hprepares := prepare_eq_ok_iff.1 hprepare
    have hends := Route.ends_save table settings.outputDirectory tree
    dsimp only
    cases hsave : (table.save FileTree.system settings.outputDirectory).run tree with
    | mk result after =>
      rw [hsave] at hends
      cases hends with
      | unwritten failure hfailure =>
        exact .unwritten hprepares hsave (Route.leftAsBefore_of_made hfailure)
      | withdrawn fault hmade htemporary =>
        exact .unwritten hprepares hsave (Route.leftAsBefore_of_withdrawn hmade htemporary)
      | stored hmade htemporary hfile =>
        exact .published hprepares hsave (Route.stored_of_admits hmade htemporary hfile)

/-! ## A tree that a table is published in -/

/-- A text with one hub, on a chain that no default names. -/
def hubTenText : String := "
  10:
   hubPoolChain: 10
   hubPoolAddress: &pool a1a1a1a1a1a1a1a1a1a1a1a1a1a1a1a1a1a1a1a1
   acrossConfigStoreAddress: *pool
   acceleratingDistributorAddress: *pool
   merkleDistributorAddress: *pool
   claimAndStakeAddress: *pool
   routes: []"

def twoTokenText : String := "
  WETH:
   addresses:
    10: a1a1a1a1a1a1a1a1a1a1a1a1a1a1a1a1a1a1a1a1
  ACX:
   addresses:
    10: a2a2a2a2a2a2a2a2a2a2a2a2a2a2a2a2a2a2a2a2"

def hubTenDocument : Document := ⟨Document.fileLast ∅ [{ Document.bareHub with chain := 10 }], by decide⟩

/-- A tree with the document and the registry where they are looked for. -/
def oneHubTree : FileTree :=
  (((FileTree.emptyAt []).put ["config"] .directory).put ["routes.yaml", "config"]
    (.file hubTenText.toUTF8)).put ["tokens.yaml", "config"] (.file twoTokenText.toUTF8)

/-- An environment with an output directory that is missing in that tree, and with a hub chain that its document does
not have. -/
def hubSevenEnvironment : Environment := [("ROUTEGEN_OUTPUT_DIR", "out"), ("ROUTEGEN_HUB_CHAIN_ID", "7")]

theorem load_of_readFile {path text : String} {document : Document}
    (hfile : tree.readFile path = .ok text.toUTF8) (hdocument : Document.ofText text = .ok document) :
    ((Document.load FileTree.system path).run tree).1 = .ok document := by
  rw [Document.run_load, Route.readText_of_readFile hfile]
  dsimp only
  rw [hdocument]
  rfl

theorem registry_load_of_readFile {path text : String} {registry : Token.Registry}
    (hfile : tree.readFile path = .ok text.toUTF8) (hregistry : Token.Registry.ofText text = .ok registry) :
    ((Token.Registry.load FileTree.system path).run tree).1 = .ok registry := by
  have hread : (FileTree.system.readText path).run tree = (.ok text, tree) := by
    change (tree.readText path, tree) = _
    rw [Route.readText_of_readFile hfile]
  rw [Token.Registry.load, run_bind, hread]
  dsimp only
  rw [hregistry]
  rfl

-- The literals are long lists of characters for the unifier.
set_option maxRecDepth 4000 in
theorem lists_hubTenText : Document.Lists hubTenText [{ Document.bareHub with chain := 10 }] :=
  Document.lists_of_eval String.toList_ofList (by decide +kernel)

set_option maxRecDepth 4000 in
theorem ofText_twoTokenText :
    Token.Registry.ofText twoTokenText = .ok ⟨OrderedMap.ofList
      [("WETH", OrderedMap.ofList [(10, .replicate 0xa1)]),
        ("ACX", OrderedMap.ofList [(10, .replicate 0xa2)])]⟩ := by
  have htext : twoTokenText.toList = _ := String.toList_ofList
  rw [Token.Registry.ofText, readYaml, htext]
  decide +kernel

/-- The document is loaded from that tree. -/
theorem load_oneHubTree :
    ((Document.load FileTree.system "config/routes.yaml").run oneHubTree).1 = .ok hubTenDocument := by
  have hdocument : Document.ofText hubTenText = .ok hubTenDocument := by
    rw [Document.ofText_of_lists lists_hubTenText]
    rfl
  exact load_of_readFile rfl hdocument

theorem ofEnvironment_hubSevenEnvironment :
    Settings.ofEnvironment hubSevenEnvironment = .ok ⟨"config/routes.yaml", "config/tokens.yaml", "out", 7⟩ := by
  decide +kernel

/-- The hub chain of the argument counts, not the one of the environment. -/
theorem prepares_oneHubTree :
    ∃ table, table.hub = 10 ∧ Prepares hubSevenEnvironment (some 10) oneHubTree
      ⟨"config/routes.yaml", "config/tokens.yaml", "out", 10⟩ table :=
  ⟨_, rfl, ⟨_, ofEnvironment_hubSevenEnvironment, rfl⟩, _, _, load_oneHubTree,
    registry_load_of_readFile rfl ofText_twoTokenText, rfl⟩

/-- Without an argument nothing is compiled, as the document has no hub on the chain of the environment. -/
theorem not_prepares_oneHubTree (settings : Settings) (table : Table) :
    ¬Prepares hubSevenEnvironment none oneHubTree settings table := by
  rintro ⟨⟨base, hbase, rfl⟩, document, registry, hdocument, -, hcompiled⟩
  obtain rfl := Except.ok.inj (ofEnvironment_hubSevenEnvironment.symm.trans hbase)
  obtain rfl := Except.ok.inj (load_oneHubTree.symm.trans hdocument)
  cases hcompiled

/-- Any table may be written in that tree, whose output directory is made first. -/
theorem exists_save_oneHubTree (table : Table) :
    ∃ path written, (table.save FileTree.system "out").run oneHubTree = (.ok path, written) := by
  have hmade : oneHubTree.makeDirectories "out" = (.ok (), oneHubTree.put ["out"] .directory) := rfl
  have hfree (name : String) : (oneHubTree.put ["out"] .directory).isDirectoryAt [name, "out"] = false := by
    have hnone : (oneHubTree.put ["out"] .directory).get? [name, "out"] = none := by
      simp only [oneHubTree, FileTree.get?_put]
      simp
      rfl
    rw [FileTree.isDirectoryAt, hnone]
    rfl
  obtain ⟨htemporary, hfile⟩ : _ ∧ FileTree.Admits _ "out" table.fileName ["out"] :=
    Route.admits_of_reached (by decide) (by decide) rfl rfl fun name _ ↦ hfree name
  exact ⟨_, _, Route.run_save_of_admits hmade htemporary hfile⟩

/-! ## The outcome of a run -/

/-- What a run that is asked for a table says in the end. -/
def outcomeOf : Except Failure String → Outcome
  | .error failure => ⟨1, "", failure.message ++ "\n"⟩
  | .ok _ => ⟨0, "", ""⟩

/-- A run that is asked for a table ends as the compilation and the writing do. -/
theorem run_of_asksFor {arguments : List String} (hasks : AsksFor arguments hub) (environment : Environment)
    (tree : FileTree) :
    (run FileTree.system environment arguments).run tree =
      (outcomeOf ((compileFor FileTree.system environment hub).run tree).1,
        ((compileFor FileTree.system environment hub).run tree).2) := by
  rw [run, CommandLine.read_of_asksFor hasks]
  dsimp only
  rw [run_bind]
  generalize (compileFor FileTree.system environment hub).run tree = finish
  obtain ⟨result, after⟩ := finish
  cases result <;> rfl

/-- Two environments that differ in how much is logged compile the same. -/
theorem compileFor_eq_of_withoutLog {environment' : Environment}
    (hsame : withoutLog environment' = withoutLog environment) :
    compileFor FileTree.system environment' hub = compileFor FileTree.system environment hub := by
  rw [compileFor, compileFor, ← Settings.ofEnvironment_withoutLog environment', hsame,
    Settings.ofEnvironment_withoutLog]

/-- What is promised of a run, given how it ends. It ends with the exit code 0 exactly if all stages succeed, and
then it has published the file of the table. Otherwise it ends with the exit code 1 and has published nothing.
Whatever is said about how much is logged, it ends with the same exit code and leaves the same tree behind. -/
structure IsAllOrNothing (environment : Environment) (arguments : List String) (hub : Option ChainId)
    (tree : FileTree) (finish : Outcome × FileTree) : Prop where
  exitCode_eq_zero_iff : finish.1.exitCode = 0 ↔ ∃ settings table path written,
    Prepares environment hub tree settings table ∧
      (table.save FileTree.system settings.outputDirectory).run tree = (.ok path, written)
  published : finish.1.exitCode = 0 → ∃ settings table, Prepares environment hub tree settings table ∧
    Publishes table settings.outputDirectory tree finish.2
  withheld : finish.1.exitCode ≠ 0 → finish.1.exitCode = 1 ∧ Withholds environment hub tree finish.2
  regardlessOfLog : ∀ environment', withoutLog environment' = withoutLog environment →
    ∃ outcome, (run FileTree.system environment' arguments).run tree = (outcome, finish.2) ∧
      outcome.exitCode = finish.1.exitCode

/-- A run that is asked for a table is all or nothing, whatever the environment and the files are. -/
theorem run_isAllOrNothing (environment : Environment) (arguments : List String) (hub : Option ChainId)
    (tree : FileTree) (hasks : AsksFor arguments hub) :
    IsAllOrNothing environment arguments hub tree
      ((run FileTree.system environment arguments).run tree) := by
  have hlog : ∀ environment', withoutLog environment' = withoutLog environment →
      (run FileTree.system environment' arguments).run tree =
        (run FileTree.system environment arguments).run tree := by
    intro environment' hsame
    rw [run_of_asksFor hasks, run_of_asksFor hasks, compileFor_eq_of_withoutLog hsame]
  have hends := ends_compileFor environment hub tree
  rw [run_of_asksFor hasks environment tree] at hlog ⊢
  generalize (compileFor FileTree.system environment hub).run tree = finish at hends hlog ⊢
  cases hends with
  | unprepared hprepare =>
    refine ⟨⟨nofun, ?_⟩, nofun, fun _ ↦ ⟨rfl, fun _ _ hfile ↦ hfile, fun _ _ hfile ↦ .inl hfile⟩,
      fun environment' hsame ↦ ⟨_, hlog environment' hsame, rfl⟩⟩
    rintro ⟨settings, table, path, written, hprepares, -⟩
    rw [prepare_eq_ok_iff.2 hprepares] at hprepare
    cases hprepare
  | unwritten hprepares hsave hleft =>
    refine ⟨⟨nofun, ?_⟩, nofun, fun _ ↦ ⟨rfl, withholds_of_leftAsBefore hprepares hleft⟩,
      fun environment' hsame ↦ ⟨_, hlog environment' hsame, rfl⟩⟩
    rintro ⟨settings', table', path, written, hprepares', hsaved⟩
    obtain ⟨rfl, rfl⟩ := hprepares.unique hprepares'
    rw [hsave] at hsaved
    cases hsaved
  | published hprepares hsave hstored =>
    exact ⟨⟨fun _ ↦ ⟨_, _, _, _, hprepares, hsave⟩, fun _ ↦ rfl⟩,
      fun _ ↦ ⟨_, _, hprepares, publishes_of_stored hstored⟩, fun hfailed ↦ absurd rfl hfailed,
      fun environment' hsame ↦ ⟨_, hlog environment' hsame, rfl⟩⟩

/-- The hub chain of the argument is compiled and published although the environment names another one;
without the argument that other one is missing, and nothing is written. -/
theorem run_isAllOrNothing_oneHubTree :
    (((run FileTree.system hubSevenEnvironment ["10"]).run oneHubTree).1.exitCode = 0 ∧
      (∃ table, table.hub = 10 ∧
        Publishes table "out" oneHubTree ((run FileTree.system hubSevenEnvironment ["10"]).run oneHubTree).2) ∧
      ∃ outcome, (run FileTree.system (hubSevenEnvironment ++ [("RUST_LOG", "trace")]) ["10"]).run oneHubTree =
        (outcome, ((run FileTree.system hubSevenEnvironment ["10"]).run oneHubTree).2) ∧ outcome.exitCode = 0) ∧
    ((run FileTree.system hubSevenEnvironment []).run oneHubTree).1.exitCode = 1 ∧
      Withholds hubSevenEnvironment none oneHubTree
        ((run FileTree.system hubSevenEnvironment []).run oneHubTree).2 := by
  obtain ⟨table, htable, hprepares⟩ := prepares_oneHubTree
  obtain ⟨path, written, hsave⟩ := exists_save_oneHubTree table
  have hasked :=
    run_isAllOrNothing hubSevenEnvironment ["10"] (some 10) oneHubTree (.chain (.inl rfl) (by decide))
  have hcode := hasked.exitCode_eq_zero_iff.2 ⟨_, table, path, written, hprepares, hsave⟩
  obtain ⟨settings, table', hprepares', hpublished⟩ := hasked.published hcode
  obtain ⟨rfl, rfl⟩ := hprepares.unique hprepares'
  obtain ⟨outcome, hrun, hcode'⟩ :=
    hasked.regardlessOfLog (hubSevenEnvironment ++ [("RUST_LOG", "trace")]) (by decide)
  have hunasked := run_isAllOrNothing hubSevenEnvironment [] none oneHubTree .anything
  have hfailed : ((run FileTree.system hubSevenEnvironment []).run oneHubTree).1.exitCode ≠ 0 := by
    intro hzero
    obtain ⟨settings, table, -, -, hprepares, -⟩ := hunasked.exitCode_eq_zero_iff.1 hzero
    exact not_prepares_oneHubTree settings table hprepares
  exact ⟨⟨hcode, ⟨table', htable, hpublished⟩, outcome, hrun, hcode'.trans hcode⟩, hunasked.withheld hfailed⟩

end HubRoutes.Program
