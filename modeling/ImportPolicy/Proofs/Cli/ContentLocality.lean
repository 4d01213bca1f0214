import ImportPolicy.Proofs.Cli.Reporting
import ImportPolicy.Proofs.Config.Loading
import ImportPolicy.Proofs.Resolve.Manifests
import ImportPolicy.Proofs.Snapshot.Rewriting

/-! # A check after a file was written anew

Two checks are compared that differ in the content of one file. All they have in common is read
elsewhere: the configuration, the names in the tree, manifests and the ignore file.

* `Cli.World.rewritten` — the world of the later check.
* `Cli.ComesTo`, `Cli.runCommand_of_comesTo` — the snapshot that a check reports.
* `Cli.resolverOf_overwrite`, `Cli.load_rewritten` — what resolvers and configurations depend on.
* `Cli.comesTo_rewritten` — the entries of all other files. -/

namespace ImportPolicy.Cli

variable {w : World} {root place : Location} {written : List UInt8} {later : Moment}
  {file : Option Path} {arguments : List Text} {r : CheckRequest} {s s' : Snapshot}

/-- A world after a file was written, at another time. -/
def World.rewritten (w : World) (place : Location) (written : List UInt8) (later : Moment) :
    World :=
  { w with tree := w.tree.overwrite place written, now := later }

/-- The directory whose configuration a command uses. -/
def projectOf (w : World) (file : Option Path) : Path :=
  file.elim (Location.path w.current) Path.parent

/-- The files that a configuration may come from. -/
def configPaths (w : World) (file : Option Path) : List Path :=
  [Config.userPath w.toSurroundings, file.getD (Config.ownPath (projectOf w file))]

/-- A check loads its configuration, accepts it, and comes to a snapshot. -/
def ComesTo (w : World) (file : Option Path) (r : CheckRequest) (s : Snapshot) : Prop :=
  ∃ config p, Config.load w.toSurroundings (projectOf w file) file = .ok config ∧
    plan config r.commonjs = .ok p ∧ checked w config p r.path = .ok s

/-- This snapshot is what the command reports. -/
theorem runCommand_of_comesTo (asks : Asks w arguments r) (comes : ComesTo w file r s) :
    runCommand w file .check arguments =
      if r.failOnError ∧ hasErrors s then (reported w s r).failed else reported w s r := by
  obtain ⟨config, p, loaded, planned, done⟩ := comes
  rw [projectOf] at loaded
  rw [runCommand]
  simp only [loaded]
  rw [runCheck_of_asks asks, check_of_plan planned, carriedOut, done]

/-! ## Resolvers -/

theorem importerOf_overwrite (t : FileTree) (settings : Settings) (source : SourceFile) :
    importerOf (t.overwrite place written) root settings source =
      (importerOf t root settings source).afterWriting place written := by
  unfold importerOf
  dsimp only
  rw [FileTree.realLocation_overwrite]
  cases t.realLocation [] ((Location.path root).join (.ofText source.path)) <;> rfl

theorem tree_importerOf (t : FileTree) (settings : Settings) (source : SourceFile) :
    (importerOf t root settings source).tree = t := by
  unfold importerOf
  dsimp only
  split <;> rfl

/-- A file has the same resolver as before, whichever file was written. -/
theorem resolverOf_overwrite {t : FileTree} (linkFree : t.LinkFree)
    (noManifest : place.getLast? ≠ some "package.json") (settings : Settings)
    (source : SourceFile) :
    (importerOf (t.overwrite place written) root settings source).resolver =
      (importerOf t root settings source).resolver := by
  rw [importerOf_overwrite]
  refine Importer.resolver_afterWriting written ?_ noManifest
  rw [tree_importerOf]
  exact linkFree

/-! ## Configurations -/

theorem load_rewritten (avoids : ∀ p ∈ configPaths w file, ¬ w.tree.LeadsTo w.current p place) :
    Config.load (w.rewritten place written later).toSurroundings (projectOf w file) file =
      Config.load w.toSurroundings (projectOf w file) file := by
  rw [configPaths, List.forall_mem_cons, List.forall_mem_singleton] at avoids
  obtain ⟨user, own⟩ := avoids
  have userSame : Config.userLayer (w.rewritten place written later).toSurroundings =
      Config.userLayer w.toSurroundings :=
    Config.userLayer_congr (FileTree.content_overwrite user)
  have ownSame :
      Config.projectLayer (w.rewritten place written later).toSurroundings (projectOf w file) file =
        Config.projectLayer w.toSurroundings (projectOf w file) file :=
    Config.projectLayer_congr rfl (FileTree.content_overwrite own)
  rw [Config.load_eq, Config.load_eq, userSame, ownSame]

/-! ## Reports -/

/-- Below a directory of a tree without links, a check after a file was written has the same entries
    for all other files, in the same order, with the same languages, imports and issues. The file
    that was written is no manifest, no ignore file, and no file that the configuration is read
    from. -/
theorem comesTo_rewritten (named : w.tree.Named) (linkFree : w.tree.LinkFree)
    (real : w.tree.realLocation w.current (.ofText r.path) = .ok root)
    (directory : w.tree.find? root = some .directory)
    (noManifest : place.getLast? ≠ some "package.json")
    (noIgnoreFile : place.getLast? ≠ some Scan.ignoreFileName)
    (noConfig : ∀ p ∈ configPaths w file, ¬ w.tree.LeadsTo w.current p place)
    (comes : ComesTo w file r s) (comes' : ComesTo (w.rewritten place written later) file r s') :
    s'.files.filter (fun source => ¬ Sources.IsAt root place source) =
      s.files.filter fun source => ¬ Sources.IsAt root place source := by
  obtain ⟨config, p, loaded, planned, done⟩ := comes
  obtain ⟨config', p', loaded', planned', done'⟩ := comes'
  -- Both checks have one configuration and hence one plan.
  obtain rfl : config = config' :=
    Except.ok.inj (loaded.symm.trans ((load_rewritten noConfig).symm.trans loaded'))
  obtain rfl : p = p' := Except.ok.inj (planned.symm.trans planned')
  obtain ⟨sources, gathered, ran⟩ := (checked_eq_ok_iff r.commonjs).1 done
  obtain ⟨sources', gathered', ran'⟩ := (checked_eq_ok_iff r.commonjs).1 done'
  obtain ⟨rooted, rooted', common⟩ :=
    Sources.gather_overwrite named linkFree directory real noIgnoreFile gathered gathered'
  obtain ⟨-, enabled, -⟩ := plan_eq_ok_iff.1 planned
  -- What is left are two runs over sources that agree elsewhere, with the same resolvers.
  refine filter_run_congr (RuleConfig.rules_isLocal enabled) (fun _ _ => rfl) common ?_ ran ran'
  intro source
  rw [rooted, rooted']
  exact congrArg Except.ok (resolverOf_overwrite linkFree noManifest p.settings source)

/-! ## Two scripts -/

/-- A check of a directory whose scan is known comes to what a run over its sources gives. -/
theorem comesTo_of_scanned {config entries : Mapping} {suffixes : Table Language}
    {places : List Location} {P : Snapshot → Prop}
    (loaded : Config.load w.toSurroundings (projectOf w file) file = .ok config)
    (named : w.tree.Named) (real : w.tree.realLocation w.current (.ofText r.path) = .ok root)
    (directory : w.tree.find? root = some .directory)
    (scanned : Sources.Scanned w.tree root config entries suffixes places)
    (ran : ∃ p, plan config r.commonjs = .ok p ∧
      ∃ files, (Sources.sourcesAt w.tree suffixes root places).mapM Sources.recorded = .ok files ∧
        ∃ s, ImportPolicy.run p.rules ((⟨suffixes, root, files⟩ : Sources).snapshot w.now) p.config
          (runOf w p r.commonjs root).resolverFor = .ok s ∧ P s) :
    ∃ s, ComesTo w file r s ∧ P s := by
  obtain ⟨p, planned, files, read, s, ran, holds⟩ := ran
  have gathered := scanned.gather_eq_ok named directory real read
  exact ⟨s, ⟨config, p, loaded, planned, (checked_eq_ok_iff r.commonjs).2 ⟨_, gathered, ran⟩⟩,
    holds⟩

/-- A project with two scripts. -/
def twoScripts : World where
  tree :=
    { entries := [(["proj"], .directory),
        (["proj", "a.js"], .file (Utf8.encode "import './b.js';\nimport './c';".toList)),
        (["proj", "b.js"], .file (Utf8.encode "export default 1;".toList))]
      root_unlisted := by decide
      parent_directory := by decide
      nodup := by decide }
  current := ["proj"]
  home := "/home"
  now := .ofSeconds 0 0
  colored := false

/-- The same project with another second script. -/
def twoScriptsLater : World :=
  twoScripts.rewritten ["proj", "b.js"] (Utf8.encode "import './a.js';".toList) (.ofSeconds 60 0)

/-- A check of the current directory. -/
def wholeCheck : CheckRequest := ⟨".", .console, none, false, false⟩

theorem scanned_twoScripts : Sources.Scanned twoScripts.tree ["proj"] Config.builtIn
    Config.languages Config.builtInSuffixes [["a.js"], ["b.js"]] where
  languages := rfl
  suffixed := by decide +kernel
  listed := by
    have noIgnoreFile : twoScripts.tree.isFile []
        ((Location.path ["proj"]).join (Path.ofText Scan.ignoreFileName)) = .ok false := by
      decide +kernel
    have reached :
        twoScripts.tree.reach [] (Location.path ["proj"]) = .ok (["proj"], .directory) := by
      decide +kernel
    have sorted : (twoScripts.tree.below ["proj"]).Pairwise fun place other =>
        Scan.noLater place other = true := by decide +kernel
    simp only [Scan.files_of_sorted noIgnoreFile reached sorted]
    decide +kernel

theorem scanned_twoScriptsLater : Sources.Scanned twoScriptsLater.tree ["proj"] Config.builtIn
    Config.languages Config.builtInSuffixes [["a.js"], ["b.js"]] where
  languages := rfl
  suffixed := scanned_twoScripts.suffixed
  listed := by
    obtain ⟨names, ignored, listed⟩ := scanned_twoScripts.listed
    exact ⟨names, ignored, (Scan.files_overwrite _ (by decide +kernel)).trans listed⟩

/-- The first script has one issue in both checks, although the second one has none at first and one
    later. -/
theorem comesTo_rewritten_twoScripts : ∃ s s',
    ComesTo twoScripts none wholeCheck s ∧
    s.files.map (fun source => source.issues.length) = [1, 0] ∧
    ComesTo twoScriptsLater none wholeCheck s' ∧
    s'.files.map (fun source => source.issues.length) = [1, 1] ∧
    (s'.files.filter fun source => ¬ Sources.IsAt ["proj"] ["proj", "b.js"] source) =
      s.files.filter fun source => ¬ Sources.IsAt ["proj"] ["proj", "b.js"] source := by
  have named : twoScripts.tree.Named := by decide
  have linkFree : twoScripts.tree.LinkFree := FileTree.linkFree_of_forall (by simp [twoScripts])
  have real : twoScripts.tree.realLocation twoScripts.current (.ofText wholeCheck.path) =
      .ok ["proj"] := by decide +kernel
  have directory : twoScripts.tree.find? ["proj"] = some .directory := by decide
  have noConfig : ∀ p ∈ configPaths twoScripts none,
      ¬ twoScripts.tree.LeadsTo twoScripts.current p ["proj", "b.js"] := by decide +kernel
  have loaded : Config.load twoScripts.toSurroundings (projectOf twoScripts none) none =
      .ok Config.builtIn :=
    Config.load_eq_ok_iff.2 ⟨[], [], .absent (by decide +kernel), .absent (by decide +kernel),
      by rw [Config.layer_nil, Config.layer_nil]⟩
  obtain ⟨s, comes, counts⟩ : ∃ s, ComesTo twoScripts none wholeCheck s ∧
      s.files.map (fun source => source.issues.length) = [1, 0] :=
    comesTo_of_scanned loaded named real directory scanned_twoScripts (by decide +kernel)
  have named' : twoScriptsLater.tree.Named := by decide
  have real' : twoScriptsLater.tree.realLocation twoScriptsLater.current
      (.ofText wholeCheck.path) = .ok ["proj"] := by decide +kernel
  have directory' : twoScriptsLater.tree.find? ["proj"] = some .directory := by decide
  have loaded' : Config.load twoScriptsLater.toSurroundings (projectOf twoScriptsLater none) none =
      .ok Config.builtIn := (load_rewritten noConfig).trans loaded
  obtain ⟨s', comes', counts'⟩ : ∃ s, ComesTo twoScriptsLater none wholeCheck s ∧
      s.files.map (fun source => source.issues.length) = [1, 1] :=
    comesTo_of_scanned loaded' named' real' directory'
      scanned_twoScriptsLater (by decide +kernel)
  exact ⟨s, s', comes, counts, comes', counts',
    comesTo_rewritten named linkFree real directory (by decide) (by decide) noConfig comes comes'⟩

end ImportPolicy.Cli
