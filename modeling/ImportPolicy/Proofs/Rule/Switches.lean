import ImportPolicy.Cli.Check
import ImportPolicy.Proofs.Rule.Running

/-! # The two switches of a policy

What a run reports with a switch on and with it off. Exempting package mains takes issues away and
changes nothing else; covering calls of `require` adds their issues and changes nothing else.

* `check_ignorePackages`, `run_ignorePackages` — the findings and runs that exempt package mains.
* `siteReports` — the issues about every site of a file, whatever the policy covers.
* `run_commonjs` — the runs that cover calls of `require`. -/

namespace ImportPolicy

open Script (ImportSite)

variable {ε : Type} {p : Policy} {r : Resolver ε} {severity : Severity} {s : Snapshot}
  {file : SourceFile} {config otherConfig : RuleConfig}
  {resolverFor otherResolverFor : SourceFile → Except ε (Resolver ε)}

/-! ## Package mains -/

/-- Whether an issue says that an extension is missing from the name of a package as a whole. -/
def Issue.isMissingFromMain (r : Resolver ε) (i : Issue) : Bool :=
  i.tags.contains (Text.ofString "missing-extension") && i.symbol.any r.isMain

/-- A checked file without the issues about package mains. The resolver is the one that the file had
    when it was checked. -/
def SourceFile.exempting (resolverFor : SourceFile → Except ε (Resolver ε))
    (original checked : SourceFile) : SourceFile :=
  match resolverFor original with
  | .ok r => checked.withIssues (checked.issues.filter fun i => !i.isMissingFromMain r)
  | .error _ => checked

/-- A checked snapshot without the issues about package mains. -/
def Snapshot.exempting (resolverFor : SourceFile → Except ε (Resolver ε))
    (original checked : Snapshot) : Snapshot :=
  checked.withChecked
    (List.zipWith (SourceFile.exempting resolverFor) original.files checked.files)

theorem Policy.requires_ignorePackages (p : Policy) (extension : Text) (isMain : Bool) :
    { p with ignorePackages := true }.requires extension isMain =
      ({ p with ignorePackages := false }.requires extension isMain && !isMain) := by
  have modifier : { p with ignorePackages := true }.modifierFor extension =
      { p with ignorePackages := false }.modifierFor extension := rfl
  rw [requires, requires, modifier]
  cases isMain <;> simp

/-- Exempting package mains drops the finding that one misses an extension, and no other. -/
theorem check_ignorePackages (p : Policy) (r : Resolver ε) (specifier : Text) :
    check { p with ignorePackages := true } r specifier =
      Option.filter (fun d => !(d.kind = .missing && r.isMain specifier)) <$>
        check { p with ignorePackages := false } r specifier := by
  unfold check
  cases r.isBuiltin specifier with
  | true => rfl
  | false =>
    cases r.resolve specifier with
    | error e => rfl
    | ok found =>
      simp only [Bool.false_eq_true, if_false, bind, Except.bind, pure, Except.pure]
      cases spells specifier (extensionOf (subject found specifier)) with
      | true =>
        change (if p.forbids _ then _ else _) = _ <$> if p.forbids _ then _ else _
        cases p.forbids (extensionOf (subject found specifier)) with
        | false => rfl
        | true =>
          cases r.resolve (withoutExtension specifier (extensionOf (subject found specifier))) with
          | error e => rfl
          | ok bare =>
            by_cases same : bare = found <;>
              simp [same, Functor.map, Except.map, Option.filter_some]
      | false =>
        rw [Policy.requires_ignorePackages]
        cases Policy.requires { p with ignorePackages := false }
            (extensionOf (subject found specifier)) (r.isMain specifier) <;>
          cases r.isMain specifier <;> simp [Functor.map, Except.map, Option.filter_some]

theorem isMissingFromMain_issueAbout (r : Resolver ε) (severity : Severity) (file : SourceFile)
    (site : ImportSite) (d : Diagnostic) :
    (issueAbout severity file site d).isMissingFromMain r =
      (d.kind = .missing && r.isMain site.specifier) := by
  have tagged (kind : DiagnosticKind) :
      [("imports" : Text), kind.name ++ "-extension"].contains
        (Text.ofString "missing-extension") = decide (kind = .missing) := by
    cases kind <;> decide
  change (List.contains _ _ && r.isMain site.specifier) = _
  rw [issueAbout, tagged]

theorem siteIssues_ignorePackages (p : Policy) (r : Resolver ε) (severity : Severity)
    (file : SourceFile) (site : ImportSite) :
    siteIssues { p with ignorePackages := true } r severity file site =
      List.filter (fun i => !i.isMissingFromMain r) <$>
        siteIssues { p with ignorePackages := false } r severity file site := by
  rw [siteIssues, siteIssues, check_ignorePackages]
  cases check { p with ignorePackages := false } r site.specifier with
  | error e => rfl
  | ok found =>
    refine congrArg Except.ok ?_
    cases found with
    | none => rfl
    | some d =>
      change (Option.map _ (Option.filter _ (some d))).toList =
        [issueAbout severity file site d].filter _
      rw [Option.filter_some, List.filter_cons, isMissingFromMain_issueAbout]
      cases !(decide (d.kind = .missing) && r.isMain site.specifier) <;> rfl

theorem issuesAbout_ignorePackages (sites : List ImportSite) :
    issuesAbout { p with ignorePackages := true } r severity file sites =
      List.filter (fun i => !i.isMissingFromMain r) <$>
        issuesAbout { p with ignorePackages := false } r severity file sites := by
  have covers : Policy.covers { p with ignorePackages := true } =
      Policy.covers { p with ignorePackages := false } := rfl
  rw [issuesAbout_eq, issuesAbout_eq, covers,
    mapM_congr fun site _ => siteIssues_ignorePackages p r severity file site, mapM_map_eq,
    Functor.map_map, Functor.map_map]
  simp only [List.filter_flatten]

theorem withIssues_ignorePackages (p : Policy) (severity : Severity) (s : Snapshot)
    (config otherConfig : RuleConfig) (resolverFor : SourceFile → Except ε (Resolver ε))
    (file : SourceFile) :
    file.withIssues <$> fileIssues [importExtensions { p with ignorePackages := true } severity]
        s config resolverFor file =
      file.exempting resolverFor <$> (file.withIssues <$>
        fileIssues [importExtensions { p with ignorePackages := false } severity]
          s otherConfig resolverFor file) := by
  rw [fileIssues_importExtensions, fileIssues_importExtensions]
  cases found : resolverFor file with
  | error e => rfl
  | ok r =>
    change file.withIssues <$> issuesAbout _ r severity file file.imports =
      file.exempting resolverFor <$> (file.withIssues <$>
        issuesAbout _ r severity file file.imports)
    rw [issuesAbout_ignorePackages]
    cases issuesAbout { p with ignorePackages := false } r severity file file.imports with
    | error e => rfl
    | ok issues =>
      refine congrArg Except.ok ?_
      rw [SourceFile.exempting, found]
      rfl

/-- Exempting package mains takes the issues about a missing extension of one from every file, and
    counts anew. All other issues stay in their order, none is added, and a run that fails fails in
    the same way. -/
theorem run_ignorePackages (p : Policy) (severity : Severity) (s : Snapshot)
    (config otherConfig : RuleConfig) (resolverFor : SourceFile → Except ε (Resolver ε)) :
    run [importExtensions { p with ignorePackages := true } severity] s config resolverFor =
      s.exempting resolverFor <$>
        run [importExtensions { p with ignorePackages := false } severity] s otherConfig
          resolverFor := by
  rw [run_eq importExtensions_isLocal, run_eq importExtensions_isLocal,
    mapM_eq_zipWith fun file _ =>
      withIssues_ignorePackages p severity s config otherConfig resolverFor file,
    Functor.map_map, Functor.map_map]
  rfl

/-! ## Calls of require -/

/-- A file without its calls of `require`. -/
def SourceFile.withoutRequires (file : SourceFile) : SourceFile :=
  { file with imports := file.imports.filter fun site => site.kind ≠ .requiring }

/-- A file with every import site written as an import. -/
def SourceFile.asImports (file : SourceFile) : SourceFile :=
  { file with imports := file.imports.map fun site => { site with kind := .importing } }

/-- A snapshot with every file changed. -/
def Snapshot.mapFiles (s : Snapshot) (change : SourceFile → SourceFile) : Snapshot :=
  { s with files := s.files.map change }

/-- The import sites of a file, calls of `require` included, each with the issues about it. -/
def siteReports (p : Policy) (severity : Severity)
    (resolverFor : SourceFile → Except ε (Resolver ε)) (file : SourceFile) :
    Except ε (List (ImportSite × List Issue)) :=
  resolverFor file >>= fun r =>
    file.imports.mapM fun site => (site, ·) <$> siteIssues p r severity file site

/-- With the issues about every site of every file given, one snapshot has all of them and another
    has those about sites that are no calls of `require`, both in the order of the sites. -/
structure AddsRequires (reports : List (List (ImportSite × List Issue)))
    (without including : Snapshot) : Prop where
  including_issues : including.files.map SourceFile.issues = reports.map (List.flatMap Prod.snd)
  without_issues : without.files.map SourceFile.issues = reports.map fun sites =>
    (sites.filter fun report => decide (report.1.kind ≠ .requiring)).flatMap Prod.snd

theorem filter_covers_commonjs (p : Policy) (sites : List ImportSite) :
    sites.filter (Policy.covers { p with commonjs := true }) = sites := by
  simp [Policy.covers]

theorem covers_commonjs_false (p : Policy) :
    Policy.covers { p with commonjs := false } = fun site => decide (site.kind ≠ .requiring) := by
  funext site
  simp [Policy.covers]

/-- Runs report the same about two snapshots if the rules report the same about every two files. -/
theorem findings_run_mapFiles {rules otherRules : List (Rule ε)} {change : SourceFile → SourceFile}
    (isLocal : ∀ rule ∈ rules, Rule.IsLocal rule)
    (otherIsLocal : ∀ rule ∈ otherRules, Rule.IsLocal rule)
    (same : ∀ file ∈ s.files,
      fileIssues rules s config resolverFor file =
        fileIssues otherRules (s.mapFiles change) otherConfig otherResolverFor (change file)) :
    Snapshot.findings <$> run rules s config resolverFor =
      Snapshot.findings <$> run otherRules (s.mapFiles change) otherConfig otherResolverFor := by
  rw [findings_run isLocal, findings_run otherIsLocal, Snapshot.mapFiles, List.mapM_map,
    mapM_congr same]
  rfl

/-- Without calls of `require` in a file, nothing is reported about them. -/
theorem fileIssues_withoutRequires (t : Snapshot)
    (same : otherResolverFor file.withoutRequires = resolverFor file) :
    fileIssues [importExtensions { p with commonjs := false } severity] s config resolverFor file =
      fileIssues [importExtensions { p with commonjs := true } severity] t otherConfig
        otherResolverFor file.withoutRequires := by
  rw [fileIssues_importExtensions, fileIssues_importExtensions, same]
  refine bind_congr fun r => ?_
  rw [issuesAbout_eq, issuesAbout_eq, filter_covers_commonjs, covers_commonjs_false]
  rfl

/-- A policy that covers calls of `require` makes no difference between the kinds of sites. -/
theorem fileIssues_asImports (t : Snapshot)
    (same : otherResolverFor file.asImports = resolverFor file) :
    fileIssues [importExtensions { p with commonjs := true } severity] s config resolverFor file =
      fileIssues [importExtensions { p with commonjs := true } severity] t otherConfig
        otherResolverFor file.asImports := by
  rw [fileIssues_importExtensions, fileIssues_importExtensions, same]
  refine bind_congr fun r => ?_
  rw [issuesAbout_eq, issuesAbout_eq, filter_covers_commonjs, filter_covers_commonjs,
    SourceFile.asImports, List.mapM_map]
  rfl

theorem fileIssues_eq_siteReports :
    fileIssues [importExtensions { p with commonjs := true } severity] s config resolverFor file =
      List.flatMap Prod.snd <$> siteReports p severity resolverFor file := by
  rw [fileIssues_importExtensions, siteReports, map_bind]
  refine bind_congr fun r => ?_
  have seconds : file.imports.mapM (siteIssues p r severity file) = List.map Prod.snd <$>
      file.imports.mapM fun site => (site, ·) <$> siteIssues p r severity file site := by
    rw [← mapM_map_eq]
    apply mapM_congr
    intro site _
    cases siteIssues p r severity file site <;> rfl
  rw [issuesAbout_eq, filter_covers_commonjs]
  change List.flatten <$> file.imports.mapM (siteIssues p r severity file) = _
  rw [seconds, Functor.map_map]
  rfl

theorem fileIssues_of_siteReports {reports : List (ImportSite × List Issue)}
    (h : siteReports p severity resolverFor file = .ok reports) :
    fileIssues [importExtensions { p with commonjs := false } severity] s config resolverFor file =
      .ok ((reports.filter fun report => decide (report.1.kind ≠ .requiring)).flatMap Prod.snd) := by
  rw [fileIssues_importExtensions]
  rw [siteReports] at h
  obtain ⟨r, found, h⟩ := bind_eq_ok h
  rw [found]
  change issuesAbout _ r severity file file.imports = _
  rw [issuesAbout_eq, covers_commonjs_false]
  change List.flatten <$> (file.imports.filter _).mapM (siteIssues p r severity file) = _
  rw [mapM_filter_of_pairs h, List.flatMap_def]
  rfl

theorem forced_commonjs {option force : Bool} (switched : (option || force) = true) :
    ({ p with commonjs := option } : Policy).forced force = { p with commonjs := true } := by
  cases force with
  | true => rfl
  | false =>
    obtain rfl : option = true := by simpa using switched
    rfl

/-- A run without the switch reports what a run with it, set by option or forced, reports about the
    project without calls of `require`. A run with the switch reports what it reports about the project
    with every site written as an import; where it ends, so does the run without it, which leaves out
    the issues about calls of `require` and no others. A file gets the same resolver in the runs that
    are compared, since a resolver is bound to a file and not to what the file imports. -/
theorem run_commonjs {option force : Bool} (switched : (option || force) = true)
    (sameResolvers : ∀ file ∈ s.files,
      otherResolverFor file.withoutRequires = resolverFor file ∧
        otherResolverFor file.asImports = resolverFor file) :
    Snapshot.findings <$>
        run [importExtensions { p with commonjs := false } severity] s config resolverFor =
      Snapshot.findings <$>
        run [importExtensions (({ p with commonjs := option } : Policy).forced force) severity]
          (s.mapFiles SourceFile.withoutRequires) otherConfig otherResolverFor ∧
    Snapshot.findings <$>
        run [importExtensions (({ p with commonjs := option } : Policy).forced force) severity]
          s config resolverFor =
      Snapshot.findings <$>
        run [importExtensions (({ p with commonjs := option } : Policy).forced force) severity]
          (s.mapFiles SourceFile.asImports) otherConfig otherResolverFor ∧
    ∀ including,
      run [importExtensions (({ p with commonjs := option } : Policy).forced force) severity]
          s config resolverFor = .ok including →
      ∃ without reports,
        run [importExtensions { p with commonjs := false } severity] s otherConfig resolverFor =
          .ok without ∧
        s.files.mapM (siteReports p severity resolverFor) = .ok reports ∧
        AddsRequires reports without including := by
  rw [forced_commonjs switched]
  refine ⟨?_, ?_, fun including ended => ?_⟩
  · apply findings_run_mapFiles importExtensions_isLocal importExtensions_isLocal
    exact fun file member => fileIssues_withoutRequires _ (sameResolvers file member).1
  · apply findings_run_mapFiles importExtensions_isLocal importExtensions_isLocal
    exact fun file member => fileIssues_asImports _ (sameResolvers file member).2
  · have issues := (run_ends_iff importExtensions_isLocal).1 ⟨including, ended, rfl⟩
    rw [mapM_congr fun file _ => fileIssues_eq_siteReports, mapM_map_eq] at issues
    cases found : s.files.mapM (siteReports p severity resolverFor) with
    | error e =>
      rw [found] at issues
      cases issues
    | ok reports =>
      rw [found] at issues
      obtain ⟨without, switchedOff, remaining⟩ := (run_ends_iff importExtensions_isLocal).2
        (mapM_eq_ok_map found fun file sites => fileIssues_of_siteReports)
      exact ⟨without, reports, switchedOff, rfl, (Except.ok.inj issues).symm, remaining⟩

/-- The view of the world from a file is such a resolver. -/
example (t : FileTree) (root : Location) (settings : Settings) (file : SourceFile) :
    Cli.importerOf t root settings file.withoutRequires = Cli.importerOf t root settings file ∧
      Cli.importerOf t root settings file.asImports = Cli.importerOf t root settings file :=
  ⟨rfl, rfl⟩

/-- A file with sites of all kinds, none of which stands for anything. -/
def mixedSites : Snapshot where
  scan := ⟨⟨⟨2024, 1, 2⟩, 0, 0, 0, 0, none⟩, "project", "/project", 1, "0.1.0"⟩
  files :=
    [⟨"src/a.js", "javascript",
      [⟨"./b.js", .importing, 1, 8⟩, ⟨"./c.js", .requiring, 2, 11⟩, ⟨"./d.js", .exporting, 3, 15⟩],
      []⟩]
  summary := none

/-- The resolver of a file that has nothing around it. -/
def emptyAround (_ : SourceFile) : Except Empty (Resolver Empty) := .ok (.ofTables [] [] [] [])

theorem run_commonjs_mixedSites :
    Snapshot.findings <$> run [importExtensions {} .error] mixedSites {} emptyAround =
      Snapshot.findings <$> run [importExtensions (Policy.forced {} true) .error]
        (mixedSites.mapFiles SourceFile.withoutRequires) {} emptyAround ∧
    ∃ including without reports,
      run [importExtensions (Policy.forced {} true) .error] mixedSites {} emptyAround =
        .ok including ∧
      run [importExtensions {} .error] mixedSites {} emptyAround = .ok without ∧
      AddsRequires reports without including := by
  have compared := @run_commonjs Empty {} .error mixedSites {} {} emptyAround emptyAround false true
    rfl (fun _ _ => ⟨rfl, rfl⟩)
  obtain ⟨without, reports, switchedOff, -, adds⟩ := compared.2.2 _ rfl
  exact ⟨compared.1, _, without, reports, rfl, switchedOff, adds⟩

end ImportPolicy
