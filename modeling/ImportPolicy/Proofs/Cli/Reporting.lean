import ImportPolicy.Proofs.Cli.Planning
import ImportPolicy.Proofs.Rule.Sessions

/-! # What a check reports

The exit code is taken from the counts, the console lists the issues of the files and prints the
counts. All of them say the same about the snapshot that was checked.

* `Cli.runOf`, `Cli.checked_eq_ok_iff` — a check as a run over the sources.
* `Cli.listing`, `Cli.FollowsImports` — the issues that are listed, and their order.
* `Cli.reportLines`, `Cli.lines_eq` — a report in terms of what is listed.
* `Cli.hasErrors_iff` — the errors that the exit code depends on.
* `Cli.runCheck_reports` — the exit code and the report of a check. -/

namespace ImportPolicy.Cli

variable {w : World} {config : Mapping} {arguments : List Text} {r : CheckRequest} {p : CheckPlan}
  {s : Snapshot} {path : Text}

/-! ## Runs -/

/-- The run that a check makes over the sources below a root. -/
def runOf (w : World) (p : CheckPlan) (commonjs : Bool) (root : Location) :
    RunRequest LookupError where
  config := p.config
  force := commonjs
  resolverFor file := .ok (importerOf w.tree root p.settings file).resolver
  resolver_bound _ _ := rfl

theorem checked_eq_ok_iff (commonjs : Bool) : checked w config p path = .ok s ↔ ∃ sources,
    Sources.gather w.tree w.current (.ofText path) config = .ok sources ∧
      ImportPolicy.run p.rules (sources.snapshot w.now) p.config
        (runOf w p commonjs sources.root).resolverFor = .ok s := by
  simp only [checked, bind_eq_ok_iff, mapError_eq_ok_iff]
  rfl

/-! ## What is listed -/

/-- The issues of a snapshot, each with its file: file after file, as the files have them. -/
def listing (s : Snapshot) : List (SourceFile × Issue) :=
  s.files.flatMap fun file => file.issues.map (file, ·)

/-- The issues of a file are about its import sites in their order: one about each that has a
    finding. -/
def FollowsImports (file : SourceFile) : Prop :=
  ∃ (severity : Severity) (found : List (Option Diagnostic)), found.length = file.imports.length ∧
    file.issues = (file.imports.zip found).filterMap fun pair =>
      pair.2.map (issueAbout severity file pair.1)

theorem followsImports_of_reports {q : RunRequest LookupError} {file : SourceFile}
    {issues : List Issue} (reports : q.Reports file issues) :
    FollowsImports (file.withIssues issues) := by
  cases reports with
  | @enabled policy resolver found on options resolved checked =>
    exact ⟨q.config.severity, found, checked.length_eq.symm, rfl⟩
  | disabled off =>
    -- Without the rule no import has a finding, whatever the severity is.
    refine ⟨.error, file.imports.map fun _ => none, List.length_map _, ?_⟩
    symm
    change List.filterMap _ _ = []
    rw [List.filterMap_eq_nil_iff]
    intro pair listed
    obtain ⟨site, -, none⟩ := List.mem_map.1 (List.of_mem_zip listed).2
    rw [← none, Option.map_none]

/-- A check leaves a snapshot whose issues follow the imports of the files and are counted. -/
theorem checked_follows (planned : plan config r.commonjs = .ok p)
    (done : checked w config p path = .ok s) :
    (∀ file ∈ s.files, FollowsImports file) ∧ s.summary = some (Summary.ofFiles s.files) := by
  obtain ⟨sources, -, ran⟩ := (checked_eq_ok_iff r.commonjs).1 done
  obtain ⟨-, enabled, -⟩ := plan_eq_ok_iff.1 planned
  have enabled : (runOf w p r.commonjs sources.root).config.rules r.commonjs = .ok p.rules :=
    enabled
  obtain ⟨reports, summary⟩ := (runOf w p r.commonjs sources.root).run_reports enabled ran
  refine ⟨?_, summary⟩
  intro file listed
  obtain ⟨source, -, issues, reported, rfl⟩ := exists_of_forall₂ reports listed
  exact followsImports_of_reports reported

/-! ## Reports -/

/-- What a report on the console says, the counts in terms of what it lists. -/
def reportLines (s : Snapshot) (order : List Severity) : List Text :=
  (listing s).map (fun e => Console.issueLine e.1 e.2) ++
    [Console.ruler, "Project: " ++ s.scan.projectName,
      "Files Scanned: " ++ Text.ofNat s.files.length] ++
    (("Total Issues: " ++ Text.ofInt (listing s).length) :: order.map fun severity =>
      "  " ++ (Text.ofString severity.name).upper ++ ": " ++
        Text.ofInt ((listing s).countP fun e => e.2.severity = severity)) ++
    [Console.ruler]

theorem map_snd_listing (s : Snapshot) :
    (listing s).map Prod.snd = s.files.flatMap SourceFile.issues := by
  simp [listing, List.map_flatMap, Function.comp_def]

theorem ofFiles_eq (s : Snapshot) :
    Summary.ofFiles s.files = Summary.ofIssues ((listing s).map Prod.snd) := by
  rw [map_snd_listing, Summary.ofFiles]

theorem exists_severity_iff (s : Snapshot) (severity : Severity) :
    (∃ i ∈ (listing s).map Prod.snd, i.severity = severity) ↔
      ∃ e ∈ listing s, e.2.severity = severity := by
  constructor
  · rintro ⟨i, listed, same⟩
    obtain ⟨e, member, rfl⟩ := List.mem_map.1 listed
    exact ⟨e, member, same⟩
  · rintro ⟨e, listed, same⟩
    exact ⟨e.2, List.mem_map.2 ⟨e, listed, rfl⟩, same⟩

theorem lines_eq (summary : s.summary = some (Summary.ofFiles s.files)) :
    ∃ order : List Severity, order.Nodup ∧
      (∀ severity, severity ∈ order ↔ ∃ e ∈ listing s, e.2.severity = severity) ∧
      Console.lines s = reportLines s order := by
  obtain ⟨order, nodup, carried, bySeverity⟩ :=
    Summary.bySeverity_ofIssues ((listing s).map Prod.snd)
  have total := (Summary.counts_ofIssues ((listing s).map Prod.snd)).total
  refine ⟨order, nodup,
    fun severity => (carried severity).trans (exists_severity_iff s severity), ?_⟩
  have listed : (listing s).map (fun e => Console.issueLine e.1 e.2) =
      s.files.flatMap fun file => file.issues.map (Console.issueLine file) := by
    simp [listing, List.map_flatMap, Function.comp_def]
  rw [Console.lines, reportLines, listed, summary, Console.summaryLines, ofFiles_eq, total,
    bySeverity, List.length_map, List.map_map]
  simp only [Summary.severityEntry, Function.comp_def, List.countP_map]

/-- The count that decides on the exit code is that of the errors that are listed. -/
theorem hasErrors_iff (summary : s.summary = some (Summary.ofFiles s.files)) :
    hasErrors s = true ↔ ∃ e ∈ listing s, e.2.severity = .error := by
  have counted := (Summary.counts_ofIssues ((listing s).map Prod.snd)).bySeverity
    (Text.ofString Severity.error.name)
  have named (i : Issue) :
      (Text.ofString i.severity.name = Text.ofString Severity.error.name) ↔ i.severity = .error :=
    Summary.name_injective.eq_iff
  rw [hasErrors, summary, ofFiles_eq, Option.bind_some, counted, Summary.getD_tally,
    ← exists_severity_iff, decide_eq_true_iff, Int.natCast_pos, List.countP_pos_iff]
  simp only [decide_eq_true_eq, named]

/-! ## Outcomes -/

instance decidableExits (ending : Ending) (code : Nat) : Decidable (ending = .exit code) :=
  match ending with
  | .exit found => decidable_of_iff (found = code) (Ending.exit.injEq found code ▸ Iff.rfl)
  | .fault _ => isFalse nofun

/-- A report that ends without a fault is printed as a whole. -/
theorem onConsole_of_exit {code : Nat} (exit : (onConsole w s).ending = .exit code) :
    code = 0 ∧ (onConsole w s).out = (Console.lines s).map w.shown := by
  unfold onConsole at exit ⊢
  dsimp only at exit ⊢
  split at exit <;> cases exit
  next all => exact ⟨rfl, (List.takeWhile_prefix _).eq_of_length all⟩

theorem reported_of_exit {code : Nat} (exit : (reported w s r).ending = .exit code) :
    code = 0 ∧ (r.reporter = .console →
      (reported w s r).out = (Console.lines s).map w.shown) := by
  unfold reported at exit ⊢
  cases kind : r.reporter with
  | console =>
    rw [kind] at exit
    obtain ⟨rfl, printed⟩ := onConsole_of_exit exit
    exact ⟨rfl, fun _ => printed⟩
  | json =>
    refine ⟨?_, nofun⟩
    simp only [kind, inFile] at exit
    split at exit
    · cases exit
    split at exit
    · cases exit
    split at exit <;> cases exit
    rfl

theorem failed_of_exit {o : Outcome} (exit : o.ending = .exit 0) :
    o.failed.ending = .exit 1 ∧ o.failed.out = o.out := by
  rw [Outcome.failed, exit]
  exact ⟨rfl, rfl⟩

theorem failed_of_fault {o : Outcome} {f : Fault} (fault : o.ending = .fault f) : o.failed = o := by
  rw [Outcome.failed, fault]

theorem carriedOut_of_exit {code : Nat} (exit : (carriedOut w config p r).ending = .exit code) :
    ∃ s, checked w config p r.path = .ok s ∧
      code = (if r.failOnError ∧ hasErrors s then 1 else 0) ∧
      (r.reporter = .console →
        (carriedOut w config p r).out = (Console.lines s).map w.shown) := by
  unfold carriedOut at exit ⊢
  cases done : checked w config p r.path with
  | error f =>
    rw [done] at exit
    cases exit
  | ok s =>
    simp only [done] at exit ⊢
    refine ⟨s, rfl, ?_⟩
    cases ended : (reported w s r).ending with
    | fault f =>
      -- A report that breaks off does so whether or not a failure was asked for.
      rw [failed_of_fault ended, ite_self, ended] at exit
      cases exit
    | exit left =>
      obtain ⟨rfl, printed⟩ := reported_of_exit ended
      obtain ⟨fails, unchanged⟩ := failed_of_exit ended
      split at exit
      next failing =>
        rw [fails] at exit
        rw [if_pos failing, if_pos failing, unchanged]
        exact ⟨(Ending.exit.inj exit).symm, printed⟩
      next fine =>
        rw [ended] at exit
        rw [if_neg fine, if_neg fine]
        exact ⟨(Ending.exit.inj exit).symm, printed⟩

/-- A project with a file whose imports have no extensions. -/
def bareImports : World where
  tree := FileTree.empty.place ["proj", "a.js"]
    (.file (Utf8.encode "import './b';\nimport './c';".toList))
  current := ["proj"]
  home := "/home"
  now := .ofSeconds 0 0
  colored := true

/-- A configuration that asks for extensions in scripts. -/
def strictConfig : Mapping :=
  [("languages", .map [("javascript", .map [("extensions", .list [".js"])])]),
    ("rules", .map [("import_extensions", .map [("options", .list [.str "always"])])])]

/-- A check of the file that fails if there are errors. -/
def strictCheck : CheckRequest := ⟨"a.js", .console, none, true, false⟩

theorem asks_strictCheck : Asks bareImports ["--fail-on-error", "a.js"] strictCheck := by
  obtain ⟨place, reached⟩ : ∃ place,
      bareImports.tree.reachWritten bareImports.current "a.js" = .ok place := by
    decide +kernel
  exact asks_flag (by decide) (by decide) rfl (.inl rfl) (by decide) reached

end ImportPolicy.Cli
