import ImportPolicy.Cli.Check
import ImportPolicy.Proofs.Rule.Running
import ImportPolicy.Proofs.Snapshot.Counts
import ImportPolicy.Rule.Session

/-! # Runs leave no residue

Whatever runs have come before, a run reports what it reports about the snapshot as it was at first.
What the runs before may have changed are the issues of files and the counts, and no rule and no
resolver looks at those.

* `Snapshot.cleared`, `cleared_session` — what no run changes.
* `run_cleared` — a run does not depend on anything else.
* `RunRequest.Reports` — the issues of a file after a run.
* `perform_session` — a run after any others. -/

namespace ImportPolicy

open Script (ImportSite)

variable {ε : Type} {rules : List (Rule ε)} {s ended : Snapshot} {config : RuleConfig}
  {resolverFor : SourceFile → Except ε (Resolver ε)} {q : RunRequest ε}

/-! ## A run that may break off -/

theorem runFiles_eq_attemptFiles (done files : List SourceFile) :
    runFiles rules s config resolverFor done files =
      match attemptFiles rules s config resolverFor done files with
      | (checked, none) => .ok checked
      | (_, some e) => .error e := by
  induction files generalizing done with
  | nil => rfl
  | cons file rest inductionHypothesis =>
    rw [runFiles, attemptFiles]
    cases resolverFor file with
    | error e => rfl
    | ok resolver =>
      simp only [bind, Except.bind]
      cases issuesIn rules
          ⟨{ s with files := done ++ file :: rest }, file, config, resolver⟩ with
      | error e => rfl
      | ok issues => exact inductionHypothesis _

theorem run_eq_attempt : run rules s config resolverFor =
    match attempt rules s config resolverFor with
    | (ended, none) => .ok ended
    | (_, some e) => .error e := by
  rw [run, runFiles_eq_attemptFiles, attempt]
  rcases attemptFiles rules s config resolverFor [] s.files with ⟨files, _ | e⟩ <;> rfl

theorem RunRequest.perform_end (q : RunRequest ε) (s : Snapshot) :
    (q.perform s).2 =
      match q.config.rules q.force with
      | .error e => .rejected e
      | .ok rules =>
        match run rules s q.config q.resolverFor with
        | .error e => .aborted e
        | .ok _ => .completed := by
  rw [perform]
  cases q.config.rules q.force with
  | error e => rfl
  | ok rules =>
    simp only [run_eq_attempt]
    rcases attempt rules s q.config q.resolverFor with ⟨left, _ | e⟩ <;> rfl

theorem RunRequest.perform_eq_completed_iff : q.perform s = (ended, .completed) ↔
    ∃ rules, q.config.rules q.force = .ok rules ∧
      run rules s q.config q.resolverFor = .ok ended := by
  rw [perform]
  cases q.config.rules q.force with
  | error e => simp
  | ok rules =>
    simp only [run_eq_attempt, Except.ok.injEq, exists_eq_left']
    rcases attempt rules s q.config q.resolverFor with ⟨left, _ | e⟩ <;> simp

/-! ## What no run changes -/

/-- A snapshot without the issues and the counts. -/
def Snapshot.cleared (s : Snapshot) : Snapshot :=
  { s with files := s.files.map (·.withIssues []), summary := none }

theorem attemptFiles_cleared (done files : List SourceFile) :
    (attemptFiles rules s config resolverFor done files).1.map (·.withIssues []) =
      (done ++ files).map (·.withIssues []) := by
  induction files generalizing done with
  | nil => rw [attemptFiles, List.append_nil]
  | cons file rest inductionHypothesis =>
    rw [attemptFiles]
    -- Where a file cannot be checked, it and those behind it are left as they are.
    split
    · rw [inductionHypothesis]
      simp [SourceFile.withIssues]
    · rfl

/-- A step of a session: whatever a run comes to, only issues and counts differ afterwards. -/
theorem RunRequest.cleared_perform (q : RunRequest ε) (s : Snapshot) :
    (q.perform s).1.cleared = s.cleared := by
  rw [perform]
  cases q.config.rules q.force with
  | error e => rfl
  | ok rules =>
    have files :
        (attemptFiles rules s q.config q.resolverFor [] s.files).1.map (·.withIssues []) =
          s.files.map (·.withIssues []) :=
      attemptFiles_cleared [] s.files
    simp only [attempt]
    rcases attempted : attemptFiles rules s q.config q.resolverFor [] s.files with
      ⟨checked, _ | e⟩ <;>
    · rw [attempted] at files
      simp only [Snapshot.cleared, files]

theorem cleared_session (s : Snapshot) (before : List (RunRequest ε)) :
    (session s before).cleared = s.cleared := by
  induction before generalizing s with
  | nil => rfl
  | cons q before inductionHypothesis =>
    exact (inductionHypothesis (q.perform s).1).trans (q.cleared_perform s)

/-! ## What a run depends on -/

theorem issuesAbout_withIssues (p : Policy) (r : Resolver ε) (severity : Severity)
    (file : SourceFile) (issues : List Issue) (sites : List ImportSite) :
    issuesAbout p r severity (file.withIssues issues) sites =
      issuesAbout p r severity file sites := by
  rw [issuesAbout_eq, issuesAbout_eq]
  rfl

theorem RuleConfig.rules_cases {force : Bool} (h : config.rules force = .ok rules) :
    config.enabled = false ∧ rules = [] ∨
      config.enabled = true ∧ ∃ p, config.policy = .ok p ∧
        rules = [importExtensions (p.forced force) config.severity] := by
  rw [RuleConfig.rules] at h
  cases on : config.enabled with
  | false =>
    rw [on] at h
    exact .inl ⟨rfl, (Except.ok.inj h).symm⟩
  | true =>
    rw [on] at h
    obtain ⟨p, policy, h⟩ := bind_eq_ok h
    exact .inr ⟨rfl, p, policy, (Except.ok.inj h).symm⟩

theorem RuleConfig.rules_isLocal {force : Bool} (h : config.rules force = .ok rules) :
    ∀ rule ∈ rules, Rule.IsLocal rule := by
  rcases rules_cases h with ⟨-, rfl⟩ | ⟨-, p, -, rfl⟩
  · exact fun _ member => absurd member List.not_mem_nil
  · exact importExtensions_isLocal

theorem fileIssues_nil (file : SourceFile) :
    fileIssues [] s config resolverFor file = (fun _ => []) <$> resolverFor file := by
  rw [fileIssues]
  cases resolverFor file <;> rfl

theorem RunRequest.fileIssues_withIssues (enabled : q.config.rules q.force = .ok rules)
    (t : Snapshot) (file : SourceFile) (issues : List Issue) :
    fileIssues rules t q.config q.resolverFor (file.withIssues issues) =
      fileIssues rules s q.config q.resolverFor file := by
  have resolver : q.resolverFor (file.withIssues issues) = q.resolverFor file :=
    q.resolver_bound file issues
  rcases RuleConfig.rules_cases enabled with ⟨-, rfl⟩ | ⟨-, p, -, rfl⟩
  · rw [fileIssues_nil, fileIssues_nil, resolver]
  · rw [fileIssues_importExtensions, fileIssues_importExtensions, resolver]
    simp only [issuesAbout_withIssues]
    rfl

/-- A run gives the same from a snapshot without issues and counts. -/
theorem RunRequest.run_cleared (enabled : q.config.rules q.force = .ok rules) (s : Snapshot) :
    run rules s.cleared q.config q.resolverFor = run rules s q.config q.resolverFor := by
  have isLocal := RuleConfig.rules_isLocal enabled
  have files : (s.files.map (·.withIssues [])).mapM (fun file =>
      file.withIssues <$> fileIssues rules s.cleared q.config q.resolverFor file) =
        s.files.mapM fun file =>
          file.withIssues <$> fileIssues rules s q.config q.resolverFor file := by
    rw [List.mapM_map]
    apply mapM_congr
    intro file _
    simp only [Function.comp_apply]
    rw [fileIssues_withIssues enabled]
    rfl
  rw [run_eq isLocal, run_eq isLocal, ← files]
  rfl

theorem RunRequest.run_session (enabled : q.config.rules q.force = .ok rules) (s : Snapshot)
    (before : List (RunRequest ε)) :
    run rules (session s before) q.config q.resolverFor = run rules s q.config q.resolverFor := by
  -- Both runs are the run from what the session has not changed.
  rw [← run_cleared enabled (session s before), cleared_session, run_cleared enabled]

/-! ## What a run reports -/

/-- The issues of a file after a run: one for each of its import sites, in their order, that has a
    finding under the policy of the run and the resolver of the file, and none if the rule is
    switched off. -/
inductive RunRequest.Reports (q : RunRequest ε) (file : SourceFile) : List Issue → Prop where
  | enabled {p r found} (on : q.config.enabled = true) (policy : q.config.policy = .ok p)
      (resolver : q.resolverFor file = .ok r)
      (checked : List.Forall₂ (fun site d => checkSite (p.forced q.force) r site = .ok d)
        file.imports found) :
      Reports q file ((file.imports.zip found).filterMap fun pair =>
        pair.2.map (issueAbout q.config.severity file pair.1))
  | disabled (off : q.config.enabled = false) : Reports q file []

theorem issuesAbout_eq_ok {p : Policy} {r : Resolver ε} {severity : Severity} {file : SourceFile}
    {sites : List ImportSite} {issues : List Issue}
    (h : issuesAbout p r severity file sites = .ok issues) :
    ∃ found, List.Forall₂ (fun site d => checkSite p r site = .ok d) sites found ∧
      issues = (sites.zip found).filterMap fun pair =>
        pair.2.map (issueAbout severity file pair.1) := by
  induction sites generalizing issues with
  | nil =>
    cases h
    exact ⟨[], .nil, rfl⟩
  | cons site sites inductionHypothesis =>
    rw [issuesAbout] at h
    obtain ⟨d, checked, h⟩ := bind_eq_ok h
    obtain ⟨rest, following, h⟩ := bind_eq_ok h
    cases h
    obtain ⟨found, all, rfl⟩ := inductionHypothesis following
    refine ⟨d :: found, .cons checked all, ?_⟩
    cases d <;> rfl

theorem RunRequest.reports_of_fileIssues (enabled : q.config.rules q.force = .ok rules)
    {file : SourceFile} {issues : List Issue}
    (h : fileIssues rules s q.config q.resolverFor file = .ok issues) : q.Reports file issues := by
  rcases RuleConfig.rules_cases enabled with ⟨off, rfl⟩ | ⟨on, p, policy, rfl⟩
  · rw [fileIssues_nil] at h
    obtain ⟨r, -, rfl⟩ := map_eq_ok h
    exact .disabled off
  · rw [fileIssues_importExtensions] at h
    obtain ⟨r, resolver, h⟩ := bind_eq_ok h
    obtain ⟨found, checked, rfl⟩ := issuesAbout_eq_ok h
    exact .enabled on policy resolver checked

/-- A run that ends gives every file the issues that it reports, and counts them. -/
theorem RunRequest.run_reports (enabled : q.config.rules q.force = .ok rules)
    (h : run rules s q.config q.resolverFor = .ok ended) :
    List.Forall₂ (fun file checked =>
        ∃ issues, q.Reports file issues ∧ checked = file.withIssues issues)
      s.files ended.files ∧
    ended.summary = some (Summary.ofFiles ended.files) := by
  rw [run_eq (RuleConfig.rules_isLocal enabled)] at h
  obtain ⟨files, checked, rfl⟩ := map_eq_ok h
  refine ⟨(mapM_eq_ok_iff.1 checked).imp fun file checked same => ?_, rfl⟩
  obtain ⟨issues, found, rfl⟩ := map_eq_ok same
  exact ⟨issues, reports_of_fileIssues enabled found, rfl⟩

/-! ## A run after any others -/

theorem Summary.ofFiles_withoutIssues (files : List SourceFile) :
    Summary.ofFiles (files.map (·.withIssues [])) = ⟨0, [], []⟩ := by
  have none : (files.map (·.withIssues [])).flatMap SourceFile.issues = [] := by
    rw [List.flatMap_eq_nil_iff]
    intro file member
    obtain ⟨_, -, rfl⟩ := List.mem_map.1 member
    rfl
  rw [Summary.ofFiles, none, Summary.ofIssues, List.foldl_nil]

theorem run_nil (resolvers : ∀ file ∈ s.files, ∃ r, resolverFor file = .ok r) :
    run [] s config resolverFor = .ok (s.withChecked (s.files.map (·.withIssues []))) := by
  have checked : s.files.mapM (fun file =>
      file.withIssues <$> fileIssues [] s config resolverFor file) =
        s.files.mapM fun file => (pure (file.withIssues []) : Except ε SourceFile) := by
    apply mapM_congr
    intro file member
    obtain ⟨r, found⟩ := resolvers file member
    rw [fileIssues_nil, found]
    rfl
  rw [run_eq (fun _ member => absurd member List.not_mem_nil), checked, List.mapM_pure]
  rfl

/-- Whatever runs have come before, a run ends as it does on the snapshot as it was at first, and if
    it completes, it leaves the same. Every file then has the issues that the run reports about it,
    and the summary counts those. A run that is switched off leaves no issues, and one whose options
    are no policy leaves what it has found. -/
theorem RunRequest.perform_session (s : Snapshot) (before : List (RunRequest ε))
    (q : RunRequest ε) :
    (q.perform (session s before)).2 = (q.perform s).2 ∧
    (∀ ended, q.perform (session s before) = (ended, .completed) →
      q.perform s = (ended, .completed) ∧
      List.Forall₂ (fun file checked =>
          ∃ issues, q.Reports file issues ∧ checked = file.withIssues issues)
        s.files ended.files ∧
      ∃ summary, ended.summary = some summary ∧
        summary.Counts (ended.files.flatMap SourceFile.issues)) ∧
    (q.config.enabled = false → (∀ file ∈ s.files, ∃ r, q.resolverFor file = .ok r) →
      q.perform (session s before) =
        ({ s with files := s.files.map (·.withIssues []), summary := some ⟨0, [], []⟩ },
          .completed)) ∧
    ∀ e, q.config.enabled = true → q.config.policy = .error e →
      q.perform (session s before) = (session s before, .rejected e) := by
  refine ⟨?_, fun ended completes => ?_, fun off resolvers => ?_, fun e on policy => ?_⟩
  · rw [perform_end, perform_end]
    cases enabled : q.config.rules q.force with
    | error e => rfl
    | ok rules => simp only [run_session enabled]
  · obtain ⟨rules, enabled, ends⟩ := perform_eq_completed_iff.1 completes
    rw [run_session enabled] at ends
    obtain ⟨reported, summary⟩ := run_reports enabled ends
    exact ⟨perform_eq_completed_iff.2 ⟨rules, enabled, ends⟩, reported, _, summary,
      Summary.counts_ofIssues _⟩
  · have enabled : q.config.rules q.force = .ok ([] : List (Rule ε)) := by
      rw [RuleConfig.rules, off]
      rfl
    rw [perform_eq_completed_iff]
    refine ⟨[], enabled, ?_⟩
    rw [run_session enabled, run_nil resolvers, Snapshot.withChecked, Summary.ofFiles_withoutIssues]
  · have rejected : q.config.rules q.force = (.error e : Except _ (List (Rule ε))) := by
      rw [RuleConfig.rules, on, policy]
      rfl
    rw [perform, rejected]

/-- The view of the world from a file is a resolver for such runs. -/
example (t : FileTree) (root : Location) (settings : Settings) (file : SourceFile)
    (issues : List Issue) :
    Cli.importerOf t root settings { file with issues } = Cli.importerOf t root settings file :=
  rfl

/-- A file with an issue of a rule that is there no more. -/
def staleSites : Snapshot where
  scan := ⟨⟨⟨2024, 1, 2⟩, 0, 0, 0, 0, none⟩, "project", "/project", 1, "0.1.0"⟩
  files :=
    [⟨"src/a.js", "javascript", [⟨"./b.js", .importing, 1, 8⟩, ⟨"./c.js", .requiring, 2, 11⟩],
      [⟨"1", "STALE", .info, "stale", ⟨"src/a.js", 9, none⟩, none, []⟩]⟩]
  summary := none

/-- A run over files that have nothing around them. -/
def RunRequest.alone (config : RuleConfig) (force : Bool) : RunRequest Empty where
  config
  force
  resolverFor _ := .ok (.ofTables [] [] [] [])
  resolver_bound _ _ := rfl

/-- A run that reports issues. -/
def reportingRun : RunRequest Empty := .alone { options := [.str "never"] } false

/-- A run that is switched off. -/
def idleRun : RunRequest Empty := .alone { enabled := false } true

/-- A run whose options are no policy. -/
def refusedRun : RunRequest Empty := .alone { options := [.bool true] } false

/-- Runs that end in all these ways. The first looks at calls of `require` too. -/
def mixedRuns : List (RunRequest Empty) :=
  [{ reportingRun with force := true }, idleRun, refusedRun]

theorem perform_session_staleSites :
    (∃ ended, reportingRun.perform (session staleSites mixedRuns) = (ended, .completed) ∧
      ended.summary = some ⟨1, [("error", 1)], [("IMPORT_EXTENSIONS", 1)]⟩) ∧
    idleRun.perform (session staleSites mixedRuns) =
      ({ staleSites with
          files := staleSites.files.map (·.withIssues [])
          summary := some ⟨0, [], []⟩ },
        .completed) ∧
    refusedRun.perform (session staleSites mixedRuns) =
      (session staleSites mixedRuns, .rejected (.noEntry (.bool true))) := by
  refine ⟨?_, ?_, ?_⟩
  · have reporting := RunRequest.perform_session staleSites mixedRuns reportingRun
    obtain ⟨ended, completes⟩ :
        ∃ ended, reportingRun.perform (session staleSites mixedRuns) = (ended, .completed) :=
      ⟨_, Prod.ext rfl reporting.1⟩
    obtain ⟨atFirst, -⟩ := reporting.2.1 ended completes
    obtain rfl : (reportingRun.perform staleSites).1 = ended := congrArg Prod.fst atFirst
    exact ⟨_, completes, rfl⟩
  · have idle := RunRequest.perform_session staleSites mixedRuns idleRun
    exact idle.2.2.1 rfl fun _ _ => ⟨_, rfl⟩
  · have refused := RunRequest.perform_session staleSites mixedRuns refusedRun
    exact refused.2.2.2 _ rfl rfl

end ImportPolicy
