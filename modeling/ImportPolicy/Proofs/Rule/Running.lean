import ImportPolicy.Proofs.Traversals
import ImportPolicy.Rule.Run

/-! # Runs file by file

A rule that looks at nothing but a file and its resolver reports the same whatever a run has done
before, so a run of such rules checks every file on its own. The rule on extensions is one of them,
and it checks every site that the policy covers on its own.

* `Rule.IsLocal`, `fileIssues` — rules that look at one file, and what they report about it.
* `run_eq`, `findings_run` — a run as a traversal of the files, and what it reports.
* `filter_run_congr` — the files that two runs have in common.
* `siteIssues`, `issuesAbout_eq` — the rule on extensions as a traversal of the covered sites. -/

namespace ImportPolicy

open Script (ImportSite)

variable {ε α : Type}

/-! ## Rules that look at one file -/

/-- A rule that looks at the file and its resolver only. -/
def Rule.IsLocal (rule : Rule ε) : Prop :=
  ∀ c c' : Context ε, c.file = c'.file → c.resolver = c'.resolver → rule c = rule c'

/-- What rules report about a file of a snapshot. -/
def fileIssues (rules : List (Rule ε)) (s : Snapshot) (config : RuleConfig)
    (resolverFor : SourceFile → Except ε (Resolver ε)) (file : SourceFile) :
    Except ε (List Issue) := do
  let resolver ← resolverFor file
  issuesIn rules ⟨s, file, config, resolver⟩

/-- A file with issues in place of the ones it has. -/
def SourceFile.withIssues (file : SourceFile) (issues : List Issue) : SourceFile :=
  { file with issues }

/-- A snapshot with files in place of the ones it has, and their issues counted. -/
def Snapshot.withChecked (s : Snapshot) (files : List SourceFile) : Snapshot :=
  { s with files, summary := some (Summary.ofFiles files) }

/-- What a snapshot reports: the issues of each file and the counts. -/
def Snapshot.findings (s : Snapshot) : List (List Issue) × Option Summary :=
  (s.files.map SourceFile.issues, s.summary)

variable {rules : List (Rule ε)} {s : Snapshot} {config : RuleConfig}
  {resolverFor : SourceFile → Except ε (Resolver ε)}

theorem issuesIn_congr (isLocal : ∀ rule ∈ rules, Rule.IsLocal rule) {c c' : Context ε}
    (file : c.file = c'.file) (resolver : c.resolver = c'.resolver) :
    issuesIn rules c = issuesIn rules c' := by
  induction rules with
  | nil => rfl
  | cons rule rules inductionHypothesis =>
    rw [List.forall_mem_cons] at isLocal
    rw [issuesIn, issuesIn, isLocal.1 c c' file resolver, inductionHypothesis isLocal.2]

/-- A step of a run: the next file gets its issues, and the run goes on with the rest. -/
theorem runFiles_cons (isLocal : ∀ rule ∈ rules, Rule.IsLocal rule)
    (done : List SourceFile) (file : SourceFile) (rest : List SourceFile) :
    runFiles rules s config resolverFor done (file :: rest) =
      fileIssues rules s config resolverFor file >>= fun issues =>
        runFiles rules s config resolverFor (done ++ [file.withIssues issues]) rest := by
  rw [runFiles, fileIssues]
  cases resolverFor file with
  | error e => rfl
  | ok resolver =>
    -- The rules do not see the files that are done.
    have same : issuesIn rules ⟨{ s with files := done ++ file :: rest }, file, config, resolver⟩ =
        issuesIn rules ⟨s, file, config, resolver⟩ :=
      issuesIn_congr isLocal rfl rfl
    change issuesIn rules _ >>= _ = issuesIn rules _ >>= _
    rw [same]
    rfl

theorem runFiles_eq (isLocal : ∀ rule ∈ rules, Rule.IsLocal rule) (done rest : List SourceFile) :
    runFiles rules s config resolverFor done rest =
      (done ++ ·) <$> rest.mapM fun file =>
        file.withIssues <$> fileIssues rules s config resolverFor file := by
  induction rest generalizing done with
  | nil => exact congrArg Except.ok (List.append_nil done).symm
  | cons file rest inductionHypothesis =>
    rw [runFiles_cons isLocal, List.mapM_cons]
    cases fileIssues rules s config resolverFor file with
    | error e => rfl
    | ok issues =>
      change runFiles rules s config resolverFor (done ++ [file.withIssues issues]) rest = _
      rw [inductionHypothesis]
      cases rest.mapM fun file => file.withIssues <$> fileIssues rules s config resolverFor file with
      | error e => rfl
      | ok files => exact congrArg Except.ok (List.append_assoc ..)

/-- A run of rules that look at one file gives every file what they report about it, and counts. -/
theorem run_eq (isLocal : ∀ rule ∈ rules, Rule.IsLocal rule) :
    run rules s config resolverFor = s.withChecked <$> s.files.mapM fun file =>
      file.withIssues <$> fileIssues rules s config resolverFor file := by
  rw [run, runFiles_eq isLocal]
  cases s.files.mapM fun file =>
    file.withIssues <$> fileIssues rules s config resolverFor file <;> rfl

theorem findings_run (isLocal : ∀ rule ∈ rules, Rule.IsLocal rule) :
    Snapshot.findings <$> run rules s config resolverFor =
      (fun issues => (issues, some (Summary.ofIssues issues.flatten))) <$>
        s.files.mapM (fileIssues rules s config resolverFor) := by
  have back : s.files.mapM (fileIssues rules s config resolverFor) =
      List.map SourceFile.issues <$> s.files.mapM fun file =>
        file.withIssues <$> fileIssues rules s config resolverFor file := by
    rw [← mapM_map_eq]
    apply mapM_congr
    intro file _
    cases fileIssues rules s config resolverFor file <;> rfl
  rw [run_eq isLocal, back]
  cases s.files.mapM fun file =>
      file.withIssues <$> fileIssues rules s config resolverFor file with
  | error e => rfl
  | ok files =>
    change Except.ok (files.map SourceFile.issues, some (Summary.ofFiles files)) = Except.ok _
    rw [Summary.ofFiles, List.flatMap_def]

/-- A run ends exactly if the rules can look at every file. -/
theorem run_ends_iff (isLocal : ∀ rule ∈ rules, Rule.IsLocal rule) {issues : List (List Issue)} :
    (∃ ended, run rules s config resolverFor = .ok ended ∧
        ended.files.map SourceFile.issues = issues) ↔
      s.files.mapM (fileIssues rules s config resolverFor) = .ok issues := by
  have reported : Snapshot.findings <$> run rules s config resolverFor = _ := findings_run isLocal
  cases found : s.files.mapM (fileIssues rules s config resolverFor) with
  | error e =>
    rw [found] at reported
    cases ends : run rules s config resolverFor with
    | error e => simp
    | ok ended =>
      rw [ends] at reported
      cases reported
  | ok all =>
    rw [found] at reported
    cases ends : run rules s config resolverFor with
    | error e =>
      rw [ends] at reported
      cases reported
    | ok ended =>
      rw [ends] at reported
      have same : ended.files.map SourceFile.issues = all :=
        congrArg Prod.fst (Except.ok.inj reported)
      simp [same]

/-! ## Two runs -/

section Two

variable {s' ended ended' : Snapshot} {resolverFor' : SourceFile → Except ε (Resolver ε)}
  {file : SourceFile}

/-- What is reported about a file depends on its resolver alone. -/
theorem fileIssues_congr (isLocal : ∀ rule ∈ rules, Rule.IsLocal rule)
    (resolver : resolverFor' file = resolverFor file) :
    fileIssues rules s' config resolverFor' file = fileIssues rules s config resolverFor file := by
  rw [fileIssues, fileIssues, resolver]
  cases resolverFor file with
  | error e => rfl
  | ok found => exact issuesIn_congr isLocal rfl rfl

/-- A run leaves out files as a run without them would. -/
theorem filter_run (isLocal : ∀ rule ∈ rules, Rule.IsLocal rule) {kept : SourceFile → Bool}
    (unmarked : ∀ file issues, kept (SourceFile.withIssues file issues) = kept file)
    (ran : run rules s config resolverFor = .ok ended) :
    (s.files.filter kept).mapM
        (fun file => file.withIssues <$> fileIssues rules s config resolverFor file) =
      .ok (ended.files.filter kept) := by
  rw [run_eq isLocal] at ran
  obtain ⟨files, checked, rfl⟩ := map_eq_ok ran
  refine mapM_filter checked fun file checked same => ?_
  obtain ⟨issues, -, rfl⟩ := map_eq_ok same
  exact unmarked file issues

/-- Two runs agree about the files that they have in common. -/
theorem filter_run_congr (isLocal : ∀ rule ∈ rules, Rule.IsLocal rule) {kept : SourceFile → Bool}
    (unmarked : ∀ file issues, kept (SourceFile.withIssues file issues) = kept file)
    (common : s'.files.filter kept = s.files.filter kept)
    (resolvers : ∀ file, resolverFor' file = resolverFor file)
    (ran : run rules s config resolverFor = .ok ended)
    (ran' : run rules s' config resolverFor' = .ok ended') :
    ended'.files.filter kept = ended.files.filter kept := by
  have checked := filter_run isLocal unmarked ran
  have checked' := filter_run isLocal unmarked ran'
  have same : (s'.files.filter kept).mapM
        (fun file => file.withIssues <$> fileIssues rules s' config resolverFor' file) =
      (s.files.filter kept).mapM
        fun file => file.withIssues <$> fileIssues rules s config resolverFor file := by
    rw [common]
    exact mapM_congr fun file _ => congrArg _ (fileIssues_congr isLocal (resolvers file))
  exact Except.ok.inj (checked'.symm.trans (same.trans checked))

end Two

/-! ## The rule on extensions -/

/-- Whether a policy covers an import site: calls of `require` only if it says so. -/
def Policy.covers (p : Policy) (site : ImportSite) : Bool :=
  site.kind ≠ .requiring || p.commonjs

/-- The issues about a site that is covered: one if the check of its specifier has a finding. -/
def siteIssues (p : Policy) (r : Resolver ε) (severity : Severity) (file : SourceFile)
    (site : ImportSite) : Except ε (List Issue) :=
  (fun found => (found.map (issueAbout severity file site)).toList) <$> check p r site.specifier

variable {p : Policy} {r : Resolver ε} {severity : Severity} {file : SourceFile}

theorem checkSite_eq (site : ImportSite) : checkSite p r site =
    if p.covers site then check p r site.specifier else .ok none := by
  rw [checkSite, Policy.covers]
  by_cases requiring : site.kind = .requiring <;> cases p.commonjs <;>
    simp [requiring, checkDeclaration]

theorem issuesAbout_eq (sites : List ImportSite) : issuesAbout p r severity file sites =
    List.flatten <$> (sites.filter p.covers).mapM (siteIssues p r severity file) := by
  induction sites with
  | nil => rfl
  | cons site sites inductionHypothesis =>
    rw [issuesAbout, checkSite_eq, inductionHypothesis]
    cases covered : p.covers site with
    | false =>
      rw [List.filter_cons_of_neg (by simp [covered])]
      cases (sites.filter p.covers).mapM (siteIssues p r severity file) <;> rfl
    | true =>
      rw [List.filter_cons_of_pos covered, List.mapM_cons, if_pos rfl, siteIssues]
      cases check p r site.specifier with
      | error e => rfl
      | ok found => cases (sites.filter p.covers).mapM (siteIssues p r severity file) <;> rfl

theorem importExtensions_isLocal :
    ∀ rule ∈ [(importExtensions p severity : Rule ε)], Rule.IsLocal rule := by
  intro rule member c c' file resolver
  obtain rfl := List.mem_singleton.1 member
  rw [importExtensions, importExtensions, file, resolver]

theorem fileIssues_importExtensions :
    fileIssues [importExtensions p severity] s config resolverFor file =
      resolverFor file >>= fun r => issuesAbout p r severity file file.imports := by
  rw [fileIssues]
  cases resolverFor file with
  | error e => rfl
  | ok r =>
    change (do let issues ← issuesAbout p r severity file file.imports; _) = _
    cases reported : issuesAbout p r severity file file.imports with
    | error e => simp [bind, Except.bind, reported]
    | ok issues => simp [bind, Except.bind, reported, issuesIn, pure, Except.pure]

end ImportPolicy
