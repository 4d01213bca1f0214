import ImportPolicy.Proofs.Rule.Identifiers
import ImportPolicy.Proofs.Snapshot.Counts

/-! # What a run accounts for

A run of any rules gives every file what the rules report about it, one rule after another, and counts
all of it. The counts by severity and those by rule add up to the total. If the rules look at one file
only, then the order of the files makes no difference to what is reported and counted.

* `Summary.IsBalanced`, `Summary.isBalanced_ofIssues` — counts that add up.
* `Summary.ofIssues_agrees` — the counts of issues in another order.
* `issuesIn_eq_ok_iff`, `IsReported`, `runFiles_reports` — the issues of every file after a run.
* `run_reordered` — a run over the files in another order.
* `run_accounts` — what a run leaves. -/

namespace ImportPolicy

variable {ε : Type} {rules : List (Rule ε)} {s ended : Snapshot} {config : RuleConfig}
  {resolverFor : SourceFile → Except ε (Resolver ε)}

/-! ## Counts that add up -/

/-- The sum of the counts in a table. -/
def Table.sum : Table Int → Int
  | [] => 0
  | entry :: rest => entry.2 + Table.sum rest

theorem Table.sum_put (counts : Table Int) (key : Text) (n : Int) :
    (counts.put key n).sum = counts.sum - (counts.find? key).getD 0 + n := by
  induction counts with
  | nil => simp [sum, put]
  | cons entry rest inductionHypothesis =>
    obtain ⟨k, m⟩ := entry
    by_cases same : k = key
    · simp only [sum, put, find?, same, if_true, Option.getD_some]
      omega
    · simp only [sum, put, find?, same, if_false, inductionHypothesis]
      omega

namespace Summary

theorem sum_bump (counts : Table Int) (key : Text) : (bump counts key).sum = counts.sum + 1 := by
  rw [bump, Table.sum_put]
  omega

/-- Every severity and every rule is counted once, and either way the counts add up to the total. -/
structure IsBalanced (m : Summary) : Prop where
  sum_bySeverity : m.bySeverity.sum = m.total
  sum_byRule : m.byRule.sum = m.total
  nodup_bySeverity : m.bySeverity.keys.Nodup
  nodup_byRule : m.byRule.keys.Nodup

theorem IsBalanced.count {m : Summary} (balanced : m.IsBalanced) (i : Issue) :
    (m.count i).IsBalanced where
  sum_bySeverity := by rw [Summary.count, sum_bump, balanced.sum_bySeverity]
  sum_byRule := by rw [Summary.count, sum_bump, balanced.sum_byRule]
  nodup_bySeverity := Table.nodup_keys_put balanced.nodup_bySeverity _ _
  nodup_byRule := Table.nodup_keys_put balanced.nodup_byRule _ _

theorem isBalanced_ofIssues (issues : List Issue) : (ofIssues issues).IsBalanced := by
  have counted (m : Summary) (balanced : m.IsBalanced) : (issues.foldl count m).IsBalanced := by
    induction issues generalizing m with
    | nil => exact balanced
    | cons i rest inductionHypothesis => exact inductionHypothesis (m.count i) (balanced.count i)
  exact counted _ ⟨rfl, rfl, List.nodup_nil, List.nodup_nil⟩

/-- Two summaries have the same counts, in whatever order they list them. -/
structure Agrees (m m' : Summary) : Prop where
  total : m.total = m'.total
  bySeverity : ∀ key, m.bySeverity.find? key = m'.bySeverity.find? key
  byRule : ∀ key, m.byRule.find? key = m'.byRule.find? key

/-- The order of issues does not matter for their counts. -/
theorem ofIssues_agrees {issues issues' : List Issue} (reordered : issues.Perm issues') :
    (ofIssues issues).Agrees (ofIssues issues') := by
  have counts := counts_ofIssues issues
  have counts' := counts_ofIssues issues'
  have tallies (carries : Issue → Bool) : tally carries issues = tally carries issues' := by
    rw [tally, tally, reordered.countP_eq]
  refine ⟨?_, fun key => ?_, fun key => ?_⟩
  · rw [counts.total, counts'.total, reordered.length_eq]
  · rw [counts.bySeverity, counts'.bySeverity, tallies]
  · rw [counts.byRule, counts'.byRule, tallies]

end Summary

/-! ## What is reported -/

/-- Rules report one after another. -/
theorem issuesIn_eq_ok_iff {c : Context ε} {issues : List Issue} :
    issuesIn rules c = .ok issues ↔ ∃ results : List (List Issue),
      List.Forall₂ (fun rule found => rule c = .ok found) rules results ∧
        issues = results.flatten := by
  induction rules generalizing issues with
  | nil => simp [issuesIn, eq_comm]
  | cons rule rules inductionHypothesis =>
    simp only [issuesIn, bind_eq_ok_iff, pure_eq_ok_iff, inductionHypothesis,
      List.forall₂_cons_left_iff]
    constructor
    · rintro ⟨found, here, _, ⟨results, others, rfl⟩, rfl⟩
      exact ⟨found :: results, ⟨found, results, here, others, rfl⟩, rfl⟩
    · rintro ⟨_, ⟨found, results, here, others, rfl⟩, rfl⟩
      exact ⟨found, here, results.flatten, ⟨results, others, rfl⟩, rfl⟩

/-- A file has been checked: it has what the rules report in its context, rule after rule, where the
    rules see some files of the project. -/
def IsReported (rules : List (Rule ε)) (s : Snapshot) (config : RuleConfig)
    (resolverFor : SourceFile → Except ε (Resolver ε)) (seen : List SourceFile)
    (file checked : SourceFile) : Prop :=
  ∃ resolver, resolverFor file = .ok resolver ∧ ∃ results : List (List Issue),
    List.Forall₂ (fun rule found =>
      rule ⟨{ s with files := seen }, file, config, resolver⟩ = .ok found) rules results ∧
    checked = file.withIssues results.flatten

/-- A step of a run checks the next file, where the rules see the files that are done before it. -/
theorem runFiles_cons_eq_ok_iff {done rest files : List SourceFile} {file : SourceFile} :
    runFiles rules s config resolverFor done (file :: rest) = .ok files ↔ ∃ checked,
      IsReported rules s config resolverFor (done ++ file :: rest) file checked ∧
        runFiles rules s config resolverFor (done ++ [checked]) rest = .ok files := by
  simp only [runFiles, bind_eq_ok_iff, issuesIn_eq_ok_iff, IsReported]
  constructor
  · rintro ⟨resolver, bound, _, ⟨results, reported, rfl⟩, ran⟩
    exact ⟨_, ⟨resolver, bound, results, reported, rfl⟩, ran⟩
  · rintro ⟨_, ⟨resolver, bound, results, reported, rfl⟩, ran⟩
    exact ⟨resolver, bound, _, ⟨results, reported, rfl⟩, ran⟩

/-- A run checks the files that are left. Whatever file it comes to, the rules see those before it as
    they are after the run and the others as they were. -/
theorem runFiles_reports {done rest files : List SourceFile}
    (ran : runFiles rules s config resolverFor done rest = .ok files) :
    ∃ after, files = done ++ after ∧ after.length = rest.length ∧
      ∀ i (before : i < rest.length) (here : i < after.length),
        IsReported rules s config resolverFor (done ++ after.take i ++ rest.drop i) rest[i] after[i] := by
  induction rest generalizing done with
  | nil =>
    cases ran
    exact ⟨[], (List.append_nil _).symm, rfl, fun i before => absurd before (Nat.not_lt_zero i)⟩
  | cons file rest inductionHypothesis =>
    obtain ⟨checked, reported, ran⟩ := runFiles_cons_eq_ok_iff.1 ran
    obtain ⟨after, rfl, length, others⟩ := inductionHypothesis ran
    refine ⟨checked :: after, by simp, congrArg (· + 1) length, fun i before here => ?_⟩
    cases i with
    | zero => simpa using reported
    | succ i => simpa using others i (Nat.lt_of_succ_lt_succ before) (Nat.lt_of_succ_lt_succ here)

/-- A run ends if every file has a resolver and every rule answers. -/
theorem runFiles_answers (resolvers : ∀ file, ∃ r, resolverFor file = .ok r)
    (answers : ∀ rule ∈ rules, ∀ c, ∃ issues, rule c = .ok issues) (done rest : List SourceFile) :
    ∃ files, runFiles rules s config resolverFor done rest = .ok files := by
  induction rest generalizing done with
  | nil => exact ⟨done, rfl⟩
  | cons file rest inductionHypothesis =>
    obtain ⟨resolver, bound⟩ := resolvers file
    obtain ⟨results, reported⟩ := exists_forall₂_iff.2 fun rule member => answers rule member
      ⟨{ s with files := done ++ file :: rest }, file, config, resolver⟩
    obtain ⟨files, ran⟩ := inductionHypothesis (done ++ [file.withIssues results.flatten])
    exact ⟨files, runFiles_cons_eq_ok_iff.2 ⟨_, ⟨resolver, bound, results, reported, rfl⟩, ran⟩⟩

/-! ## Files in another order -/

/-- A run of rules that look at one file, where it is known what they report about each. -/
theorem run_eq_map (isLocal : ∀ rule ∈ rules, Rule.IsLocal rule) {issuesOf : SourceFile → List Issue}
    (reported : ∀ file ∈ s.files,
      fileIssues rules s config resolverFor file = .ok (issuesOf file)) :
    run rules s config resolverFor =
      .ok (s.withChecked (s.files.map fun file => file.withIssues (issuesOf file))) := by
  have checked : s.files.mapM (fun file =>
      file.withIssues <$> fileIssues rules s config resolverFor file) =
        s.files.mapM fun file => (pure (file.withIssues (issuesOf file)) : Except ε SourceFile) := by
    apply mapM_congr
    intro file listed
    rw [reported file listed]
    rfl
  rw [run_eq isLocal, checked, List.mapM_pure]
  rfl

/-- If the rules look at one file only, then a run over the files in another order gives every file the
    same issues, and the counts agree. -/
theorem run_reordered (isLocal : ∀ rule ∈ rules, Rule.IsLocal rule)
    (ran : run rules s config resolverFor = .ok ended) {files : List SourceFile}
    (reordered : files.Perm s.files) :
    ∃ issuesOf : SourceFile → List Issue, ∃ ended' m m',
      run rules { s with files } config resolverFor = .ok ended' ∧
      ended.files = s.files.map (fun file => file.withIssues (issuesOf file)) ∧
      ended'.files = files.map (fun file => file.withIssues (issuesOf file)) ∧
      ended.summary = some m ∧ ended'.summary = some m' ∧ m'.Agrees m := by
  have answered : ∀ file ∈ s.files, ∃ issues,
      fileIssues rules s config resolverFor file = .ok issues := by
    obtain ⟨issues, reported⟩ : ∃ issues,
        s.files.mapM (fileIssues rules s config resolverFor) = .ok issues :=
      ⟨_, (run_ends_iff isLocal).1 ⟨ended, ran, rfl⟩⟩
    exact mapM_answers_iff.1 ⟨issues, reported⟩
  let issuesOf (file : SourceFile) : List Issue :=
    (fileIssues rules s config resolverFor file).toOption.getD []
  have reported : ∀ file ∈ s.files,
      fileIssues rules s config resolverFor file = .ok (issuesOf file) := by
    intro file listed
    obtain ⟨issues, found⟩ := answered file listed
    simp only [issuesOf, found]
    rfl
  have again : ∀ file ∈ files,
      fileIssues rules { s with files } config resolverFor file = .ok (issuesOf file) := by
    intro file listed
    rw [← reported file (reordered.mem_iff.1 listed)]
    exact fileIssues_congr isLocal rfl
  rw [run_eq_map isLocal reported] at ran
  obtain rfl := Except.ok.inj ran
  refine ⟨issuesOf, _, _, _, run_eq_map isLocal again, rfl, rfl, rfl, rfl, ?_⟩
  exact Summary.ofIssues_agrees ((reordered.map _).flatMap_right _)

/-! ## What a run leaves -/

/-- A run of rules ends if each of them answers. Every file then has what the rules report about it, one
    rule after another, where they see the files before it as the run leaves them and all others as
    they were. The summary has the number of all issues and, for each severity and each rule that some
    of them carry and for no other, the number of those that do; either way these add up. If the rules
    look at one file only, then another order of the files changes nothing in that. -/
theorem run_accounts (rules : List (Rule ε)) (s : Snapshot) (config : RuleConfig)
    (resolverFor : SourceFile → Except ε (Resolver ε)) :
    ((∀ file, ∃ r, resolverFor file = .ok r) →
      (∀ rule ∈ rules, ∀ c, ∃ issues, rule c = .ok issues) →
        ∃ ended, run rules s config resolverFor = .ok ended) ∧
    ∀ ended, run rules s config resolverFor = .ok ended →
      ended.files.length = s.files.length ∧
      (∀ i (before : i < s.files.length) (here : i < ended.files.length),
        IsReported rules s config resolverFor (ended.files.take i ++ s.files.drop i)
          s.files[i] ended.files[i]) ∧
      (∃ m, ended.summary = some m ∧ m.IsBalanced ∧
        m.Counts (ended.files.flatMap SourceFile.issues)) ∧
      ((∀ rule ∈ rules, Rule.IsLocal rule) → ∀ files : List SourceFile, files.Perm s.files →
        ∃ issuesOf : SourceFile → List Issue, ∃ ended' m m',
          run rules { s with files } config resolverFor = .ok ended' ∧
          ended.files = s.files.map (fun file => file.withIssues (issuesOf file)) ∧
          ended'.files = files.map (fun file => file.withIssues (issuesOf file)) ∧
          ended.summary = some m ∧ ended'.summary = some m' ∧ m'.Agrees m) := by
  refine ⟨fun resolvers answers => ?_, fun ended ran => ?_⟩
  · obtain ⟨files, ran⟩ := runFiles_answers resolvers answers [] s.files
    exact ⟨_, by rw [run, ran]; rfl⟩
  · obtain ⟨files, checked, same⟩ := bind_eq_ok ran
    obtain ⟨after, whole, length, reported⟩ := runFiles_reports checked
    obtain rfl : files = after := whole
    obtain rfl := Except.ok.inj same
    refine ⟨length, reported, ⟨_, rfl, Summary.isBalanced_ofIssues _, Summary.counts_ofIssues _⟩, ?_⟩
    exact fun isLocal files reordered => run_reordered isLocal ran reordered

/-- A rule that notes every file. -/
def noteFile : Rule Empty := fun c =>
  .ok [⟨"noted", "NOTE", .info, "seen", ⟨c.file.path, 1, none⟩, none, []⟩]

theorem noting_isLocal :
    ∀ rule ∈ [noteFile, importExtensions {} .error], Rule.IsLocal rule := by
  refine List.forall_mem_cons.2 ⟨?_, importExtensions_isLocal⟩
  intro c c' file _
  rw [noteFile, noteFile, file]

theorem run_accounts_notedSites :
    ∃ ended ended' m m',
      run [noteFile, importExtensions {} .error] colonSites {} emptyAround = .ok ended ∧
      run [noteFile, importExtensions {} .error]
        { colonSites with files := colonSites.files.reverse } {} emptyAround = .ok ended' ∧
      ended.files.map (fun file => file.issues.length) = [4, 2] ∧
      ended.summary = some m ∧ m.total = 6 ∧ m.byRule.sum = 6 ∧
      m.byRule.find? "NOTE" = some 2 ∧ ended'.summary = some m' ∧ m'.Agrees m := by
  obtain ⟨ends, leaves⟩ :=
    run_accounts [noteFile, importExtensions {} .error] colonSites {} emptyAround
  have answers : ∀ rule ∈ [noteFile, importExtensions {} .error], ∀ c,
      ∃ issues, rule c = .ok issues := by
    intro rule _ c
    cases rule c with
    | ok issues => exact ⟨issues, rfl⟩
    | error e => exact nomatch e
  obtain ⟨ended, ran⟩ := ends (fun _ => ⟨_, rfl⟩) answers
  obtain ⟨known, ran', lengths, six, notes⟩ : ∃ ended,
      run [noteFile, importExtensions {} .error] colonSites {} emptyAround = .ok ended ∧
      ended.files.map (fun file => file.issues.length) = [4, 2] ∧
      (ended.summary.map Summary.total) = some 6 ∧
      (ended.summary.bind fun m => m.byRule.find? "NOTE") = some 2 :=
    ⟨_, rfl, rfl, rfl, rfl⟩
  obtain rfl : ended = known := Except.ok.inj (ran.symm.trans ran')
  obtain ⟨-, -, ⟨m, summary, balanced, -⟩, reordered⟩ := leaves ended ran
  obtain ⟨-, ended', m₁, m', ran', -, -, summary₁, summary', agrees⟩ :=
    reordered noting_isLocal colonSites.files.reverse (List.reverse_perm _)
  obtain rfl : m = m₁ := Option.some.inj (summary.symm.trans summary₁)
  rw [summary] at six notes
  have total : m.total = 6 := Option.some.inj six
  exact ⟨ended, ended', m, m', ran, ran', lengths, summary, total, balanced.sum_byRule.trans total,
    notes, summary', agrees⟩

end ImportPolicy
