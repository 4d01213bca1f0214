import ImportPolicy.Proofs.Rule.Switches
import ImportPolicy.Proofs.Text.Numerals
import ImportPolicy.Proofs.Text.Pieces
import Mathlib.Data.List.Nodup

/-! # Identifiers of issues

An issue that is not given an identifier is named after its rule, its file and its line. Whatever
separators stand in a path, the name tells the file and the line, and it tells no more: what a run
reports about several sites of one line has one name, and only the column of the location tells it
apart.

* `Issue.idOf_inj` — what an identifier tells.
* `locations_issuesAbout`, `locations_run` — the places that a run reports about, in order.
* `run_identifiers` — when two issues of a run have the same identifier. -/

namespace ImportPolicy

open Script (ImportSite)

variable {ε : Type} {p : Policy} {r : Resolver ε} {severity : Severity} {s ended : Snapshot}
  {file : SourceFile} {config : RuleConfig} {resolverFor : SourceFile → Except ε (Resolver ε)}

/-! ## What an identifier tells -/

/-- The path may hold colons, but the line does not. -/
theorem Issue.idOf_inj (ruleId path path' : Text) (line line' : Int) :
    idOf ruleId path (Text.ofInt line) = idOf ruleId path' (Text.ofInt line') ↔
      path = path' ∧ line = line' := by
  have parted (path : Text) (line : Int) : idOf ruleId path (Text.ofInt line) =
      (ruleId ++ .scalar ':' :: path) ++ .scalar ':' :: Text.ofInt line := by
    change ((ruleId ++ [.scalar ':']) ++ path ++ [.scalar ':']) ++ Text.ofInt line = _
    simp
  rw [parted, parted, Text.append_separator_inj (Text.colon_not_mem_ofInt _)
    (Text.colon_not_mem_ofInt _)]
  constructor
  · rintro ⟨front, back⟩
    exact ⟨(List.cons.inj (List.append_cancel_left front)).2, Text.ofInt_injective back⟩
  · rintro ⟨rfl, rfl⟩
    exact ⟨rfl, rfl⟩

/-- An issue of the rule on extensions that has the identifier made of its place. -/
def Issue.IsNamed (i : Issue) : Prop :=
  i.id = Issue.idOf importExtensionsId i.location.filePath (Text.ofInt i.location.line)

theorem Issue.IsNamed.id_eq_iff {i j : Issue} (named : i.IsNamed) (named' : j.IsNamed) :
    i.id = j.id ↔
      i.location.filePath = j.location.filePath ∧ i.location.line = j.location.line := by
  rw [named, named', idOf_inj]

/-! ## What a run reports about -/

/-- The place of an import site of a file. -/
def SourceFile.placeOf (file : SourceFile) (site : ImportSite) : IssueLocation :=
  ⟨file.path, site.line, some site.column⟩

/-- The issues of a file are about some of its import sites, in their order. -/
theorem locations_issuesAbout {sites : List ImportSite} {issues : List Issue}
    (reported : issuesAbout p r severity file sites = .ok issues) :
    (issues.map Issue.location).Sublist (sites.map file.placeOf) ∧ ∀ i ∈ issues, i.IsNamed := by
  induction sites generalizing issues with
  | nil =>
    cases reported
    exact ⟨.slnil, fun i member => nomatch member⟩
  | cons site sites inductionHypothesis =>
    rw [issuesAbout] at reported
    obtain ⟨found, -, reported⟩ := bind_eq_ok reported
    obtain ⟨rest, following, reported⟩ := bind_eq_ok reported
    cases reported
    obtain ⟨places, named⟩ := inductionHypothesis following
    cases found with
    | none => exact ⟨places.cons _, named⟩
    | some d => exact ⟨places.cons_cons _, List.forall_mem_cons.2 ⟨rfl, named⟩⟩

/-- The issues that a run leaves are about some of the import sites of the snapshot, in their
    order. -/
theorem locations_run
    (ran : run [importExtensions p severity] s config resolverFor = .ok ended) :
    ((ended.files.flatMap SourceFile.issues).map Issue.location).Sublist
        (s.files.flatMap fun file => file.imports.map file.placeOf) ∧
      ∀ i ∈ ended.files.flatMap SourceFile.issues, i.IsNamed := by
  rw [run_eq importExtensions_isLocal] at ran
  obtain ⟨files, checked, rfl⟩ := map_eq_ok ran
  change ((files.flatMap _).map _).Sublist _ ∧ ∀ i ∈ files.flatMap _, _
  rw [mapM_eq_ok_iff] at checked
  clear ran
  generalize s.files = unchecked at checked ⊢
  induction checked with
  | nil => exact ⟨.slnil, fun i member => nomatch member⟩
  | cons here _ inductionHypothesis =>
    obtain ⟨issues, reported, rfl⟩ := map_eq_ok here
    rw [fileIssues_importExtensions] at reported
    obtain ⟨r, -, reported⟩ := bind_eq_ok reported
    obtain ⟨places, named⟩ := locations_issuesAbout reported
    rw [List.flatMap_cons, List.flatMap_cons, List.map_append]
    exact ⟨places.append inductionHypothesis.1,
      List.forall_mem_append.2 ⟨named, inductionHypothesis.2⟩⟩

theorem nodup_places {files : List SourceFile} (paths : (files.map SourceFile.path).Nodup)
    (sites : ∀ file ∈ files, (file.imports.map fun site => (site.line, site.column)).Nodup) :
    (files.flatMap fun file => file.imports.map file.placeOf).Nodup := by
  rw [List.nodup_flatMap]
  constructor
  · intro file member
    refine List.pairwise_map.2 ((List.pairwise_map.1 (sites file member)).imp ?_)
    intro site site' elsewhere same
    injection same with _ line column
    exact elsewhere (Prod.ext line (Option.some.inj column))
  · refine (List.pairwise_map.1 paths).imp ?_
    intro file other different place here there
    obtain ⟨site, -, rfl⟩ := List.mem_map.1 here
    obtain ⟨site', -, same⟩ := List.mem_map.1 there
    exact different (congrArg IssueLocation.filePath same).symm

/-- If the paths of files and the positions of the sites of a file are different, then the issues that
    a run leaves are all at different places. Two of them have the same identifier exactly if they are
    on the same line of the same file. -/
theorem run_identifiers (paths : (s.files.map SourceFile.path).Nodup)
    (sites : ∀ file ∈ s.files, (file.imports.map fun site => (site.line, site.column)).Nodup)
    (ran : run [importExtensions p severity] s config resolverFor = .ok ended) :
    (ended.files.flatMap SourceFile.issues).Pairwise fun i j => i.location ≠ j.location ∧
      (i.id = j.id ↔
        i.location.filePath = j.location.filePath ∧ i.location.line = j.location.line) := by
  obtain ⟨places, named⟩ := locations_run ran
  have different : (ended.files.flatMap SourceFile.issues).Pairwise fun i j =>
      i.location ≠ j.location :=
    List.pairwise_map.1 ((nodup_places paths sites).sublist places)
  exact different.imp_of_mem fun member member' elsewhere =>
    ⟨elsewhere, (named _ member).id_eq_iff (named _ member')⟩

/-- Two files, of which the name of one starts with that of the other and a colon. Two sites share a
    line. -/
def colonSites : Snapshot where
  scan := ⟨⟨⟨2024, 1, 2⟩, 0, 0, 0, 0, none⟩, "project", "/project", 2, "0.1.0"⟩
  files :=
    [⟨"a", "javascript",
      [⟨"./b.js", .importing, 1, 15⟩, ⟨"./c.js", .importing, 1, 40⟩, ⟨"./d.js", .exporting, 2, 15⟩],
      []⟩,
     ⟨"a:1", "javascript", [⟨"./b.js", .importing, 2, 15⟩], []⟩]
  summary := none

theorem run_identifiers_colonSites :
    (colonSites.files.map SourceFile.path).Nodup ∧
    (∀ file ∈ colonSites.files, (file.imports.map fun site => (site.line, site.column)).Nodup) ∧
    ∃ ended, run [importExtensions {} .error] colonSites {} emptyAround = .ok ended ∧
      (ended.files.flatMap SourceFile.issues).length = 4 ∧
      (ended.files.flatMap SourceFile.issues).Pairwise fun i j => i.location ≠ j.location ∧
        (i.id = j.id ↔
          i.location.filePath = j.location.filePath ∧ i.location.line = j.location.line) := by
  have paths : (colonSites.files.map SourceFile.path).Nodup := by decide
  have sites : ∀ file ∈ colonSites.files,
      (file.imports.map fun site => (site.line, site.column)).Nodup := by
    decide
  obtain ⟨ended, ran, four⟩ : ∃ ended,
      run [importExtensions {} .error] colonSites {} emptyAround = .ok ended ∧
        (ended.files.flatMap SourceFile.issues).length = 4 :=
    ⟨_, rfl, rfl⟩
  exact ⟨paths, sites, ended, ran, four, run_identifiers paths sites ran⟩

/-- Two sites on one line, at different columns. -/
def oneLine : Snapshot :=
  { colonSites with
    files := [⟨"a.js", "javascript",
      [⟨"./b.js", .importing, 1, 15⟩, ⟨"./c.js", .importing, 1, 40⟩], []⟩] }

theorem run_oneLine_sameIdentifier :
    (oneLine.files.map SourceFile.path).Nodup ∧
    (∀ file ∈ oneLine.files, (file.imports.map fun site => (site.line, site.column)).Nodup) ∧
    ∃ ended, run [importExtensions {} .error] oneLine {} emptyAround = .ok ended ∧
      ∃ i ∈ ended.files.flatMap SourceFile.issues, ∃ j ∈ ended.files.flatMap SourceFile.issues,
        i ≠ j ∧ i.id = j.id := by
  refine ⟨by decide, by decide, _, rfl, ?_⟩
  decide

end ImportPolicy
