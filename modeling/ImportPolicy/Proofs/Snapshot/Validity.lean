import ImportPolicy.Proofs.Config.Layering
import ImportPolicy.Proofs.Schema.Yielding
import ImportPolicy.Proofs.Text.Numerals
import ImportPolicy.Proofs.Value.Moments
import ImportPolicy.Snapshot.Reader

/-! # Snapshots that are read

What is true of every snapshot that is read, and what else is true if it is read from JSON.

* `Issue.IsIdentified`, `Issue.isIdentified_of_read` — an issue with a rule has an identifier.
* `Snapshot.IsRegular`, `Snapshot.isRegular_of_read` — every snapshot that is read.
* `Issue.IsScalar`, `Snapshot.IsScalar` — all texts are free of lone surrogates.
* `Issue.read_yields`, `Snapshot.read_yields` — snapshots that are read from JSON. -/

namespace ImportPolicy

open Schema Script

variable {entries : Mapping} {v : Value}

/-! ## Identifiers of issues -/

namespace Issue

variable {id ruleId : Text} {l : IssueLocation} {i : Issue}

/-- An issue has an identifier if it has a rule. -/
def IsIdentified (i : Issue) : Prop := i.id = [] → i.ruleId = []

theorem find?_withId {name : String} (other : Text.ofString name ≠ "id") (entries : Mapping) :
    Mapping.find? (withId entries) name = Mapping.find? entries name := by
  unfold withId
  split
  · rfl
  · split
    · rw [Mapping.find?_put]
      simp [Value.sameKey, Ne.symm other]
    · rfl

theorem required_withId {α : Type} {r : Reader α} {name : String}
    (other : Text.ofString name ≠ "id") (entries : Mapping) :
    Reader.required (withId entries) name r = Reader.required entries name r := by
  rw [Reader.required, find?_withId other]
  rfl

theorem defaulted_withId {α : Type} {r : Reader α} {absent : α} {name : String}
    (other : Text.ofString name ≠ "id") (entries : Mapping) :
    Reader.defaulted (withId entries) name absent r =
      Reader.defaulted entries name absent r := by
  rw [Reader.defaulted, find?_withId other]
  rfl

/-- What the fields of an issue that is read hold; only the identifier can be an added one. -/
structure Reads (entries : Mapping) (i : Issue) : Prop where
  id : Reader.defaulted (withId entries) "id" [] Reader.text = .ok i.id
  ruleId : Reader.required entries "rule_id" Reader.text = .ok i.ruleId
  severity : Reader.required entries "severity" Severity.reader = .ok i.severity
  message : Reader.required entries "message" Reader.text = .ok i.message
  location : Reader.required entries "location" IssueLocation.read = .ok i.location
  symbol : Reader.defaulted entries "symbol" none (Reader.optional Reader.text) = .ok i.symbol
  tags : Reader.defaulted entries "tags" [] (Reader.list Reader.text) = .ok i.tags

theorem reads_of_readFields (read : readFields (withId entries) = .ok i) : Reads entries i := by
  simp only [readFields, Checked.seq_eq_ok_iff, Checked.map_eq_ok_iff] at read
  obtain ⟨_, tags, ⟨_, symbol, ⟨_, location, ⟨_, message, ⟨_, severity, ⟨_, ruleId,
    ⟨id, idRead, rfl⟩, ruleRead, rfl⟩, severityRead, rfl⟩, messageRead, rfl⟩, placeRead, rfl⟩,
    symbolRead, rfl⟩, tagsRead, rfl⟩ := read
  rw [required_withId (by decide)] at ruleRead severityRead messageRead placeRead
  rw [defaulted_withId (by decide)] at symbolRead tagsRead
  exact ⟨idRead, ruleRead, severityRead, messageRead, placeRead, symbolRead, tagsRead⟩

theorem idOf_ne_nil (ruleId path line : Text) : idOf ruleId path line ≠ [] := by
  intro empty
  have parted : idOf ruleId path line = ruleId ++ .scalar ':' :: (path ++ .scalar ':' :: line) := by
    change ruleId ++ [CodePoint.scalar ':'] ++ path ++ [CodePoint.scalar ':'] ++ line = _
    simp
  rw [parted, List.append_eq_nil_iff] at empty
  exact List.cons_ne_nil _ _ empty.2

theorem ne_nil_of_derivedId? (made : derivedId? entries = some id) : id ≠ [] := by
  unfold derivedId? at made
  split at made
  · split at made <;> cases made
    exact idOf_ne_nil _ _ _
  · cases made

/-- None is made only where there is no rule, since a place that is read has fields. -/
theorem ruleId_eq_nil_of_derivedId? (unmade : derivedId? entries = none)
    (ruleRead : Reader.required entries "rule_id" Reader.text = .ok ruleId)
    (placeRead : Reader.required entries "location" IssueLocation.read = .ok l) :
    ruleId = [] := by
  obtain ⟨rule, ruleFound, ruleRead⟩ := Reader.required_eq_ok_iff.1 ruleRead
  obtain ⟨place, placeFound, placeRead⟩ := Reader.required_eq_ok_iff.1 placeRead
  obtain ⟨location, rfl, fields⟩ := Reader.model_eq_ok_iff.1 placeRead
  have filled : location ≠ [] := by
    rintro rfl
    cases fields
  rw [derivedId?, ruleFound, placeFound] at unmade
  dsimp only at unmade
  split at unmade
  next => cases unmade
  next empty =>
    by_contra named
    exact empty ⟨(Reader.isTruthy_iff_of_text ruleRead).2 named, filled⟩

theorem Reads.isIdentified (reads : Reads entries i) : i.IsIdentified := by
  intro unnamed
  have idRead := reads.id
  -- An identifier that is given or made is no empty text; none is made where there is no rule.
  unfold withId at idRead
  split at idRead
  next truthy =>
    rcases Reader.defaulted_eq_ok_iff.1 idRead with ⟨missing, -⟩ | ⟨v, found, read⟩
    · rw [missing] at truthy
      cases truthy
    · rw [found] at truthy
      exact absurd unnamed ((Reader.isTruthy_iff_of_text read).1 truthy)
  next =>
    split at idRead
    next id made =>
      rw [Reader.defaulted, Mapping.find?_put_self] at idRead
      cases idRead
      exact absurd unnamed (ne_nil_of_derivedId? made)
    next unmade => exact ruleId_eq_nil_of_derivedId? unmade reads.ruleId reads.location

theorem isIdentified_of_read (read : Issue.read v = .ok i) : i.IsIdentified := by
  obtain ⟨entries, rfl, fields⟩ := Reader.model_eq_ok_iff.1 read
  exact (reads_of_readFields fields).isIdentified

end Issue

/-! ## Snapshots -/

/-- The time of the scan is one that a clock shows, every issue with a rule has an identifier, and no
    two counts are under the same key. -/
structure Snapshot.IsRegular (s : Snapshot) : Prop where
  timestamp : s.scan.timestamp.IsReal
  identified : ∀ f ∈ s.files, ∀ i ∈ f.issues, i.IsIdentified
  distinct : ∀ m ∈ s.summary, m.bySeverity.keys.Nodup ∧ m.byRule.keys.Nodup

theorem ScanRecord.isReal_of_read {r : ScanRecord} (read : ScanRecord.read v = .ok r) :
    r.timestamp.IsReal := by
  obtain ⟨entries, rfl, fields⟩ := Reader.model_eq_ok_iff.1 read
  simp only [Checked.seq_eq_ok_iff, Checked.map_eq_ok_iff] at fields
  obtain ⟨_, _, ⟨_, _, ⟨_, _, ⟨_, _, ⟨timestamp, timeRead, rfl⟩, -, rfl⟩, -, rfl⟩, -, rfl⟩, -, rfl⟩ :=
    fields
  obtain ⟨w, -, read⟩ := Reader.required_eq_ok_iff.1 timeRead
  exact Reader.moment_isReal read

theorem SourceFile.isIdentified_of_read {f : SourceFile} (read : SourceFile.read v = .ok f) :
    ∀ i ∈ f.issues, i.IsIdentified := by
  obtain ⟨entries, rfl, fields⟩ := Reader.model_eq_ok_iff.1 read
  simp only [Checked.seq_eq_ok_iff, Checked.map_eq_ok_iff] at fields
  obtain ⟨_, issues, ⟨_, _, ⟨_, _, ⟨_, -, rfl⟩, -, rfl⟩, -, rfl⟩, issuesRead, rfl⟩ := fields
  rcases Reader.defaulted_eq_ok_iff.1 issuesRead with ⟨-, rfl⟩ | ⟨w, -, read⟩
  · exact List.forall_mem_nil _
  · intro i member
    obtain ⟨-, -, item, -, read⟩ := Reader.exists_of_list read member
    exact Issue.isIdentified_of_read read

theorem Summary.nodup_of_read {m : Summary} (read : Summary.read v = .ok m) :
    m.bySeverity.keys.Nodup ∧ m.byRule.keys.Nodup := by
  have nodup {entries : Mapping} {name : String} {t : Table Int}
      (read : Reader.defaulted entries name [] (Reader.table Reader.integer) = .ok t) :
      t.keys.Nodup := by
    rcases Reader.defaulted_eq_ok_iff.1 read with ⟨-, rfl⟩ | ⟨w, -, read⟩
    · exact List.nodup_nil
    · exact Reader.nodup_of_table read
  obtain ⟨entries, rfl, fields⟩ := Reader.model_eq_ok_iff.1 read
  simp only [Checked.seq_eq_ok_iff, Checked.map_eq_ok_iff] at fields
  obtain ⟨_, byRule, ⟨_, bySeverity, ⟨_, -, rfl⟩, severityRead, rfl⟩, ruleRead, rfl⟩ := fields
  exact ⟨nodup severityRead, nodup ruleRead⟩

theorem Snapshot.isRegular_of_read {s : Snapshot} (read : Snapshot.read v = .ok s) :
    s.IsRegular := by
  obtain ⟨entries, rfl, fields⟩ := Reader.model_eq_ok_iff.1 read
  simp only [Checked.seq_eq_ok_iff, Checked.map_eq_ok_iff] at fields
  obtain ⟨_, summary, ⟨_, files, ⟨scan, scanRead, rfl⟩, filesRead, rfl⟩, summaryRead, rfl⟩ := fields
  refine ⟨?_, fun f member => ?_, fun m member => ?_⟩
  · obtain ⟨w, -, read⟩ := Reader.required_eq_ok_iff.1 scanRead
    exact ScanRecord.isReal_of_read read
  · obtain ⟨w, -, read⟩ := Reader.required_eq_ok_iff.1 filesRead
    obtain ⟨-, -, item, -, read⟩ := Reader.exists_of_list read member
    exact SourceFile.isIdentified_of_read read
  · rcases Reader.defaulted_eq_ok_iff.1 summaryRead with ⟨-, rfl⟩ | ⟨w, -, read⟩
    · cases member
    · exact Summary.nodup_of_read (Reader.of_optional read member)

/-! ## Texts of snapshots -/

/-- The texts of an issue are free of lone surrogates. -/
structure Issue.IsScalar (i : Issue) : Prop where
  id : i.id.isScalar = true
  ruleId : i.ruleId.isScalar = true
  message : i.message.isScalar = true
  filePath : i.location.filePath.isScalar = true
  symbol : ∀ t ∈ i.symbol, t.isScalar = true
  tags : ∀ t ∈ i.tags, t.isScalar = true

/-- The texts of a source file are free of lone surrogates. -/
structure SourceFile.IsScalar (f : SourceFile) : Prop where
  path : f.path.isScalar = true
  language : f.language.isScalar = true
  imports : ∀ s ∈ f.imports, s.specifier.isScalar = true
  issues : ∀ i ∈ f.issues, i.IsScalar

/-- The keys of counts are free of lone surrogates. -/
structure Summary.IsScalar (s : Summary) : Prop where
  bySeverity : ∀ e ∈ s.bySeverity, e.1.isScalar = true
  byRule : ∀ e ∈ s.byRule, e.1.isScalar = true

/-- The texts about a scan are free of lone surrogates. -/
structure ScanRecord.IsScalar (r : ScanRecord) : Prop where
  projectName : r.projectName.isScalar = true
  root : r.root.isScalar = true
  toolVersion : r.toolVersion.isScalar = true

/-- The texts of a snapshot are free of lone surrogates. -/
structure Snapshot.IsScalar (s : Snapshot) : Prop where
  scan : s.scan.IsScalar
  files : ∀ f ∈ s.files, f.IsScalar
  summary : ∀ m ∈ s.summary, m.IsScalar

/-! ## Snapshots in JSON -/

theorem Value.isScalar_plain {i : Int} (json : v.isJson = true)
    (read : Reader.integer v = .ok i) : v.plain.isScalar = true := by
  cases v with
  | bool b => cases b <;> rfl
  | int i =>
    change (Text.ofInt i).isScalar = true
    rw [Text.ofInt_eq_ofChars, Text.isScalar_ofChars]
  | float x => exact x.isScalar_spell
  | str t => exact json
  | bytes _ => cases json
  | _ => cases read

theorem Script.ImportSite.read_yields :
    Reader.Yields ImportSite.read fun s => s.specifier.isScalar = true := by
  refine Reader.model_yields fun entries json s read => ?_
  simp only [Checked.seq_eq_ok_iff, Checked.map_eq_ok_iff] at read
  obtain ⟨_, _, ⟨_, _, ⟨_, _, ⟨specifier, specifierRead, rfl⟩, -, rfl⟩, -, rfl⟩, -, rfl⟩ := read
  exact Reader.required_yields Reader.text_yields json specifierRead

theorem IssueLocation.read_yields :
    Reader.Yields IssueLocation.read fun l => l.filePath.isScalar = true := by
  refine Reader.model_yields fun entries json l read => ?_
  simp only [Checked.seq_eq_ok_iff, Checked.map_eq_ok_iff] at read
  obtain ⟨_, _, ⟨_, _, ⟨filePath, filePathRead, rfl⟩, -, rfl⟩, -, rfl⟩ := read
  exact Reader.required_yields Reader.text_yields json filePathRead

namespace Issue

variable {id : Text} {l : IssueLocation} {i : Issue}

/-- The line of a place in JSON is spelt without lone surrogates, however it is written. -/
theorem isScalar_of_derivedId? (json : (Value.map entries).isJson = true)
    {ruleId : Text} (ruleRead : Reader.required entries "rule_id" Reader.text = .ok ruleId)
    (placeRead : Reader.required entries "location" IssueLocation.read = .ok l)
    (made : derivedId? entries = some id) : id.isScalar = true := by
  obtain ⟨rule, ruleFound, ruleRead⟩ := Reader.required_eq_ok_iff.1 ruleRead
  obtain ⟨place, placeFound, placeRead⟩ := Reader.required_eq_ok_iff.1 placeRead
  have ruleJson := Value.isJson_of_find? json ruleFound
  have placeJson := Value.isJson_of_find? json placeFound
  obtain rfl := (Reader.text_eq_ok_iff ruleJson).1 ruleRead
  obtain ⟨location, rfl, fields⟩ := Reader.model_eq_ok_iff.1 placeRead
  simp only [Checked.seq_eq_ok_iff, Checked.map_eq_ok_iff,
    Reader.required_eq_ok_iff] at fields
  obtain ⟨_, _, ⟨_, _, ⟨_, ⟨path, pathFound, pathRead⟩, -⟩, ⟨line, lineFound, lineRead⟩, -⟩,
    -, -⟩ := fields
  have pathJson := Value.isJson_of_find? placeJson pathFound
  obtain rfl := (Reader.text_eq_ok_iff pathJson).1 pathRead
  -- The line goes into the identifier as it is written, not as the integer that is read from it.
  have lineScalar :=
    Value.isScalar_plain (Value.isJson_of_find? placeJson lineFound) lineRead
  rw [derivedId?, ruleFound, placeFound] at made
  dsimp only at made
  rw [pathFound, lineFound] at made
  split at made <;> cases made
  rw [idOf, Text.isScalar_append, Text.isScalar_append_string, Text.isScalar_append,
    Text.isScalar_append_string]
  exact ⟨⟨ruleJson, pathJson⟩, lineScalar⟩

theorem Reads.isScalar_id (reads : Reads entries i)
    (json : (Value.map entries).isJson = true) : i.id.isScalar = true := by
  have kept (read : Reader.defaulted entries "id" [] Reader.text = .ok i.id) :
      i.id.isScalar = true :=
    Reader.defaulted_yields Reader.text_yields rfl json read
  have idRead := reads.id
  unfold withId at idRead
  -- Only an identifier that was made is not among the JSON data.
  split at idRead
  next => exact kept idRead
  next =>
    split at idRead
    next id made =>
      rw [Reader.defaulted, Mapping.find?_put_self] at idRead
      cases idRead
      exact isScalar_of_derivedId? json reads.ruleId reads.location made
    next => exact kept idRead

theorem read_yields : Reader.Yields Issue.read IsScalar := by
  refine Reader.model_yields fun entries json i read => ?_
  have reads := reads_of_readFields read
  exact {
    id := reads.isScalar_id json
    ruleId := Reader.required_yields Reader.text_yields json reads.ruleId
    message := Reader.required_yields Reader.text_yields json reads.message
    filePath := Reader.required_yields IssueLocation.read_yields json reads.location
    symbol := Reader.defaulted_yields (Reader.optional_yields Reader.text_yields) (by simp) json
      reads.symbol
    tags := Reader.defaulted_yields (Reader.list_yields Reader.text_yields) (by simp) json
      reads.tags }

end Issue

theorem SourceFile.read_yields : Reader.Yields SourceFile.read SourceFile.IsScalar := by
  refine Reader.model_yields fun entries json f read => ?_
  simp only [Checked.seq_eq_ok_iff, Checked.map_eq_ok_iff] at read
  obtain ⟨_, issues, ⟨_, imports, ⟨_, language, ⟨path, pathRead, rfl⟩, languageRead, rfl⟩,
    importsRead, rfl⟩, issuesRead, rfl⟩ := read
  exact {
    path := Reader.required_yields Reader.text_yields json pathRead
    language := Reader.required_yields Reader.text_yields json languageRead
    imports := Reader.defaulted_yields (Reader.list_yields ImportSite.read_yields) (by simp) json
      importsRead
    issues := Reader.defaulted_yields (Reader.list_yields Issue.read_yields) (by simp) json
      issuesRead }

theorem Summary.read_yields : Reader.Yields Summary.read Summary.IsScalar := by
  refine Reader.model_yields fun entries json m read => ?_
  simp only [Checked.seq_eq_ok_iff, Checked.map_eq_ok_iff] at read
  obtain ⟨_, byRule, ⟨_, bySeverity, ⟨_, -, rfl⟩, severityRead, rfl⟩, ruleRead, rfl⟩ := read
  have keys {name : String} {t : Table Int}
      (read : Reader.defaulted entries name [] (Reader.table Reader.integer) = .ok t) :
      ∀ e ∈ t, e.1.isScalar = true :=
    Reader.defaulted_yields Reader.table_yields (List.forall_mem_nil _) json read
  exact ⟨keys severityRead, keys ruleRead⟩

theorem ScanRecord.read_yields :
    Reader.Yields ScanRecord.read fun r => r.IsScalar ∧ r.timestamp.InMinutes := by
  refine Reader.model_yields fun entries json r read => ?_
  simp only [Checked.seq_eq_ok_iff, Checked.map_eq_ok_iff] at read
  obtain ⟨_, toolVersion, ⟨_, _, ⟨_, root, ⟨_, projectName, ⟨timestamp, timeRead, rfl⟩,
    projectRead, rfl⟩, rootRead, rfl⟩, -, rfl⟩, versionRead, rfl⟩ := read
  have text {name : String} {t : Text} (read : Reader.required entries name Reader.text = .ok t) :
      t.isScalar = true :=
    Reader.required_yields Reader.text_yields json read
  exact ⟨⟨text projectRead, text rootRead, text versionRead⟩,
    Reader.required_yields (fun _ json _ read => Reader.moment_inMinutes json read) json timeRead⟩

/-- The texts of a snapshot in JSON are free of lone surrogates, identifiers that are made
    included, and its time is in whole minutes from universal time. -/
theorem Snapshot.read_yields :
    Reader.Yields Snapshot.read fun s => s.IsScalar ∧ s.scan.timestamp.InMinutes := by
  refine Reader.model_yields fun entries json s read => ?_
  simp only [Checked.seq_eq_ok_iff, Checked.map_eq_ok_iff] at read
  obtain ⟨_, summary, ⟨_, files, ⟨scan, scanRead, rfl⟩, filesRead, rfl⟩, summaryRead, rfl⟩ := read
  obtain ⟨scalar, inMinutes⟩ := Reader.required_yields ScanRecord.read_yields json scanRead
  exact ⟨{
    scan := scalar
    files := Reader.required_yields (Reader.list_yields SourceFile.read_yields) json filesRead
    summary := Reader.defaulted_yields (Reader.optional_yields Summary.read_yields) (by simp) json
      summaryRead }, inMinutes⟩

end ImportPolicy
