import ImportPolicy.Proofs.Json.ReadingBack
import ImportPolicy.Proofs.Schema.Records
import ImportPolicy.Proofs.Snapshot.Validity
import ImportPolicy.Proofs.Value.Stamps
import ImportPolicy.Report.Json

/-! # The JSON report loses nothing but seconds of a time zone

The report of a snapshot is JSON, and what it spells is read as the snapshot. Identifiers were made
when the snapshot was read, and none is made again. A time zone is written in hours and minutes, so
that one with seconds comes back as another.

* `Snapshot.toMinutes` — a snapshot as it comes back.
* `Issue.read_toValue`, `Snapshot.read_toValue` — the value of a snapshot is read as the snapshot.
* `Snapshot.holds_toValue` — JSON holds the value as it is.
* `Snapshot.report?_spells` — the report is JSON of that value.
* `Snapshot.report_readsBack` — the report is read as the snapshot. -/

namespace ImportPolicy

open Schema Script

/-! ## Values of snapshots are read as the snapshots -/

theorem Script.ImportSite.read_toValue (s : ImportSite) : ImportSite.read s.toValue = .ok s := by
  have kind : Reader.choice (ImportKind.all.map ImportKind.name) ImportKind.ofName?
      (.str s.kind.name) = .ok s.kind := by
    cases s.kind <;> rfl
  rw [ImportSite.read, ImportSite.toValue, Reader.model_record, Reader.required_record rfl,
    Reader.defaulted_record rfl, Reader.defaulted_record rfl, Reader.defaulted_record rfl, kind]
  rfl

theorem IssueLocation.read_toValue (l : IssueLocation) : IssueLocation.read l.toValue = .ok l := by
  have column : Reader.optional Reader.integer (Value.ofOption .int l.column) = .ok l.column :=
    Reader.optional_ofOption (fun _ _ => rfl) nofun
  rw [read, toValue, Reader.model_record, Reader.required_record rfl, Reader.required_record rfl,
    Reader.defaulted_record rfl, column]
  rfl

/-- An issue with an identifier keeps it, and none is made for an issue without a rule. -/
theorem Issue.withId_record {fields : List (String × Value)} {id ruleId : Text}
    (idFound : fields.lookup "id" = some (.str id))
    (ruleFound : fields.lookup "rule_id" = some (.str ruleId)) (named : id = [] → ruleId = []) :
    withId (Mapping.record fields) = Mapping.record fields := by
  rw [withId, Mapping.find?_record, idFound]
  cases id with
  | cons c id => rfl
  | nil =>
    have unmade : derivedId? (Mapping.record fields) = none := by
      rw [derivedId?, Mapping.find?_record, Mapping.find?_record, ruleFound, named rfl]
      split
      next found _ =>
        cases found
        rfl
      next => rfl
    rw [unmade]
    rfl

theorem Issue.read_toValue {i : Issue} (identified : i.IsIdentified) :
    Issue.read i.toValue = .ok i := by
  have severity : Severity.reader (.str i.severity.name) = .ok i.severity := by
    cases i.severity <;> rfl
  have symbol : Reader.optional Reader.text (Value.ofOption .str i.symbol) = .ok i.symbol :=
    Reader.optional_ofOption (fun _ _ => rfl) nofun
  have tags : Reader.list Reader.text (.list (i.tags.map .str)) = .ok i.tags :=
    Reader.list_map fun _ _ => rfl
  rw [read, toValue, Reader.model_record, withId_record rfl rfl identified, readFields,
    Reader.defaulted_record rfl, Reader.required_record rfl, Reader.required_record rfl,
    Reader.required_record rfl, Reader.required_record rfl, Reader.defaulted_record rfl,
    Reader.defaulted_record rfl, IssueLocation.read_toValue, severity, symbol, tags]
  rfl

theorem SourceFile.read_toValue {f : SourceFile} (identified : ∀ i ∈ f.issues, i.IsIdentified) :
    SourceFile.read f.toValue = .ok f := by
  have imports : Reader.list ImportSite.read (.list (f.imports.map ImportSite.toValue)) =
      .ok f.imports :=
    Reader.list_map fun s _ => s.read_toValue
  have issues : Reader.list Issue.read (.list (f.issues.map Issue.toValue)) = .ok f.issues :=
    Reader.list_map fun i member => Issue.read_toValue (identified i member)
  rw [read, toValue, Reader.model_record, Reader.required_record rfl, Reader.required_record rfl,
    Reader.defaulted_record rfl, Reader.defaulted_record rfl, imports, issues]
  rfl

theorem Summary.read_toValue {s : Summary} (bySeverity : s.bySeverity.keys.Nodup)
    (byRule : s.byRule.keys.Nodup) : Summary.read s.toValue = .ok s := by
  have table {t : Table Int} (distinct : t.keys.Nodup) :
      Reader.table Reader.integer (Value.ofTable .int t) = .ok t :=
    Reader.table_ofTable distinct fun _ _ => rfl
  rw [read, toValue, Reader.model_record, Reader.required_record rfl, Reader.defaulted_record rfl,
    Reader.defaulted_record rfl, table bySeverity, table byRule]
  rfl

/-- What is known of a scan, with a time in whole minutes from universal time. -/
def ScanRecord.toMinutes (r : ScanRecord) : ScanRecord :=
  { r with timestamp := r.timestamp.toMinutes }

/-- The snapshot with a time in whole minutes from universal time. -/
def Snapshot.toMinutes (s : Snapshot) : Snapshot := { s with scan := s.scan.toMinutes }

theorem Snapshot.toMinutes_eq_self_iff {s : Snapshot} :
    s.toMinutes = s ↔ s.scan.timestamp.InMinutes := by
  rw [← Moment.toMinutes_eq_self_iff]
  rcases s with ⟨⟨timestamp, projectName, root, fileCount, toolVersion⟩, files, summary⟩
  simp [toMinutes, ScanRecord.toMinutes]

theorem ScanRecord.read_toValue {r : ScanRecord} (real : r.timestamp.IsReal) :
    ScanRecord.read r.toValue = .ok r.toMinutes := by
  rw [read, toValue, Reader.model_record, Reader.required_record rfl, Reader.required_record rfl,
    Reader.required_record rfl, Reader.required_record rfl, Reader.required_record rfl,
    Moment.moment_stamp real]
  rfl

theorem Snapshot.read_toValue {s : Snapshot} (regular : s.IsRegular) :
    Snapshot.read s.toValue = .ok s.toMinutes := by
  have files : Reader.list SourceFile.read (.list (s.files.map SourceFile.toValue)) =
      .ok s.files :=
    Reader.list_map fun f member => SourceFile.read_toValue (regular.identified f member)
  have summary : Reader.optional Summary.read (Value.ofOption Summary.toValue s.summary) =
      .ok s.summary :=
    Reader.optional_ofOption
      (fun m member =>
        Summary.read_toValue (regular.distinct m member).1 (regular.distinct m member).2) nofun
  rw [read, toValue, Reader.model_record, Reader.required_record rfl, Reader.required_record rfl,
    Reader.defaulted_record rfl, ScanRecord.read_toValue regular.timestamp, files, summary]
  rfl

/-! ## JSON holds the values of snapshots -/

/-- The integers of an import site. -/
def Script.ImportSite.integers (s : ImportSite) : List Int := [s.line, s.column]

/-- The integers of an issue. -/
def Issue.integers (i : Issue) : List Int := i.location.line :: i.location.column.toList

/-- The integers of a source file. -/
def SourceFile.integers (f : SourceFile) : List Int :=
  f.imports.flatMap ImportSite.integers ++ f.issues.flatMap Issue.integers

/-- The integers of counts. -/
def Summary.integers (s : Summary) : List Int :=
  s.total :: (s.bySeverity.map Prod.snd ++ s.byRule.map Prod.snd)

/-- The integers of a snapshot. -/
def Snapshot.integers (s : Snapshot) : List Int :=
  s.scan.fileCount :: (s.files.flatMap SourceFile.integers ++ s.summary.elim [] Summary.integers)

variable {limit : Option Nat}

namespace Json.Holds

theorem record {fields : List (String × Value)} (distinct : (fields.map Prod.fst).Nodup)
    (held : ∀ f ∈ fields, Holds limit f.2) : Holds limit (Value.record fields) := by
  have same : Value.record fields =
      .map (Mapping.ofTable (fields.map fun f => (Text.ofString f.1, f.2))) := by
    simp [Value.record, Mapping.ofTable]
  have injective : Function.Injective Text.ofString := fun a b spelt => by
    rwa [Text.ofString, Text.ofString, Text.ofChars_inj, String.toList_inj] at spelt
  rw [same]
  refine .map ?_ ?_ ?_
  -- Names that differ as strings differ as texts.
  · rw [Table.keys, List.map_map]
    change (fields.map (Text.ofString ∘ Prod.fst)).Nodup
    rw [← List.map_map]
    exact distinct.map injective
  · rintro e member
    obtain ⟨f, -, rfl⟩ := List.mem_map.1 member
    exact Text.isScalar_ofChars _
  · intro e member
    obtain ⟨f, listed, rfl⟩ := List.mem_map.1 member
    exact held f listed

theorem items {α : Type} {write : α → Value} {as : List α}
    (held : ∀ a ∈ as, Holds limit (write a)) : Holds limit (.list (as.map write)) :=
  .list (List.forall_mem_map.2 held)

theorem ofOption {α : Type} {write : α → Value} {o : Option α}
    (held : ∀ a ∈ o, Holds limit (write a)) : Holds limit (Value.ofOption write o) := by
  cases o with
  | none => exact .null
  | some a => exact held a rfl

theorem counts {t : Table Int} (distinct : t.keys.Nodup) (scalar : ∀ e ∈ t, e.1.isScalar = true)
    (fits : ∀ i ∈ t.map Prod.snd, Fits limit i) : Holds limit (Value.ofTable .int t) := by
  have same : Value.ofTable .int t =
      .map (Mapping.ofTable (t.map fun e => (e.1, Value.int e.2))) := by
    simp [Value.ofTable, Mapping.ofTable]
  rw [same]
  rw [List.forall_mem_map] at fits
  refine .map ?_ ?_ ?_
  · simpa [Table.keys, Function.comp_def] using distinct
  · exact List.forall_mem_map.2 scalar
  · exact List.forall_mem_map.2 fun e member => .int (fits e member)

end Json.Holds

open Json (Fits Holds)

theorem Script.ImportSite.holds_toValue {s : ImportSite} (scalar : s.specifier.isScalar = true)
    (fits : ∀ i ∈ s.integers, Fits limit i) : Holds limit s.toValue := by
  simp only [integers, List.forall_mem_cons] at fits
  obtain ⟨line, column, -⟩ := fits
  refine .record (by simp) ?_
  simp only [List.forall_mem_cons]
  exact ⟨.str scalar, .str (Text.isScalar_ofChars _), .int line, .int column, List.forall_mem_nil _⟩

theorem Issue.holds_toValue {i : Issue} (scalar : i.IsScalar)
    (fits : ∀ n ∈ i.integers, Fits limit n) : Holds limit i.toValue := by
  simp only [integers, List.forall_mem_cons, Option.mem_toList] at fits
  obtain ⟨line, column⟩ := fits
  have location : Holds limit i.location.toValue := by
    refine .record (by simp) ?_
    simp only [List.forall_mem_cons]
    exact ⟨.str scalar.filePath, .int line, .ofOption fun n member => .int (column n member),
      List.forall_mem_nil _⟩
  refine .record (by simp) ?_
  simp only [List.forall_mem_cons]
  exact ⟨.str scalar.id, .str scalar.ruleId, .str (Text.isScalar_ofChars _), .str scalar.message,
    location, .ofOption fun t member => .str (scalar.symbol t member),
    .items fun t member => .str (scalar.tags t member), List.forall_mem_nil _⟩

theorem SourceFile.holds_toValue {f : SourceFile} (scalar : f.IsScalar)
    (fits : ∀ n ∈ f.integers, Fits limit n) : Holds limit f.toValue := by
  simp only [integers, List.forall_mem_append, List.forall_mem_flatMap] at fits
  obtain ⟨imports, issues⟩ := fits
  refine .record (by simp) ?_
  simp only [List.forall_mem_cons]
  exact ⟨.str scalar.path, .str scalar.language,
    .items fun s member => s.holds_toValue (scalar.imports s member) (imports s member),
    .items fun i member => i.holds_toValue (scalar.issues i member) (issues i member),
    List.forall_mem_nil _⟩

theorem Summary.holds_toValue {s : Summary} (scalar : s.IsScalar)
    (distinct : s.bySeverity.keys.Nodup ∧ s.byRule.keys.Nodup)
    (fits : ∀ n ∈ s.integers, Fits limit n) : Holds limit s.toValue := by
  simp only [integers, List.forall_mem_cons, List.forall_mem_append] at fits
  obtain ⟨total, bySeverity, byRule⟩ := fits
  refine .record (by simp) ?_
  simp only [List.forall_mem_cons]
  exact ⟨.int total, .counts distinct.1 scalar.bySeverity bySeverity,
    .counts distinct.2 scalar.byRule byRule, List.forall_mem_nil _⟩

theorem ScanRecord.holds_toValue {r : ScanRecord} (scalar : r.IsScalar)
    (fits : Fits limit r.fileCount) : Holds limit r.toValue := by
  have stamp := r.timestamp.isScalar_stamp
  refine .record (by simp) ?_
  simp only [List.forall_mem_cons]
  exact ⟨.str stamp, .str scalar.projectName, .str scalar.root, .int fits,
    .str scalar.toolVersion, List.forall_mem_nil _⟩

theorem Snapshot.holds_toValue {s : Snapshot} (scalar : s.IsScalar) (regular : s.IsRegular)
    (fits : ∀ n ∈ s.integers, Fits limit n) : Holds limit s.toValue := by
  simp only [integers, List.forall_mem_cons, List.forall_mem_append,
    List.forall_mem_flatMap] at fits
  obtain ⟨fileCount, files, summary⟩ := fits
  refine .record (by simp) ?_
  simp only [List.forall_mem_cons]
  refine ⟨ScanRecord.holds_toValue scalar.scan fileCount,
    .items fun f member => f.holds_toValue (scalar.files f member) (files f member),
    .ofOption fun m member => ?_, List.forall_mem_nil _⟩
  rw [Option.mem_def.1 member] at summary
  exact m.holds_toValue (scalar.summary m member) (regular.distinct m member) summary

/-! ## The report -/

namespace Snapshot

/-- The report of a snapshot is JSON, which spells the value of the snapshot. JSON itself sets no limit
    to integers, and a reader that allows them 4300 digits reads the report where they have no more. -/
theorem report?_spells {s : Snapshot} (scalar : s.IsScalar) (regular : s.IsRegular) :
    ∃ cs, s.report? = some (Text.ofChars cs) ∧
      Json.parseWithin? none cs = some s.toValue ∧
      ((∀ i ∈ s.integers, Fits (some 4300) i) → Json.parse? cs = some s.toValue) := by
  have held : Holds none s.toValue := holds_toValue scalar regular fun _ _ => nofun
  -- Nothing keeps the text from the file, and its characters are those that are parsed.
  have wellFormed : (Json.render 0 s.toValue).isWellFormed = true := held.isScalar_render 0
  obtain ⟨cs, written⟩ := Text.exists_ofChars wellFormed
  have spelt : Json.written 0 s.toValue = cs := by
    rw [Json.written, written, Text.scalars_ofChars]
  refine ⟨cs, ?_, ?_, ?_⟩
  · rw [report?, if_pos wellFormed, written]
  · rw [← spelt]
    exact held.parseWithin?_written 0
  · intro fits
    rw [← spelt]
    exact (holds_toValue scalar regular fits).parseWithin?_written 0

/-- JSON of a snapshot with quotes, control characters and no identifier, whose numbers are partly
    texts. -/
def tangledValue : Value :=
  .map [
    ("metadata", .map [("timestamp", .str "2024-02-29T23:59:59.5-09:30"),
      ("project_name", .str "say \"\\\" \n\x01 é 😀"), ("root", .str "/"),
      ("file_count", .bool true), ("tool_version", .str "0.1.0")]),
    ("files", .list [.map [("path", .str "a.js"), ("language", .str "javascript"),
      ("imports", .list [.map [("specifier", .str "./b")]]),
      ("issues", .list [.map [("rule_id", .str "rule"), ("severity", .str "error"),
        ("message", .str ""),
        ("location", .map [("file_path", .str "a.js"), ("line", .str " 12 ")])]])]]),
    ("issues_summary", .map [("total_issues", .int 1000000000000000000000000000000),
      ("by_rule", .map [("rule", .int (-1))])])]

/-- The snapshot that is read; the identifier holds the line as it was written. -/
def tangled : Snapshot where
  scan :=
    ⟨⟨⟨2024, 2, 29⟩, 23, 59, 59, 500000, some (-34200)⟩, "say \"\\\" \n\x01 é 😀", "/", 1, "0.1.0"⟩
  files :=
    [⟨"a.js", "javascript", [⟨"./b", .importing, 1, 1⟩],
      [⟨"rule:a.js: 12 ", "rule", .error, "", ⟨"a.js", 12, none⟩, none, []⟩]⟩]
  summary := some ⟨1000000000000000000000000000000, [], [("rule", -1)]⟩

/-- A snapshot from the start of 1850, where clocks were 19 minutes and 32 seconds ahead of universal
    time. -/
def sundialValue : Value :=
  .map [("metadata", .map [
      ("timestamp", .moment ⟨⟨⟨1850, 1, 1⟩, 0, 0, 0, 0, some 1172⟩, by decide⟩),
      ("project_name", .str "proj"), ("root", .str "/r/proj"), ("file_count", .int 0),
      ("tool_version", .str "0.1.0")]),
    ("files", .list [])]

/-- The snapshot that is read, with any time zone. -/
def sundial (offset : Int) : Snapshot where
  scan := ⟨⟨⟨1850, 1, 1⟩, 0, 0, 0, 0, some offset⟩, "proj", "/r/proj", 0, "0.1.0"⟩
  files := []
  summary := none

end Snapshot

end ImportPolicy
