import ImportPolicy.Snapshot.Basic
import ImportPolicy.Value.Display

/-! # Snapshots as values

* `Moment.stamp` — a point in time in the form of ISO 8601.
* `ImportSite.toValue`, `Issue.toValue`, `SourceFile.toValue`, `Summary.toValue`,
  `Snapshot.toValue` — the values that hold them. -/

namespace ImportPolicy

open Script

/-- A value with named fields. -/
def Value.record (fields : List (String × Value)) : Value :=
  .map (fields.map fun f => (.str f.1, f.2))

/-- A table as a value. -/
def Value.ofTable {α : Type} (f : α → Value) (t : Table α) : Value :=
  .map (t.map fun e => (.str e.1, f e.2))

/-- Null or the value of something. -/
def Value.ofOption {α : Type} (f : α → Value) : Option α → Value
  | some a => f a
  | none => .null

/-- The distance from universal time as hours and minutes, or a `Z` if there is none. Its seconds are
    not written. -/
def Moment.stampOffset (seconds : Int) : Text :=
  let minutes := seconds.natAbs / 60
  if seconds = 0 then "Z"
  else (if seconds < 0 then "-" else "+") ++ Text.padded 2 (minutes / 60) ++ ":" ++
    Text.padded 2 (minutes % 60)

/-- A point in time in the form of ISO 8601. -/
def Moment.stamp (m : Moment) : Text :=
  Moment.spell { m with offset := none } "T" ++ m.offset.elim [] stampOffset

/-- An import site as a value. -/
def Script.ImportSite.toValue (s : ImportSite) : Value :=
  .record [("specifier", .str s.specifier), ("kind", .str s.kind.name), ("line", .int s.line),
    ("column", .int s.column)]

/-- A place in a file as a value. -/
def IssueLocation.toValue (l : IssueLocation) : Value :=
  .record [("file_path", .str l.filePath), ("line", .int l.line),
    ("column", .ofOption .int l.column)]

/-- An issue as a value. -/
def Issue.toValue (i : Issue) : Value :=
  .record [("id", .str i.id), ("rule_id", .str i.ruleId), ("severity", .str i.severity.name),
    ("message", .str i.message), ("location", i.location.toValue),
    ("symbol", .ofOption .str i.symbol), ("tags", .list (i.tags.map .str))]

/-- A source file as a value. -/
def SourceFile.toValue (f : SourceFile) : Value :=
  .record [("path", .str f.path), ("language", .str f.language),
    ("imports", .list (f.imports.map ImportSite.toValue)),
    ("issues", .list (f.issues.map Issue.toValue))]

/-- Counts of issues as a value. -/
def Summary.toValue (s : Summary) : Value :=
  .record [("total_issues", .int s.total), ("by_severity", .ofTable .int s.bySeverity),
    ("by_rule", .ofTable .int s.byRule)]

/-- What is known of a scan as a value. -/
def ScanRecord.toValue (r : ScanRecord) : Value :=
  .record [("timestamp", .str r.timestamp.stamp), ("project_name", .str r.projectName),
    ("root", .str r.root), ("file_count", .int r.fileCount), ("tool_version", .str r.toolVersion)]

/-- A snapshot as a value. -/
def Snapshot.toValue (s : Snapshot) : Value :=
  .record [("metadata", s.scan.toValue), ("files", .list (s.files.map SourceFile.toValue)),
    ("issues_summary", .ofOption Summary.toValue s.summary)]

end ImportPolicy
