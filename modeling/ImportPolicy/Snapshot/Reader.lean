import ImportPolicy.Snapshot.Basic

/-! # Reading snapshots

* `ImportKind.ofName?` — the import kind that a word names.
* `ImportSite.read`, `SourceFile.read`, `Snapshot.read` — what values hold. -/

namespace ImportPolicy

open Schema Script

namespace Script

/-- All import kinds. -/
def ImportKind.all : List ImportKind := [.importing, .exporting, .requiring]

/-- The import kind that a word names. -/
def ImportKind.ofName? (t : Text) : Option ImportKind :=
  ImportKind.all.find? fun k => Text.ofString k.name = t

theorem ImportKind.ofName?_name (k : ImportKind) : ImportKind.ofName? k.name = some k := by
  cases k <;> decide

/-- The name that messages use for an import site. -/
def ImportSite.modelName : String := "ImportRecord"

/-- Reads an import site; it is an import on the first line unless it says otherwise. -/
def ImportSite.read : Reader ImportSite :=
  Reader.model ImportSite.modelName fun entries =>
    ImportSite.mk
      <$> Reader.required entries "specifier" Reader.text
      <*> Reader.defaulted entries "kind" .importing
        (Reader.choice (ImportKind.all.map ImportKind.name) ImportKind.ofName?)
      <*> Reader.defaulted entries "line" 1 Reader.integer
      <*> Reader.defaulted entries "column" 1 Reader.integer

end Script

namespace SourceFile

/-- The name that messages use for a source file. -/
def modelName : String := "FileSnapshot"

/-- Reads a source file. -/
def read : Reader SourceFile :=
  Reader.model modelName fun entries =>
    SourceFile.mk
      <$> Reader.required entries "path" Reader.text
      <*> Reader.required entries "language" Reader.text
      <*> Reader.defaulted entries "imports" [] (Reader.list ImportSite.read)
      <*> Reader.defaulted entries "issues" [] (Reader.list Issue.read)

end SourceFile

/-- Reads counts of issues. -/
def Summary.read : Reader Summary :=
  Reader.model "ProjectIssuesSummary" fun entries =>
    Summary.mk
      <$> Reader.required entries "total_issues" Reader.integer
      <*> Reader.defaulted entries "by_severity" [] (Reader.table Reader.integer)
      <*> Reader.defaulted entries "by_rule" [] (Reader.table Reader.integer)

/-- Reads what is known of a scan. -/
def ScanRecord.read : Reader ScanRecord :=
  Reader.model "ScanMetadata" fun entries =>
    ScanRecord.mk
      <$> Reader.required entries "timestamp" Reader.moment
      <*> Reader.required entries "project_name" Reader.text
      <*> Reader.required entries "root" Reader.text
      <*> Reader.required entries "file_count" Reader.integer
      <*> Reader.required entries "tool_version" Reader.text

namespace Snapshot

/-- The name that messages use for a snapshot. -/
def modelName : String := "ProjectSnapshot"

/-- Reads a snapshot. -/
def read : Reader Snapshot :=
  Reader.model modelName fun entries =>
    Snapshot.mk
      <$> Reader.required entries "metadata" ScanRecord.read
      <*> Reader.required entries "files" (Reader.list SourceFile.read)
      <*> Reader.defaulted entries "issues_summary" none (Reader.optional Summary.read)

end Snapshot

end ImportPolicy
