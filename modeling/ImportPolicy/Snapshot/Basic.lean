import ImportPolicy.Script.Imports
import ImportPolicy.Snapshot.Issue

/-! # Snapshots

A snapshot of a project lists its source files with their import sites and, after a run of the
rules, their issues.

* `SourceFile` — a file with its import sites and issues.
* `Summary` — how many issues there are, by severity and by rule.
* `Snapshot` — the files of a project. -/

namespace ImportPolicy

open Script (ImportSite)

/-- A source file of a project. -/
structure SourceFile where
  path : Text
  language : Text
  imports : List ImportSite
  issues : List Issue
  deriving DecidableEq, Inhabited

/-- Counts of issues. -/
structure Summary where
  total : Int
  bySeverity : Table Int
  byRule : Table Int
  deriving DecidableEq, Inhabited

/-- What is known of a scan as a whole. -/
structure ScanRecord where
  timestamp : Moment
  projectName : Text
  root : Text
  fileCount : Int
  toolVersion : Text
  deriving DecidableEq

/-- The files of a project. -/
structure Snapshot where
  scan : ScanRecord
  files : List SourceFile
  summary : Option Summary
  deriving DecidableEq

namespace Summary

/-- A table of counts with one more at a key. -/
def bump (counts : Table Int) (key : Text) : Table Int :=
  counts.put key ((counts.find? key).getD 0 + 1)

/-- The counts with one more issue. -/
def count (s : Summary) (i : Issue) : Summary :=
  ⟨s.total + 1, bump s.bySeverity i.severity.name, bump s.byRule i.ruleId⟩

/-- The counts of issues. -/
def ofIssues (issues : List Issue) : Summary := issues.foldl count ⟨0, [], []⟩

/-- The counts of the issues of files. -/
def ofFiles (files : List SourceFile) : Summary := ofIssues (files.flatMap SourceFile.issues)

end Summary

end ImportPolicy
