import ImportPolicy.Severity

/-! # Issues

* `Issue` — a finding of a rule at a place in a file.
* `Issue.idOf` — the identifier of an issue that is not given one.
* `Issue.read` — the issue that a value holds. -/

namespace ImportPolicy

open Schema

/-- Where an issue was found. -/
structure IssueLocation where
  filePath : Text
  line : Int
  column : Option Int
  deriving DecidableEq, Inhabited

/-- A finding of a rule. -/
structure Issue where
  id : Text
  ruleId : Text
  severity : Severity
  message : Text
  location : IssueLocation
  symbol : Option Text
  tags : List Text
  deriving DecidableEq, Inhabited

/-- Reads a place in a file. -/
def IssueLocation.read : Reader IssueLocation :=
  Reader.model "IssueLocation" fun entries =>
    IssueLocation.mk
      <$> Reader.required entries "file_path" Reader.text
      <*> Reader.required entries "line" Reader.integer
      <*> Reader.defaulted entries "column" none (Reader.optional Reader.integer)

namespace Issue

/-- The name that messages use for an issue. -/
def modelName : String := "Issue"

/-- The identifier made of a rule, a file and a line. -/
def idOf (ruleId filePath line : Text) : Text := ruleId ++ ":" ++ filePath ++ ":" ++ line

/-- The identifier that the fields of an issue give rise to: the rule, the file and the line as they
    are written, before they are read. There is none if the rule or the place is missing. -/
def derivedId? (entries : Mapping) : Option Text :=
  match Mapping.find? entries "rule_id", Mapping.find? entries "location" with
  | some ruleId, some (.map location) =>
    if ruleId.isTruthy ∧ location ≠ [] then
      some (idOf ruleId.plain
        ((Mapping.find? location "file_path").elim "unknown-file" Value.plain)
        ((Mapping.find? location "line").elim "0" Value.plain))
    else none
  | _, _ => none

/-- The fields of an issue with an identifier, unless they have one or none can be made. -/
def withId (entries : Mapping) : Mapping :=
  if ((Mapping.find? entries "id").elim false Value.isTruthy) then entries
  else match derivedId? entries with
    | some id => Mapping.put entries (.str "id") (.str id)
    | none => entries

/-- Reads the fields of an issue. -/
def readFields (entries : Mapping) : Checked Issue :=
  Issue.mk
    <$> Reader.defaulted entries "id" [] Reader.text
    <*> Reader.required entries "rule_id" Reader.text
    <*> Reader.required entries "severity" Severity.reader
    <*> Reader.required entries "message" Reader.text
    <*> Reader.required entries "location" IssueLocation.read
    <*> Reader.defaulted entries "symbol" none (Reader.optional Reader.text)
    <*> Reader.defaulted entries "tags" [] (Reader.list Reader.text)

/-- Reads an issue. -/
def read : Reader Issue := Reader.model modelName fun entries => readFields (withId entries)

end Issue

end ImportPolicy
