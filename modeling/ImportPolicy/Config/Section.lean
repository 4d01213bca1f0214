import ImportPolicy.Text.Case
import ImportPolicy.Value.Parts

/-! # Sections of a configuration

A configuration may hold anything, so what is taken from it has to be looked at first.

* `Config.SectionError` — how a value is not what is needed.
* `Config.fieldsOf`, `Config.entriesOf`, `Config.membersOf`, `Config.textOf` — a value as what is
  needed.
* `Config.ruleFields`, `Config.settingsFields` — the sections of the rule and of the resolver.
* `Config.ignoredNames` — the names of directories whose files are left out. -/

namespace ImportPolicy.Config

/-- How a value is not what is needed: it has no entries, it is no collection, it holds no fields
    with names, or it is no text but bytes or something else. -/
inductive SectionError where
  | notMapping
  | notCollection
  | notFields
  | notText
  | bytesForText
  deriving DecidableEq

/-- The entries of a value that has to be a mapping. -/
def entriesOf : Value → Except SectionError Mapping
  | .map entries => .ok entries
  | _ => .error .notMapping

/-- The fields in a value that has to be a mapping whose keys are texts. -/
def fieldsOf : Value → Except SectionError Mapping
  | .map entries =>
    if entries.all fun e => e.1.text?.isSome then .ok entries else .error .notFields
  | _ => .error .notFields

/-- The members of a value that has to be a collection. -/
def membersOf (v : Value) : Except SectionError (List Value) :=
  match v.parts? with
  | some members => .ok members
  | none => .error .notCollection

/-- The text in a value that has to be one. -/
def textOf : Value → Except SectionError Text
  | .str t => .ok t
  | .bytes _ => .error .bytesForText
  | _ => .error .notText

/-- The value of a section, or another one where it is missing. -/
def sectionOr (config : Mapping) (name : Text) (absent : Value) : Value :=
  (config.find? name).getD absent

/-- The fields of the rule on import extensions. -/
def ruleFields (config : Mapping) : Except SectionError Mapping := do
  let rules ← entriesOf (sectionOr config "rules" (.map []))
  fieldsOf (sectionOr rules "import_extensions" (.map []))

/-- The fields of the resolver's settings. -/
def settingsFields (config : Mapping) : Except SectionError Mapping :=
  fieldsOf (sectionOr config "settings" (.map []))

/-- The names in a list of directories, without slashes around them. Empty names say nothing. -/
def directoryNames (v : Value) : Except SectionError (List Text) := do
  if !v.isTruthy then return []
  let names ← (← membersOf v).mapM textOf
  return (names.map (Text.strip (· = .scalar '/'))).filter fun name => !name.isEmpty

/-- The names of directories whose files are left out. -/
def ignoredNames (config : Mapping) : Except SectionError (List Text) :=
  directoryNames (sectionOr config "ignore_paths" (.list []))

end ImportPolicy.Config
