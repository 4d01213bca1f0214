import ImportPolicy.Config.Section
import ImportPolicy.Language
import ImportPolicy.Path
import ImportPolicy.Text.Table

/-! # Languages of files

The suffix of a file's name, in lower case, says its language.

* `Config.suffixesOf` — the suffixes that a section maps to known languages.
* `Config.builtInSuffixes` — the suffixes where no section says otherwise.
* `Config.languageAt?` — what a table of suffixes gives for a path. -/

namespace ImportPolicy.Config

/-- A suffix in lower case that starts with a point. -/
def normalSuffix (t : Text) : Text :=
  if Text.startsWith t "." then Text.lower t else "." ++ Text.lower t

/-- The table with the suffixes of a language, where a later language replaces an earlier one. -/
def putSuffixes (table : Table Language) (l : Language) (suffixes : List Text) : Table Language :=
  suffixes.foldl (fun table suffix => table.put suffix l) table

/-- The suffixes that a language's own section lists. -/
def listedSuffixes (v : Value) : Except SectionError (List Text) := do
  let listed ← membersOf (sectionOr (← entriesOf v) "extensions" (.list []))
  return (← listed.mapM textOf).map normalSuffix

/-- The table with what the section of one language lists. Other languages are passed over. -/
def putSection (table : Table Language) (entry : Value × Value) :
    Except SectionError (Table Language) :=
  match entry.1.text?.bind Language.ofName? with
  | some l => return putSuffixes table l (← listedSuffixes entry.2)
  | none => return table

/-- The suffixes that a section maps to known languages. -/
def suffixesOf (v : Value) : Except SectionError (Table Language) := do
  (← entriesOf v).foldlM putSection []

/-- The suffixes where no section says otherwise. -/
def builtInSuffixes : Table Language :=
  Language.all.foldl (fun table l => putSuffixes table l l.suffixes) []

/-- What a table of suffixes gives for a path. -/
def languageAt? {α : Type} (table : Table α) (p : Path) : Option α :=
  table.find? (Text.lower p.suffix)

end ImportPolicy.Config
