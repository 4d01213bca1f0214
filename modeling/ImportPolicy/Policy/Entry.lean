import ImportPolicy.Policy.Basic
import ImportPolicy.Schema.Reader

/-! # Option entries

An option list says piece by piece what a policy is. An entry is a word, a flat table of extensions,
or a structured mapping.

* `Entry` — the three kinds of entry.
* `Entry.read` — the entry that a value is.
* `OptionsError` — why a value or a list of values is refused, with its wording. -/

namespace ImportPolicy.Policy

open Schema

/-- What a structured entry sets; a field without a value sets nothing. -/
structure Overrides where
  pattern : Option (Table Modifier)
  ignorePackages : Option Bool
  commonjs : Option Bool
  deriving DecidableEq

/-- An entry of an option list. -/
inductive Entry where
  | word (m : Modifier)
  | flat (pattern : Table Modifier)
  | structured (overrides : Overrides)
  deriving DecidableEq

/-- The kinds of entry. -/
inductive EntryKind where
  | word
  | flat
  | structured
  deriving DecidableEq

/-- The name that messages use for a kind. -/
def EntryKind.name : EntryKind → String
  | .word => "PolicyEntry"
  | .flat => "LegacyPatternEntry"
  | .structured => "StructuredEntry"

/-- The kind of an entry. -/
def Entry.kind : Entry → EntryKind
  | .word _ => .word
  | .flat _ => .flat
  | .structured _ => .structured

/-- Why options are refused. -/
inductive OptionsError where
  | invalid (raw : Value) (kind : EntryKind) (problems : List Problem)
  | noEntry (raw : Value)
  | shape (kinds : List EntryKind)

/-- The wording of a refusal. -/
def OptionsError.message : OptionsError → Text
  | .invalid raw kind problems =>
    "Invalid option entry " ++ raw.display ++ ": " ++ Problem.report kind.name problems
  | .noEntry raw =>
    "Invalid option entry " ++ raw.display ++ ": expected a policy string or a mapping."
  | .shape kinds =>
    "Unsupported option list (" ++
      Text.joinWith ", " (kinds.map fun k => Text.ofString k.name) ++
      "): expected a policy string optionally followed by one pattern mapping or structured object."

/-- Reads a modifier by its name, given as a string or as bytes. -/
def modifier : Reader Modifier := fun v =>
  match (Reader.lenientText? v).bind fun t => t.bind Modifier.ofName? with
  | some m => .ok m
  | none => .complain (.choiceExpected (Modifier.all.map Modifier.name))

/-- Whether a mapping is a flat table: none of the two telling keys, and only texts as data. -/
def isFlat (entries : Mapping) : Bool :=
  !Mapping.has entries "pattern" && !Mapping.has entries "ignorePackages" &&
    entries.all fun e => e.2.text?.isSome

/-- The name under which a mapping switches packages off: the first of two that it has. -/
def ignorePackagesName (entries : Mapping) : String :=
  if Mapping.has entries "ignorePackages" ∨ ¬ Mapping.has entries "ignore_packages" then
    "ignorePackages"
  else "ignore_packages"

/-- Reads the fields of a structured entry. -/
def overrides (entries : Mapping) : Checked Overrides :=
  Overrides.mk
    <$> Reader.defaulted entries "pattern" none (Reader.optional (Reader.table modifier))
    <*> Reader.defaulted entries (ignorePackagesName entries) none (Reader.optional Reader.truth)
    <*> Reader.defaulted entries "commonjs" none (Reader.optional Reader.truth)

/-- The outcome of reading a value as an entry of a kind. -/
def ofChecked {α : Type} (raw : Value) (kind : EntryKind) (make : α → Entry) :
    Checked α → Except OptionsError Entry
  | .ok a => .ok (make a)
  | .bad problems => .error (.invalid raw kind problems)

/-- The entry that a value is. -/
def Entry.read : Value → Except OptionsError Entry
  | .str t =>
    ofChecked (.str t) .word .word ((modifier (.str t)).under (.name "modifier"))
  | .map entries =>
    if isFlat entries then
      ofChecked (.map entries) .flat .flat (Reader.table modifier (.map entries))
    else ofChecked (.map entries) .structured .structured (overrides entries)
  | raw => .error (.noEntry raw)

end ImportPolicy.Policy
