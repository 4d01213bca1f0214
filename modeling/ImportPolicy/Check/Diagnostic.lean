import ImportPolicy.Text.Basic

/-! # Diagnostics

* `Diagnostic` — an extension that is missing from a specifier, or one that should not be there.
* `Diagnostic.message` — its wording. -/

namespace ImportPolicy

/-- What is wrong with the extension of a specifier. -/
inductive DiagnosticKind where
  | missing
  | unexpected
  deriving DecidableEq

/-- The word for a kind. -/
def DiagnosticKind.name : DiagnosticKind → String
  | .missing => "missing"
  | .unexpected => "unexpected"

/-- A finding about one specifier. -/
structure Diagnostic where
  kind : DiagnosticKind
  specifier : Text
  extension : Text
  deriving DecidableEq

namespace Diagnostic

/-- The wording of a finding. -/
def message (d : Diagnostic) : Text :=
  match d.kind with
  | .missing =>
    "Missing file extension " ++
      (if d.extension.isEmpty then [] else "\"" ++ d.extension ++ "\" ") ++
      "for \"" ++ d.specifier ++ "\""
  | .unexpected =>
    "Unexpected use of file extension \"" ++ d.extension ++ "\" for \"" ++ d.specifier ++ "\""

end Diagnostic

end ImportPolicy
