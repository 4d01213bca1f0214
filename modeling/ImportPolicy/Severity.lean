import ImportPolicy.Schema.Reader

/-! # Severities

* `Severity` — how serious an issue is.
* `Severity.name`, `Severity.ofName?` — the word for a severity. -/

namespace ImportPolicy

/-- How serious an issue is. -/
inductive Severity where
  | info
  | warning
  | error
  deriving DecidableEq, Inhabited

namespace Severity

/-- All severities. -/
def all : List Severity := [.info, .warning, .error]

/-- The word for a severity. -/
def name : Severity → String
  | .info => "info"
  | .warning => "warning"
  | .error => "error"

/-- The severity that a word names. -/
def ofName? (t : Text) : Option Severity := all.find? fun s => Text.ofString s.name = t

theorem ofName?_name (s : Severity) : ofName? s.name = some s := by cases s <;> decide

/-- Reads a severity by its name. -/
def reader : Schema.Reader Severity := Schema.Reader.choice (all.map name) ofName?

end Severity

end ImportPolicy
