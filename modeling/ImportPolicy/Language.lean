import ImportPolicy.Text.Basic

/-! # Languages

The languages whose sources are read.

* `Language.name`, `Language.ofName?` — the names of languages in configuration and reports.
* `Language.suffixes` — the suffixes of files in a language, unless configuration says otherwise.
* `Language.isTyped`, `Language.hasMarkup` — what their grammars add to the common core. -/

namespace ImportPolicy

/-- A language of source files. -/
inductive Language where
  | javascript
  | typescript
  | tsx
  deriving DecidableEq

namespace Language

/-- All languages, in the order in which messages name them. -/
def all : List Language := [.javascript, .typescript, .tsx]

/-- The name of a language. -/
def name : Language → String
  | .javascript => "javascript"
  | .typescript => "typescript"
  | .tsx => "tsx"

/-- The language with a name. -/
def ofName? (t : Text) : Option Language := all.find? fun l => Text.ofString l.name = t

/-- The suffixes of files in a language, unless configuration says otherwise. -/
def suffixes : Language → List Text
  | .javascript => [".js", ".mjs", ".cjs", ".jsx"]
  | .typescript => [".ts", ".mts", ".cts"]
  | .tsx => [".tsx"]

/-- Whether the grammar has types. -/
def isTyped : Language → Bool
  | .javascript => false
  | .typescript => true
  | .tsx => true

/-- Whether the grammar has markup elements as expressions. -/
def hasMarkup : Language → Bool
  | .javascript => true
  | .typescript => false
  | .tsx => true

@[simp] theorem ofName?_name (l : Language) : ofName? (Text.ofString l.name) = some l := by
  cases l <;> decide

end Language

end ImportPolicy
