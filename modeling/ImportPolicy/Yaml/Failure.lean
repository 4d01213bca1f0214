import ImportPolicy.Text.Basic

/-! # Failures of YAML

* `Yaml.Failure` — why a text is no YAML document, or why one holds no value. -/

namespace ImportPolicy.Yaml

/-- Why a text cannot be loaded. A malformed text breaks the rules of the format or holds a tag that
    stands for nothing. An endless document contains itself. The other failures come from scalars whose
    tag promises more than their text holds. -/
inductive Failure where
  | malformed
  | invalidValue (message : Text)
  | emptyNumber
  | unknownTruthWord
  | unreadableTimestamp
  | numberTooLarge
  | endless
  deriving DecidableEq

end ImportPolicy.Yaml
