import ImportPolicy.Policy.Options
import ImportPolicy.Severity
import ImportPolicy.Value.Parts

/-! # Configuration of the rule

* `RuleConfig` — whether the rule runs, how serious its issues are, and its options.
* `RuleConfig.read`, `RuleConfig.entries` — the configuration that a mapping holds, and the mapping
  that holds it.
* `RuleConfig.policy` — the policy that the options say. -/

namespace ImportPolicy

open Schema

/-- How the rule on import extensions is configured. -/
structure RuleConfig where
  enabled : Bool := true
  severity : Severity := .error
  options : List Value := []
  deriving Inhabited

namespace RuleConfig

/-- The name that messages use for the configuration. -/
def modelName : String := "ImportExtensionsRuleConfig"

/-- Options as a list: none for null, and a text or a mapping alone is the only option. -/
def options? : Reader (List Value)
  | .null => .ok []
  | v => Reader.values v.wrapped

/-- The configuration in the fields of a mapping. -/
def read (entries : Mapping) : Checked RuleConfig :=
  RuleConfig.mk
    <$> Reader.defaulted entries "enabled" true Reader.truth
    <*> Reader.defaulted entries "severity" .error Severity.reader
    <*> Reader.defaulted entries "options" [] options?

/-- A mapping that holds the configuration. -/
def entries (c : RuleConfig) : Mapping :=
  [("enabled", .bool c.enabled), ("severity", .str c.severity.name), ("options", .list c.options)]

/-- The policy that the options say. -/
def policy (c : RuleConfig) : Except Policy.OptionsError Policy := Policy.ofOptions c.options

end RuleConfig

end ImportPolicy
