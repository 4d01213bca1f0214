import ImportPolicy.Config.Section
import ImportPolicy.Rule.Config
import ImportPolicy.Settings

/-! # What a configuration says

* `Config.Rejection` — why a section is not accepted.
* `Config.rule`, `Config.settings` — the rule and the settings that a configuration holds.
* `Config.validate` — whether both are accepted. -/

namespace ImportPolicy.Config

/-- Why a section is not accepted: its options contradict each other, or its fields have faults. -/
inductive Rejection where
  | options (e : Policy.OptionsError)
  | fields (model : String) (problems : List Schema.Problem)

/-- The wording of a rejection. -/
def Rejection.message : Rejection → Text
  | .options e => e.message
  | .fields model problems => Schema.Problem.report model problems

/-- Why a section cannot be used: it is rejected, or it is nothing that has fields. -/
inductive UseError where
  | rejected (r : Rejection)
  | shape (e : SectionError)

/-- A section that has to be accepted. -/
def accepted {α : Type} (model : String) : Schema.Checked α → Except UseError α
  | .ok a => .ok a
  | .bad problems => .error (.rejected (.fields model problems))

/-- The rule on import extensions. -/
def rule (config : Mapping) : Except UseError RuleConfig := do
  let fields ← (ruleFields config).mapError .shape
  accepted RuleConfig.modelName (RuleConfig.read fields)

/-- The policy that the options of a rule say. -/
def policyOf (c : RuleConfig) : Except UseError Policy :=
  c.policy.mapError fun e => .rejected (.options e)

/-- The settings of the resolver. -/
def settings (config : Mapping) : Except UseError Settings := do
  let fields ← (settingsFields config).mapError .shape
  accepted Settings.modelName (Settings.read fields)

/-- Accepts a configuration whose rule, policy and settings are accepted. -/
def validate (config : Mapping) : Except UseError Unit := do
  let c ← rule config
  let _ ← policyOf c
  let _ ← settings config

end ImportPolicy.Config
