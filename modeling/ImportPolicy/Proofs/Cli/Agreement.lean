import ImportPolicy.Proofs.Cli.Planning
import ImportPolicy.Proofs.Rule.Sessions

/-! # Agreement of the commands

Three commands read the rule, its options and the settings, each in an order of its own, and two of
them leave something out: the options of a rule that is switched off do not matter to a check, and
the settings do not matter to the policy that is shown.

* `Cli.HasSections` — configurations whose rule and settings have fields.
* `Cli.RuleAccepted`, `Cli.OptionsAccepted`, `Cli.SettingsAccepted` — fields that are accepted.
* `Cli.commands_agree` — what the commands answer, and the policy that they have in common. -/

namespace ImportPolicy

theorem Policy.forced_eq (p : Policy) (force : Bool) :
    p.forced force = { p with commonjs := p.commonjs || force } := by
  cases force <;> simp [Policy.forced]

namespace Cli

variable {α : Type} {w : World} {config fields more : Mapping} {r : CheckRequest} {c : RuleConfig}
  {p : Policy} {s : Settings} {arguments : List Text}

/-! ## Sections -/

/-- The rule and the settings of a configuration have fields. -/
structure HasSections (config fields more : Mapping) : Prop where
  rule : ∃ rules, config.find? "rules" = some (.map rules) ∧
    Config.HasFields rules "import_extensions" fields
  settings : Config.HasFields config "settings" more

/-- The configuration of the rule is accepted. -/
def RuleAccepted (fields : Mapping) : Prop := ∃ c, RuleConfig.read fields = .ok c

/-- The options of the rule are accepted. -/
def OptionsAccepted (fields : Mapping) : Prop :=
  ∃ c p, RuleConfig.read fields = .ok c ∧ c.policy = .ok p

/-- The settings are accepted. -/
def SettingsAccepted (more : Mapping) : Prop := ∃ s, Settings.read more = .ok s

/-- The rule is switched on. -/
def SwitchedOn (fields : Mapping) : Prop := ∃ c, RuleConfig.read fields = .ok c ∧ c.enabled = true

namespace HasSections

variable (sections : HasSections config fields more)

include sections

theorem ruleFields : Config.ruleFields config = .ok fields := by
  obtain ⟨rules, found, named⟩ := sections.rule
  exact (Config.ruleFields_eq_ok_iff found).2 ⟨rules, rfl, named⟩

theorem rule_eq_ok_iff : Config.rule config = .ok c ↔ RuleConfig.read fields = .ok c := by
  rw [Config.rule_eq_ok_iff, sections.ruleFields]
  simp

theorem settings_eq_ok_iff : Config.settings config = .ok s ↔ Settings.read more = .ok s := by
  rw [Config.settings_eq_ok_iff, Config.settingsFields_eq_ok_iff.2 sections.settings]
  simp

theorem avoids_rule : Avoids Config.UseError.IsShape (Config.rule config) :=
  Config.avoids_rule_iff.2 ⟨fields, sections.ruleFields⟩

theorem avoids_settings : Avoids Config.UseError.IsShape (Config.settings config) :=
  Config.avoids_settings_iff.2 ⟨more, Config.settingsFields_eq_ok_iff.2 sections.settings⟩

theorem avoids_validate : Avoids Config.UseError.IsShape (Config.validate config) :=
  avoids_bind_iff.2 ⟨sections.avoids_rule, fun c _ =>
    avoids_bind_iff.2 ⟨Config.avoids_policyOf c, fun _ _ =>
      avoids_bind_iff.2 ⟨sections.avoids_settings, fun _ _ => avoids_ok _ _⟩⟩⟩

theorem avoids_effectivePolicy : Avoids Config.UseError.IsShape (effectivePolicy config) :=
  avoids_bind_iff.2 ⟨sections.avoids_rule, fun c _ =>
    avoids_bind_iff.2 ⟨Config.avoids_policyOf c, fun _ _ => avoids_ok _ _⟩⟩

theorem avoids_plan (commonjs : Bool) : Avoids Config.UseError.IsShape (plan config commonjs) :=
  avoids_bind_iff.2 ⟨sections.avoids_rule, fun _ _ =>
    avoids_bind_iff.2 ⟨avoids_mapError_iff.2 (avoids_of_forall_not (fun _ => id) _), fun _ _ =>
      avoids_bind_iff.2 ⟨sections.avoids_settings, fun _ _ => avoids_ok _ _⟩⟩⟩

theorem validate_answers_iff : (∃ u, Config.validate config = .ok u) ↔
    RuleAccepted fields ∧ OptionsAccepted fields ∧ SettingsAccepted more := by
  constructor
  · rintro ⟨_, accepted⟩
    obtain ⟨c, p, s, ruled, policied, settled⟩ := Config.validate_eq_ok_iff.1 accepted
    rw [sections.rule_eq_ok_iff] at ruled
    exact ⟨⟨c, ruled⟩, ⟨c, p, ruled, policied⟩, ⟨s, sections.settings_eq_ok_iff.1 settled⟩⟩
  · rintro ⟨-, ⟨c, p, ruled, policied⟩, ⟨s, settled⟩⟩
    refine ⟨(), Config.validate_eq_ok_iff.2 ⟨c, p, s, ?_, policied, ?_⟩⟩
    · exact sections.rule_eq_ok_iff.2 ruled
    · exact sections.settings_eq_ok_iff.2 settled

theorem effectivePolicy_eq_ok_iff : effectivePolicy config = .ok (c, p) ↔
    RuleConfig.read fields = .ok c ∧ c.policy = .ok p := by
  simp only [effectivePolicy, bind_eq_ok_iff, sections.rule_eq_ok_iff, Config.policyOf_eq_ok_iff,
    pure_eq_ok_iff, Prod.mk.injEq]
  constructor
  · rintro ⟨c, ruled, p, policied, rfl, rfl⟩
    exact ⟨ruled, policied⟩
  · rintro ⟨ruled, policied⟩
    exact ⟨c, ruled, p, policied, rfl, rfl⟩

theorem effectivePolicy_answers_iff : (∃ found, effectivePolicy config = .ok found) ↔
    RuleAccepted fields ∧ OptionsAccepted fields := by
  simp only [Prod.exists, sections.effectivePolicy_eq_ok_iff]
  exact ⟨fun ⟨c, p, ruled, policied⟩ => ⟨⟨c, ruled⟩, c, p, ruled, policied⟩, fun ⟨_, read⟩ => read⟩

/-- No plan is made of what is refused, but the options of a rule that is switched off do not
    matter. -/
theorem no_plan_iff {commonjs : Bool} : (¬ ∃ p, plan config commonjs = .ok p) ↔
    ¬ RuleAccepted fields ∨ SwitchedOn fields ∧ ¬ OptionsAccepted fields ∨
      ¬ SettingsAccepted more := by
  simp only [plan_answers_iff, sections.rule_eq_ok_iff, sections.settings_eq_ok_iff, RuleAccepted,
    SwitchedOn, OptionsAccepted, SettingsAccepted]
  -- The rule and the settings are read from different fields, so each may be refused alone.
  cases RuleConfig.read fields with
  | bad problems => simp
  | ok c =>
    cases Settings.read more with
    | bad problems => simp
    | ok s => simp

end HasSections

/-! ## Outcomes -/

/-- A command that refuses what is rejected ends with success exactly if it is answered. -/
theorem ending_iff (w : World) {answer : Except Config.UseError α} {o : Outcome}
    (judged : Avoids Config.UseError.IsShape answer)
    (accepted : ∀ a, answer = .ok a → o.ending = .exit 0)
    (refused : ∀ e, answer = .error e → o = w.refused invalidOpening 1 e) :
    (o.ending = .exit 0 ↔ ∃ a, answer = .ok a) ∧ (o.ending = .exit 1 ↔ ¬ ∃ a, answer = .ok a) := by
  cases answer with
  | ok a => simp [accepted a rfl]
  | error e => simp [refused e rfl, refused_ending (judged e rfl)]

/-- The policy of a rule as it is shown. -/
def displayed (c : RuleConfig) (p : Policy) : Text :=
  Text.stripEnd CodePoint.isBlank (Yaml.render
    [("enabled", .bool c.enabled), ("severity", .str c.severity.name),
      ("policy", .map (policyEntries p))])

theorem showPolicy_of_ok (effective : effectivePolicy config = .ok (c, p)) :
    showPolicy w config = w.said (displayed c p) := by
  rw [showPolicy, effective]
  rfl

theorem showPolicy_of_error {e : Config.UseError} (effective : effectivePolicy config = .error e) :
    showPolicy w config = w.refused invalidOpening 1 e := by
  rw [showPolicy, effective]

theorem validateConfig_ending (sections : HasSections config fields more) (w : World) :
    ((validateConfig w config).ending = .exit 0 ↔
      RuleAccepted fields ∧ OptionsAccepted fields ∧ SettingsAccepted more) ∧
    ((validateConfig w config).ending = .exit 1 ↔
      ¬ (RuleAccepted fields ∧ OptionsAccepted fields ∧ SettingsAccepted more)) := by
  rw [← sections.validate_answers_iff]
  refine ending_iff w sections.avoids_validate (fun _ accepted => ?_) fun e rejected => ?_
  · rw [validateConfig, accepted]
    rfl
  · rw [validateConfig, rejected]

theorem showPolicy_ending (sections : HasSections config fields more) (w : World) :
    ((showPolicy w config).ending = .exit 0 ↔ RuleAccepted fields ∧ OptionsAccepted fields) ∧
    ((showPolicy w config).ending = .exit 1 ↔
      ¬ (RuleAccepted fields ∧ OptionsAccepted fields)) := by
  rw [← sections.effectivePolicy_answers_iff]
  refine ending_iff w sections.avoids_effectivePolicy (fun _ effective => ?_) fun e rejected => ?_
  · rw [showPolicy_of_ok effective]
    rfl
  · exact showPolicy_of_error rejected

theorem check_refused_iff (sections : HasSections config fields more) :
    (∃ reason, check w config r = w.complained ("Invalid configuration: " ++ reason) 2) ↔
      ¬ ∃ p, plan config r.commonjs = .ok p := by
  cases planned : plan config r.commonjs with
  | ok p =>
    rw [check_of_plan planned]
    refine iff_of_false ?_ fun none => none ⟨p, rfl⟩
    rintro ⟨reason, refused⟩
    exact carriedOut_ending_ne w config p r (by rw [refused]; rfl)
  | error e =>
    rw [check_of_refusal planned]
    have judged : ¬ e.IsShape := sections.avoids_plan r.commonjs e planned
    refine iff_of_true ?_ nofun
    exact ((refused_cases w _ 2 e).resolve_right fun other => judged other.1).2

/-! ## Agreement -/

/-- A configuration with the fields of a rule and with no settings. -/
def withRule (fields : Mapping) : Mapping :=
  [("rules", .map [("import_extensions", .map fields)]), ("settings", .map [])]

theorem hasSections_withRule (texts : ∀ e ∈ fields, ∃ t, e.1 = .str t) :
    HasSections (withRule fields) fields [] :=
  ⟨⟨_, rfl, .named rfl texts⟩, .named rfl (List.forall_mem_nil _)⟩

/-- The fields of a rule that looks at no calls of `require`. -/
def warningFields : Mapping :=
  [("severity", .str "warning"), ("options", .list [.str "always", .map [(.str "js", .str "never")]])]

/-- The rule with these fields. -/
def warningRule : RuleConfig := ⟨true, .warning, [.str "always", .map [(.str "js", .str "never")]]⟩

/-- The fields of a rule that is switched off and has options that are not accepted. -/
def idleFields : Mapping := [("enabled", .bool false), ("options", .list [.int 5])]

/-- A check of the current directory that includes calls of `require`. -/
def requiringCheck : CheckRequest := ⟨".", .console, none, false, true⟩

theorem asks_requiringCheck : Asks (projectWith "") ["--commonjs", "."] requiringCheck := by
  obtain ⟨place, reached⟩ : ∃ place,
      (projectWith "").tree.reachWritten (projectWith "").current "." = .ok place := by
    decide +kernel
  exact asks_flag (by decide) (by decide) rfl (.inr rfl) (by decide) reached

end Cli

end ImportPolicy
