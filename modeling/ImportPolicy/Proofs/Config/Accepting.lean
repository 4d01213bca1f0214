import ImportPolicy.Proofs.Config.Loading
import ImportPolicy.Proofs.Config.Sections

/-! # What is accepted

The rule, its options and the settings are looked at one after another. What is not accepted is
rejected for a reason, but what has no fields at all cannot be looked at.

* `Config.UseError.IsShape` — errors of sections that have no fields.
* `Config.rule_eq_ok_iff`, `Config.settings_eq_ok_iff`, `Config.validate_eq_ok_iff` — what is
  accepted.
* `Config.Judgeable`, `Config.avoids_validate_iff` — the configurations that are accepted or
  rejected. -/

namespace ImportPolicy.Config

variable {α : Type} {config rules fields : Mapping} {outcome : Except SectionError Mapping}
  {model : String} {checked : Schema.Checked α} {read : Mapping → Schema.Checked α} {a : α}
  {c : RuleConfig} {p : Policy} {s : Settings}

/-! ## Sections that are loaded -/

/-- No section is missing from what is loaded. -/
theorem find?_of_load {surroundings : Surroundings} {project : Path} {file : Option Path}
    (loaded : load surroundings project file = .ok config) {name : Text}
    (listed : name ∈ sectionNames) : ∃ v, config.find? name = some v := by
  obtain ⟨user, own, -, -, rfl⟩ := load_eq_ok_iff.1 loaded
  exact Option.isSome_iff_exists.1 (has_layers listed user own)

/-! ## Fields that are accepted -/

/-- The error is that a section has no fields. -/
def UseError.IsShape : UseError → Prop
  | .shape _ => True
  | .rejected _ => False

instance : DecidablePred UseError.IsShape
  | .shape _ => isTrue trivial
  | .rejected _ => isFalse id

@[simp] theorem UseError.isShape_shape (e : SectionError) : (UseError.shape e).IsShape := trivial

@[simp] theorem UseError.not_isShape_rejected (r : Rejection) : ¬ (UseError.rejected r).IsShape := id

theorem accepted_eq_ok_iff : accepted model checked = .ok a ↔ checked = .ok a := by
  cases checked <;> simp [accepted]

theorem avoids_accepted : Avoids UseError.IsShape (accepted model checked) := by
  cases checked <;> simp [accepted]

theorem readFields_eq_ok_iff :
    (outcome.mapError .shape >>= fun fields => accepted model (read fields)) = .ok a ↔
      ∃ fields, outcome = .ok fields ∧ read fields = .ok a := by
  cases outcome <;> simp [Except.mapError, bind, Except.bind, accepted_eq_ok_iff]

theorem avoids_readFields_iff :
    Avoids UseError.IsShape
      (outcome.mapError .shape >>= fun fields => accepted model (read fields)) ↔
      ∃ fields, outcome = .ok fields := by
  rw [avoids_bind_iff, avoids_mapError_iff, avoids_iff_answers UseError.isShape_shape]
  exact and_iff_left fun _ _ => avoids_accepted

theorem rule_eq_ok_iff :
    rule config = .ok c ↔ ∃ fields, ruleFields config = .ok fields ∧ RuleConfig.read fields = .ok c :=
  readFields_eq_ok_iff

theorem avoids_rule_iff :
    Avoids UseError.IsShape (rule config) ↔ ∃ fields, ruleFields config = .ok fields :=
  avoids_readFields_iff

theorem settings_eq_ok_iff : settings config = .ok s ↔
    ∃ fields, settingsFields config = .ok fields ∧ Settings.read fields = .ok s :=
  readFields_eq_ok_iff

theorem avoids_settings_iff :
    Avoids UseError.IsShape (settings config) ↔ ∃ fields, settingsFields config = .ok fields :=
  avoids_readFields_iff

theorem policyOf_eq_ok_iff : policyOf c = .ok p ↔ c.policy = .ok p := mapError_eq_ok_iff

theorem avoids_policyOf (c : RuleConfig) : Avoids UseError.IsShape (policyOf c) :=
  avoids_mapError_iff.2 (avoids_of_forall_not (fun _ => id) _)

/-! ## The whole configuration -/

theorem validate_eq_ok_iff : validate config = .ok () ↔
    ∃ c p s, rule config = .ok c ∧ c.policy = .ok p ∧ settings config = .ok s := by
  simp only [validate, bind_eq_ok_iff, policyOf_eq_ok_iff, pure_eq_ok_iff, and_true,
    exists_and_left]

/-- A configuration can be judged: its rule has fields, and unless the rule is rejected already, its
    settings have fields too. -/
structure Judgeable (config : Mapping) : Prop where
  ruleHasFields : ∃ rules fields, config.find? "rules" = some (.map rules) ∧
    HasFields rules "import_extensions" fields
  settingsHaveFields : (∃ c p, rule config = .ok c ∧ c.policy = .ok p) →
    ∃ fields, HasFields config "settings" fields

theorem avoids_validate_iff {v : Value} (found : config.find? "rules" = some v) :
    Avoids UseError.IsShape (validate config) ↔ Judgeable config := by
  have rules : (∃ fields, ruleFields config = .ok fields) ↔
      ∃ rules fields, config.find? "rules" = some (.map rules) ∧
        HasFields rules "import_extensions" fields := by
    simp only [ruleFields_eq_ok_iff found, found, Option.some.injEq]
    exact exists_comm
  have settings : Avoids UseError.IsShape (Config.settings config >>= fun _ => pure ()) ↔
      ∃ fields, HasFields config "settings" fields := by
    simp only [avoids_bind_iff, avoids_settings_iff, settingsFields_eq_ok_iff]
    exact and_iff_left fun _ _ => avoids_ok _ _
  -- Between the two sections only the options are looked at, and to refuse them is a verdict.
  rw [validate, avoids_bind_iff, avoids_rule_iff, rules]
  constructor
  · rintro ⟨ruleHasFields, judged⟩
    refine ⟨ruleHasFields, fun ⟨c, p, ruled, policy⟩ => ?_⟩
    exact settings.1 ((avoids_bind_iff.1 (judged c ruled)).2 p (policyOf_eq_ok_iff.2 policy))
  · rintro ⟨ruleHasFields, settingsHaveFields⟩
    refine ⟨ruleHasFields, fun c ruled => avoids_bind_iff.2 ⟨avoids_policyOf c, fun p policy => ?_⟩⟩
    exact settings.2 (settingsHaveFields ⟨c, p, ruled, policyOf_eq_ok_iff.1 policy⟩)

end ImportPolicy.Config
