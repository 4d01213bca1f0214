import ImportPolicy.Cli.Run
import ImportPolicy.Proofs.Config.Accepting

/-! # Verdicts on configurations

A command says whether a configuration is accepted. It can say so only where the sections that it
looks at have fields.

* `Cli.run_plain`, `Cli.runConfig_plain` — commands that are named without options.
* `Cli.IsVerdict` — the outcomes that are verdicts.
* `Cli.isVerdict_iff_judgeable` — a verdict is given on the configurations that can be judged. -/

namespace ImportPolicy.Cli

open Config (Judgeable)

variable {w : World} {config : Mapping} {name opening : Text} {rest : List Text} {code : Nat}
  {e : Config.UseError}

/-! ## Commands without options -/

theorem ne_end_of_plain (plain : Text.startsWith name "-" = false) : name ≠ "--" := by
  rintro rfl
  exact absurd plain (by decide)

theorem read_plain {forms : List OptionForm} (plain : Text.startsWith name "-" = false) :
    Arguments.read forms false (name :: rest) = .ok ⟨[], name :: rest⟩ := by
  rw [Arguments.read, if_neg (ne_end_of_plain plain), plain]
  rfl

theorem runConfig_plain {command : ConfigCommand} (plain : Text.startsWith name "-" = false)
    (named : ConfigCommand.ofName? name = some command) :
    runConfig w config (name :: rest) = runConfigCommand w config command rest := by
  simp [runConfig, withArguments, read_plain plain, Arguments.firstOf?, withCommand, named]

/-- A command that is named without options has no file named for it. -/
theorem run_plain {command : Command} (plain : Text.startsWith name "-" = false)
    (named : Command.ofName? name = some command) :
    run w (name :: rest) = runCommand w none command rest := by
  simp [run, withProgram, withArguments, read_plain plain, Arguments.firstOf?, configFile,
    Arguments.value?, withCommand, named]

/-- The configuration of the current directory is loaded for a command. -/
theorem run_of_load {command : Command} (plain : Text.startsWith name "-" = false)
    (named : Command.ofName? name = some command)
    (loaded : Config.load w.toSurroundings (Location.path w.current) none = .ok config) :
    run w (name :: rest) =
      match command with
      | .check => runCheck w config rest
      | .config => runConfig w config rest := by
  rw [run_plain plain named, runCommand]
  simp only [Option.elim_none, loaded]
  cases command <;> rfl

theorem runConfig_validate : runConfig w config ["validate"] = validateConfig w config := by
  have named : ConfigCommand.ofName? "validate" = some .validate := by decide
  rw [runConfig_plain (by decide) named]
  simp [runConfigCommand, withArguments, Arguments.read, Arguments.firstOf?, withoutMore]

theorem runConfig_show : runConfig w config ["show"] = showPolicy w config := by
  have named : ConfigCommand.ofName? "show" = some .policy := by decide
  rw [runConfig_plain (by decide) named]
  simp [runConfigCommand, withArguments, Arguments.read, Arguments.firstOf?, withoutMore]

/-! ## Verdicts -/

/-- A verdict on a configuration: it is valid, or it is not, for some reason. -/
inductive IsVerdict (w : World) : Outcome → Prop where
  | valid : IsVerdict w (w.said "Configuration is valid.")
  | invalid (reason : Text) : IsVerdict w (w.complained (invalidOpening ++ reason) 1)

theorem refused_cases (w : World) (opening : Text) (code : Nat) (e : Config.UseError) :
    ¬ e.IsShape ∧ (∃ reason, w.refused opening code e = w.complained (opening ++ reason) code) ∨
      e.IsShape ∧ ∃ reason, w.refused opening code e = w.ended (.fault (.shape reason)) := by
  cases e with
  | rejected r => exact .inl ⟨id, r.message, rfl⟩
  | shape e => exact .inr ⟨trivial, e, rfl⟩

theorem refused_ending (rejected : ¬ e.IsShape) :
    (w.refused opening code e).ending = .exit code := by
  obtain ⟨-, _, refused⟩ := (refused_cases w opening code e).resolve_right fun other =>
    rejected other.1
  rw [refused]
  rfl

/-- A refusal with another code than that of success is none. -/
theorem refused_ending_ne (failure : code ≠ 0) : (w.refused opening code e).ending ≠ .exit 0 := by
  rcases refused_cases w opening code e with ⟨-, _, refused⟩ | ⟨-, _, refused⟩ <;> rw [refused]
  · simpa [World.complained] using failure
  · nofun

theorem validateConfig_ending_iff :
    (validateConfig w config).ending = .exit 0 ↔ Config.validate config = .ok () := by
  rw [validateConfig]
  cases Config.validate config with
  | ok _ => exact iff_of_true rfl rfl
  | error e => exact iff_of_false (refused_ending_ne Nat.one_ne_zero) nofun

theorem not_isVerdict_fault (f : Fault) : ¬ IsVerdict w (w.ended (.fault f)) := nofun

theorem isVerdict_validateConfig_iff : IsVerdict w (validateConfig w config) ↔
    Avoids Config.UseError.IsShape (Config.validate config) := by
  rw [validateConfig]
  cases Config.validate config with
  | ok _ => simpa using IsVerdict.valid
  | error e =>
    rw [avoids_error_iff]
    rcases refused_cases w invalidOpening 1 e with ⟨rejected, reason, refused⟩ | ⟨shape, _, refused⟩
    · simp only [refused, rejected, not_false_eq_true, iff_true]
      exact .invalid reason
    · simp only [refused, shape, not_isVerdict_fault, not_true_eq_false]

/-- A configuration that is loaded gets a verdict exactly if it can be judged. If it cannot, the
    command ends with what the section that is looked at is not. -/
theorem isVerdict_iff_judgeable {s : Surroundings} {project : Path} {file : Option Path}
    (loaded : Config.load s project file = .ok config) (w : World) :
    (IsVerdict w (runConfig w config ["validate"]) ↔ Judgeable config) ∧
    (¬ Judgeable config →
      ∃ e, runConfig w config ["validate"] = w.ended (.fault (.shape e))) := by
  obtain ⟨v, found⟩ := Config.find?_of_load loaded (by decide : ("rules" : Text) ∈ _)
  rw [runConfig_validate, isVerdict_validateConfig_iff, ← Config.avoids_validate_iff found]
  refine ⟨Iff.rfl, fun meets => ?_⟩
  obtain ⟨e, shape, refused⟩ := exists_error_of_not_avoids meets
  rw [validateConfig, refused]
  exact ((refused_cases w invalidOpening 1 e).resolve_left fun other => other.1 shape).2

/-- A project with a configuration of its own and nothing else. -/
def projectWith (text : String) : World where
  tree := FileTree.empty.place ["proj", ".extlint.yaml"] (.file (Utf8.encode text.toList))
  current := ["proj"]
  home := "/home"
  now := .ofSeconds 0 0
  colored := false

/-- A project whose options are no list and whose settings are no mapping. -/
def refusedOptions : World :=
  projectWith "rules:\n  import_extensions:\n    options: 5\nsettings: 3"

/-- The options are refused before the settings are looked at. -/
theorem isVerdict_refusedOptions :
    ∃ config, Config.load refusedOptions.toSurroundings "." none = .ok config ∧
      Judgeable config ∧ IsVerdict refusedOptions (runConfig refusedOptions config ["validate"]) := by
  obtain ⟨config, loaded, judged⟩ : ∃ config,
      Config.load refusedOptions.toSurroundings "." none = .ok config ∧
        Avoids Config.UseError.IsShape (Config.validate config) := by decide +kernel
  obtain ⟨v, found⟩ := Config.find?_of_load loaded (by decide : ("rules" : Text) ∈ _)
  have judgeable := (Config.avoids_validate_iff found).1 judged
  exact ⟨config, loaded, judgeable, (isVerdict_iff_judgeable loaded _).1.2 judgeable⟩

/-- A project whose rules are null. -/
def nullRules : World := projectWith "rules: null"

/-- Rules that are null have no fields, and no verdict is given on them. -/
theorem validate_nullRules_noVerdict :
    ∃ config, Config.load nullRules.toSurroundings (Location.path nullRules.current) none =
        .ok config ∧
      run nullRules ["config", "validate"] = nullRules.ended (.fault (.shape .notMapping)) ∧
      ¬ IsVerdict nullRules (run nullRules ["config", "validate"]) := by
  obtain ⟨config, loaded, noFields⟩ : ∃ config,
      Config.load nullRules.toSurroundings (Location.path nullRules.current) none = .ok config ∧
        Config.ruleFields config = .error .notMapping := by decide +kernel
  have brokenOff : run nullRules ["config", "validate"] =
      nullRules.ended (.fault (.shape .notMapping)) := by
    have named : Command.ofName? "config" = some .config := by decide
    rw [run_of_load (by decide) named loaded]
    dsimp only
    rw [runConfig_validate, validateConfig, Config.validate, Config.rule, noFields]
    rfl
  refine ⟨config, loaded, brokenOff, ?_⟩
  rw [brokenOff]
  exact not_isVerdict_fault _

end ImportPolicy.Cli
