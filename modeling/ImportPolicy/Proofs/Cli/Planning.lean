import ImportPolicy.Proofs.Cli.Verdict

/-! # What a check needs from its configuration

A check makes a plan of the rule and the settings, and these are accepted where the configuration is
valid. It then needs the suffixes of languages, and in a directory the ignored names. Nothing has
looked at those before.

* `Cli.Asks` — arguments that ask for a check of a path that exists.
* `Cli.carriedOut`, `Cli.check_of_plan` — a check with its plan.
* `Sources.avoids_gather_iff` — the configurations that sources can be gathered with.
* `Cli.check_of_validated` — what can go wrong in a check with a valid configuration. -/

namespace ImportPolicy

open Config (UsableLanguages UsableIgnored)

/-! ## Gathering sources -/

/-- The error is that a section is not what is needed. -/
def BuildError.IsShape : BuildError → Prop
  | .shape _ => True
  | _ => False

namespace Sources

variable {t : FileTree} {current location : Location} {path : Path} {config : Mapping}
  {selection : Except Config.SectionError Scan.Selection}

/-- Only a directory is looked through, so only there names have to be known that are ignored. -/
theorem avoids_candidates_iff :
    Avoids BuildError.IsShape (candidates t location selection) ↔
      (t.isFile [] (Location.path location) = .ok false → ∃ s, selection = .ok s) := by
  have scanned (s : Scan.Selection) : Avoids BuildError.IsShape
      (do return (location,
        ← (Scan.files t [] (Location.path location) s).mapError BuildError.scan)) := by
    cases Scan.files t [] (Location.path location) s <;>
      simp [Except.mapError, bind, Except.bind, pure, Except.pure, BuildError.IsShape]
  rw [candidates]
  rcases t.isFile [] (Location.path location) with _ | _ | _
  · simp [BuildError.IsShape]
  · simp only [forall_const]
    cases selection with
    | error e => simp [Except.mapError, bind, Except.bind, BuildError.IsShape]
    | ok s => simpa [Except.mapError, bind, Except.bind] using scanned s
  · simp

/-- Sources can be gathered if the sections of languages can be read, and below a directory the
    ignored names as well. -/
theorem avoids_gather_iff {v : Value} (found : config.find? "languages" = some v) :
    Avoids BuildError.IsShape (gather t current path config) ↔
      ∀ location, t.realLocation current path = .ok location →
        UsableLanguages config ∧
          (t.isFile [] (Location.path location) = .ok false → UsableIgnored config) := by
  have selects (suffixes : Table Language) :
      (∃ s : Scan.Selection, (Config.ignoredNames config).map (⟨suffixes.keys, ·⟩) = .ok s) ↔
        UsableIgnored config := by
    rw [← Config.ignoredNames_answers_iff]
    cases Config.ignoredNames config <;> simp [Except.map]
  -- Paths and scripts fail in ways of their own, so two steps are left that look at sections.
  have rooted : Avoids (fun e => (BuildError.root e).IsShape) (t.realLocation current path) :=
    avoids_of_forall_not (fun _ => id) _
  have readable (suffixes : Table Language) (root : Location) (places : List Location) :
      Avoids (fun e => (BuildError.escape e).IsShape) (readFiles t suffixes root places) :=
    avoids_of_forall_not (fun _ => id) _
  have languages : Avoids (fun e => (BuildError.shape e).IsShape) (Config.suffixesOf v) ↔
      UsableLanguages config :=
    (avoids_iff_answers fun _ => trivial).trans (Config.suffixesOf_answers_iff found)
  have gathered (suffixes : Table Language) (root : Location) (files : List SourceFile) :
      Avoids BuildError.IsShape (pure (⟨suffixes, root, files⟩ : Sources)) := avoids_ok _ _
  simp only [gather, avoids_bind_iff, avoids_mapError_iff, mapError_eq_ok_iff,
    Config.sectionOr_of_find? found, rooted, readable, gathered, languages, avoids_candidates_iff,
    selects, implies_true, and_true, true_and]
  refine forall₂_congr fun location _ => and_congr_right fun usable => ?_
  obtain ⟨suffixes, read⟩ := (Config.suffixesOf_answers_iff found).2 usable
  exact ⟨fun ignored => ignored suffixes read, fun ignored _ _ => ignored⟩

theorem gather_of_unusableLanguages {e : Config.SectionError}
    (real : t.realLocation current path = .ok location)
    (failed : Config.suffixesOf (Config.sectionOr config "languages" (.map [])) = .error e) :
    gather t current path config = .error (.shape e) := by
  rw [gather, real, failed]
  rfl

end Sources

namespace Cli

variable {w : World} {config : Mapping} {arguments : List Text} {r : CheckRequest} {p : CheckPlan}

/-! ## Requests -/

/-- Arguments ask for a check of a path that exists. -/
def Asks (w : World) (arguments : List Text) (r : CheckRequest) : Prop :=
  ∃ a, Arguments.read checkForms true arguments = .ok a ∧ a.firstOf? [.help, .version] = none ∧
    checkRequest w a = .ok (r, [])

theorem runCheck_of_asks (asks : Asks w arguments r) :
    runCheck w config arguments = check w config r := by
  obtain ⟨a, read, noHelp, request⟩ := asks
  simp [runCheck, withArguments, read, noHelp, request, withoutMore]

theorem checkRequest_of_reached {a : Arguments} {path : Text} {place : Location × Target}
    (alone : a.others = [path]) (console : a.value? .reporter = none)
    (reached : w.tree.reachWritten w.current path = .ok place) :
    checkRequest w a =
      .ok (⟨path, .console, a.value? .output, a.has .failOnError, a.has .commonjs⟩, []) := by
  rw [checkRequest, reporterOf, console, alone]
  simp only [reached, bind, Except.bind, pure, Except.pure]

theorem read_path {path : Text} (plain : Text.startsWith path "-" = false) :
    Arguments.read checkForms true [path] = .ok ⟨[], [path]⟩ := by
  rw [Arguments.read, if_neg (ne_end_of_plain plain), plain, Arguments.read]
  rfl

/-- A check of any path that exists can be asked for, if its name does not start like an option. -/
theorem asks_path {path : Text} {place : Location × Target}
    (plain : Text.startsWith path "-" = false)
    (reached : w.tree.reachWritten w.current path = .ok place) :
    Asks w [path] ⟨path, .console, none, false, false⟩ :=
  ⟨⟨[], [path]⟩, read_path plain, rfl, checkRequest_of_reached rfl rfl reached⟩

/-- And so can one with a flag in front of the path. -/
theorem asks_flag {flag path : Text} {option : OptionName} {place : Location × Target}
    (notEnd : flag ≠ "--") (hyphened : Text.startsWith flag "-" = true ∧ 1 < flag.length)
    (isFlag : Arguments.readOption checkForms flag = .ok ([⟨option, []⟩], none))
    (switch : option = .failOnError ∨ option = .commonjs)
    (plain : Text.startsWith path "-" = false)
    (reached : w.tree.reachWritten w.current path = .ok place) :
    Asks w [flag, path] ⟨path, .console, none, option = .failOnError, option = .commonjs⟩ := by
  have read : Arguments.read checkForms true [flag, path] = .ok ⟨[⟨option, []⟩], [path]⟩ := by
    rw [Arguments.read, if_neg notEnd, if_pos hyphened, isFlag]
    dsimp only [bind, Except.bind]
    rw [read_path plain]
    rfl
  rcases switch with rfl | rfl <;>
    exact ⟨_, read, rfl, checkRequest_of_reached rfl rfl reached⟩

/-! ## Checks with a plan -/

/-- A check with a plan. -/
def carriedOut (w : World) (config : Mapping) (p : CheckPlan) (r : CheckRequest) : Outcome :=
  match checked w config p r.path with
  | .error f => w.ended (.fault f)
  | .ok s =>
    if r.failOnError ∧ hasErrors s then (reported w s r).failed else reported w s r

theorem check_of_plan (planned : plan config r.commonjs = .ok p) :
    check w config r = carriedOut w config p r := by
  rw [check, planned]
  rfl

theorem check_of_refusal {e : Config.UseError} (refused : plan config r.commonjs = .error e) :
    check w config r = w.refused "Invalid configuration: " 2 e := by
  rw [check, refused]

/-- The fault is that a section is not what is needed. -/
def Fault.IsShape : Fault → Prop
  | .shape _ => True
  | .build e => e.IsShape
  | _ => False

/-- A command ends with success, with failure, or with a fault that no section is to blame for. -/
inductive Ending.IsProper : Ending → Prop where
  | success : IsProper (.exit 0)
  | failure : IsProper (.exit 1)
  | fault {f : Fault} (other : ¬ f.IsShape) : IsProper (.fault f)

theorem isProper_reported (w : World) (s : Snapshot) (r : CheckRequest) :
    (reported w s r).ending.IsProper := by
  have other : ¬ Fault.IsShape .unprintable ∧ ¬ Fault.IsShape .unserializable ∧
    ∀ e, ¬ Fault.IsShape (.write e) := ⟨id, id, fun _ => id⟩
  cases kind : r.reporter with
  | console =>
    simp only [reported, kind, onConsole]
    split
    · exact .success
    · exact .fault other.1
  | json =>
    simp only [reported, kind, inFile]
    split
    · exact .fault (other.2.2 _)
    split
    · exact .fault other.2.1
    split
    · exact .success
    · exact .fault other.1

theorem isProper_failed {o : Outcome} (proper : o.ending.IsProper) : o.failed.ending.IsProper := by
  rw [Outcome.failed]
  split
  · exact .failure
  · exact proper

theorem avoids_checked_iff : Avoids Fault.IsShape (checked w config p r.path) ↔
    Avoids BuildError.IsShape (Sources.gather w.tree w.current (.ofText r.path) config) := by
  rw [checked, avoids_bind_iff, avoids_mapError_iff]
  exact and_iff_left fun _ _ => avoids_mapError_iff.2 (avoids_of_forall_not (fun _ => id) _)

theorem carriedOut_of_ungathered {e : BuildError}
    (failed : Sources.gather w.tree w.current (.ofText r.path) config = .error e) :
    carriedOut w config p r = w.ended (.fault (.build e)) := by
  rw [carriedOut, checked, failed]
  rfl

/-- What goes wrong in a check with a plan is that sources cannot be gathered. -/
theorem isProper_carriedOut_iff : (carriedOut w config p r).ending.IsProper ↔
    Avoids BuildError.IsShape (Sources.gather w.tree w.current (.ofText r.path) config) := by
  rw [← avoids_checked_iff (p := p), carriedOut]
  cases checked w config p r.path with
  | error f =>
    rw [avoids_error_iff]
    exact ⟨fun | .fault other => other, .fault⟩
  | ok s =>
    -- The snapshot is made, and a report looks at no section any more.
    refine iff_of_true ?_ (avoids_ok _ s)
    dsimp only
    split
    · exact isProper_failed (isProper_reported w s r)
    · exact isProper_reported w s r

theorem exists_shape_of_not_isProper (improper : ¬ (carriedOut w config p r).ending.IsProper) :
    ∃ e, carriedOut w config p r = w.ended (.fault (.build (.shape e))) := by
  rw [isProper_carriedOut_iff] at improper
  obtain ⟨e, shape, failed⟩ := exists_error_of_not_avoids improper
  cases e with
  | shape e => exact ⟨e, carriedOut_of_ungathered failed⟩
  | _ => cases shape

theorem carriedOut_ending_ne (w : World) (config : Mapping) (p : CheckPlan) (r : CheckRequest) :
    (carriedOut w config p r).ending ≠ .exit 2 := by
  intro misused
  by_cases proper : (carriedOut w config p r).ending.IsProper
  · rw [misused] at proper
    cases proper
  · obtain ⟨e, failed⟩ := exists_shape_of_not_isProper proper
    rw [failed] at misused
    cases misused

/-! ## Plans -/

theorem plan_eq_ok_iff {commonjs : Bool} : plan config commonjs = .ok p ↔
    Config.rule config = .ok p.config ∧ p.config.rules commonjs = .ok p.rules ∧
      Config.settings config = .ok p.settings := by
  simp only [plan, bind_eq_ok_iff, mapError_eq_ok_iff, pure_eq_ok_iff]
  constructor
  · rintro ⟨c, ruled, rules, on, settings, settled, rfl⟩
    exact ⟨ruled, on, settled⟩
  · rintro ⟨ruled, on, settled⟩
    exact ⟨_, ruled, _, on, _, settled, rfl⟩

theorem rules_answers_iff {c : RuleConfig} {commonjs : Bool} :
    (∃ rules : List (Rule LookupError), c.rules commonjs = .ok rules) ↔
      (c.enabled = true → ∃ policy, c.policy = .ok policy) := by
  rw [RuleConfig.rules]
  split
  next on => simp [on, bind_answers_iff, pure, Except.pure]
  next off => simp [off]

theorem plan_answers_iff {commonjs : Bool} : (∃ p, plan config commonjs = .ok p) ↔
    ∃ c s, Config.rule config = .ok c ∧ (c.enabled = true → ∃ policy, c.policy = .ok policy) ∧
      Config.settings config = .ok s := by
  simp only [plan_eq_ok_iff, ← @rules_answers_iff _ commonjs]
  constructor
  · rintro ⟨p, ruled, on, settled⟩
    exact ⟨p.config, p.settings, ruled, ⟨p.rules, on⟩, settled⟩
  · rintro ⟨c, s, ruled, ⟨rules, on⟩, settled⟩
    exact ⟨⟨c, rules, s⟩, ruled, on, settled⟩

/-- A configuration that is valid makes a plan. What a check then needs are sections of languages
    that can be read, and where it looks through a directory, ignored names that can be read. Where
    it has both, it ends as it should, and else with what one of them is not. -/
theorem check_of_validated {s : Surroundings} {project : Path} {file : Option Path}
    (loaded : Config.load s project file = .ok config)
    (valid : (runConfig w config ["validate"]).ending = .exit 0) (asks : Asks w arguments r) :
    (runCheck w config arguments).ending ≠ .exit 2 ∧
    ((runCheck w config arguments).ending.IsProper ↔
      ∀ location, w.tree.realLocation w.current (.ofText r.path) = .ok location →
        UsableLanguages config ∧
          (w.tree.isFile [] (Location.path location) = .ok false → UsableIgnored config)) ∧
    (¬ (runCheck w config arguments).ending.IsProper →
      ∃ e, runCheck w config arguments = w.ended (.fault (.build (.shape e)))) := by
  obtain ⟨v, found⟩ := Config.find?_of_load loaded (by decide : ("languages" : Text) ∈ _)
  rw [runConfig_validate, validateConfig_ending_iff] at valid
  obtain ⟨c, policy, settings, ruled, policied, settled⟩ := Config.validate_eq_ok_iff.1 valid
  obtain ⟨p, planned⟩ := plan_answers_iff.2 ⟨c, settings, ruled, fun _ => ⟨policy, policied⟩, settled⟩
  rw [runCheck_of_asks asks, check_of_plan planned, ← Sources.avoids_gather_iff found,
    ← isProper_carriedOut_iff (p := p)]
  exact ⟨carriedOut_ending_ne w config p r, Iff.rfl, exists_shape_of_not_isProper⟩

/-- A project with a language that is not known and ignored names that count as none. -/
def strangeLanguages : World := projectWith "languages:\n  cobol: 7\nignore_paths: 0"

theorem check_of_validated_strangeLanguages :
    ∃ config, Config.load strangeLanguages.toSurroundings "." none = .ok config ∧
      (runConfig strangeLanguages config ["validate"]).ending = .exit 0 ∧
      Asks strangeLanguages ["."] ⟨".", .console, none, false, false⟩ ∧
      (runCheck strangeLanguages config ["."]).ending.IsProper := by
  obtain ⟨config, loaded, accepted, suffixes, names⟩ : ∃ config,
      Config.load strangeLanguages.toSurroundings "." none = .ok config ∧
        Config.validate config = .ok () ∧
        (∃ table, Config.suffixesOf (Config.sectionOr config "languages" (.map [])) = .ok table) ∧
        ∃ names, Config.ignoredNames config = .ok names := by decide +kernel
  obtain ⟨v, found⟩ := Config.find?_of_load loaded (by decide : ("languages" : Text) ∈ _)
  rw [Config.sectionOr_of_find? found, Config.suffixesOf_answers_iff found] at suffixes
  have valid : (runConfig strangeLanguages config ["validate"]).ending = .exit 0 := by
    rw [runConfig_validate, validateConfig_ending_iff]
    exact accepted
  have asks : Asks strangeLanguages ["."] ⟨".", .console, none, false, false⟩ := by
    obtain ⟨place, reached⟩ : ∃ place,
        strangeLanguages.tree.reachWritten strangeLanguages.current "." = .ok place := by
      decide +kernel
    exact asks_path (by decide) reached
  refine ⟨config, loaded, valid, asks, (check_of_validated loaded valid asks).2.1.2 ?_⟩
  exact fun _ _ => ⟨suffixes, fun _ => Config.ignoredNames_answers_iff.1 names⟩

/-- A project whose languages are null. -/
def nullLanguages : World := projectWith "languages: null"

/-- Languages that are null are found valid, and break off every check. -/
theorem check_nullLanguages_fails :
    (run nullLanguages ["config", "validate"]).ending = .exit 0 ∧
      run nullLanguages ["check", "."] =
        nullLanguages.ended (.fault (.build (.shape .notMapping))) := by
  obtain ⟨config, loaded, accepted, noSuffixes⟩ : ∃ config,
      Config.load nullLanguages.toSurroundings (Location.path nullLanguages.current) none =
          .ok config ∧
        Config.validate config = .ok () ∧
        Config.suffixesOf (Config.sectionOr config "languages" (.map [])) = .error .notMapping := by
    decide +kernel
  obtain ⟨location, real⟩ : ∃ location,
      nullLanguages.tree.realLocation nullLanguages.current (.ofText ".") = .ok location := by
    decide +kernel
  obtain ⟨place, reached⟩ : ∃ place,
      nullLanguages.tree.reachWritten nullLanguages.current "." = .ok place := by decide +kernel
  have isConfig : Command.ofName? "config" = some .config := by decide
  have isCheck : Command.ofName? "check" = some .check := by decide
  constructor
  · rw [run_of_load (by decide) isConfig loaded]
    dsimp only
    rw [runConfig_validate, validateConfig_ending_iff]
    exact accepted
  · obtain ⟨c, policy, settings, ruled, policied, settled⟩ := Config.validate_eq_ok_iff.1 accepted
    obtain ⟨p, planned⟩ : ∃ p, plan config false = .ok p :=
      plan_answers_iff.2 ⟨c, settings, ruled, fun _ => ⟨policy, policied⟩, settled⟩
    rw [run_of_load (by decide) isCheck loaded]
    dsimp only
    have brokenOff : carriedOut nullLanguages config p ⟨".", .console, none, false, false⟩ =
        nullLanguages.ended (.fault (.build (.shape .notMapping))) :=
      carriedOut_of_ungathered (Sources.gather_of_unusableLanguages real noSuffixes)
    rw [runCheck_of_asks (asks_path (by decide) reached), ← brokenOff]
    exact check_of_plan planned

end Cli

end ImportPolicy
