import ImportPolicy.Cli.Options
import ImportPolicy.Cli.Outcome
import ImportPolicy.Rule.Run

/-! # Checking imports

* `Cli.CheckRequest` — what a check is asked for.
* `Cli.checked` — the snapshot that a check reports.
* `Cli.reported` — its report on the console or in a file.
* `Cli.check` — the whole command. -/

namespace ImportPolicy.Cli

/-- Where a check reports to. -/
inductive ReporterKind where
  | console
  | json
  deriving DecidableEq

/-- The names of the ways to report. -/
def ReporterKind.names : List (Text × ReporterKind) := [("console", .console), ("json", .json)]

/-- What a check is asked for. -/
structure CheckRequest where
  path : Text
  reporter : ReporterKind
  output : Option Text
  failOnError : Bool
  commonjs : Bool

/-- What a check needs from its configuration. -/
structure CheckPlan where
  config : RuleConfig
  rules : List (Rule LookupError)
  settings : Settings

/-- The plan that a configuration makes. -/
def plan (config : Mapping) (commonjs : Bool) : Except Config.UseError CheckPlan := do
  let c ← Config.rule config
  let rules ← (c.rules commonjs).mapError fun e => .rejected (.options e)
  return ⟨c, rules, ← Config.settings config⟩

/-- The view of the world from a source file below a root. -/
def importerOf (t : FileTree) (root : Location) (settings : Settings) (f : SourceFile) : Importer :=
  let path := (Location.path root).join (.ofText f.path)
  match t.realLocation [] path with
  | .ok l => ⟨t, l, settings⟩
  | .error _ => ⟨t, path.parts, settings⟩

/-- The snapshot that a check reports. -/
def checked (w : World) (config : Mapping) (p : CheckPlan) (path : Text) :
    Except Fault Snapshot := do
  let sources ← (Sources.gather w.tree w.current (.ofText path) config).mapError .build
  (run p.rules (sources.snapshot w.now) p.config fun f =>
    .ok (importerOf w.tree sources.root p.settings f).resolver).mapError .lookup

/-- A snapshot on the console. What cannot be printed ends the command. -/
def onConsole (w : World) (s : Snapshot) : Outcome :=
  let lines := (Console.lines s).map w.shown
  let printed := lines.takeWhile Text.isWellFormed
  ⟨w.tree, printed, [], if printed.length = lines.length then .exit 0 else .fault .unprintable⟩

/-- The file that a report goes to, unless another one is named. -/
def reportFileName : Text := "extlint_report.json"

/-- The name of the file that a report goes to. -/
def reportName (output : Option Text) : Text :=
  match output with
  | some name => if name.isEmpty then reportFileName else name
  | none => reportFileName

/-- A snapshot in a file, which is emptied first. A name that cannot be printed ends the command when
    the report has been written. -/
def inFile (w : World) (s : Snapshot) (output : Option Text) : Outcome :=
  let name := reportName output
  match w.tree.writeLocation w.current name with
  | .error e => w.ended (.fault (.write e))
  | .ok place =>
    match s.reportBytes? with
    | none => ⟨w.tree.writeAt place [], [], [], .fault .unserializable⟩
    | some content =>
      let line := w.shown ("JSON report saved to " ++ name)
      if line.isWellFormed then ⟨w.tree.writeAt place content, [line], [], .exit 0⟩
      else ⟨w.tree.writeAt place content, [], [], .fault .unprintable⟩

/-- The report of a snapshot. -/
def reported (w : World) (s : Snapshot) (r : CheckRequest) : Outcome :=
  match r.reporter with
  | .console => onConsole w s
  | .json => inFile w s r.output

/-- Whether a snapshot has issues that are errors. -/
def hasErrors (s : Snapshot) : Bool :=
  0 < (s.summary.bind fun m => m.bySeverity.find? Severity.error.name).getD 0

/-- The words for issues that are errors. -/
def errorsFound : Text := "Failure: import extension errors detected."

/-- Fails a command that has ended well. -/
def Outcome.failed (o : Outcome) : Outcome :=
  match o.ending with
  | .exit 0 =>
    { o with err := o.err ++ [errorsFound], ending := .exit 1 }
  | _ => o

/-- Checks the imports of a path. -/
def check (w : World) (config : Mapping) (r : CheckRequest) : Outcome :=
  match plan config r.commonjs with
  | .error e => w.refused "Invalid configuration: " 2 e
  | .ok p =>
    match checked w config p r.path with
    | .error f => w.ended (.fault f)
    | .ok s =>
      let o := reported w s r
      if r.failOnError ∧ hasErrors s then o.failed else o

end ImportPolicy.Cli
