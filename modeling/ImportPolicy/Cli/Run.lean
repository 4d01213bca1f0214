import ImportPolicy.Cli.Check
import ImportPolicy.Cli.Configure
import ImportPolicy.Text.Word

/-! # The command line

The arguments before the name of a command belong to the group that holds it. The configuration is
loaded before the arguments of the command are read.

* `Cli.runCheck`, `Cli.runConfig` — the two commands of the program.
* `Cli.run` — the program. -/

namespace ImportPolicy.Cli

/-! ## Forms of options -/

/-- The options that ask for help. -/
def helpForm : OptionForm := ⟨.help, ["-h", "--help"], false⟩

/-- The options of the program. -/
def programForms : List OptionForm :=
  [⟨.config, ["--config"], true⟩, ⟨.verbose, ["--verbose", "-v"], false⟩,
   ⟨.jsonLogs, ["--json-logs"], false⟩, ⟨.version, ["--version"], false⟩, helpForm]

/-- The options of a check. -/
def checkForms : List OptionForm :=
  [⟨.reporter, ["--reporter", "-r"], true⟩, ⟨.output, ["--output", "-o"], true⟩,
   ⟨.failOnError, ["--fail-on-error"], false⟩, ⟨.commonjs, ["--commonjs"], false⟩, helpForm]

/-- The options of writing the built-in configuration. -/
def createForms : List OptionForm := [⟨.force, ["--force"], false⟩, helpForm]

/-! ## Parts of all commands -/

/-- How the program is called. -/
def programUsage : Text := "Usage: main [OPTIONS] COMMAND [ARGS]..."

/-- How a command that holds others is called. -/
def configUsage : Text := "Usage: main config [OPTIONS] COMMAND [ARGS]..."

/-- How a command is called. -/
def usage (name arguments : Text) : Text := "Usage: main " ++ name ++ " [OPTIONS]" ++ arguments

/-- The version of the program. -/
def versionLine : Text := "main, version " ++ Sources.toolVersion

/-- Reads arguments and goes on with them, unless they ask for help or for the version. -/
def withArguments (w : World) (forms : List OptionForm) (mixed : Bool) (usage : Text)
    (arguments : List Text) (next : Arguments → Outcome) : Outcome :=
  match Arguments.read forms mixed arguments with
  | .error e => w.misused e
  | .ok a =>
    match a.firstOf? [.help, .version] with
    | some .version => w.said versionLine
    | some _ => w.said usage
    | none => next a

/-- Goes on if no arguments are left. -/
def withoutMore (w : World) (arguments : List Text) (next : Outcome) : Outcome :=
  if arguments.isEmpty then next else w.misused (.extraArguments arguments)

/-- Whether the name of a command starts like an option: not with a letter or a digit. -/
def startsOddly (name : Text) : Bool :=
  name.head?.elim false fun c => !c.isWord || c = .scalar '_'

/-- Goes on with the name of a command and its arguments. Where there is no such command and the
    name starts like an option, it may be one. -/
def withCommand {α : Type} (w : World) (find? : Text → Option α)
    (again : List Text → (Arguments → Outcome) → Outcome) (arguments : List Text)
    (next : α → List Text → Outcome) : Outcome :=
  match arguments with
  | [] => w.misused .missingCommand
  | name :: rest =>
    match find? name with
    | some command => next command rest
    | none =>
      let unknown := w.misused (.noSuchCommand name)
      if startsOddly name then again arguments fun _ => unknown else unknown

/-! ## Checking -/

/-- The label of the option that chooses a way to report. -/
def reporterLabel : Text := "'--reporter' / '-r'"

/-- The way to report that was chosen. -/
def reporterOf (a : Arguments) : Except UsageError ReporterKind :=
  match a.value? .reporter with
  | none => .ok .console
  | some name =>
    match ReporterKind.names.find? fun e => e.1 = name with
    | some (_, kind) => .ok kind
    | none => .error (.notAChoice reporterLabel name (ReporterKind.names.map (·.1)))

/-- What a check is asked for, and the arguments that are left. -/
def checkRequest (w : World) (a : Arguments) : Except UsageError (CheckRequest × List Text) := do
  let reporter ← reporterOf a
  match a.others with
  | [] => throw (.missingArgument "PATH")
  | path :: rest =>
    match w.tree.reachWritten w.current path with
    | .error _ => throw (.absent "'PATH'" "Path" path)
    | .ok _ =>
      return (⟨path, reporter, a.value? .output, a.has .failOnError, a.has .commonjs⟩, rest)

/-- The command that checks imports. -/
def runCheck (w : World) (config : Mapping) (arguments : List Text) : Outcome :=
  withArguments w checkForms true (usage "check" " PATH") arguments fun a =>
    match checkRequest w a with
    | .error e => w.misused e
    | .ok (r, more) => withoutMore w more (check w config r)

/-! ## Managing the configuration -/

/-- The commands that manage the configuration. -/
inductive ConfigCommand where
  | init
  | validate
  | policy
  deriving DecidableEq

/-- The command with a name. -/
def ConfigCommand.ofName? (name : Text) : Option ConfigCommand :=
  if name = "init" then some .init
  else if name = "validate" then some .validate
  else if name = "show" then some .policy
  else none

/-- A command that manages the configuration. -/
def runConfigCommand (w : World) (config : Mapping) (command : ConfigCommand)
    (arguments : List Text) : Outcome :=
  match command with
  | .init =>
    withArguments w createForms true (usage "config init" "") arguments fun a =>
      withoutMore w a.others (createConfig w (a.has .force))
  | .validate =>
    withArguments w [helpForm] true (usage "config validate" "") arguments fun a =>
      withoutMore w a.others (validateConfig w config)
  | .policy =>
    withArguments w [helpForm] true (usage "config show" "") arguments fun a =>
      withoutMore w a.others (showPolicy w config)

/-- The group of commands that manage the configuration. -/
def runConfig (w : World) (config : Mapping) (arguments : List Text) : Outcome :=
  if arguments.isEmpty then w.complained configUsage 2
  else
    let read := withArguments w [helpForm] false configUsage
    read arguments fun a =>
      withCommand w ConfigCommand.ofName? read a.others (runConfigCommand w config)

/-! ## The program -/

/-- The commands of the program. -/
inductive Command where
  | check
  | config
  deriving DecidableEq

/-- The command with a name. -/
def Command.ofName? (name : Text) : Option Command :=
  if name = "check" then some .check else if name = "config" then some .config else none

/-- The file that was named for the project's configuration. -/
def configFile (w : World) (a : Arguments) : Except UsageError (Option Path) :=
  match a.value? .config with
  | none => .ok none
  | some file =>
    match w.tree.reachWritten w.current file with
    | .error _ => .error (.absent "'--config'" "File" file)
    | .ok (_, .directory) => .error (.isDirectory "'--config'" "File" file)
    | .ok _ => .ok (some (.ofText file))

/-- Runs a command with the configuration that holds in the current directory, or in that of a
    named file. -/
def runCommand (w : World) (file : Option Path) (command : Command) (arguments : List Text) :
    Outcome :=
  let project := file.elim (Location.path w.current) Path.parent
  match Config.load w.toSurroundings project file with
  | .error e =>
    match e.message? with
    | some message => w.complained ("Error: " ++ message) 1
    | none => w.ended (.fault (.load e))
  | .ok config =>
    match command with
    | .check => runCheck w config arguments
    | .config => runConfig w config arguments

/-- Reads the program's own arguments. -/
def withProgram (w : World) (arguments : List Text)
    (next : Option Path → Arguments → Outcome) : Outcome :=
  withArguments w programForms false programUsage arguments fun a =>
    match configFile w a with
    | .error e => w.misused e
    | .ok file => next file a

/-- Runs the program with some arguments. -/
def run (w : World) (arguments : List Text) : Outcome :=
  if arguments.isEmpty then w.complained programUsage 2
  else
    withProgram w arguments fun file a =>
      withCommand w Command.ofName? (fun more next => withProgram w more fun _ => next) a.others
        (runCommand w file)

end ImportPolicy.Cli
