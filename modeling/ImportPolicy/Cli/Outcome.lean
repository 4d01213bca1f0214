import ImportPolicy.Cli.Usage
import ImportPolicy.Config.Effective
import ImportPolicy.Config.Load
import ImportPolicy.FileTree.Build
import ImportPolicy.Report.Console
import ImportPolicy.Report.Json
import ImportPolicy.Resolve.Lookup
import ImportPolicy.Snapshot.Build

/-! # Outcomes of commands

* `Cli.World` — what a command starts from.
* `Cli.Fault` — what can end a command that it does not handle.
* `Cli.Outcome` — the files after a command, what it printed, and how it ended. -/

namespace ImportPolicy.Cli

/-- What a command starts from: its surroundings, the time, and whether colours are shown. -/
structure World extends Surroundings where
  now : Moment
  colored : Bool

/-- What can end a command that it does not handle. -/
inductive Fault where
  | load (e : Config.LoadError)
  | shape (e : Config.SectionError)
  | build (e : BuildError)
  | lookup (e : LookupError)
  | write (e : FileTree.WriteError)
  | unprintable
  | unserializable

/-- How a command ends. -/
inductive Ending where
  | exit (code : Nat)
  | fault (f : Fault)

/-- What a command leaves: the file tree, and the lines on standard output and on standard
    error. -/
structure Outcome where
  tree : FileTree
  out : List Text
  err : List Text
  ending : Ending

namespace World

variable (w : World)

/-- A command that ends without a word. -/
def ended (ending : Ending) : Outcome := ⟨w.tree, [], [], ending⟩

/-- A command that ends with a line on standard output. -/
def said (line : Text) : Outcome := ⟨w.tree, [line], [], .exit 0⟩

/-- A command that ends with a line on standard error. -/
def complained (line : Text) (code : Nat) : Outcome := ⟨w.tree, [], [line], .exit code⟩

/-- The end of a command that was used wrongly. -/
def misused (e : UsageError) : Outcome := w.complained ("Error: " ++ e.message) 2

/-- The end of a command whose configuration cannot be used. -/
def refused (opening : Text) (code : Nat) : Config.UseError → Outcome
  | .rejected r => w.complained (opening ++ r.message) code
  | .shape e => w.ended (.fault (.shape e))

end World

/-- A line as it is shown, with or without colours. -/
def World.shown (w : World) (line : Text) : Text := if w.colored then line else Console.plain line

end ImportPolicy.Cli
