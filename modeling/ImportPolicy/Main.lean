import ImportPolicy.Cli.Project
import ImportPolicy.Cli.Run

/-! # The program

Reads the description of a project as one line of JSON from standard input, runs a command in it,
prints what the command prints, and writes the files that it has changed. -/

namespace ImportPolicy.Cli

/-- A line of output. -/
def shownLine (t : Text) : String := (Text.string? t).getD ""

/-- Runs a command in a described project. -/
def runIn (w : World) (arguments : List String) : IO UInt32 := do
  let o := run w (arguments.map Text.ofString)
  for line in o.out do IO.println (shownLine line)
  for line in o.err do IO.eprintln (shownLine line)
  for (place, content) in o.changes w.tree do
    IO.FS.writeBinFile (shownLine (Location.path place).text) ⟨content.toArray⟩
  match o.ending with
  | .exit code => return UInt32.ofNat code
  | .fault _ => do
    IO.eprintln "Error: the command could not be completed."
    return 1

end ImportPolicy.Cli

open ImportPolicy in
/-- Runs the command that the arguments name in the project that standard input describes. -/
def main (arguments : List String) : IO UInt32 := do
  let line ← (← IO.getStdin).getLine
  match Json.parse? line.toList with
  | some (.map description) => Cli.runIn (Cli.World.ofDescription description) arguments
  | _ => do
    IO.eprintln "Error: a project has to be described on standard input."
    return 2
