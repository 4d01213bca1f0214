import ImportPolicy.Cli.Outcome

/-! # Described projects

A project can be described by a mapping: its `files` with their texts and its `links` with their
targets, each at an absolute path, the current `directory`, the user's `home`, and the time `now`
in seconds since the start of 1970.

* `Cli.World.ofDescription` — what a command starts from in a described project.
* `Cli.Outcome.changes` — the files that a command has created or changed. -/

namespace ImportPolicy.Cli

/-- The entries of a part of a description, as paths and texts. -/
def describedTexts (description : Mapping) (part : Text) : List (Path × Text) :=
  (((description.find? part).bind Value.mapping?).getD []).filterMap fun e =>
    match e.1, e.2 with
    | .str path, .str t => some (.ofText path, t)
    | _, _ => none

/-- The tree of the files and links in a description. -/
def describedTree (description : Mapping) : FileTree :=
  let withFiles := (describedTexts description "files").foldl
    (fun t f => t.place f.1.parts (.file ((Text.bytes? f.2).getD []))) FileTree.empty
  (describedTexts description "links").foldl (fun t l => t.place l.1.parts (.link l.2)) withFiles

/-- The path at a name in a description; the root if there is none. -/
def describedPath (description : Mapping) (name : Text) : Path :=
  .ofText (((description.find? name).bind Value.text?).getD "/")

/-- The time in a description. -/
def describedTime (description : Mapping) : Moment :=
  match description.find? "now" with
  | some (.int seconds) => Moment.ofSeconds seconds 0
  | _ => Moment.ofSeconds 0 0

/-- What a command starts from in a described project. -/
def World.ofDescription (description : Mapping) : World where
  tree := (describedTree description).makeDirectories [] (describedPath description "directory").parts
  current := (describedPath description "directory").parts
  home := describedPath description "home"
  now := describedTime description
  colored := (description.find? "colored").elim false Value.isTruthy

/-- The files that a command has created or changed. -/
def Outcome.changes (o : Outcome) (before : FileTree) : List (Location × List UInt8) :=
  o.tree.entries.filterMap fun e =>
    match e.2 with
    | .file content => if before.find? e.1 = some e.2 then none else some (e.1, content)
    | _ => none

end ImportPolicy.Cli
