import ImportPolicy.Config.Default
import ImportPolicy.Config.Layer
import ImportPolicy.FileTree.Read
import ImportPolicy.Yaml.Value

/-! # Loading configuration

The built-in configuration lies below that of the user, and this below that of the project.

* `Surroundings` — a file tree with the current directory and the user's home.
* `Config.LoadError`, `Config.LoadError.message?` — why no configuration can be had.
* `Config.userPath`, `Config.ownPath` — where the files of the user and of a project are.
* `Config.readFile` — the mapping in a file.
* `Config.load` — the configuration that holds for a project. -/

namespace ImportPolicy

/-- What a command finds around it. -/
structure Surroundings where
  tree : FileTree
  current : Location
  home : Path

namespace Config

/-- Why a file gives no mapping. -/
inductive FileError where
  | unreadable (e : FileTree.ReadError)
  | notYaml
  | notMapping (kind : String)
  | faulty (f : Yaml.Failure)
  deriving DecidableEq

/-- Why no configuration can be had. -/
inductive LoadError where
  | file (e : FileError)
  | project (path : Path) (e : FileError)
  | notFound (path : Path)
  | incomplete
  | nameTooLong
  deriving DecidableEq

/-- The wording of why a file gives no mapping, where it has one. -/
def FileError.message? : FileError → Option Text
  | .unreadable (.undecodable bytes) => (Utf8.fault? bytes).map Utf8.Fault.message
  | .unreadable .nul => some "embedded null byte"
  | .unreadable _ => none
  | .notYaml => some "not a YAML document"
  | .notMapping kind => some ("top level must be a mapping, got " ++ Text.ofString kind)
  | .faulty (.invalidValue message) => some message
  | .faulty _ => none

/-- Whether a file was read but is no configuration. -/
def FileError.isRejection : FileError → Bool
  | .notYaml => true
  | .notMapping _ => true
  | _ => false

/-- The wording of an error that a user can mend; other errors have none. -/
def LoadError.message? : LoadError → Option Text
  | .file e => e.message?
  | .project path e =>
    if e.isRejection then
      e.message?.map fun reason =>
        "Error parsing project config file at " ++ path.text ++ ": " ++ reason
    else e.message?
  | .notFound path => some ("Config file not found at " ++ path.text)
  | .incomplete => some "Configuration must contain 'rules' and 'settings' sections."
  | .nameTooLong => none

/-- The mapping in a file; an empty file holds an empty one. -/
def readFile (t : FileTree) (current : Location) (p : Path) : Except FileError Mapping :=
  match t.readText current p with
  | .error e => .error (.unreadable e)
  | .ok cs =>
    match Yaml.load cs with
    | .ok .null => .ok []
    | .ok (.map entries) => .ok entries
    | .ok v => .error (.notMapping v.kindName)
    | .error .malformed => .error .notYaml
    -- A list that contains itself has no value, but it is no mapping.
    | .error .endless => .error (if Yaml.isList cs then .notMapping "list" else .faulty .endless)
    | .error f => .error (.faulty f)

/-- Where the user's file is. -/
def userPath (s : Surroundings) : Path := s.home.join ".extlint/config.yaml"

/-- The mapping in the user's file. One that holds none counts as empty. -/
def userLayer (s : Surroundings) : Except LoadError Mapping := do
  match s.tree.isFile s.current (userPath s) with
  | .error _ => throw .nameTooLong
  | .ok false => return []
  | .ok true =>
    match readFile s.tree s.current (userPath s) with
    | .ok entries => return entries
    | .error e => if e.isRejection then return [] else throw (.file e)

/-- The name of a project's file. -/
def projectFileName : Text := ".extlint.yaml"

/-- Where a project's own file is. -/
def ownPath (project : Path) : Path := project.join (Path.ofText projectFileName)

/-- The mapping in the project's file. A file that was asked for has to be there. -/
def projectLayer (s : Surroundings) (project : Path) (file : Option Path) :
    Except LoadError Mapping := do
  let path := file.getD (ownPath project)
  match s.tree.isFile s.current path with
  | .error _ => throw .nameTooLong
  | .ok true =>
    match readFile s.tree s.current path with
    | .ok entries => return entries
    | .error e => throw (.project path e)
  | .ok false => if file.isSome then throw (.notFound path) else return []

/-- The configuration that holds for a project. A file that is named takes the place of the one in
    the project's directory. -/
def load (s : Surroundings) (project : Path) (file : Option Path) : Except LoadError Mapping := do
  let user ← userLayer s
  let own ← projectLayer s project file
  let config := layer (layer builtIn user) own
  if config.has "rules" ∧ config.has "settings" then return config else throw .incomplete

end Config

end ImportPolicy
