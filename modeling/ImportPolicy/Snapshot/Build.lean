import ImportPolicy.Config.Languages
import ImportPolicy.Scan.Files
import ImportPolicy.Script.Extractor
import ImportPolicy.Snapshot.Basic

/-! # Building snapshots

* `Sources` — the source files below a root, with the suffixes that were looked for.
* `Sources.gather` — the source files that a configuration selects below a path.
* `Sources.snapshot` — the snapshot that they make. -/

namespace ImportPolicy

/-- Why the sources below a path cannot be had. -/
inductive BuildError where
  | root (e : FileTree.Unreal)
  | shape (e : Config.SectionError)
  | scan (e : Scan.ScanError)
  | escape (e : Script.Escape.Error)

/-- The source files below a root. -/
structure Sources where
  suffixes : Table Language
  root : Location
  files : List SourceFile

namespace Sources

/-- The version of this tool. -/
def toolVersion : Text := "0.1.0"

/-- The language and the characters of the source at a place below a root; none if its text cannot be
    read or its suffix means no language. -/
def sourceAt? (t : FileTree) (suffixes : Table Language) (root place : Location) :
    Option (Language × List Char) :=
  let path := Location.path (root ++ place)
  let table := if suffixes.isEmpty then Config.builtInSuffixes else suffixes
  match Config.languageAt? table path, t.readText [] path with
  | some l, .ok cs => some (l, cs)
  | _, _ => none

/-- The source files at the places that are left. There are extractors from the places before. -/
def readFilesWith (t : FileTree) (suffixes : Table Language) (root : Location)
    (kept : List Script.Extractor) : List Location → Except Script.Escape.Error (List SourceFile)
  | [] => .ok []
  | place :: rest =>
    match sourceAt? t suffixes root place with
    | none => readFilesWith t suffixes root kept rest
    | some (l, cs) => do
      let extractor := (Script.Extractor.forLanguage kept l).read cs
      let imports ← extractor.sites
      let files ← readFilesWith t suffixes root (Script.Extractor.keep kept extractor) rest
      return ⟨Text.joinWith "/" place, l.name, imports, []⟩ :: files

/-- The source files at places below a root. -/
def readFiles (t : FileTree) (suffixes : Table Language) (root : Location)
    (places : List Location) : Except Script.Escape.Error (List SourceFile) :=
  readFilesWith t suffixes root [] places

/-- The places of candidates and the location that they are seen from. A file is the only candidate
    in its directory; in a directory a scan lists them. -/
def candidates (t : FileTree) (location : Location) (s : Except Config.SectionError Scan.Selection) :
    Except BuildError (Location × List Location) :=
  match t.isFile [] (Location.path location) with
  | .error _ => .error (.scan .refused)
  | .ok true => .ok (location.dropLast, [[location.getLastD []]])
  | .ok false => do
    let s ← s.mapError .shape
    return (location, ← (Scan.files t [] (Location.path location) s).mapError .scan)

/-- The source files that a configuration selects below a path. -/
def gather (t : FileTree) (current : Location) (path : Path) (config : Mapping) :
    Except BuildError Sources := do
  let location ← (t.realLocation current path).mapError .root
  let suffixes ← (Config.suffixesOf (Config.sectionOr config "languages" (.map []))).mapError
    .shape
  let selection := (Config.ignoredNames config).map fun names => ⟨suffixes.keys, names⟩
  let (root, places) ← candidates t location selection
  return ⟨suffixes, root, ← (readFiles t suffixes root places).mapError .escape⟩

/-- The name of a project: that of its root. -/
def projectName (s : Sources) : Text := s.root.getLastD []

/-- The snapshot that source files make at a point in time. -/
def snapshot (s : Sources) (now : Moment) : Snapshot :=
  ⟨⟨now, s.projectName, (Location.path s.root).text, s.files.length, toolVersion⟩, s.files, none⟩

end Sources

end ImportPolicy
