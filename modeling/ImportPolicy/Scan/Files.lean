import ImportPolicy.FileTree.Read
import ImportPolicy.Scan.IgnoreRule
import ImportPolicy.Text.Case

/-! # Scanning directories

A scan lists the regular files below a directory that have wanted suffixes. It leaves out what lies
in directories with ignored names and what the ignore file of the scanned directory excludes.
Links to files are taken, links to directories are not entered.

* `FileTree.below` — what stands below a directory.
* `Scan.ordered` — places in order of their names.
* `Scan.Matcher`, `Scan.readIgnoreFile` — what an ignore file says.
* `Scan.files` — the files that a scan lists; `Scan.filesBy` takes any reader of the ignore file. -/

namespace ImportPolicy

/-- The places of all entries below a location, as seen from it. -/
def FileTree.below (t : FileTree) (l : Location) : List Location :=
  t.entries.filterMap fun e =>
    if l.isPrefixOf e.1 && l ≠ e.1 then some (e.1.drop l.length) else none

namespace Scan

/-- Why a directory cannot be scanned. -/
inductive ScanError where
  | refused
  | undecodable
  | pattern (e : PatternError)
  deriving DecidableEq

/-- Whether a place comes no later than another one: the first difference of their names decides,
    and a directory comes before what is in it. -/
def noLater : Location → Location → Bool
  | [], _ => true
  | _ :: _, [] => false
  | a :: s, b :: t => if a = b then noLater s t else Text.precedes a b

/-- Places in order of their names. -/
def ordered (places : List Location) : List Location := places.mergeSort noLater

/-- The name of the file that says what a scan leaves out. -/
def ignoreFileName : Text := ".gitignore"

/-- What an ignore file says: whether it leaves out a place below its directory. -/
abbrev Matcher := Location → Except ScanError Bool

/-- What rules say. -/
def isExcluded (rules : List IgnoreRule) : Matcher := fun place =>
  match Text.chars? (Text.joinWith "/" place) with
  | some path => (IgnoreRule.ignored rules path).mapError .pattern
  | none => .ok false

/-- What the rules in the ignore file at a path say. -/
def readIgnoreFile (t : FileTree) (current : Location) (path : Path) : Except ScanError Matcher :=
  match t.readText current path with
  | .ok cs => ((IgnoreRule.ofLines cs).mapError .pattern).map isExcluded
  | .error (.undecodable _) => .error .undecodable
  | .error _ => .error .refused

/-- What the ignore file in a directory says when it is read by `read`. Where there is no such file,
    nothing is left out. -/
def matcherOf (t : FileTree) (read : Path → Except ScanError Matcher) (current : Location)
    (base : Path) : Except ScanError Matcher :=
  let path := base.join (Path.ofText ignoreFileName)
  match t.isFile current path with
  | .error _ => .error .refused
  | .ok false => .ok fun _ => .ok false
  | .ok true => read path

/-- What a scan looks for. -/
structure Selection where
  suffixes : List Text
  ignoredNames : List Text

/-- Whether the name of a place has a wanted suffix, in whatever letter case. -/
def Selection.wants (s : Selection) (place : Location) : Bool :=
  (s.suffixes.map Text.lower).contains (Text.lower (Path.suffixOf (place.getLastD [])))

/-- Whether a place lies in a directory with an ignored name. -/
def Selection.ignores (s : Selection) (place : Location) : Bool :=
  place.dropLast.any s.ignoredNames.contains

/-- The path of a place below a directory. -/
def pathOf (base : Path) (place : Location) : Path := base.join ⟨.current, place⟩

/-- Whether a scan lists a place below a directory. -/
def lists (t : FileTree) (current : Location) (base : Path) (s : Selection) (excludes : Matcher)
    (place : Location) : Except ScanError Bool :=
  match t.isFile current (pathOf base place) with
  | .error _ => .error .refused
  | .ok isFile =>
    if !isFile || !s.wants place || s.ignores place then .ok false
    else (excludes place).map (!·)

/-- The files that a scan lists when the ignore file is read by `read`, as seen from the directory and
    in order of their names. A path that leads to no directory has none. -/
def filesBy (t : FileTree) (read : Path → Except ScanError Matcher) (current : Location)
    (base : Path) (s : Selection) : Except ScanError (List Location) := do
  let excludes ← matcherOf t read current base
  match t.reach current base with
  | .ok (directory, .directory) =>
    (ordered (t.below directory)).filterM (lists t current base s excludes)
  | .error .nameTooLong => throw .refused
  | _ => return []

/-- The files that a scan lists. -/
def files (t : FileTree) (current : Location) (base : Path) (s : Selection) :
    Except ScanError (List Location) :=
  filesBy t (readIgnoreFile t current) current base s

end Scan

end ImportPolicy
