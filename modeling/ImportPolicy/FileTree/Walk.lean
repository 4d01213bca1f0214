import ImportPolicy.FileTree.Basic

/-! # Following paths

Finds what a path leads to. Links are followed, `..` goes to the directory above, and a limit on the
number of links ends a loop.

* `FileTree.walkNames`, `FileTree.walk` — the location and the entry that names lead to from a
  directory.
* `FileTree.reach`, `FileTree.reachWritten` — what a path, or a path as it is written, leads to, with
  the limits on its length.
* `FileTree.isFile`, `FileTree.isDirectory`, `FileTree.read?` — questions about a path.
* `FileTree.realLocation` — a path without links, also where nothing stands. -/

namespace ImportPolicy

/-- What a path leads to when all links have been followed. -/
inductive Target where
  | file (content : List UInt8)
  | directory
  deriving DecidableEq

/-- Why a path leads nowhere. Where only the last name is missing, `vacancy` is the location that a
    new file would get. -/
inductive Unreached where
  | missing (vacancy : Option Location)
  | notDirectory
  | loop
  | nameTooLong
  deriving DecidableEq

namespace FileTree

/-- The number of links that one walk follows. -/
def linkLimit : Nat := 40

/-- The number of bytes that a text takes in a file system. -/
def byteLength : Text → Nat
  | [] => 0
  | .scalar c :: rest => Utf8.width c + byteLength rest
  | .surrogate _ :: rest => 1 + byteLength rest

/-- The names that a link leads along, and whether they start at the root. A slash at the end asks
    for a directory, like a point. -/
def linkNames (target : Text) : Bool × List Text :=
  let pieces := (Text.splitOn Path.slash target).map fun piece => if piece.isEmpty then "." else piece
  (target.head? = some Path.slash, pieces)

/-- Where a link's names start. -/
def linkStart (target : Text) (directory : Location) : Location :=
  if (linkNames target).1 then [] else directory

/-- Follows names from a directory. A link hands the directory and the names that it leads along to
    `onLink`. -/
def walkNames (t : FileTree) (onLink : Location → List Text → Except Unreached (Location × Target))
    (directory : Location) : List Text → Except Unreached (Location × Target)
  | [] => .ok (directory, .directory)
  | name :: rest =>
    if name = [] ∨ name = "." then walkNames t onLink directory rest
    else if name = ".." then walkNames t onLink directory.dropLast rest
    -- The length is looked at before whether anything has the name.
    else if 255 < byteLength name then .error .nameTooLong
    else match t.find? (directory ++ [name]) with
      | none => .error (.missing (if rest = [] then some (directory ++ [name]) else none))
      | some .directory => walkNames t onLink (directory ++ [name]) rest
      | some (.file content) =>
        if rest = [] then .ok (directory ++ [name], .file content) else .error .notDirectory
      | some (.link target) => onLink (linkStart target directory) ((linkNames target).2 ++ rest)

/-- Follows names from a directory. The first argument bounds the number of links. -/
def walk (t : FileTree) : Nat → Location → List Text → Except Unreached (Location × Target)
  | 0 => t.walkNames fun _ _ => .error .loop
  | links + 1 => t.walkNames (walk t links)

/-- The names of a path; a part that holds slashes gives several. -/
def pathNames (p : Path) : List Text := p.parts.flatMap (Text.splitOn Path.slash)

/-- The directory that a path starts at. -/
def pathStart (current : Location) (p : Path) : Location := if p.isAbsolute then [] else current

/-- Whether a file system can hold the code points of a text: no NUL, and no lone surrogate but those
    from U+DC80 to U+DCFF, each of which stands for a byte from 80 to FF. -/
def isStorable (t : Text) : Bool :=
  t.all fun c => match c with
    | .scalar c => c ≠ '\x00'
    | .surrogate offset => 0x480 ≤ offset.val && offset.val < 0x500

/-- Whether a code point is a lone surrogate that stands for no byte. -/
def isStray : CodePoint → Bool
  | .scalar _ => false
  | .surrogate offset => offset.val < 0x480 || 0x500 ≤ offset.val

/-- What a path leads to from a current directory. -/
def reach (t : FileTree) (current : Location) (p : Path) :
    Except Unreached (Location × Target) :=
  if !isStorable p.text then .error (.missing none)
  else if 4096 ≤ byteLength p.text then .error .nameTooLong
  else walk t linkLimit (pathStart current p) (pathNames p)

/-- What a path leads to as it is written: the empty path leads nowhere, and a slash at the end asks
    for a directory. -/
def reachWritten (t : FileTree) (current : Location) (written : Text) :
    Except Unreached (Location × Target) :=
  if written.isEmpty ∨ !isStorable written then .error (.missing none)
  else if 4096 ≤ byteLength written then .error .nameTooLong
  else walk t linkLimit (linkStart written current) (linkNames written).2

/-- The answer to a question about a path: no if it leads nowhere, unless a name is too long. -/
def asked (question : Location × Target → Bool) :
    Except Unreached (Location × Target) → Except Unreached Bool
  | .ok found => .ok (question found)
  | .error .nameTooLong => .error .nameTooLong
  | .error _ => .ok false

/-- Whether a path leads to a regular file. -/
def isFile (t : FileTree) (current : Location) (p : Path) : Except Unreached Bool :=
  asked (fun found => match found.2 with
    | .file _ => true
    | .directory => false) (t.reach current p)

/-- Whether a path leads to a directory. -/
def isDirectory (t : FileTree) (current : Location) (p : Path) : Except Unreached Bool :=
  asked (fun found => found.2 = .directory) (t.reach current p)

/-- The content of the file that a path leads to. -/
def read? (t : FileTree) (current : Location) (p : Path) : Option (List UInt8) :=
  match t.reach current p with
  | .ok (_, .file content) => some content
  | _ => none

/-! ## Real locations -/

/-- Why a path has no real location. -/
inductive Unreal where
  | loop
  | nul
  | lone
  deriving DecidableEq

/-- The target of the link at a location. A link is not seen where the path of the location is too
    long to ask about it. -/
def linkAt? (t : FileTree) (l : Location) : Option Text :=
  match t.find? l with
  | some (.link target) =>
    if byteLength (Location.path l).text < 4096 then some target else none
  | _ => none

/-- Follows the links on the way along names. Any other name is kept, whether something stands there
    or not, and a link hands what it leads along to `onLink`. -/
def followNames (t : FileTree) (onLink : Location → List Text → Except Unreal Location)
    (directory : Location) : List Text → Except Unreal Location
  | [] => .ok directory
  | name :: rest =>
    if name = [] ∨ name = "." then followNames t onLink directory rest
    else if name = ".." then followNames t onLink directory.dropLast rest
    else match t.linkAt? (directory ++ [name]) with
      | some target => onLink (linkStart target directory) ((linkNames target).2 ++ rest)
      | none => followNames t onLink (directory ++ [name]) rest

/-- Follows the links on the way along names. The first argument bounds their number. -/
def follow (t : FileTree) : Nat → Location → List Text → Except Unreal Location
  | 0 => t.followNames fun _ _ => .error .loop
  | links + 1 => t.followNames (follow t links)

/-- The location of a path when all links on its way have been followed. -/
def realLocation (t : FileTree) (current : Location) (p : Path) : Except Unreal Location :=
  if p.text.any isStray then .error .lone
  else if .scalar '\x00' ∈ p.text then .error .nul
  else follow t linkLimit (pathStart current p) (pathNames p)

end FileTree

end ImportPolicy
