import ImportPolicy.FileTree.Walk

/-! # Building file trees

* `FileTree.makeDirectories` — a directory with all directories above it.
* `FileTree.place` — an entry at the end of some names, with the directories above it.
* `FileTree.writeAt` — a file's content at a location where a file is or could be. -/

namespace ImportPolicy.FileTree

/-- The tree with the directories along some names below a directory, also behind links; unchanged
    from the first name that is taken by something else. -/
def makeDirectories (t : FileTree) (directory : Location) : List Text → FileTree
  | [] => t
  | name :: rest =>
    match t.find? (directory ++ [name]) with
    | none =>
      match t.insert? directory name .directory with
      | some t => makeDirectories t (directory ++ [name]) rest
      | none => t
    | some (.link target) =>
      match t.walk linkLimit (linkStart target directory) (linkNames target).2 with
      | .ok (linked, .directory) => makeDirectories t linked rest
      | _ => t
    | some _ => makeDirectories t (directory ++ [name]) rest

/-- The tree with an entry under a name in the directory that the names before it lead to; unchanged
    if the name is taken there. -/
def place (t : FileTree) (l : Location) (e : Entry) : FileTree :=
  let t := makeDirectories t [] l.dropLast
  match t.walk linkLimit [] l.dropLast, l.getLast? with
  | .ok (directory, .directory), some name => (t.insert? directory name e).getD t
  | _, _ => t

/-- The tree with a file's content at a location: the file there gets it, or a new file does. -/
def writeAt (t : FileTree) (l : Location) (content : List UInt8) : FileTree :=
  match t.find? l with
  | some _ => t.overwrite l content
  | none =>
    match l.getLast? with
    | some name => (t.insert? l.dropLast name (.file content)).getD t
    | none => t

/-- Why a file cannot be written. -/
inductive WriteError where
  | isDirectory
  | noParent
  | notDirectory
  | refused
  | nul
  | lone
  deriving DecidableEq

/-- The names that a file to write is looked for under. Slashes at the end say nothing about it. -/
def namesToWrite (written : Text) : List Text :=
  ((Text.splitOn Path.slash written).reverse.dropWhile List.isEmpty).reverse

/-- Where writing to a path, as it is written, puts the content: in the file that it leads to, or in a
    new file whose directory it leads to. A path that ends with a slash can only name a directory. -/
def writeLocation (t : FileTree) (current : Location) (written : Text) :
    Except WriteError Location :=
  let endsWithSlash := written.getLast? = some Path.slash
  if written.any isStray then .error .lone
  else if .scalar '\x00' ∈ written then .error .nul
  else if written.isEmpty then .error .noParent
  else if 4096 ≤ byteLength written then .error .refused
  else match t.walk linkLimit (linkStart written current) (namesToWrite written) with
    | .ok (l, .file _) => if endsWithSlash then .error .isDirectory else .ok l
    | .ok (_, .directory) => .error .isDirectory
    | .error (.missing (some l)) => if endsWithSlash then .error .isDirectory else .ok l
    | .error (.missing none) => .error .noParent
    | .error .notDirectory => .error .notDirectory
    | .error .loop => .error .refused
    | .error .nameTooLong => .error .refused

end ImportPolicy.FileTree
