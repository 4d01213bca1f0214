import ImportPolicy.Check.Resolver
import ImportPolicy.FileTree.Walk
import ImportPolicy.Resolve.Manifest
import ImportPolicy.Specifier.Class

/-! # Looking up modules

Finds the file that a specifier stands for from one importing file: a relative or absolute path is
looked up from the importing file's directory, and any other specifier in the package folders of
every directory above it.

* `Importer` — an importing file in a tree, and the settings.
* `Importer.loadAsFile`, `Importer.loadAsDirectory` — what a target stands for.
* `Importer.resolve` — what a specifier stands for.
* `Importer.resolver` — all of this as a `Resolver`. -/

namespace ImportPolicy

/-- Why a specifier cannot be looked up. -/
inductive LookupError where
  | name (e : Path.NameError)
  | nameTooLong
  deriving DecidableEq

/-- An importing file by its real location. -/
structure Importer where
  tree : FileTree
  location : Location
  settings : Settings

namespace Importer

/-- The outcome of a lookup step. -/
abbrev Lookup := Except LookupError (Option Path)

/-- Whether a path leads to a file. -/
def isFile (i : Importer) (p : Path) : Except LookupError Bool :=
  (i.tree.isFile [] p).mapError fun _ => .nameTooLong

/-- Whether a path leads to a directory. -/
def isDirectory (i : Importer) (p : Path) : Except LookupError Bool :=
  (i.tree.isDirectory [] p).mapError fun _ => .nameTooLong

/-- The outcome of a step, or of a second one where the first found nothing. -/
def orElse (first : Lookup) (second : Unit → Lookup) : Lookup := do
  match ← first with
  | some p => return some p
  | none => second ()

/-- The first candidate that leads to a file; candidates are formed one by one. -/
def firstFile (i : Importer) : List (Except LookupError Path) → Lookup
  | [] => .ok none
  | candidate :: rest => do
    let p ← candidate
    if ← i.isFile p then return some p else firstFile i rest

/-- A path with an extension appended to its name. -/
def withExtension (p : Path) (extension : Text) : Except LookupError Path :=
  (p.withName (p.name ++ extension)).mapError .name

/-- The candidates for a target as a file: itself, and itself with each extension. -/
def fileCandidates (i : Importer) (target : Path) : List (Except LookupError Path) :=
  .ok target :: i.settings.extensions.map (withExtension target)

/-- The candidates for the index file of a directory. -/
def indexCandidates (i : Importer) (directory : Path) : List (Except LookupError Path) :=
  i.settings.extensions.map fun extension => .ok (directory.join (.ofText ("index" ++ extension)))

/-- What a target stands for as a file. -/
def loadAsFile (i : Importer) (target : Path) : Lookup := i.firstFile (i.fileCandidates target)

/-- The index file of a directory. -/
def loadIndex (i : Importer) (directory : Path) : Lookup := do
  if ← i.isDirectory directory then i.firstFile (i.indexCandidates directory) else return none

/-- The main module that the manifest at a path names. -/
def manifestMain? (i : Importer) (manifest : Path) : Except LookupError (Option Text) := do
  if ← i.isFile manifest then return (i.tree.read? [] manifest).bind Manifest.main? else return none

/-- What a target stands for as a directory: the main module of its manifest, which may itself be a
    file or a directory with an index file, or else its own index file. -/
def loadAsDirectory (i : Importer) (target : Path) : Lookup := do
  if ← i.isDirectory target then
    match ← i.manifestMain? (target.join "package.json") with
    | some main =>
      -- A main module that is nowhere leaves the index file of the package.
      let inside := target.join (.ofText main)
      orElse (orElse (i.loadAsFile inside) fun _ => i.loadIndex inside) fun _ => i.loadIndex target
    | none => i.loadIndex target
  else return none

/-- What a target stands for as a file or else as a directory. -/
def load (i : Importer) (target : Path) : Lookup :=
  orElse (i.loadAsFile target) fun _ => i.loadAsDirectory target

/-- The directories above a location, the nearest first. -/
def ancestors (l : Location) : List Location := (List.range l.length).reverse.map l.take

/-- The package folders that may be searched, the nearest first. A directory that is itself a
    package folder has no folder of the same name searched in it. -/
def moduleFolders (i : Importer) : List Path :=
  (ancestors i.location).flatMap fun directory =>
    (i.settings.externalModuleFolders.filter (directory.getLastD [] ≠ ·)).map fun folder =>
      (Location.path directory).join (.ofText folder)

/-- What a specifier stands for in the first of some folders that has it. -/
def searchFolders (i : Importer) (specifier : Text) : List Path → Lookup
  | [] => .ok none
  | folder :: rest => do
    if ← i.isDirectory folder then
      orElse (i.load (folder.join (.ofText specifier))) fun _ => searchFolders i specifier rest
    else searchFolders i specifier rest

/-- The file that a specifier stands for, before links are followed. -/
def locate (i : Importer) (specifier : Text) : Lookup :=
  if Specifier.isPathLike specifier then
    let target := (Location.path i.location.dropLast).join (.ofText specifier)
    -- Such a specifier asks for a directory and never for a file beside it.
    if Text.endsWith specifier "/" ∨ specifier = "." ∨ specifier = ".." then
      i.loadAsDirectory target
    else i.load target
  else i.searchFolders specifier i.moduleFolders

/-- The path of a file when all links that are seen on its way have been followed. -/
def realPath (i : Importer) (p : Path) : Text :=
  match i.tree.realLocation [] p with
  | .ok l => (Location.path l).text
  | .error _ => p.text

/-- The real path of the file that a specifier stands for. The empty specifier and modules of the
    runtime stand for none. -/
def resolve (i : Importer) (specifier : Text) : Except LookupError (Option Text) :=
  if specifier.isEmpty ∨ Specifier.isBuiltin i.settings specifier then .ok none
  else (fun found => found.map i.realPath) <$> i.locate specifier

/-- The view of the world from an importing file. Packages are told by name alone, since a linked
    package lies outside the package folders. -/
def resolver (i : Importer) : Resolver LookupError where
  resolve := i.resolve
  isBuiltin := Specifier.isBuiltin i.settings
  isPackageMain := Specifier.isPackageMain
  isScopedMain := Specifier.isScopedMain

end Importer

end ImportPolicy
