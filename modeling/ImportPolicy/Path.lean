import ImportPolicy.Value.Display

/-! # Paths

A path is written with slashes between its parts. Empty parts and the part `.` mean nothing and are
left out; the part `..` stays.

* `Path.ofText`, `Path.text` — reading and writing a path.
* `Path.join` — one path inside another.
* `Path.name`, `Path.suffix`, `Path.parent` — the parts of a path.
* `Path.withName` — the path with another name in place of its last part. -/

namespace ImportPolicy

/-- Where a path starts: at the current directory or at the root, which may be written with one
    slash or with two. -/
inductive Anchor where
  | current
  | root
  | doubleRoot
  deriving DecidableEq, Inhabited

/-- The slashes that write an anchor. -/
def Anchor.text : Anchor → Text
  | .current => []
  | .root => "/"
  | .doubleRoot => "//"

/-- An anchor and the parts of a path. -/
structure Path where
  anchor : Anchor
  parts : List Text
  deriving DecidableEq, Inhabited

namespace Path

/-- The slash. -/
def slash : CodePoint := .scalar '/'

/-- The pieces of a text between slashes that mean something. -/
def meaningful (t : Text) : List Text :=
  (Text.splitOn slash t).filter fun part => !part.isEmpty && part ≠ [.scalar '.']

/-- The anchor of a written path: three slashes or more are one. -/
def anchorOf (t : Text) : Anchor :=
  match (t.takeWhile (· = slash)).length with
  | 0 => .current
  | 2 => .doubleRoot
  | _ => .root

/-- The path that a text writes. -/
def ofText (t : Text) : Path := ⟨anchorOf t, meaningful t⟩

instance : Coe Text Path := ⟨ofText⟩
instance : Coe String Path := ⟨fun s => ofText (Text.ofString s)⟩

/-- The text that writes a path. -/
def text (p : Path) : Text :=
  if p.anchor = .current ∧ p.parts = [] then "."
  else p.anchor.text ++ Text.joinWith "/" p.parts

/-- Whether a path starts at the root. -/
def isAbsolute (p : Path) : Bool := p.anchor ≠ .current

/-- A path seen from another one; an absolute path stays what it is. -/
def join (p q : Path) : Path := if q.isAbsolute then q else ⟨p.anchor, p.parts ++ q.parts⟩

/-- The last part; empty if there is none. -/
def name (p : Path) : Text := p.parts.getLastD []

/-- The path without its last part. -/
def parent (p : Path) : Path := ⟨p.anchor, p.parts.dropLast⟩

/-- All parts, the slashes of the root included. -/
def allParts (p : Path) : List Text := (if p.isAbsolute then [p.anchor.text] else []) ++ p.parts

/-- The suffix of a name: from its last point, which may be neither first nor last. -/
def suffixOf (name : Text) : Text :=
  let backwards := name.reverse
  let after := backwards.takeWhile (· ≠ .scalar '.')
  let stem := (backwards.dropWhile (· ≠ .scalar '.')).drop 1
  if after.isEmpty ∨ stem.isEmpty then [] else .scalar '.' :: after.reverse

/-- The suffix of the last part. -/
def suffix (p : Path) : Text := suffixOf p.name

/-- Why a path cannot get another name. -/
inductive NameError where
  | emptyName (p : Path)
  | invalidName (name : Text)
  deriving DecidableEq

/-- The wording of a refusal. -/
def NameError.message : NameError → Text
  | .emptyName p => "PosixPath(" ++ p.text.quoted ++ ") has an empty name"
  | .invalidName name => "Invalid name " ++ name.quoted

/-- Whether a text can be the name of a path: a single part that neither starts nor ends with a
    slash. -/
def isName (t : Text) : Bool :=
  (meaningful t).length = 1 && t.head? ≠ some slash && t.getLast? ≠ some slash

/-- The path with another name in place of its last part. -/
def withName (p : Path) (name : Text) : Except NameError Path :=
  if p.name.isEmpty then .error (.emptyName p)
  else if isName name then .ok ⟨p.anchor, p.parts.dropLast ++ [name]⟩
  else .error (.invalidName name)

end Path

end ImportPolicy
