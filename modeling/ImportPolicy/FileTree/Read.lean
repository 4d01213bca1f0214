import ImportPolicy.FileTree.Walk
import ImportPolicy.Text.Lines
import ImportPolicy.Text.Utf8.Fault

/-! # Reading text files

* `FileTree.readText` — the characters of the file that a path leads to, or why there are none. -/

namespace ImportPolicy.FileTree

/-- Why the text of a file cannot be read. -/
inductive ReadError where
  | absent
  | isDirectory
  | notDirectory
  | refused
  | nul
  | lone
  | undecodable (bytes : List UInt8)
  deriving DecidableEq

/-- The characters of the file that a path leads to, with unified line ends. -/
def readText (t : FileTree) (current : Location) (p : Path) : Except ReadError (List Char) :=
  if p.text.any isStray then .error .lone
  else if .scalar '\x00' ∈ p.text then .error .nul
  else match t.reach current p with
    | .ok (_, .file content) =>
      match Utf8.decode? content with
      | some cs => .ok (Text.unifyNewlines cs)
      | none => .error (.undecodable content)
    | .ok (_, .directory) => .error .isDirectory
    | .error (.missing _) => .error .absent
    | .error .notDirectory => .error .notDirectory
    | .error .loop => .error .refused
    | .error .nameTooLong => .error .refused

end ImportPolicy.FileTree
