import ImportPolicy.FileTree.Build
import ImportPolicy.Proofs.FileTree.Adding
import ImportPolicy.Proofs.FileTree.Removing

/-! # A tree with a file written

Content is written to the file that a path leads to, or to a new file in the directory where only the
last name is missing. Everything else stays what it was.

* `FileTree.IsOpen`, `FileTree.isOpen_of_writeLocation` — where content can be written.
* `FileTree.find?_writeAt` — what stands where afterwards. -/

namespace ImportPolicy.FileTree

variable {t : FileTree} {links : Nat} {current directory place : Location} {names : List Text}
  {written : Text}

/-- A file stands at a location, or nothing does in a directory. -/
inductive IsOpen (t : FileTree) : Location → Prop where
  | file {place content} (held : t.find? place = some (.file content)) : IsOpen t place
  | vacant {directory name} (inside : t.find? directory = some .directory)
      (free : t.find? (directory ++ [name]) = none) : IsOpen t (directory ++ [name])

/-- Where a walk misses the last name alone, a new file has a directory. -/
theorem isOpen_of_vacancy (start : t.find? directory = some .directory)
    (missed : t.walk links directory names = .error (.missing (some place))) : t.IsOpen place := by
  induction links, directory, names using walk_induction t with
  | nil links directory =>
    rw [walk_nil] at missed
    cases missed
  | skip links directory name rest skipped inductionHypothesis =>
    exact inductionHypothesis start (walk_skip skipped rest ▸ missed)
  | above links directory rest inductionHypothesis =>
    exact inductionHypothesis (find?_dropLast start) (walk_above rest ▸ missed)
  | plain links directory name rest plain inside along =>
    rw [walk_plain plain] at missed
    split at missed
    · cases missed
    split at missed
    next free =>
      split at missed <;> cases missed
      exact .vacant start free
    next found => exact inside found missed
    next => split at missed <;> cases missed
    next text found =>
      cases links with
      | zero => cases missed
      | succ fewer => exact along fewer text rfl found (find?_linkStart text start) missed

/-- Content is written where a file stands or has a directory. -/
theorem isOpen_of_writeLocation (inside : t.find? current = some .directory)
    (opened : t.writeLocation current written = .ok place) : t.IsOpen place := by
  simp only [writeLocation] at opened
  split at opened
  · cases opened
  split at opened
  · cases opened
  split at opened
  · cases opened
  split at opened
  · cases opened
  split at opened
  next l content reached =>
    split at opened <;> cases opened
    exact .file (find?_of_walk_file reached)
  next => cases opened
  next l missed =>
    split at opened <;> cases opened
    exact isOpen_of_vacancy (find?_linkStart written inside) missed
  all_goals cases opened

/-- Writing changes what its file holds and nothing else. -/
theorem find?_writeAt (isOpen : t.IsOpen place) (content : List UInt8) (l : Location) :
    (t.writeAt place content).find? l = if l = place then some (.file content) else t.find? l := by
  cases isOpen with
  | @file place before held =>
    rw [writeAt, held]
    change (t.overwrite place content).find? l = _
    rw [find?_overwrite]
    split
    next here => rw [here, held]; rfl
    next => rw [Option.map_id']
  | @vacant directory name inside free =>
    obtain ⟨grown, inserted⟩ :
        ∃ grown, t.insert? directory name (.file content) = some grown := by
      rw [insert?, dif_pos ⟨inside, free⟩]
      exact ⟨_, rfl⟩
    have adds := adds_of_insert? inserted
    simp only [writeAt, free, List.getLast?_concat, List.dropLast_concat, inserted, Option.getD_some]
    split
    next here => rw [here, adds.file]
    next other => exact adds.same l other

end ImportPolicy.FileTree
