import ImportPolicy.Proofs.FileTree.Following
import ImportPolicy.Proofs.Path.Names
import ImportPolicy.Scan.Files

/-! # A tree with a file written anew

What a path leads to does not depend on what files hold. After a file has been written, every path
leads to the same place as before, and to the same content unless it leads to that file.

* `FileTree.refilled`, `FileTree.reach_overwrite` — what paths lead to afterwards.
* `FileTree.isFile_overwrite`, `FileTree.realLocation_overwrite` — questions with the same answers.
* `FileTree.content_overwrite`, `FileTree.readText_overwrite` — other files.
* `FileTree.leadsTo_child` — without links a file is reached under its own name. -/

namespace ImportPolicy

namespace FileTree

variable {t : FileTree} {links : Nat} {current directory place : Location} {p : Path}
  {name : Text} {names : List Text} {written : List UInt8}

/-- What a walk has led to, with other content if it is the file at a place. -/
def refilled (place : Location) (written : List UInt8) (found : Location × Target) :
    Location × Target :=
  match found with
  | (l, .file bytes) => (l, .file (if l = place then written else bytes))
  | (l, .directory) => (l, .directory)

theorem walk_overwrite (t : FileTree) (place : Location) (written : List UInt8) (links : Nat)
    (directory : Location) (names : List Text) :
    (t.overwrite place written).walk links directory names =
      (t.walk links directory names).map (refilled place written) := by
  induction links, directory, names using walk_induction t with
  | nil links directory => rw [walk_nil, walk_nil]; rfl
  | skip links directory name rest skipped inductionHypothesis =>
    rw [walk_skip skipped, walk_skip skipped]
    exact inductionHypothesis
  | above links directory rest inductionHypothesis =>
    rw [walk_above, walk_above]
    exact inductionHypothesis
  | plain links directory name rest plain inside along =>
    rw [walk_plain plain, walk_plain plain, find?_overwrite]
    by_cases long : 255 < byteLength name
    · rw [if_pos long, if_pos long]
      rfl
    rw [if_neg long, if_neg long]
    -- Writing changes neither what kind of entry stands at a name nor where a link leads.
    rcases found : t.find? (directory ++ [name]) with _ | bytes | _ | text
    · rfl
    · by_cases last : rest = [] <;> by_cases here : directory ++ [name] = place <;>
        simp [last, here, Entry.refilled, refilled, Except.map]
    · simpa [Entry.refilled] using inside
    · cases links with
      | zero => simp [Entry.refilled, Except.map]
      | succ fewer => simpa [Entry.refilled] using along fewer text rfl found

theorem reach_overwrite (t : FileTree) (place : Location) (written : List UInt8)
    (current : Location) (p : Path) :
    (t.overwrite place written).reach current p =
      (t.reach current p).map (refilled place written) := by
  unfold reach
  split
  · rfl
  split
  · rfl
  · exact walk_overwrite t place written linkLimit (pathStart current p) (pathNames p)

@[simp] theorem isFile_overwrite (t : FileTree) (place : Location) (written : List UInt8)
    (current : Location) (p : Path) :
    (t.overwrite place written).isFile current p = t.isFile current p := by
  unfold isFile
  rw [reach_overwrite]
  rcases t.reach current p with (_ | _ | _ | _) | ⟨l, _ | _⟩ <;> rfl

@[simp] theorem isDirectory_overwrite (t : FileTree) (place : Location) (written : List UInt8)
    (current : Location) (p : Path) :
    (t.overwrite place written).isDirectory current p = t.isDirectory current p := by
  unfold isDirectory
  rw [reach_overwrite]
  rcases t.reach current p with (_ | _ | _ | _) | ⟨l, _ | _⟩ <;> rfl

/-! ## Locations -/

theorem linkAt?_overwrite (t : FileTree) (place : Location) (written : List UInt8) :
    (t.overwrite place written).linkAt? = t.linkAt? := by
  funext l
  rw [linkAt?, linkAt?, find?_overwrite]
  rcases t.find? l with _ | _ | _ | text
  · rfl
  all_goals by_cases here : l = place <;> simp [here, Entry.refilled]

@[simp] theorem realLocation_overwrite (t : FileTree) (place : Location) (written : List UInt8)
    (current : Location) (p : Path) :
    (t.overwrite place written).realLocation current p = t.realLocation current p :=
  realLocation_congr (linkAt?_overwrite t place written) current p

@[simp] theorem below_overwrite (t : FileTree) (place : Location) (written : List UInt8)
    (l : Location) : (t.overwrite place written).below l = t.below l := by
  rw [below, overwrite, List.filterMap_map]
  rfl

/-! ## Other files -/

theorem content_overwrite (avoids : ¬ t.LeadsTo current p place) :
    (t.overwrite place written).content current p = t.content current p := by
  unfold content
  rw [reach_overwrite]
  rcases reached : t.reach current p with (_ | _ | _ | _) | ⟨l, _ | _⟩
  case ok.file bytes =>
    have other : l ≠ place := fun same => avoids ⟨_, same ▸ reached⟩
    simp [Except.map, refilled, other]
  all_goals rfl

theorem read?_eq_content (t : FileTree) (current : Location) (p : Path) :
    t.read? current p = (t.content current p).toOption.join := by
  unfold read? content
  rcases t.reach current p with (_ | _ | _ | _) | ⟨l, _ | _⟩ <;> rfl

theorem read?_overwrite (avoids : ¬ t.LeadsTo current p place) :
    (t.overwrite place written).read? current p = t.read? current p := by
  rw [read?_eq_content, read?_eq_content, content_overwrite avoids]

theorem readText_overwrite (avoids : ¬ t.LeadsTo current p place) :
    (t.overwrite place written).readText current p = t.readText current p := by
  unfold readText
  rw [reach_overwrite]
  rcases reached : t.reach current p with (_ | _ | _ | _) | ⟨l, _ | _⟩
  case ok.file bytes =>
    have other : l ≠ place := fun same => avoids ⟨_, same ▸ reached⟩
    simp [Except.map, refilled, other]
  all_goals rfl

/-- Where nothing is a link, a path to a file ends with the name of the file. -/
theorem leadsTo_child (linkFree : t.LinkFree) (free : Path.slash ∉ name) (plain : IsPlain name)
    (leads : t.LeadsTo current (p.child name) place) : place.getLast? = some name := by
  obtain ⟨target, reached⟩ := leads
  unfold reach at reached
  split at reached
  · cases reached
  split at reached
  · cases reached
  rw [Path.pathNames_child, Text.splitOn_of_not_mem free] at reached
  obtain ⟨above, -, rfl⟩ := walk_concat linkFree plain reached
  exact List.getLast?_concat

end FileTree

end ImportPolicy
