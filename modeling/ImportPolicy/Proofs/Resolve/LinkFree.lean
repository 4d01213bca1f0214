import ImportPolicy.Proofs.FileTree.Following
import ImportPolicy.Proofs.Resolve.Failure

/-! # Real paths without links

In a tree without links the real path of a file tells which name the file was asked for under.

* `Importer.realPath_child` — the real path of a file in a directory.
* `Importer.realPath_appended_injective`, `Importer.realPath_index_ne` — files beside each other that
  share the start of their names.
* `Importer.mainOf_eq_none_of_mainFree` — where no manifest names a main module. -/

namespace ImportPolicy

/-- No manifest names a main module. -/
def FileTree.MainFree (t : FileTree) : Prop :=
  ∀ (directory : Location) content,
    t.find? (directory ++ [Text.ofString "package.json"]) = some (.file content) →
      Manifest.main? content = none

namespace Importer

variable {i : Importer} {p : Path} {name ending : Text} {l directory : Location}

/-- A path leads to a directory. -/
def LeadsTo (i : Importer) (p : Path) (directory : Location) : Prop :=
  i.tree.walk FileTree.linkLimit [] (FileTree.pathNames p) = .ok (directory, .directory)

theorem LeadsTo.unique {l l' : Location} (h : i.LeadsTo p l) (h' : i.LeadsTo p l') : l = l' := by
  unfold LeadsTo at h h'
  rw [h] at h'
  cases h'
  rfl

theorem walk_of_reach {target : Target} (h : i.tree.reach [] p = .ok (l, target)) :
    i.tree.walk FileTree.linkLimit [] (FileTree.pathNames p) = .ok (l, target) := by
  unfold FileTree.reach at h
  rw [FileTree.pathStart_root] at h
  split at h
  · simp at h
  · split at h
    · simp at h
    · exact h

/-- Some link on the way along a path is not seen when its real path is put together. -/
def HidesLink (i : Importer) (p : Path) : Prop :=
  i.tree.MeetsHiddenLink FileTree.linkLimit [] (FileTree.pathNames p)

theorem not_hidesLink (linkFree : i.tree.LinkFree) (p : Path) : ¬ i.HidesLink p :=
  FileTree.not_meetsHiddenLink fun l text found => absurd found (linkFree l text)

theorem realPath_of_reach {target : Target} (reached : i.tree.reach [] p = .ok (l, target))
    (seen : ¬ i.HidesLink p) : i.realPath p = (Location.path l).text := by
  have real : i.tree.realLocation [] p = .ok l :=
    FileTree.realLocation_of_reach reached (by rwa [FileTree.pathStart_root])
  rw [realPath, real]

/-- A regular file stands at a location, whose path is its real path. -/
theorem walk_of_isRegularFile (h : i.isRegularFile p = true) (seen : ¬ i.HidesLink p) :
    ∃ l content,
      i.tree.walk FileTree.linkLimit [] (FileTree.pathNames p) = .ok (l, .file content) ∧
        i.realPath p = (Location.path l).text := by
  unfold isRegularFile at h
  rcases reached : i.tree.reach [] p with _ | ⟨l, content | _⟩
  · simp [reached] at h
  · exact ⟨l, content, walk_of_reach reached, realPath_of_reach reached seen⟩
  · simp [reached] at h

theorem realPath_child (linkFree : i.tree.LinkFree) (free : Path.slash ∉ name)
    (plain : FileTree.IsPlain name) (h : i.isRegularFile (p.child name) = true) :
    ∃ directory, i.LeadsTo p directory ∧
      i.realPath (p.child name) = (Location.path (directory ++ [name])).text := by
  obtain ⟨l, content, walked, real⟩ := walk_of_isRegularFile h (not_hidesLink linkFree _)
  rw [Path.pathNames_child, Text.splitOn_of_not_mem free] at walked
  obtain ⟨directory, reached, rfl⟩ := FileTree.walk_concat linkFree plain walked
  exact ⟨directory, reached, real⟩

theorem not_mem_of_isRegularFile (linkFree : i.tree.LinkFree) (free : Path.slash ∉ name)
    (ends : Path.EndsName ending) (h : i.isRegularFile (p.child (name ++ ending)) = true) :
    Path.slash ∉ ending := by
  obtain ⟨l, content, walked, -⟩ := walk_of_isRegularFile h (not_hidesLink linkFree _)
  rw [Path.pathNames_child, Text.splitOn_append free] at walked
  cases behind : (Text.splitOn Path.slash ending).tail with
  | nil =>
    have single := Text.splitOn_eq_cons Path.slash ending
    rw [behind] at single
    have whole := Text.joinWith_splitOn Path.slash ending
    rw [single, Text.joinWith] at whole
    rw [← whole]
    exact Text.not_mem_of_mem_splitOn (by rw [single]; simp)
  | cons piece rest =>
    -- Whatever stands behind the slash leads from a directory to itself.
    rw [behind, List.append_cons, FileTree.walk_append_iff linkFree (by simp)] at walked
    obtain ⟨middle, -, stays⟩ := walked
    rw [FileTree.walk_of_skipped (behind ▸ ends)] at stays
    simp at stays

/-! ## Files that share the start of their names

Here `name` has something else than points in it, so that no ending turns it into a name that leads
elsewhere. -/

section SharedName

variable {first second : Text}

theorem realPath_appended (linkFree : i.tree.LinkFree) (free : Path.slash ∉ name)
    (named : ∃ c ∈ name, c ≠ .scalar '.') (ends : Path.EndsName ending)
    (h : i.isRegularFile (p.child (name ++ ending)) = true) :
    ∃ directory, i.LeadsTo p directory ∧
      i.realPath (p.child (name ++ ending)) =
        (Location.path (directory ++ [name ++ ending])).text := by
  have endingFree := not_mem_of_isRegularFile linkFree free ends h
  obtain ⟨c, member, other⟩ := named
  exact realPath_child linkFree (by simp [free, endingFree])
    (FileTree.isPlain_of_mem (List.mem_append_left _ member) other) h

theorem realPath_index (linkFree : i.tree.LinkFree) (free : Path.slash ∉ name)
    (named : ∃ c ∈ name, c ≠ .scalar '.') (ends : Path.EndsName ending)
    (h : i.isRegularFile ((p.child name).join (.ofText ("index" ++ ending))) = true) :
    ∃ directory file, i.LeadsTo p directory ∧
      i.realPath ((p.child name).join (.ofText ("index" ++ ending))) =
        (Location.path (directory ++ [name] ++ [file])).text := by
  have indexPlain (rest : Text) : FileTree.IsPlain (Text.ofString "index" ++ rest) :=
    FileTree.isPlain_of_mem (c := .scalar 'i') (by simp [Text.ofString, Text.ofChars]) (by simp)
  have headFree : Path.slash ∉ (Text.splitOn Path.slash ending).headD [] := by
    apply Text.not_mem_of_mem_splitOn
    rw [Text.splitOn_eq_cons]
    simp
  have indexFree : Path.slash ∉
      Text.ofString "index" ++ (Text.splitOn Path.slash ending).headD [] := by
    rw [List.mem_append]
    exact not_or.2 ⟨by decide, headFree⟩
  obtain ⟨c, member, other⟩ := named
  change i.isRegularFile ((p.child name).join (.ofText (Text.ofString "index" ++ ending))) = true at h
  change ∃ directory file, _ ∧
    i.realPath ((p.child name).join (.ofText (Text.ofString "index" ++ ending))) = _
  rw [Path.join_ofText_append _ (by decide) (by decide) ends (indexPlain _)] at h ⊢
  obtain ⟨inside, reached, real⟩ := realPath_child linkFree indexFree (indexPlain _) h
  unfold LeadsTo at reached
  rw [Path.pathNames_child, Text.splitOn_of_not_mem free] at reached
  obtain ⟨directory, outer, rfl⟩ :=
    FileTree.walk_concat linkFree (FileTree.isPlain_of_mem member other) reached
  exact ⟨directory, _, outer, real⟩

/-- Two files whose names differ in their endings have different real paths. -/
theorem realPath_appended_injective (linkFree : i.tree.LinkFree) (free : Path.slash ∉ name)
    (named : ∃ c ∈ name, c ≠ .scalar '.')
    (firstEnds : Path.EndsName first) (secondEnds : Path.EndsName second)
    (firstRegular : i.isRegularFile (p.child (name ++ first)) = true)
    (secondRegular : i.isRegularFile (p.child (name ++ second)) = true)
    (same : i.realPath (p.child (name ++ first)) = i.realPath (p.child (name ++ second))) :
    first = second := by
  obtain ⟨directory, leads, firstPath⟩ :=
    realPath_appended linkFree free named firstEnds firstRegular
  obtain ⟨directory', leads', secondPath⟩ :=
    realPath_appended linkFree free named secondEnds secondRegular
  obtain rfl := leads.unique leads'
  rw [firstPath, secondPath, Location.text_concat, Location.text_concat] at same
  simpa using same

/-- A file and an index file in a directory that shares its name have different real paths. -/
theorem realPath_index_ne (linkFree : i.tree.LinkFree) (free : Path.slash ∉ name)
    (named : ∃ c ∈ name, c ≠ .scalar '.')
    (indexEnds : Path.EndsName first) (ends : Path.EndsName second)
    (indexRegular : i.isRegularFile ((p.child name).join (.ofText ("index" ++ first))) = true)
    (regular : i.isRegularFile (p.child (name ++ second)) = true) :
    i.realPath ((p.child name).join (.ofText ("index" ++ first))) ≠
      i.realPath (p.child (name ++ second)) := by
  intro same
  obtain ⟨directory, file, leads, indexPath⟩ :=
    realPath_index linkFree free named indexEnds indexRegular
  obtain ⟨directory', leads', path⟩ := realPath_appended linkFree free named ends regular
  obtain rfl := leads.unique leads'
  rw [indexPath, path, Location.text_concat, Location.text_concat] at same
  have behind : Path.slash :: file = second := by simpa using same
  have endingFree := not_mem_of_isRegularFile linkFree free ends regular
  simp [← behind] at endingFree

end SharedName

/-- A manifest is read where it stands. -/
theorem mainOf_eq_none_of_mainFree (linkFree : i.tree.LinkFree) (mainFree : i.tree.MainFree)
    (p : Path) : i.mainOf p = none := by
  unfold mainOf FileTree.read?
  rw [Path.join_manifest]
  rcases reached : i.tree.reach [] (p.child "package.json") with _ | ⟨l, content | _⟩
  · rfl
  · have walked := walk_of_reach reached
    rw [Path.pathNames_child, Text.splitOn_of_not_mem (by decide)] at walked
    obtain ⟨directory, -, rfl⟩ := FileTree.walk_concat linkFree (by decide) walked
    exact mainFree directory content (FileTree.find?_of_walk rfl walked)
  · rfl

end Importer

end ImportPolicy
