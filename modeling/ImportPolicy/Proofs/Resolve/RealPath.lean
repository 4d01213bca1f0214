import ImportPolicy.Proofs.Path.Locations
import ImportPolicy.Proofs.Resolve.LinkFree
import ImportPolicy.Proofs.Specifier.PathLike

/-! # What a specifier stands for is a real path

A lookup ends at a regular file and answers with the path along which nothing but directories leads
to it. Such a path stands for itself from wherever it is imported. Both can fail where paths are too
long to ask about them: a link is kept that stands behind such a path, and such a path itself cannot
be looked up.

* `FileTree.IsRealPath` — the real path of a regular file.
* `Importer.LinksInSight` — specifiers behind which no link is kept.
* `Importer.isRealPath_of_isRegularFile` — what an answer is.
* `Importer.resolve_of_isRealPath` — what a real path stands for.
* `Importer.resolve_realPath` — both for the answer to a specifier. -/

namespace ImportPolicy

/-- A text is the path of a regular file from the root: its pieces behind the first slash are the
    names of the file's location, none of which is empty, a point or two points, and directories
    stand all the way down. -/
structure FileTree.IsRealPath (t : FileTree) (p : Text) (l : Location) : Prop where
  pieces : Text.splitOn Path.slash p = [] :: l
  names : ∀ name ∈ l, IsEntryName name
  directories : ∀ above below, l = above ++ below → below ≠ [] → t.find? above = some .directory
  file : ∃ content, t.find? l = some (.file content)

theorem FileTree.IsRealPath.below {t : FileTree} {p : Text} {l : Location}
    (real : t.IsRealPath p l) : l ≠ [] := by
  rintro rfl
  obtain ⟨content, found⟩ := real.file
  simp [find?] at found

theorem FileTree.IsRealPath.eq_text {t : FileTree} {p : Text} {l : Location}
    (real : t.IsRealPath p l) : p = (Location.path l).text := by
  obtain ⟨first, rest, rfl⟩ := List.exists_cons_of_ne_nil real.below
  rw [← Text.joinWith_splitOn Path.slash p, real.pieces]
  rfl

namespace Importer

variable {i : Importer} {specifier p : Text} {l location : Location} {q : Path}

/-- The importing file at another location in the same tree, under the same settings. -/
def movedTo (i : Importer) (location : Location) : Importer := { i with location }

theorem slash_not_mem_pathNames (q : Path) :
    ∀ name ∈ FileTree.pathNames q, Path.slash ∉ name := by
  intro name member
  obtain ⟨part, -, split⟩ := List.mem_flatMap.1 member
  exact Text.not_mem_of_mem_splitOn split

/-- No link that leads to the file a specifier stands for is kept in its real path. -/
def LinksInSight (i : Importer) (specifier : Text) : Prop :=
  ∀ q, i.locate specifier = .ok (some q) → ¬ i.HidesLink q

theorem isRealPath_of_isRegularFile (regular : i.isRegularFile q = true)
    (seen : ¬ i.HidesLink q) : ∃ l, i.tree.IsRealPath (i.realPath q) l := by
  obtain ⟨l, content, walked, real⟩ := walk_of_isRegularFile regular seen
  have names := FileTree.walk_names (by simp) (slash_not_mem_pathNames q) walked
  have file : i.tree.find? l = some (.file content) := FileTree.find?_of_walk rfl walked
  have below : l ≠ [] := by
    rintro rfl
    simp [FileTree.find?] at file
  rw [real]
  refine ⟨l, Location.splitOn_text below names, names, ?_, content, file⟩
  -- Links may have led here, but none stands on the way down to an entry.
  rintro above lower rfl nonempty
  exact FileTree.find?_above file nonempty

theorem reach_of_isRealPath {t : FileTree} (real : t.IsRealPath p l)
    (storable : FileTree.isStorable p = true) :
    ∃ content, t.reach [] (Location.path l) =
      if 4096 ≤ FileTree.byteLength p then .error .nameTooLong else .ok (l, .file content) := by
  obtain ⟨content, found⟩ := real.file
  refine ⟨content, ?_⟩
  rw [FileTree.reach, ← real.eq_text, if_neg (by simp [storable]), FileTree.pathStart_root,
    Location.pathNames_path real.names]
  congr 1
  exact FileTree.walk_location [] real.below real.names found

theorem not_hidesLink_of_isRealPath (real : i.tree.IsRealPath p l) :
    ¬ i.HidesLink (Location.path l) := by
  obtain ⟨content, found⟩ := real.file
  rw [HidesLink, Location.pathNames_path real.names]
  exact FileTree.not_meetsHiddenLink_location (fun name listed => (real.names name listed).plain)
    (show i.tree.find? ([] ++ l) = some (Target.file content).entry from found)

theorem isPathLike_of_isRealPath {t : FileTree} (real : t.IsRealPath p l) :
    Specifier.isPathLike p = true ∧ Specifier.firstPiece p = [] ∧ ¬ AsksForDirectory p := by
  have first : Specifier.firstPiece p = [] := by rw [Specifier.firstPiece, real.pieces]; rfl
  have nonempty : p ≠ [] := by
    rw [real.eq_text, Location.text_path]
    simp
  refine ⟨Specifier.isPathLike_iff.2 ⟨nonempty, first ▸ by decide⟩, first, ?_⟩
  obtain ⟨front, name, rfl⟩ := (List.eq_nil_or_concat l).resolve_left real.below
  rw [List.concat_eq_append] at real
  have entryName := real.names name (by simp)
  rw [real.eq_text, Location.text_concat]
  exact not_asksForDirectory_separator _ entryName.slashFree fun empty =>
    entryName.plain.1 (.inl empty)

/-- A real path is looked for where it says, and nowhere else before. -/
theorem resolve_eq_search_of_isRealPath (real : i.tree.IsRealPath p l)
    (core : [] ∉ i.settings.coreModules) :
    i.resolve p =
      (fun found => found.map i.realPath) <$> i.search (i.loadQuestions (Location.path l)) := by
  obtain ⟨pathLike, first, noDirectory⟩ := isPathLike_of_isRealPath real
  have notBuiltin := Specifier.isBuiltin_eq_false_of_firstPiece (first ▸ core) pathLike
  have present : p ≠ [] := (Specifier.isPathLike_iff.1 pathLike).1
  have target_eq : i.target p = Location.path l := by
    rw [target, real.eq_text, Location.ofText_text real.below real.names]
    rfl
  rw [resolve, if_neg (by simp [present, notBuiltin]), locate_eq_search, questions,
    if_pos pathLike, if_neg noDirectory, target_eq]

/-- A real path stands for itself, unless it is too long to ask about it. -/
theorem resolve_of_isRealPath (real : i.tree.IsRealPath p l)
    (storable : FileTree.isStorable p = true) (core : [] ∉ i.settings.coreModules) :
    i.resolve p =
      if 4096 ≤ FileTree.byteLength p then .error .nameTooLong else .ok (some p) := by
  obtain ⟨content, reached⟩ := reach_of_isRealPath real storable
  rw [resolve_eq_search_of_isRealPath real core]
  by_cases long : 4096 ≤ FileTree.byteLength p
  · rw [if_pos long] at reached ⊢
    have tooLong : i.isTooLong (Location.path l) = true := by rw [isTooLong, reached]
    rw [loadQuestions, fileQuestions, List.cons_append, search_cons, ask, fileAt_eq, if_pos tooLong]
    rfl
  · rw [if_neg long] at reached ⊢
    have regular : i.isRegularFile (Location.path l) = true := by rw [isRegularFile, reached]
    rw [search_of_isRegularFile regular, real.eq_text,
      ← realPath_of_reach reached (not_hidesLink_of_isRealPath real)]
    rfl

/-- What a specifier stands for is the real path of a regular file if the links that lead to it are
    seen. Where a file system can hold that path, nothing else is ever answered to it, from whatever
    file it is asked for under settings that add no module without a name; and it is answered itself
    if it is short enough to ask about it. -/
theorem resolve_realPath (h : i.resolve specifier = .ok (some p)) (seen : i.LinksInSight specifier) :
    (∃ l, i.tree.IsRealPath p l) ∧
      (FileTree.isStorable p = true → [] ∉ i.settings.coreModules → ∀ location,
        (∀ answer, (i.movedTo location).resolve p = .ok answer → answer = some p) ∧
          (FileTree.byteLength p < 4096 → (i.movedTo location).resolve p = .ok (some p))) := by
  obtain ⟨q, located, regular, rfl⟩ := locate_of_resolve h
  obtain ⟨l, real⟩ := isRealPath_of_isRegularFile regular (seen q located)
  refine ⟨⟨l, real⟩, fun storable core location => ?_⟩
  have itself := @resolve_of_isRealPath (i.movedTo location) _ l real storable core
  refine ⟨fun answer answered => ?_, fun short => ?_⟩
  · rw [answered] at itself
    split at itself <;> cases itself
    rfl
  · rw [itself, if_neg (by omega)]

/-- A directory that is reached through a link, from above it. -/
def besideLink : Importer where
  tree :=
    { entries := [(["src"], .directory), (["src", "lib"], .directory),
        (["src", "lib", "b.js"], .file []), (["src", "l"], .link "../src/lib/.")]
      root_unlisted := by decide
      parent_directory := by decide
      nodup := by decide }
  location := ["src", "a.js"]
  settings := {}

theorem linksInSight_besideLink (specifier : Text) : besideLink.LinksInSight specifier := by
  intro q _
  refine FileTree.not_meetsHiddenLink fun l text found => ?_
  have listed : ∀ e ∈ besideLink.tree.entries,
      FileTree.byteLength (Location.path e.1).text < 4096 := by decide
  unfold FileTree.find? at found
  split at found
  · cases found
  · exact listed _ (FileTree.mem_of_entryIn found)

theorem resolve_besideLink :
    besideLink.resolve "./l/../lib/b" = .ok (some "/src/lib/b.js") ∧
      besideLink.resolve "./l/b" = .ok (some "/src/lib/b.js") ∧
      besideLink.LinksInSight "./l/b" ∧
      (∃ l, besideLink.tree.IsRealPath "/src/lib/b.js" l) ∧
      (besideLink.movedTo ["other", "c.js"]).resolve "/src/lib/b.js" =
        .ok (some "/src/lib/b.js") := by
  have linked : besideLink.resolve "./l/b" = .ok (some "/src/lib/b.js") := by decide +kernel
  obtain ⟨real, itself⟩ := resolve_realPath linked (linksInSight_besideLink _)
  exact ⟨by decide +kernel, linked, linksInSight_besideLink _, real,
    (itself (by decide) List.not_mem_nil ["other", "c.js"]).2 (by decide)⟩

/-! ## Paths that are too long to ask about -/

/-- The location of a directory far down, under names of 252 bytes. -/
def farDown (depth : Nat) : Location := List.replicate depth (List.replicate 63 (.scalar '𐀀'))

/-- The location of a file whose path is too long to ask about it. -/
def farFile (name : Text) : Location := farDown 17 ++ [name]

/-- A link and a file far down, and a link that shortens the way there. -/
def beyondSight : Importer where
  tree :=
    { entries := (["s"], .link (Location.path (farDown 15)).text) :: (["b.js"], .file []) ::
        (farFile "k.js", .link "/b.js") :: (farFile "c.js", .file []) ::
        (List.range 17).map fun depth => (farDown (depth + 1), .directory)
      root_unlisted := by decide +kernel
      parent_directory := by decide +kernel
      nodup := by decide +kernel }
  location := ["a.js"]
  settings := {}

/-- The link far down is kept in an answer, and an answer far down cannot be asked about. -/
theorem resolve_beyondSight :
    let shortcut (name : Text) : Text := "./s" ++ (Location.path (farDown 2 ++ [name])).text
    let far (name : Text) : Text := (Location.path (farFile name)).text
    beyondSight.resolve (shortcut "k.js") = .ok (some (far "k.js")) ∧
      (∀ l, ¬ beyondSight.tree.IsRealPath (far "k.js") l) ∧
      [] ∉ beyondSight.settings.coreModules ∧
      beyondSight.resolve (shortcut "c.js") = .ok (some (far "c.js")) ∧
      (beyondSight.movedTo ["a.js"]).resolve (far "c.js") = .error .nameTooLong := by
  refine ⟨by decide +kernel, fun l real => ?_, List.not_mem_nil, by decide +kernel,
    by decide +kernel⟩
  have pieces : Text.splitOn Path.slash (Location.path (farFile "k.js")).text =
      [] :: farFile "k.js" := by
    decide +kernel
  have link : beyondSight.tree.find? (farFile "k.js") = some (.link "/b.js") := by
    decide +kernel
  obtain ⟨content, found⟩ := real.file
  obtain ⟨-, rfl⟩ := List.cons.inj (real.pieces.symm.trans pieces)
  rw [link] at found
  cases found

end Importer

end ImportPolicy
