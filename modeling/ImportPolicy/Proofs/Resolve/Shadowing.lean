import ImportPolicy.Proofs.FileTree.Adding
import ImportPolicy.Proofs.Resolve.LinkFree

/-! # A new file beside the others

A file that is created in a tree without links changes a lookup in one way only: the specifier comes
to stand for the new file.

* `Importer.candidates_insert` — the candidates for a specifier stay the same.
* `Importer.isRegularFile_insert` — a candidate that becomes a file is the new one.
* `Importer.resolve_insert` — what a specifier stands for afterwards. -/

namespace ImportPolicy

/-- What is still found by a weaker test may be preceded by what only that test finds. -/
theorem find?_eq_or_of_imp {α : Type} {test weaker : α → Bool} (as : List α)
    (implied : ∀ a, test a = true → weaker a = true) :
    as.find? weaker = as.find? test ∨ ∃ a, as.find? weaker = some a ∧ test a = false := by
  induction as with
  | nil => exact .inl rfl
  | cons a as inductionHypothesis =>
    cases passes : test a with
    | true =>
      rw [List.find?_cons_of_pos passes, List.find?_cons_of_pos (implied a passes)]
      exact .inl rfl
    | false =>
      rw [List.find?_cons_of_neg (p := test) (by simp [passes])]
      cases now : weaker a with
      | true => exact .inr ⟨a, List.find?_cons_of_pos now, passes⟩
      | false =>
        rw [List.find?_cons_of_neg (by simp [now])]
        exact inductionHypothesis

namespace Importer

open FileTree (Adds)

variable {i : Importer} {t : FileTree} {place directory : Location} {name specifier : Text}
  {content : List UInt8} {p : Path}

/-- The same importing file and settings in another tree. -/
def inTree (i : Importer) (t : FileTree) : Importer := { i with tree := t }

theorem isFolder_insert (adds : Adds i.tree t place content) (p : Path) :
    (i.inTree t).isFolder p = i.isFolder p := by
  unfold isFolder
  rcases adds.reach_eq_or [] p with same | ⟨⟨vacancy, missed⟩, found | stopped⟩
  · rw [inTree, same]
  · rw [inTree, found, missed]
  · rw [inTree, stopped, missed]

theorem realPath_insert (adds : Adds i.tree t place content) (p : Path) :
    (i.inTree t).realPath p = i.realPath p := by
  unfold realPath inTree
  rw [FileTree.realLocation_congr adds.linkAt?_eq]

theorem isRegularFile_insert (adds : Adds i.tree t place content) (linkFree : i.tree.LinkFree)
    (p : Path) :
    (i.inTree t).isRegularFile p = i.isRegularFile p ∨
      i.isRegularFile p = false ∧
        ((i.inTree t).isRegularFile p = true →
          (i.inTree t).realPath p = (Location.path place).text) := by
  unfold isRegularFile
  rcases adds.reach_eq_or [] p with same | ⟨⟨vacancy, missed⟩, found | stopped⟩
  · exact .inl (by rw [inTree, same])
  · have seen := not_hidesLink (i := i.inTree t) (adds.linkFree linkFree) p
    have real := realPath_of_reach (i := i.inTree t) found seen
    exact .inr (by simp [inTree, found, missed, ← real])
  · exact .inr (by simp [inTree, stopped, missed])

/-- A manifest is read where it stands, so that a file of another name is none. -/
theorem mainOf_insert (adds : Adds i.tree t (directory ++ [name]) content)
    (linkFree : i.tree.LinkFree) (noManifest : name ≠ "package.json") (p : Path) :
    (i.inTree t).mainOf p = i.mainOf p := by
  unfold mainOf FileTree.read?
  rw [Path.join_manifest]
  rcases adds.reach_eq_or [] (p.child "package.json") with
    same | ⟨⟨vacancy, missed⟩, found | stopped⟩
  · rw [inTree, same]
  · have walked := @walk_of_reach (i.inTree t) _ _ _ found
    rw [Path.pathNames_child, Text.splitOn_of_not_mem (by decide)] at walked
    -- Without links the walk ends at an entry of the name it asked for.
    obtain ⟨above, -, whole⟩ := FileTree.walk_concat (adds.linkFree linkFree) (by decide) walked
    exact absurd (by simpa using congrArg List.getLast? whole) noManifest
  · rw [inTree, stopped, missed]

theorem fileCandidatePaths_inTree (t : FileTree) (p : Path) :
    (i.inTree t).fileCandidatePaths p = i.fileCandidatePaths p := rfl

theorem target_inTree (t : FileTree) (specifier : Text) :
    (i.inTree t).target specifier = i.target specifier := rfl

theorem settings_inTree (i : Importer) (t : FileTree) : (i.inTree t).settings = i.settings := rfl

theorem location_inTree (i : Importer) (t : FileTree) : (i.inTree t).location = i.location := rfl

/-- Which paths are asked about depends on directories and manifests alone. -/
theorem candidates_insert (adds : Adds i.tree t (directory ++ [name]) content)
    (linkFree : i.tree.LinkFree) (noManifest : name ≠ "package.json") (specifier : Text) :
    (i.inTree t).candidates specifier = i.candidates specifier := by
  have asIndex (p : Path) : (i.inTree t).indexCandidatePaths p = i.indexCandidatePaths p := by
    rw [indexCandidatePaths, indexCandidatePaths, isFolder_insert adds, settings_inTree]
  have asDirectory (p : Path) :
      (i.inTree t).directoryCandidatePaths p = i.directoryCandidatePaths p := by
    rw [directoryCandidatePaths, directoryCandidatePaths, isFolder_insert adds,
      mainOf_insert adds linkFree noManifest]
    simp only [fileCandidatePaths_inTree, asIndex]
  have asTarget (p : Path) : (i.inTree t).targetCandidatePaths p = i.targetCandidatePaths p := by
    rw [targetCandidatePaths, targetCandidatePaths, fileCandidatePaths_inTree, asDirectory]
  have asPackage : (i.inTree t).packageCandidatePaths = i.packageCandidatePaths := by
    funext specifier directory
    simp only [packageCandidatePaths, settings_inTree, isFolder_insert adds, asTarget]
  simp only [candidates, target_inTree, location_inTree, asDirectory, asTarget, asPackage]

/-- After a file that is no manifest has been created in a tree without links, a specifier stands
    for what it stood for before or for the new file. -/
theorem resolve_insert (linkFree : i.tree.LinkFree)
    (inserted : i.tree.insert? directory name (.file content) = some t)
    (noManifest : name ≠ "package.json") {old new : Option Text}
    (before : i.resolve specifier = .ok old) (after : (i.inTree t).resolve specifier = .ok new) :
    new = old ∨ new = some (Location.path (directory ++ [name])).text := by
  have adds := FileTree.adds_of_insert? inserted
  have afterwards := resolve_inv after
  rw [settings_inTree, candidates_insert adds linkFree noManifest] at afterwards
  rcases resolve_inv before with ⟨absent, rfl⟩ | ⟨present, rfl⟩
  · rcases afterwards with ⟨-, rfl⟩ | ⟨present, -⟩
    · exact .inl rfl
    · exact absurd absent present
  · rcases afterwards with ⟨absent, -⟩ | ⟨-, rfl⟩
    · exact absurd absent present
    · have kept (p : Path) (regular : i.isRegularFile p = true) :
          (i.inTree t).isRegularFile p = true ∧ (i.inTree t).realPath p = i.realPath p := by
        rcases isRegularFile_insert adds linkFree p with same | ⟨irregular, -⟩
        · exact ⟨same.trans regular, realPath_insert adds p⟩
        · simp [regular] at irregular
      -- The candidates are the same, so the first that is a file now was that before, or is new.
      rcases find?_eq_or_of_imp (i.candidates specifier) fun p regular => (kept p regular).1
        with same | ⟨p, first, irregular⟩
      · left
        rw [same]
        cases found : (i.candidates specifier).find? i.isRegularFile with
        | none => rw [Option.map_none, Option.map_none]
        | some p => rw [Option.map_some, Option.map_some, (kept p (List.find?_some found)).2]
      · right
        have regular := List.find?_some first
        rcases isRegularFile_insert adds linkFree p with same | ⟨-, real⟩
        · rw [same, irregular] at regular
          simp at regular
        · rw [first, Option.map_some, real regular]

/-- A directory with an index file, without and with a file of its name beside it. -/
def besideIndex : Importer where
  tree :=
    { entries := [(["src"], .directory), (["src", "b"], .directory),
        (["src", "b", "index.js"], .file [])]
      root_unlisted := by decide
      parent_directory := by decide
      nodup := by decide }
  location := ["src", "a.js"]
  settings := {}

theorem resolve_insert_besideIndex :
    ∃ t, besideIndex.tree.insert? ["src"] "b.js" (.file []) = some t ∧
      besideIndex.resolve "./b" = .ok (some "/src/b/index.js") ∧
      (besideIndex.inTree t).resolve "./b" = .ok (some "/src/b.js") ∧
      (some (Text.ofString "/src/b.js") = some (Text.ofString "/src/b/index.js") ∨
        some (Text.ofString "/src/b.js") =
          some (Location.path (["src", "b.js"])).text) := by
  have linkFree : besideIndex.tree.LinkFree :=
    FileTree.linkFree_of_forall (by simp [besideIndex])
  have before : besideIndex.resolve "./b" = .ok (some "/src/b/index.js") := by decide +kernel
  obtain ⟨t, inserted⟩ : ∃ t, besideIndex.tree.insert? ["src"] "b.js" (.file []) = some t :=
    ⟨_, dif_pos ⟨by decide, by decide⟩⟩
  have after : (besideIndex.inTree t).resolve "./b" = .ok (some "/src/b.js") := by
    cases inserted
    decide +kernel
  exact ⟨t, inserted, before, after,
    resolve_insert linkFree inserted (by decide) before after⟩

end Importer

end ImportPolicy
