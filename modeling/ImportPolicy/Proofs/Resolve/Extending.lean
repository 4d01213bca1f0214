import ImportPolicy.Proofs.Resolve.Candidates

/-! # More extensions to try

Every candidate for a specifier stays one when there are more extensions to try, whatever their
order. New candidates may come first, so that the specifier stands for another file, but it does not
come to stand for none.

* `Importer.withExtensions` — an importing file with other extensions to try.
* `Importer.candidates_withExtensions` — no candidate is lost.
* `Importer.resolve_withExtensions` — no file is lost. -/

namespace ImportPolicy

theorem append_subset_append {α : Type} {front back front' back' : List α}
    (fronts : front ⊆ front') (backs : back ⊆ back') : front ++ back ⊆ front' ++ back' :=
  List.append_subset_of_subset_of_subset (List.subset_append_of_subset_left _ fronts)
    (List.subset_append_of_subset_right _ backs)

namespace Importer

variable {i : Importer} {extensions : List Text}

/-- The same importing file and settings with other extensions to try. -/
def withExtensions (i : Importer) (extensions : List Text) : Importer :=
  { i with settings := { i.settings with extensions } }

/-! ## What extensions have no part in -/

theorem isRegularFile_withExtensions (i : Importer) (extensions : List Text) :
    (i.withExtensions extensions).isRegularFile = i.isRegularFile := rfl

theorem isFolder_withExtensions (i : Importer) (extensions : List Text) (p : Path) :
    (i.withExtensions extensions).isFolder p = i.isFolder p := rfl

theorem mainOf_withExtensions (i : Importer) (extensions : List Text) (p : Path) :
    (i.withExtensions extensions).mainOf p = i.mainOf p := rfl

theorem target_withExtensions (i : Importer) (extensions : List Text) (specifier : Text) :
    (i.withExtensions extensions).target specifier = i.target specifier := rfl

theorem isBuiltin_withExtensions (i : Importer) (extensions : List Text) (specifier : Text) :
    Specifier.isBuiltin (i.withExtensions extensions).settings specifier =
      Specifier.isBuiltin i.settings specifier := rfl

/-! ## Candidates -/

section

variable (more : i.settings.extensions ⊆ extensions)
include more

theorem fileCandidatePaths_withExtensions (p : Path) :
    i.fileCandidatePaths p ⊆ (i.withExtensions extensions).fileCandidatePaths p :=
  List.cons_subset_cons p (List.map_subset p.appended more)

theorem indexCandidatePaths_withExtensions (p : Path) :
    i.indexCandidatePaths p ⊆ (i.withExtensions extensions).indexCandidatePaths p := by
  rw [indexCandidatePaths, indexCandidatePaths, isFolder_withExtensions]
  split
  · exact List.map_subset _ more
  · exact List.nil_subset _

theorem directoryCandidatePaths_withExtensions (p : Path) :
    i.directoryCandidatePaths p ⊆ (i.withExtensions extensions).directoryCandidatePaths p := by
  have index := indexCandidatePaths_withExtensions more
  rw [directoryCandidatePaths, directoryCandidatePaths, isFolder_withExtensions,
    mainOf_withExtensions]
  split
  · cases i.mainOf p with
    | none => exact index p
    | some main =>
      -- The manifest names the same module, which is tried as a file and as a directory.
      have file := fileCandidatePaths_withExtensions more (p.join (.ofText main))
      exact append_subset_append (append_subset_append file (index _)) (index p)
  · exact List.nil_subset _

theorem targetCandidatePaths_withExtensions (p : Path) :
    i.targetCandidatePaths p ⊆ (i.withExtensions extensions).targetCandidatePaths p :=
  append_subset_append (fileCandidatePaths_withExtensions more p)
    (directoryCandidatePaths_withExtensions more p)

theorem packageCandidatePaths_withExtensions (specifier : Text) (directory : Location) :
    i.packageCandidatePaths specifier directory ⊆
      (i.withExtensions extensions).packageCandidatePaths specifier directory := by
  intro candidate member
  obtain ⟨folder, listed, inside⟩ := List.mem_flatMap.1 member
  refine List.mem_flatMap.2 ⟨folder, listed, ?_⟩
  dsimp only at inside ⊢
  rw [isFolder_withExtensions]
  split at inside
  · simp at inside
  next searched =>
    rw [if_neg searched]
    exact targetCandidatePaths_withExtensions more _ inside

theorem candidates_withExtensions (specifier : Text) :
    i.candidates specifier ⊆ (i.withExtensions extensions).candidates specifier := by
  rw [candidates, candidates, target_withExtensions]
  split
  · exact directoryCandidatePaths_withExtensions more _
  split
  · split
    · exact directoryCandidatePaths_withExtensions more _
    · exact targetCandidatePaths_withExtensions more _
  · intro candidate member
    obtain ⟨directory, above, inside⟩ := List.mem_flatMap.1 member
    exact List.mem_flatMap.2
      ⟨directory, above, packageCandidatePaths_withExtensions more specifier directory inside⟩

end

/-! ## Files -/

/-- A specifier that stands for a file stands for one, perhaps for another one, when there are more
    extensions to try and its lookup is answered. -/
theorem resolve_withExtensions {specifier path : Text} {outcome : Option Text}
    (more : i.settings.extensions ⊆ extensions)
    (found : i.resolve specifier = .ok (some path))
    (answered : (i.withExtensions extensions).resolve specifier = .ok outcome) :
    ∃ other, outcome = some other := by
  rcases resolve_inv found with ⟨-, none⟩ | ⟨present, first⟩
  · cases none
  rcases resolve_inv answered with ⟨absent, -⟩ | ⟨-, rfl⟩
  · rw [isBuiltin_withExtensions] at absent
    exact absurd absent present
  obtain ⟨p, isFirst, -⟩ := Option.map_eq_some_iff.1 first.symm
  have member := candidates_withExtensions more specifier (List.mem_of_find?_eq_some isFirst)
  have regular := List.find?_some isFirst
  have still : ((i.withExtensions extensions).candidates specifier).find?
      (i.withExtensions extensions).isRegularFile |>.isSome := by
    rw [List.find?_isSome, isRegularFile_withExtensions]
    exact ⟨p, member, regular⟩
  obtain ⟨other, isFound⟩ := Option.isSome_iff_exists.1 still
  exact ⟨_, by rw [isFound, Option.map_some]⟩

/-- A package with an index file, and nearer to the importing file one that is a single file with
    another extension. -/
def nearerPackage : Importer where
  tree :=
    { entries := [(["src"], .directory), (["src", "node_modules"], .directory),
        (["src", "node_modules", "p.ts"], .file []), (["node_modules"], .directory),
        (["node_modules", "p"], .directory), (["node_modules", "p", "index.js"], .file [])]
      root_unlisted := by decide
      parent_directory := by decide
      nodup := by decide }
  location := ["src", "a.js"]
  settings := { extensions := [".js"] }

theorem resolve_withExtensions_nearerPackage :
    nearerPackage.resolve "p" = .ok (some "/node_modules/p/index.js") ∧
    (nearerPackage.withExtensions [".json", ".ts", ".js"]).resolve "p" =
      .ok (some "/src/node_modules/p.ts") ∧
    ∃ other, some (Text.ofString "/src/node_modules/p.ts") = some other := by
  have found : nearerPackage.resolve "p" = .ok (some "/node_modules/p/index.js") := by
    decide +kernel
  have answered : (nearerPackage.withExtensions [".json", ".ts", ".js"]).resolve "p" =
      .ok (some "/src/node_modules/p.ts") := by
    decide +kernel
  exact ⟨found, answered, resolve_withExtensions (by decide) found answered⟩

end Importer

end ImportPolicy
