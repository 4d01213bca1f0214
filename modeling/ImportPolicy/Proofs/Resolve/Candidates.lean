import ImportPolicy.Proofs.Resolve.Search
import Mathlib.Control.Monad.Basic
import Mathlib.Data.List.Basic

/-! # The candidates for a specifier

A specifier stands for the first regular file among its candidates, which are a plain list of paths:
for a target the target itself and the target with each extension; for a directory the main module
of its manifest and its index files; for a package all of these in every package folder above the
importing file.

* `Importer.candidates` — the candidates for a specifier, in order.
* `Importer.resolve_eq_first_candidate` — the first file among them is what a specifier stands
  for. -/

namespace ImportPolicy.Importer

variable {i : Importer}

/-- A target as a file: itself, and itself with each extension. -/
def fileCandidatePaths (i : Importer) (target : Path) : List Path :=
  target :: i.settings.extensions.map target.appended

/-- The index files of a directory. -/
def indexCandidatePaths (i : Importer) (directory : Path) : List Path :=
  if i.isFolder directory then
    i.settings.extensions.map fun extension => directory.join (.ofText ("index" ++ extension))
  else []

/-- A target as a directory: what its manifest names as a file, then the index files there, then
    its own index files. -/
def directoryCandidatePaths (i : Importer) (target : Path) : List Path :=
  if i.isFolder target then
    match i.mainOf target with
    | some main =>
      i.fileCandidatePaths (target.join (.ofText main)) ++
        i.indexCandidatePaths (target.join (.ofText main)) ++ i.indexCandidatePaths target
    | none => i.indexCandidatePaths target
  else []

/-- A target as a file and then as a directory. -/
def targetCandidatePaths (i : Importer) (target : Path) : List Path :=
  i.fileCandidatePaths target ++ i.directoryCandidatePaths target

/-- A specifier in the package folders of one directory. A directory that is itself a package folder
    has no folder of the same name searched in it. -/
def packageCandidatePaths (i : Importer) (specifier : Text) (directory : Location) : List Path :=
  i.settings.externalModuleFolders.flatMap fun folder =>
    let path := (Location.path directory).join (.ofText folder)
    if directory.getLastD [] = folder ∨ i.isFolder path = false then []
    else i.targetCandidatePaths (path.join (.ofText specifier))

/-- The candidates for a specifier. -/
def candidates (i : Importer) (specifier : Text) : List Path :=
  if specifier = "." ∨ specifier = ".." then i.directoryCandidatePaths (i.target specifier)
  else if Specifier.isPathLike specifier then
    if Text.endsWith specifier "/" then i.directoryCandidatePaths (i.target specifier)
    else i.targetCandidatePaths (i.target specifier)
  else (ancestors i.location).flatMap (i.packageCandidatePaths specifier)

/-! ## Candidates are what questions are about -/

/-- The path that a question may find. -/
def Question.candidate? : Question → Option Path
  | .file p => some p
  | .appended p extension => some (p.appended extension)
  | .folder _ => none
  | .manifest _ => none

@[simp] theorem filterMap_fileQuestions (target : Path) :
    (i.fileQuestions target).filterMap Question.candidate? = i.fileCandidatePaths target := by
  simp [fileQuestions, fileCandidatePaths, Question.candidate?, List.filterMap_map,
    Function.comp_def]

@[simp] theorem filterMap_indexQuestions (directory : Path) :
    (i.indexQuestions directory).filterMap Question.candidate? =
      i.indexCandidatePaths directory := by
  unfold indexQuestions indexCandidatePaths
  split <;> simp [List.filterMap_cons, Question.candidate?, List.filterMap_map,
    Function.comp_def]

@[simp] theorem filterMap_directoryQuestions (target : Path) :
    (i.directoryQuestions target).filterMap Question.candidate? =
      i.directoryCandidatePaths target := by
  unfold directoryQuestions directoryCandidatePaths
  split
  · cases i.mainOf target <;> simp [List.filterMap_cons, Question.candidate?]
  · simp [List.filterMap_cons, Question.candidate?]

@[simp] theorem filterMap_loadQuestions (target : Path) :
    (i.loadQuestions target).filterMap Question.candidate? = i.targetCandidatePaths target := by
  simp [loadQuestions, targetCandidatePaths]

theorem filterMap_folderQuestions (specifier : Text) (folder : Path) :
    (i.folderQuestions specifier folder).filterMap Question.candidate? =
      if i.isFolder folder then i.targetCandidatePaths (folder.join (.ofText specifier)) else [] := by
  unfold folderQuestions
  split <;> simp [List.filterMap_cons, Question.candidate?]

theorem filterMap_moduleFolders (specifier : Text) :
    (i.moduleFolders.flatMap (i.folderQuestions specifier)).filterMap Question.candidate? =
      (ancestors i.location).flatMap (i.packageCandidatePaths specifier) := by
  simp only [moduleFolders, List.flatMap_assoc, List.filterMap_flatMap, List.flatMap_map,
    filterMap_folderQuestions]
  apply List.flatMap_congr
  intro directory _
  unfold packageCandidatePaths
  generalize i.settings.externalModuleFolders = folders
  generalize directory.getLastD [] = name
  induction folders with
  | nil => rfl
  | cons folder folders inductionHypothesis =>
    rw [List.flatMap_cons, ← inductionHypothesis]
    by_cases own : name = folder
    · rw [List.filter_cons_of_neg (by simp [own])]
      simp [own]
    · rw [List.filter_cons_of_pos (by simp [own]), List.flatMap_cons]
      cases isFolder : i.isFolder ((Location.path directory).join (.ofText folder)) <;>
        simp [own, isFolder]

theorem filterMap_questions (specifier : Text) :
    (i.questions specifier).filterMap Question.candidate? = i.candidates specifier := by
  unfold questions candidates
  by_cases dots : specifier = "." ∨ specifier = ".."
  · have pathLike : Specifier.isPathLike specifier = true := by
      rcases dots with rfl | rfl <;> rfl
    simp [pathLike, AsksForDirectory, dots]
  · rw [if_neg dots]
    split
    · by_cases slash : Text.endsWith specifier "/" = true <;>
        simp_all [AsksForDirectory]
    · exact filterMap_moduleFolders specifier

/-! ## The first file among the candidates -/

theorem withExtension_eq (p : Path) (extension : Text) : withExtension p extension =
    if p.name = [] then .error (.name (.emptyName p))
    else if Path.isName (p.name ++ extension) then .ok (p.appended extension)
    else .error (.name (.invalidName (p.name ++ extension))) := by
  unfold withExtension Path.withName
  by_cases nameless : p.name = []
  · simp [nameless, Except.mapError]
  · cases Path.isName (p.name ++ extension) <;> simp [nameless, Except.mapError, Path.appended]

theorem fileAt_eq_ok {p : Path} {found : Option Path} (h : i.fileAt p = .ok found) :
    found = if i.isRegularFile p then some p else none := by
  rw [fileAt_eq] at h
  split at h
  · simp at h
  · exact (Except.ok.inj h).symm

theorem ask_eq_ok {q : Question} {found : Option Path} (h : i.ask q = .ok found) :
    found = q.candidate?.filter i.isRegularFile := by
  cases q with
  | file p =>
    obtain rfl := fileAt_eq_ok h
    simp [Question.candidate?, Option.filter]
  | appended p extension =>
    rw [ask, withExtension_eq] at h
    split at h
    · simp [bind, Except.bind] at h
    · split at h
      · obtain rfl := fileAt_eq_ok h
        simp [Question.candidate?, Option.filter]
      · simp [bind, Except.bind] at h
  | folder p =>
    rw [ask_folder] at h
    split at h
    · simp at h
    · exact (Except.ok.inj h).symm
  | manifest p =>
    rw [ask_manifest] at h
    split at h
    · simp at h
    · exact (Except.ok.inj h).symm

theorem search_eq_ok {qs : List Question} {found : Option Path} (h : i.search qs = .ok found) :
    found = (qs.filterMap Question.candidate?).find? i.isRegularFile := by
  induction qs with
  | nil => exact (Except.ok.inj h).symm
  | cons q qs inductionHypothesis =>
    rw [search_cons] at h
    rcases asked : i.ask q with e | _ | p
    · simp [asked] at h
    · simp only [asked, orElse_none] at h
      have nothing := ask_eq_ok asked
      rcases candidate : q.candidate? with _ | p
      · rw [List.filterMap_cons_none candidate]
        exact inductionHypothesis h
      · rw [candidate] at nothing
        rw [List.filterMap_cons_some candidate, List.find?_cons_of_neg]
        · exact inductionHypothesis h
        · intro regular
          simp [Option.filter, regular] at nothing
    · simp only [asked, orElse_some, Except.ok.injEq] at h
      subst h
      have something := (ask_eq_ok asked).symm
      rw [Option.filter_eq_some_iff] at something
      rw [List.filterMap_cons_some something.1, List.find?_cons_of_pos something.2]

/-- Whatever is answered about a specifier, it is not looked up at all or has been searched for among
    its candidates. -/
theorem resolve_inv {specifier : Text} {found : Option Text} (h : i.resolve specifier = .ok found) :
    (specifier = [] ∨ Specifier.isBuiltin i.settings specifier = true) ∧ found = none ∨
      ¬ (specifier = [] ∨ Specifier.isBuiltin i.settings specifier = true) ∧
        found = ((i.candidates specifier).find? i.isRegularFile).map i.realPath := by
  simp only [resolve, List.isEmpty_iff] at h
  by_cases absent : specifier = [] ∨ Specifier.isBuiltin i.settings specifier = true
  · rw [if_pos absent] at h
    exact .inl ⟨absent, (Except.ok.inj h).symm⟩
  · rw [if_neg absent, locate_eq_search] at h
    cases searched : i.search (i.questions specifier) with
    | error e => simp [searched, Functor.map, Except.map] at h
    | ok first =>
      have first_eq := search_eq_ok searched
      rw [filterMap_questions] at first_eq
      simp only [searched, Functor.map, Except.map, Except.ok.injEq] at h
      exact .inr ⟨absent, by rw [← h, first_eq]⟩

/-- What a specifier stands for is the real path of a regular file that it is located at. -/
theorem locate_of_resolve {specifier p : Text} (h : i.resolve specifier = .ok (some p)) :
    ∃ q, i.locate specifier = .ok (some q) ∧ i.isRegularFile q = true ∧ i.realPath q = p := by
  rw [resolve] at h
  split at h
  · cases h
  · cases located : i.locate specifier with
    | error e => simp [located, Functor.map, Except.map] at h
    | ok found =>
      simp only [located, Functor.map, Except.map, Except.ok.injEq, Option.map_eq_some_iff] at h
      obtain ⟨q, rfl, real⟩ := h
      rw [locate_eq_search] at located
      exact ⟨q, rfl, List.find?_some (search_eq_ok located).symm, real⟩

/-- A package whose manifest names a module that is not there, seen from a directory that has a
    package folder without it. -/
def deadMain : Importer where
  tree :=
    { entries := [(["src"], .directory), (["src", "node_modules"], .directory),
        (["node_modules"], .directory), (["node_modules", "p"], .directory),
        (["node_modules", "p", "package.json"],
          .file (Utf8.encode "\x7b\"main\":\"gone\"\x7d".toList)),
        (["node_modules", "p", "index.js"], .file [])]
      root_unlisted := by decide
      parent_directory := by decide
      nodup := by decide }
  location := ["src", "a.js"]
  settings := { extensions := [".js"] }

end ImportPolicy.Importer
