import ImportPolicy.Proofs.Resolve.Candidates
import ImportPolicy.Proofs.Specifier.PathLike

/-! # Specifiers that are written as directories

A specifier whose last segment is empty, a point or two points names a directory. Whether the lookup
keeps to the directory depends on how the specifier is written: the rule is there for paths that end
with a slash and for points alone, and for no other specifier.

* `Specifier.IsWrittenAsDirectory`, `asksForDirectory_iff` — such specifiers, and those of them that
  the rule is there for.
* `Importer.fileBeside`, `Importer.fileInside` — what a location stands for as a file and as a
  directory.
* `Importer.resolve_eq_beside_or_inside` — what such a specifier stands for.
* `Importer.resolve_answersDirectory_iff` — when that is what the directory gives. -/

namespace ImportPolicy

/-- The last segment of a specifier is empty, a point or two points. -/
def Specifier.IsWrittenAsDirectory (specifier : Text) : Prop :=
  (Text.splitOn Path.slash specifier).getLast? ∈ pathPieces.map some

instance (specifier : Text) : Decidable (Specifier.IsWrittenAsDirectory specifier) :=
  inferInstanceAs (Decidable (_ ∈ _))

/-- A specifier ends with a slash and points behind it. -/
def Specifier.EndsWithPoints (specifier : Text) : Prop :=
  Text.endsWith specifier "/." = true ∨ Text.endsWith specifier "/.." = true

instance (specifier : Text) : Decidable (Specifier.EndsWithPoints specifier) :=
  inferInstanceAs (Decidable (_ ∨ _))

namespace Importer

open Specifier (IsWrittenAsDirectory EndsWithPoints)

variable {i : Importer} {specifier : Text} {t p : Path}

theorem endsWith_iff {ending : Text} :
    Text.endsWith specifier ending = true ↔ ∃ front, specifier = front ++ ending := by
  rw [Text.endsWith, List.isSuffixOf_iff_suffix]
  exact exists_congr fun front => eq_comm

theorem not_endsWithPoints_of_asksForDirectory (asks : AsksForDirectory specifier) :
    ¬ EndsWithPoints specifier := by
  rcases asks with slash | rfl | rfl
  · obtain ⟨front, rfl⟩ := endsWith_iff.1 slash
    have last : (front ++ Text.ofString "/").getLast? = some Path.slash := by
      simp [Text.ofString, Text.ofChars, Path.slash]
    rintro (ends | ends) <;>
    · obtain ⟨other, same⟩ := endsWith_iff.1 ends
      rw [same] at last
      simp [Text.ofString, Text.ofChars, Path.slash] at last
  · decide
  · decide

/-- The rule on directories misses the paths that end with points behind a slash. -/
theorem asksForDirectory_iff (written : IsWrittenAsDirectory specifier)
    (pathLike : Specifier.isPathLike specifier = true) :
    AsksForDirectory specifier ↔ ¬ EndsWithPoints specifier := by
  refine ⟨not_endsWithPoints_of_asksForDirectory, fun noPoints => ?_⟩
  have here : Text.ofString "/." = Path.slash :: Text.ofString "." := rfl
  have above : Text.ofString "/.." = Path.slash :: Text.ofString ".." := rfl
  obtain ⟨last, member, last_eq⟩ := List.mem_map.1 written
  by_cases held : Path.slash ∈ specifier
  · obtain ⟨front, behind, rfl, free⟩ := Text.exists_last_piece held
    rw [Text.splitOn_separator, Text.splitOn_of_not_mem free, List.getLast?_concat,
      Option.some.injEq] at last_eq
    subst last_eq
    rcases Specifier.mem_pathPieces.1 member with rfl | rfl | rfl
    · exact .inl (endsWith_iff.2 ⟨front, rfl⟩)
    · exact absurd (.inl (endsWith_iff.2 ⟨front, by rw [here]⟩)) noPoints
    · exact absurd (.inr (endsWith_iff.2 ⟨front, by rw [above]⟩)) noPoints
  · rw [Text.splitOn_of_not_mem held, List.getLast?_singleton, Option.some.injEq] at last_eq
    subst last_eq
    rcases Specifier.mem_pathPieces.1 member with rfl | dot | dots
    · exact absurd pathLike (by decide)
    · exact .inr (.inl dot)
    · exact .inr (.inr dots)

/-! ## Beside and inside -/

/-- The paths that a specifier is looked up at: one for a path, and one in every package folder that
    is there for a package, the nearest first. -/
def locations (i : Importer) (specifier : Text) : List Path :=
  if Specifier.isPathLike specifier then [i.target specifier]
  else (i.moduleFolders.filter i.isFolder).map (·.join (.ofText specifier))

/-- The file that a location stands for by its name, with or without an extension. -/
def fileBeside (i : Importer) (t : Path) : Option Path :=
  (i.fileCandidatePaths t).find? i.isRegularFile

/-- The file that a location stands for as a directory. -/
def fileInside (i : Importer) (t : Path) : Option Path :=
  (i.directoryCandidatePaths t).find? i.isRegularFile

/-- The file that the nearest location that has one stands for as a directory. -/
def directoryAnswer (i : Importer) (specifier : Text) : Option Path :=
  (i.locations specifier).findSome? i.fileInside

/-- The file that stands beside the nearest location that stands for a file in either way. -/
def answerBeside (i : Importer) (specifier : Text) : Option Path :=
  ((i.locations specifier).find? fun t =>
    (i.fileBeside t).isSome || (i.fileInside t).isSome).bind i.fileBeside

theorem findSome?_or {α β : Type} (first second : α → Option β) (as : List α) :
    as.findSome? (fun a => (first a).or (second a)) =
      ((as.find? fun a => (first a).isSome || (second a).isSome).bind first).or
        (as.findSome? second) := by
  induction as with
  | nil => rfl
  | cons a as inductionHypothesis =>
    rw [List.findSome?_cons, List.findSome?_cons, List.find?_cons, inductionHypothesis]
    cases beside : first a <;> cases inside : second a <;> simp [beside]

theorem find?_candidates (specifier : Text) :
    (i.candidates specifier).find? i.isRegularFile =
      if Specifier.isPathLike specifier ∧ AsksForDirectory specifier then
        i.directoryAnswer specifier
      else (i.answerBeside specifier).or (i.directoryAnswer specifier) := by
  have target_eq (t : Path) : (i.targetCandidatePaths t).find? i.isRegularFile =
      (i.fileBeside t).or (i.fileInside t) := List.find?_append
  rw [answerBeside, directoryAnswer, ← findSome?_or, ← filterMap_questions, questions, locations]
  cases pathLike : Specifier.isPathLike specifier with
  | true =>
    by_cases asks : AsksForDirectory specifier
    · simp [asks, fileInside]
    · simp [asks, target_eq]
  | false =>
    -- A package is never asked for as a directory: every folder has both kinds of candidates.
    simp only [Bool.false_eq_true, if_false, false_and, List.filterMap_flatMap,
      filterMap_folderQuestions, List.find?_flatMap]
    induction i.moduleFolders with
    | nil => rfl
    | cons folder folders inductionHypothesis =>
      cases isFolder : i.isFolder folder <;>
        simp [isFolder, List.findSome?_cons, inductionHypothesis, target_eq]

/-! ## What such a specifier stands for -/

/-- Where the rule on directories does not reach, a file beside the nearest location comes first. -/
theorem resolve_eq_beside_or_inside (nonempty : specifier ≠ [])
    (notBuiltin : Specifier.isBuiltin i.settings specifier = false)
    (written : IsWrittenAsDirectory specifier) {found : Option Text}
    (answered : i.resolve specifier = .ok found) :
    found = Option.map i.realPath
      (if Specifier.isPathLike specifier ∧ ¬ EndsWithPoints specifier then
        i.directoryAnswer specifier
      else (i.answerBeside specifier).or (i.directoryAnswer specifier)) := by
  rcases resolve_inv answered with ⟨absent, -⟩ | ⟨-, found_eq⟩
  · simp [nonempty, notBuiltin] at absent
  · rw [found_eq, find?_candidates]
    cases pathLike : Specifier.isPathLike specifier with
    | true => simp only [asksForDirectory_iff written pathLike]
    | false => rfl

/-- A specifier that is written as a directory stands for what the directory gives exactly if it is
    a path that does not end with points behind a slash, or if no other file has the name of the
    nearest location, with or without an extension. -/
theorem resolve_answersDirectory_iff (nonempty : specifier ≠ [])
    (notBuiltin : Specifier.isBuiltin i.settings specifier = false)
    (written : IsWrittenAsDirectory specifier)
    (answered : ∃ found, i.resolve specifier = .ok found) :
    i.resolve specifier = .ok ((i.directoryAnswer specifier).map i.realPath) ↔
      Specifier.isPathLike specifier = true ∧ ¬ EndsWithPoints specifier ∨
        ∀ p, i.answerBeside specifier = some p →
          (i.directoryAnswer specifier).map i.realPath = some (i.realPath p) := by
  obtain ⟨found, h⟩ := answered
  rw [h, resolve_eq_beside_or_inside nonempty notBuiltin written h, Except.ok.injEq]
  by_cases ruled : Specifier.isPathLike specifier = true ∧ ¬ EndsWithPoints specifier
  · rw [if_pos ruled]
    simp [ruled]
  · rw [if_neg ruled]
    simp only [ruled, false_or]
    cases i.answerBeside specifier with
    | none => simp
    | some p => simp [eq_comm]

/-- A directory with an index file and a file of its name beside it, as a path and as a package. -/
def besideName : Importer where
  tree :=
    { entries := [(["src"], .directory), (["src", "lib"], .directory),
        (["src", "lib", "index.js"], .file []), (["src", "lib.js"], .file []),
        (["node_modules"], .directory), (["node_modules", "p"], .directory),
        (["node_modules", "p", "index.js"], .file []), (["node_modules", "p.js"], .file [])]
      root_unlisted := by decide
      parent_directory := by decide
      nodup := by decide }
  location := ["src", "a.js"]
  settings := {}

theorem resolve_answersDirectory_besideName :
    besideName.resolve "./lib/" =
        .ok ((besideName.directoryAnswer "./lib/").map besideName.realPath) ∧
      besideName.resolve "./lib/" = .ok (some "/src/lib/index.js") := by
  have answered : besideName.resolve "./lib/" = .ok (some "/src/lib/index.js") := by
    decide +kernel
  exact ⟨(resolve_answersDirectory_iff (by decide) (by decide +kernel) (by decide)
    ⟨_, answered⟩).2 (.inl ⟨by decide, by decide⟩), answered⟩

/-- With a point behind the slash, or for a package, the file beside the directory is found. -/
theorem resolve_besideName_leaves_directory :
    (IsWrittenAsDirectory "./lib/." ∧
      (besideName.directoryAnswer "./lib/.").map besideName.realPath =
        some (Text.ofString "/src/lib/index.js") ∧
      besideName.resolve "./lib/." = .ok (some "/src/lib.js")) ∧
    IsWrittenAsDirectory "p/" ∧
      (besideName.directoryAnswer "p/").map besideName.realPath =
        some (Text.ofString "/node_modules/p/index.js") ∧
      besideName.resolve "p/" = .ok (some "/node_modules/p.js") := by
  decide +kernel

end Importer

end ImportPolicy
