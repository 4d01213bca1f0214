import ImportPolicy.Proofs.Path.Names
import ImportPolicy.Resolve.Lookup

/-! # A lookup as a search

Looking up a specifier asks the file tree one question after another: is there a file here, is
this a directory. The first file ends the search, and so does the first question that fails. This
module lays the nested lookups out as one list of questions.

* `Importer.Question`, `Importer.ask` — a question and its answer.
* `Importer.search` — asking until one answer decides.
* `Importer.questions` — the questions about a specifier, in order.
* `Importer.locate_eq_search` — a lookup is the search through them. -/

namespace ImportPolicy

namespace Importer

variable {i : Importer}

/-! ## What a path leads to -/

/-- Whether a path leads to a regular file; no where the question fails. -/
def isRegularFile (i : Importer) (p : Path) : Bool :=
  match i.tree.reach [] p with
  | .ok (_, .file _) => true
  | _ => false

/-- Whether a path leads to a directory; no where the question fails. -/
def isFolder (i : Importer) (p : Path) : Bool :=
  match i.tree.reach [] p with
  | .ok (_, .directory) => true
  | _ => false

/-- Whether a question about a path fails, since the path or a name on its way is too long. -/
def isTooLong (i : Importer) (p : Path) : Bool :=
  match i.tree.reach [] p with
  | .error .nameTooLong => true
  | _ => false

/-- The main module that the manifest in a directory names. -/
def mainOf (i : Importer) (directory : Path) : Option Text :=
  (i.tree.read? [] (directory.join "package.json")).bind Manifest.main?

theorem isFile_eq (i : Importer) (p : Path) :
    i.isFile p = if i.isTooLong p then .error .nameTooLong else .ok (i.isRegularFile p) := by
  unfold isFile FileTree.isFile isRegularFile isTooLong
  rcases i.tree.reach [] p with (_ | _ | _ | _) | ⟨l, _ | _⟩ <;> rfl

theorem isDirectory_eq (i : Importer) (p : Path) :
    i.isDirectory p = if i.isTooLong p then .error .nameTooLong else .ok (i.isFolder p) := by
  unfold isDirectory FileTree.isDirectory isFolder isTooLong
  rcases i.tree.reach [] p with (_ | _ | _ | _) | ⟨l, _ | _⟩ <;> rfl

theorem isTooLong_of_isRegularFile {p : Path} (h : i.isRegularFile p = true) :
    i.isTooLong p = false := by
  unfold isRegularFile at h
  unfold isTooLong
  rcases reached : i.tree.reach [] p with (_ | _ | _ | _) | _ <;> simp [reached] at h ⊢

theorem mainOf_eq_none {directory : Path}
    (h : i.isRegularFile (directory.join "package.json") = false) : i.mainOf directory = none := by
  unfold isRegularFile at h
  unfold mainOf FileTree.read?
  rcases reached : i.tree.reach [] (directory.join "package.json") with _ | ⟨l, _ | _⟩ <;>
    simp [reached] at h ⊢

theorem manifestMain?_eq (i : Importer) (directory : Path) :
    i.manifestMain? (directory.join "package.json") =
      if i.isTooLong (directory.join "package.json") then .error .nameTooLong
      else .ok (i.mainOf directory) := by
  rw [manifestMain?, isFile_eq]
  cases i.isTooLong (directory.join "package.json") with
  | true => rfl
  | false =>
    cases regular : i.isRegularFile (directory.join "package.json") with
    | true => rfl
    | false => rw [mainOf_eq_none regular]; rfl

/-! ## Questions -/

/-- A question that a lookup asks. A file that is there is what the lookup finds; whether a folder
    or a manifest is there only says which questions follow. -/
inductive Question where
  | file (p : Path)
  /-- The file whose name is that of a path with an extension, which has to be a name. -/
  | appended (p : Path) (extension : Text)
  | folder (p : Path)
  | manifest (p : Path)
  deriving DecidableEq

/-- A path where it leads to a file. -/
def fileAt (i : Importer) (p : Path) : Lookup := do
  if ← i.isFile p then return some p else return none

/-- What a question finds. -/
def ask (i : Importer) : Question → Lookup
  | .file p => i.fileAt p
  | .appended p extension => do i.fileAt (← withExtension p extension)
  | .folder p => do
    let _ ← i.isDirectory p
    return none
  | .manifest p => do
    let _ ← i.isFile p
    return none

/-- What the first question finds that finds something or fails. -/
def search (i : Importer) : List Question → Lookup
  | [] => .ok none
  | q :: rest => orElse (i.ask q) fun _ => i.search rest

/-- The questions about a target as a file. -/
def fileQuestions (i : Importer) (target : Path) : List Question :=
  .file target :: i.settings.extensions.map (.appended target)

/-- The questions about the index file of a directory. -/
def indexQuestions (i : Importer) (directory : Path) : List Question :=
  .folder directory ::
    if i.isFolder directory then
      i.settings.extensions.map fun extension =>
        .file (directory.join (.ofText ("index" ++ extension)))
    else []

/-- The questions about a target as a directory. -/
def directoryQuestions (i : Importer) (target : Path) : List Question :=
  .folder target ::
    if i.isFolder target then
      .manifest (target.join "package.json") ::
        match i.mainOf target with
        | some main =>
          i.fileQuestions (target.join (.ofText main)) ++
            i.indexQuestions (target.join (.ofText main)) ++ i.indexQuestions target
        | none => i.indexQuestions target
    else []

/-- The questions about a target as a file or else as a directory. -/
def loadQuestions (i : Importer) (target : Path) : List Question :=
  i.fileQuestions target ++ i.directoryQuestions target

/-- The questions about a specifier in a package folder. -/
def folderQuestions (i : Importer) (specifier : Text) (folder : Path) : List Question :=
  .folder folder ::
    if i.isFolder folder then i.loadQuestions (folder.join (.ofText specifier)) else []

/-- The path that a specifier writes, seen from the importing file's directory. -/
def target (i : Importer) (specifier : Text) : Path :=
  (Location.path i.location.dropLast).join (.ofText specifier)

/-- Whether a specifier can only stand for a directory by the way it is written. -/
def AsksForDirectory (specifier : Text) : Prop :=
  Text.endsWith specifier "/" ∨ specifier = "." ∨ specifier = ".."

instance (specifier : Text) : Decidable (AsksForDirectory specifier) := by
  unfold AsksForDirectory
  infer_instance

/-- The questions about a specifier. -/
def questions (i : Importer) (specifier : Text) : List Question :=
  if Specifier.isPathLike specifier then
    if AsksForDirectory specifier then i.directoryQuestions (i.target specifier)
    else i.loadQuestions (i.target specifier)
  else i.moduleFolders.flatMap (i.folderQuestions specifier)

/-! ## Searching -/

@[simp] theorem search_nil : i.search [] = .ok none := rfl

theorem search_cons (q : Question) (rest : List Question) :
    i.search (q :: rest) = orElse (i.ask q) fun _ => i.search rest := rfl

@[simp] theorem orElse_none (second : Unit → Lookup) : orElse (.ok none) second = second () := rfl

@[simp] theorem orElse_some (p : Path) (second : Unit → Lookup) :
    orElse (.ok (some p)) second = .ok (some p) := rfl

@[simp] theorem orElse_error (e : LookupError) (second : Unit → Lookup) :
    orElse (.error e) second = .error e := rfl

theorem orElse_assoc (first : Lookup) (second third : Unit → Lookup) :
    orElse (orElse first second) third = orElse first fun u => orElse (second u) third := by
  rcases first with e | _ | p <;> rfl

theorem search_append (xs ys : List Question) :
    i.search (xs ++ ys) = orElse (i.search xs) fun _ => i.search ys := by
  induction xs with
  | nil => rfl
  | cons q xs inductionHypothesis =>
    simp only [List.cons_append, search_cons, inductionHypothesis, orElse_assoc]

theorem fileAt_eq (i : Importer) (p : Path) : i.fileAt p =
    if i.isTooLong p then .error .nameTooLong
    else .ok (if i.isRegularFile p then some p else none) := by
  rw [fileAt, isFile_eq]
  cases i.isTooLong p <;> cases i.isRegularFile p <;> rfl

theorem ask_folder (p : Path) : i.ask (.folder p) =
    if i.isTooLong p then .error .nameTooLong else .ok none := by
  rw [ask, isDirectory_eq]
  cases i.isTooLong p <;> rfl

theorem ask_manifest (p : Path) : i.ask (.manifest p) =
    if i.isTooLong p then .error .nameTooLong else .ok none := by
  rw [ask, isFile_eq]
  cases i.isTooLong p <;> rfl

theorem search_eq_none_iff {qs : List Question} :
    i.search qs = .ok none ↔ ∀ q ∈ qs, i.ask q = .ok none := by
  induction qs with
  | nil => simp
  | cons q qs inductionHypothesis =>
    rw [search_cons, List.forall_mem_cons, ← inductionHypothesis]
    rcases i.ask q with e | _ | p <;> simp

theorem search_eq_iff {qs : List Question} {outcome : Lookup} (decided : outcome ≠ .ok none) :
    i.search qs = outcome ↔ ∃ before q after, qs = before ++ q :: after ∧
      (∀ b ∈ before, i.ask b = .ok none) ∧ i.ask q = outcome := by
  constructor
  · intro h
    induction qs with
    | nil => exact absurd h.symm decided
    | cons q qs inductionHypothesis =>
      by_cases answer : i.ask q = .ok none
      · rw [search_cons, answer, orElse_none] at h
        obtain ⟨before, q', after, rfl, unanswered, answered⟩ := inductionHypothesis h
        refine ⟨q :: before, q', after, rfl, ?_, answered⟩
        exact List.forall_mem_cons.2 ⟨answer, unanswered⟩
      · refine ⟨[], q, qs, rfl, by simp, ?_⟩
        rw [search_cons] at h
        rcases asked : i.ask q with e | _ | p
        · simpa [asked] using h
        · exact absurd asked answer
        · simpa [asked] using h
  · rintro ⟨before, q, after, rfl, unanswered, answered⟩
    rw [search_append, search_eq_none_iff.2 unanswered, orElse_none, search_cons, answered]
    rcases outcome with e | _ | p
    · rfl
    · exact absurd rfl decided
    · rfl

/-! ## Each step of a lookup is a search -/

theorem firstFile_cons (candidate : Except LookupError Path)
    (rest : List (Except LookupError Path)) :
    i.firstFile (candidate :: rest) =
      orElse (do i.fileAt (← candidate)) fun _ => i.firstFile rest := by
  cases candidate with
  | error e => rfl
  | ok p =>
    simp only [firstFile, fileAt, bind, Except.bind]
    rcases i.isFile p with e | _ | _ <;> rfl

theorem firstFile_map {α : Type} (candidate : α → Except LookupError Path)
    (question : α → Question) (h : ∀ a, i.ask (question a) = do i.fileAt (← candidate a))
    (as : List α) :
    i.firstFile (as.map candidate) = i.search (as.map question) := by
  induction as with
  | nil => rfl
  | cons a as inductionHypothesis =>
    simp only [List.map_cons, firstFile_cons, search_cons, inductionHypothesis, h]

/-- A step that is only done in a directory asks for the directory first. -/
theorem ifDirectory_eq_search {p : Path} {step : Lookup} {inside : List Question}
    (h : step = i.search inside) :
    (do if ← i.isDirectory p then step else return none) =
      i.search (.folder p :: if i.isFolder p then inside else []) := by
  rw [search_cons, ask_folder, isDirectory_eq, h]
  cases i.isTooLong p <;> cases i.isFolder p <;> rfl

theorem loadAsFile_eq_search (target : Path) :
    i.loadAsFile target = i.search (i.fileQuestions target) := by
  rw [loadAsFile, fileCandidates, fileQuestions, firstFile_cons, search_cons,
    firstFile_map (withExtension target) (.appended target) fun _ => rfl]
  rfl

theorem loadIndex_eq_search (directory : Path) :
    i.loadIndex directory = i.search (i.indexQuestions directory) := by
  apply ifDirectory_eq_search
  rw [indexCandidates]
  exact firstFile_map _ _ (fun _ => rfl) _

theorem loadAsDirectory_eq_search (target : Path) :
    i.loadAsDirectory target = i.search (i.directoryQuestions target) := by
  apply ifDirectory_eq_search
  rw [manifestMain?_eq, search_cons, ask_manifest]
  cases i.isTooLong (target.join "package.json") with
  | true => rfl
  | false =>
    cases i.mainOf target with
    | none => exact loadIndex_eq_search target
    | some main =>
      change orElse (orElse (i.loadAsFile _) fun _ => i.loadIndex _) (fun _ => i.loadIndex target) =
        i.search _
      simp only [search_append, loadAsFile_eq_search, loadIndex_eq_search]

theorem load_eq_search (target : Path) : i.load target = i.search (i.loadQuestions target) := by
  rw [load, loadQuestions, search_append, loadAsFile_eq_search, loadAsDirectory_eq_search]

theorem searchFolders_eq_search (specifier : Text) (folders : List Path) :
    i.searchFolders specifier folders =
      i.search (folders.flatMap (i.folderQuestions specifier)) := by
  induction folders with
  | nil => rfl
  | cons folder folders inductionHypothesis =>
    rw [List.flatMap_cons, folderQuestions, search_append, ← ifDirectory_eq_search rfl,
      ← inductionHypothesis, ← load_eq_search, searchFolders, isDirectory_eq]
    cases i.isTooLong folder <;> cases i.isFolder folder <;> rfl

theorem locate_eq_search (specifier : Text) :
    i.locate specifier = i.search (i.questions specifier) := by
  rw [locate, questions]
  split
  · change (if AsksForDirectory specifier then i.loadAsDirectory (i.target specifier)
      else i.load (i.target specifier)) = _
    split
    · exact loadAsDirectory_eq_search _
    · exact load_eq_search _
  · exact searchFolders_eq_search specifier i.moduleFolders

/-! ## Targets that are files -/

theorem not_asksForDirectory_separator (front : Text) {name : Text} (free : Path.slash ∉ name)
    (nonempty : name ≠ []) : ¬ AsksForDirectory (front ++ Path.slash :: name) := by
  rintro (ends | dot | dots)
  · have single : Text.ofString "/" = [Path.slash] := rfl
    rw [single, Text.endsWith, List.isSuffixOf_iff_suffix] at ends
    obtain ⟨start, whole⟩ := ends
    have lasts := congrArg List.getLast? whole
    cases last : name.getLast? with
    | none => exact nonempty (List.getLast?_eq_none_iff.1 last)
    | some c =>
      have isLast : c = Path.slash := by simpa [List.getLast?_cons, last, eq_comm] using lasts
      exact free (isLast ▸ List.mem_of_getLast? last)
  · have held : Path.slash ∈ Text.ofString "." := dot ▸ by simp
    revert held
    decide
  · have held : Path.slash ∈ Text.ofString ".." := dots ▸ by simp
    revert held
    decide

/-- A target that is a file is what its lookup finds. -/
theorem search_of_isRegularFile {p : Path} (regular : i.isRegularFile p = true) :
    i.search (i.loadQuestions p) = .ok (some p) := by
  rw [loadQuestions, fileQuestions, List.cons_append, search_cons, ask, fileAt_eq,
    isTooLong_of_isRegularFile regular, regular]
  rfl

end Importer

end ImportPolicy
