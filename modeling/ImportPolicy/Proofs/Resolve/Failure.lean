import ImportPolicy.Proofs.FileTree.Walking
import ImportPolicy.Proofs.Resolve.Candidates

/-! # Lookups that fail

Not every lookup is answered: a path may be too long to ask about, and a name with an extension may
be no name.

* `FileTree.Refuses` — the paths that cannot be asked about.
* `Importer.Question.Fails` — the questions that fail, and with which error.
* `Importer.resolve_answers_iff` — a lookup is answered unless such a question comes before the
  first file. -/

namespace ImportPolicy

/-- The path is too long, or a name that is met on the way along it. A path that no file system can
    hold is not even looked at. -/
def FileTree.Refuses (t : FileTree) (p : Path) : Prop :=
  isStorable p.text = true ∧
    (4096 ≤ byteLength p.text ∨ MeetsLongName t linkLimit [] (pathNames p))

theorem FileTree.pathStart_root (p : Path) : pathStart [] p = [] := by
  simp [pathStart]

namespace Importer

variable {i : Importer}

theorem isTooLong_iff {p : Path} : i.isTooLong p = true ↔ i.tree.Refuses p := by
  unfold isTooLong FileTree.Refuses FileTree.reach
  rw [FileTree.pathStart_root]
  cases storable : FileTree.isStorable p.text with
  | false => simp
  | true =>
    by_cases long : 4096 ≤ FileTree.byteLength p.text
    · simp [long]
    · rw [← FileTree.walk_eq_nameTooLong_iff]
      rcases i.tree.walk FileTree.linkLimit [] (FileTree.pathNames p) with (_ | _ | _ | _) | _ <;>
        simp [long]

/-! ## Questions that fail -/

/-- A question fails with an error. Whatever is asked about a path fails if the path is refused; the
    name of a path with an extension fails also if there is no name or if it is none. -/
inductive Question.Fails (i : Importer) : Question → LookupError → Prop where
  | file {p} (refused : i.tree.Refuses p) : Fails i (.file p) .nameTooLong
  | folder {p} (refused : i.tree.Refuses p) : Fails i (.folder p) .nameTooLong
  | manifest {p} (refused : i.tree.Refuses p) : Fails i (.manifest p) .nameTooLong
  | nameless {p extension} (noName : p.name = []) :
      Fails i (.appended p extension) (.name (.emptyName p))
  | misnamed {p extension} (named : p.name ≠ [])
      (noName : Path.isName (p.name ++ extension) = false) :
      Fails i (.appended p extension) (.name (.invalidName (p.name ++ extension)))
  | appended {p extension} (named : p.name ≠ [])
      (isName : Path.isName (p.name ++ extension) = true)
      (refused : i.tree.Refuses (p.appended extension)) :
      Fails i (.appended p extension) .nameTooLong

theorem fileAt_eq_error_iff {p : Path} {e : LookupError} :
    i.fileAt p = .error e ↔ i.tree.Refuses p ∧ e = .nameTooLong := by
  rw [← isTooLong_iff, fileAt_eq]
  cases i.isTooLong p with
  | true => simp only [if_true, Except.error.injEq, true_and, eq_comm]
  | false => simp

theorem ask_eq_error_iff {q : Question} {e : LookupError} :
    i.ask q = .error e ↔ q.Fails i e := by
  constructor
  · intro h
    cases q with
    | file p =>
      obtain ⟨refused, rfl⟩ := fileAt_eq_error_iff.1 h
      exact .file refused
    | folder p =>
      rw [ask_folder] at h
      split at h
      next tooLong =>
        cases h
        exact .folder (isTooLong_iff.1 tooLong)
      · simp at h
    | manifest p =>
      rw [ask_manifest] at h
      split at h
      next tooLong =>
        cases h
        exact .manifest (isTooLong_iff.1 tooLong)
      · simp at h
    | appended p extension =>
      rw [ask, withExtension_eq] at h
      split at h
      next nameless =>
        cases h
        exact .nameless nameless
      next named =>
        split at h
        next isName =>
          obtain ⟨refused, rfl⟩ := fileAt_eq_error_iff.1 h
          exact .appended named isName refused
        next misnamed =>
          cases h
          exact .misnamed named (by simpa using misnamed)
  · intro fails
    cases fails with
    | file refused => exact fileAt_eq_error_iff.2 ⟨refused, rfl⟩
    | folder refused => rw [ask_folder, isTooLong_iff.2 refused, if_pos rfl]
    | manifest refused => rw [ask_manifest, isTooLong_iff.2 refused, if_pos rfl]
    | nameless noName => rw [ask, withExtension_eq, if_pos noName]; rfl
    | misnamed named noName => rw [ask, withExtension_eq, if_neg named, noName]; rfl
    | appended named isName refused =>
      rw [ask, withExtension_eq, if_neg named, isName]
      exact fileAt_eq_error_iff.2 ⟨refused, rfl⟩

/-! ## Lookups that fail -/

theorem ask_eq_none_iff {q : Question} (answers : ∀ e, ¬ q.Fails i e) :
    i.ask q = .ok none ↔ q.candidate?.any i.isRegularFile = false := by
  cases asked : i.ask q with
  | error e => exact absurd (ask_eq_error_iff.1 asked) (answers e)
  | ok found =>
    rw [ask_eq_ok asked]
    rcases q.candidate? with _ | p
    · simp
    · cases regular : i.isRegularFile p <;> simp [Option.filter, regular]

theorem resolve_eq_error_iff {specifier : Text} {e : LookupError} :
    i.resolve specifier = .error e ↔
      specifier ≠ [] ∧ Specifier.isBuiltin i.settings specifier = false ∧
        i.search (i.questions specifier) = .error e := by
  unfold resolve
  rw [locate_eq_search]
  by_cases absent : specifier.isEmpty = true ∨ Specifier.isBuiltin i.settings specifier = true
  · rw [if_pos absent]
    rcases absent with empty | builtin
    · simp [List.isEmpty_iff.1 empty]
    · simp [builtin]
  · rw [if_neg absent]
    simp only [not_or, List.isEmpty_iff, Bool.not_eq_true] at absent
    cases i.search (i.questions specifier) <;> simp [absent, Functor.map, Except.map]

/-- A search is answered exactly if a file has been found before any question that fails. -/
theorem search_answers_iff {qs : List Question} : (∃ found, i.search qs = .ok found) ↔
    ∀ before q after e, qs = before ++ q :: after → q.Fails i e →
      ∃ b ∈ before, b.candidate?.any i.isRegularFile = true := by
  constructor
  · rintro ⟨found, h⟩ before q after e rfl fails
    cases searched : i.search before with
    | error e => simp [search_append, searched] at h
    | ok first =>
      cases first with
      | none =>
        simp [search_append, searched, search_cons, ask_eq_error_iff.2 fails] at h
      | some p =>
        obtain ⟨_, b, _, rfl, -, answered⟩ := (search_eq_iff (by simp)).1 searched
        refine ⟨b, by simp, ?_⟩
        have candidate := (Option.filter_eq_some_iff.1 (ask_eq_ok answered).symm)
        simp [candidate]
  · intro behind
    cases searched : i.search qs with
    | ok found => exact ⟨found, rfl⟩
    | error e =>
      obtain ⟨before, q, after, rfl, unanswered, failed⟩ :=
        (search_eq_iff (by simp)).1 searched
      obtain ⟨b, member, regular⟩ := behind before q after e rfl (ask_eq_error_iff.1 failed)
      have answers : ∀ e, ¬ b.Fails i e := by
        intro e fails
        have := ask_eq_error_iff.2 fails
        simp [unanswered b member] at this
      have := (ask_eq_none_iff answers).1 (unanswered b member)
      simp [regular] at this

/-- A specifier is looked up with an answer exactly if every question about it that would fail comes
    after one that finds a file. -/
theorem resolve_answers_iff (i : Importer) (specifier : Text) :
    (∃ found, i.resolve specifier = .ok found) ↔
      (specifier ≠ [] → Specifier.isBuiltin i.settings specifier = false →
        ∀ before q after e, i.questions specifier = before ++ q :: after → q.Fails i e →
          ∃ b ∈ before, b.candidate?.any i.isRegularFile = true) := by
  constructor
  · rintro ⟨found, answered⟩ nonempty notBuiltin
    rw [← search_answers_iff]
    cases searched : i.search (i.questions specifier) with
    | ok found => exact ⟨found, rfl⟩
    | error e =>
      have failed := resolve_eq_error_iff.2 ⟨nonempty, notBuiltin, searched⟩
      simp [answered] at failed
  · intro behind
    cases resolved : i.resolve specifier with
    | ok found => exact ⟨found, rfl⟩
    | error e =>
      obtain ⟨nonempty, notBuiltin, failed⟩ := resolve_eq_error_iff.1 resolved
      obtain ⟨found, answered⟩ := search_answers_iff.2 (behind nonempty notBuiltin)
      simp [answered] at failed

/-- A file alone in its tree. -/
def alone : Importer where
  tree :=
    { entries := [(["a.js"], .file [])]
      root_unlisted := by decide
      parent_directory := by decide
      nodup := by decide }
  location := ["a.js"]
  settings := {}

/-- A relative specifier of 256 letters is not looked up as missing. -/
theorem resolve_long_name_fails :
    alone.resolve ("./" ++ List.replicate 256 (CodePoint.scalar 'a')) = .error .nameTooLong := by
  decide +kernel

end Importer

end ImportPolicy
