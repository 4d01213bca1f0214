import ImportPolicy.Proofs.Check.Findings
import ImportPolicy.Proofs.Resolve.LinkFree
import ImportPolicy.Proofs.Specifier.Extension
import ImportPolicy.Proofs.Specifier.PathLike

/-! # Specifiers that name a file

A specifier that names a file with a forbidden extension is found unexpected exactly if the lookup
without the extension ends at the same file. In a tree without links and without main modules this
can be told from the files beside each other.

* `Importer.NamesFile` — specifiers that are the path of a file with its extension.
* `Importer.first_candidate_iff` — when a lookup without the ending finds the file.
* `Importer.check_namesFile` — what a check finds. -/

namespace ImportPolicy.Importer

variable {i : Importer} {specifier extension name ending : Text} {p : Path}

/-- A specifier is a path to a regular file and spells the extension of the file. -/
structure NamesFile (i : Importer) (specifier extension : Text) : Prop where
  pathLike : Specifier.isPathLike specifier = true
  spelt : Text.endsWith specifier (.scalar '.' :: extension) = true
  regular : i.isRegularFile (i.target specifier) = true
  extension_eq : extensionOf (i.realPath (i.target specifier)) = extension
  nonempty : extension ≠ []

/-! ## How such a specifier is written -/

/-- A specifier ends with a name behind a slash. -/
structure WrittenAs (i : Importer) (specifier : Text) (p : Path) (name : Text) : Prop where
  pathLike : Specifier.isPathLike specifier = true
  noDirectory : ¬ AsksForDirectory specifier
  target_eq : i.target specifier = p.child name

theorem writtenAs_separator (i : Importer) {front : Text} (free : Path.slash ∉ name)
    (plain : FileTree.IsPlain name)
    (pathLike : Specifier.isPathLike (front ++ Path.slash :: name) = true) :
    i.WrittenAs (front ++ Path.slash :: name)
      ((Location.path i.location.dropLast).join (.ofText (front ++ [Path.slash]))) name where
  pathLike := pathLike
  noDirectory := not_asksForDirectory_separator front free fun none => plain.1 (.inl none)
  target_eq := Path.join_ofText_last _ front free plain

theorem NamesFile.extension_free (h : i.NamesFile specifier extension) :
    .scalar '.' ∉ extension ∧ Path.slash ∉ extension := by
  have ending := extensionOf_inv (h.extension_eq ▸ h.nonempty)
  rw [h.extension_eq] at ending
  obtain ⟨-, -, -, noPoint, noSeparator⟩ := ending
  exact ⟨noPoint, fun member => absurd (noSeparator _ member) (by decide)⟩

theorem NamesFile.extension_named (h : i.NamesFile specifier extension) :
    ∃ c ∈ extension, c ≠ .scalar '.' := by
  obtain ⟨c, member⟩ := List.exists_mem_of_ne_nil _ h.nonempty
  exact ⟨c, member, fun isPoint => h.extension_free.1 (isPoint ▸ member)⟩

theorem NamesFile.separator_mem {stem : Text}
    (h : i.NamesFile (stem ++ .scalar '.' :: extension) extension) : Path.slash ∈ stem := by
  obtain ⟨c, member, other⟩ := h.extension_named
  have held : c ∈ stem ++ .scalar '.' :: extension := by simp [member]
  rcases Specifier.isPathLike_iff_exists.1 h.pathLike with dot | dots | ⟨piece, -, rest, whole⟩
  · rw [dot] at held
    exact absurd (by simpa [Text.ofString, Text.ofChars] using held) other
  · rw [dots] at held
    exact absurd (by simpa [Text.ofString, Text.ofChars] using held) other
  · have slashHeld : Path.slash ∈ stem ++ .scalar '.' :: extension := whole ▸ by simp
    simp only [List.mem_append, List.mem_cons, h.extension_free.2, or_false] at slashHeld
    rcases slashHeld with inside | isPoint
    · exact inside
    · exact absurd isPoint (by decide)

/-- A specifier that names a file is the path of a directory, a name that has something else than
    points in it, and the extension; without the extension it is the path of that name. -/
theorem NamesFile.inv (linkFree : i.tree.LinkFree) (h : i.NamesFile specifier extension) :
    ∃ p name, Path.slash ∉ name ∧ (∃ c ∈ name, c ≠ .scalar '.') ∧ Path.slash ∉ extension ∧
      i.WrittenAs specifier p (name ++ .scalar '.' :: extension) ∧
      i.WrittenAs (withoutExtension specifier extension) p name := by
  obtain ⟨-, stem, rfl⟩ := spells_iff.1 (show spells specifier extension = true by
    simp [spells, h.spelt, h.nonempty])
  obtain ⟨-, free⟩ := h.extension_free
  obtain ⟨front, name, rfl, nameFree⟩ := Text.exists_last_piece h.separator_mem
  have pathLike := h.pathLike
  have regular := h.regular
  have extension_eq := h.extension_eq
  rw [withoutExtension_append]
  simp only [List.append_assoc, List.cons_append] at pathLike regular extension_eq ⊢
  have plain : FileTree.IsPlain (name ++ .scalar '.' :: extension) := by
    obtain ⟨c, member, other⟩ := h.extension_named
    exact FileTree.isPlain_of_mem (by simp [member]) other
  have pieceFree : Path.slash ∉ name ++ .scalar '.' :: extension := by
    simp only [List.mem_append, List.mem_cons, nameFree, free, or_false, false_or]
    decide
  have written := writtenAs_separator i pieceFree plain pathLike
  rw [written.target_eq] at regular extension_eq
  -- The real path ends with the same name, so the name holds what comes before an extension.
  have named : ∃ c ∈ name, c ≠ .scalar '.' := by
    obtain ⟨directory, -, real⟩ := realPath_child linkFree pieceFree plain regular
    rw [real, Location.text_concat, extensionOf_separator (by decide)] at extension_eq
    obtain ⟨stem, whole, other, -⟩ := extensionOf_inv (extension_eq ▸ h.nonempty)
    rw [extension_eq, List.append_cancel_right_eq] at whole
    exact whole ▸ other
  obtain ⟨c, member, other⟩ := named
  refine ⟨_, name, nameFree, ⟨c, member, other⟩, free, written, ?_⟩
  apply writtenAs_separator i nameFree (FileTree.isPlain_of_mem member other)
  rw [Specifier.isPathLike_separator]
  exact pathLike

/-! ## What is looked up -/

/-- The lookup of such a specifier is the search for its target. -/
theorem WrittenAs.resolve_eq (core : Specifier.NoPathModules i.settings)
    (written : i.WrittenAs specifier p name) :
    i.resolve specifier = (Option.map i.realPath) <$> i.search (i.loadQuestions (p.child name)) := by
  have present : specifier ≠ [] := (Specifier.isPathLike_iff.1 written.pathLike).1
  have notBuiltin := Specifier.isBuiltin_eq_false_of_isPathLike core written.pathLike
  rw [resolve, if_neg (by simp [present, notBuiltin]), locate_eq_search, questions,
    if_pos written.pathLike, if_neg written.noDirectory, written.target_eq]

theorem WrittenAs.found (core : Specifier.NoPathModules i.settings)
    (written : i.WrittenAs specifier p name) {path : Option Text}
    (resolved : i.resolve specifier = .ok path) :
    ∃ found, i.search (i.loadQuestions (p.child name)) = .ok found ∧ found.map i.realPath = path := by
  rw [written.resolve_eq core] at resolved
  cases searched : i.search (i.loadQuestions (p.child name)) with
  | error e => simp [searched, Functor.map, Except.map] at resolved
  | ok found => exact ⟨found, rfl, by simpa [searched, Functor.map, Except.map] using resolved⟩

/-- An extension that an answered lookup has come to can be appended to the name. -/
theorem isName_of_answered (answered : ∃ found, i.search (i.loadQuestions p) = .ok found)
    (named : p.name ≠ []) (notFile : i.isRegularFile p = false) {before after : List Text}
    (listed : i.settings.extensions = before ++ ending :: after)
    (unfound : ∀ b ∈ before, i.isRegularFile (p.appended b) = false) :
    Path.isName (p.name ++ ending) = true := by
  cases isName : Path.isName (p.name ++ ending) with
  | true => rfl
  | false =>
    have split : i.loadQuestions p = (.file p :: before.map (.appended p)) ++
        .appended p ending :: (after.map (.appended p) ++ i.directoryQuestions p) := by
      simp [loadQuestions, fileQuestions, listed]
    obtain ⟨b, member, regular⟩ :=
      search_answers_iff.1 answered _ _ _ _ split (.misnamed named isName)
    rcases List.mem_cons.1 member with rfl | extended
    · simp [Question.candidate?, notFile] at regular
    · obtain ⟨x, earlier, rfl⟩ := List.mem_map.1 extended
      simp [Question.candidate?, unfound x earlier] at regular

theorem endsName_of_answered (free : Path.slash ∉ name) (named : ∃ c ∈ name, c ≠ .scalar '.')
    (answered : ∃ found, i.search (i.loadQuestions (p.child name)) = .ok found)
    (notFile : i.isRegularFile (p.child name) = false) {before after : List Text}
    (listed : i.settings.extensions = before ++ ending :: after)
    (unfound : ∀ b ∈ before, i.isRegularFile ((p.child name).appended b) = false) :
    Path.EndsName ending := by
  obtain ⟨c, member, other⟩ := named
  have present : (p.child name).name ≠ [] := by
    rw [Path.name_child]
    exact List.ne_nil_of_mem member
  have isName := isName_of_answered answered present notFile listed unfound
  rw [Path.name_child] at isName
  exact Path.isName_append free
    (FileTree.isPlain_of_mem (List.mem_append_left _ member) other) isName

/-- Without a main module a directory has only index files to offer. -/
theorem exists_of_mem_directoryCandidatePaths (noMain : i.mainOf p = none) {candidate : Path}
    (member : candidate ∈ i.directoryCandidatePaths p) :
    ∃ x ∈ i.settings.extensions, candidate = p.join (.ofText ("index" ++ x)) := by
  cases folder : i.isFolder p with
  | false => simp [directoryCandidatePaths, folder] at member
  | true =>
    simp only [directoryCandidatePaths, indexCandidatePaths, folder, noMain, if_true,
      List.mem_map] at member
    obtain ⟨x, listed, rfl⟩ := member
    exact ⟨x, listed, rfl⟩

/-- A lookup finds a file by its name without an ending exactly if nothing stands in the way: no file
    has the name itself, and no extension before the ending gives one. -/
theorem first_candidate_iff (linkFree : i.tree.LinkFree) (mainFree : i.tree.MainFree)
    (free : Path.slash ∉ name) (named : ∃ c ∈ name, c ≠ .scalar '.') {found : Option Path}
    (searched : i.search (i.loadQuestions (p.child name)) = .ok found)
    (nonempty : ending ≠ []) (ends : Path.EndsName ending)
    (regular : i.isRegularFile (p.child (name ++ ending)) = true) :
    found.map i.realPath = some (i.realPath (p.child (name ++ ending))) ↔
      i.isRegularFile (p.child name) = false ∧
        i.settings.extensions.find? (fun x => i.isRegularFile ((p.child name).appended x)) =
          some ending := by
  have found_eq := search_eq_ok searched
  rw [filterMap_loadQuestions, targetCandidatePaths, fileCandidatePaths, List.cons_append]
    at found_eq
  cases own : i.isRegularFile (p.child name) with
  | true =>
    rw [List.find?_cons_of_pos own] at found_eq
    subst found_eq
    simp only [Option.map_some, Option.some.injEq, Bool.true_eq_false, false_and, iff_false]
    intro same
    have none_eq : [] = ending := by
      apply realPath_appended_injective linkFree free named Path.endsName_nil ends _ regular
      · simpa using same
      · simpa using own
    exact nonempty none_eq.symm
  | false =>
    rw [List.find?_cons_of_neg (by simp [own]), List.find?_append, List.find?_map] at found_eq
    simp only [Function.comp_def] at found_eq
    cases first : i.settings.extensions.find?
        fun x => i.isRegularFile ((p.child name).appended x) with
    | some x =>
      obtain ⟨xRegular, before, after, listed, unfound⟩ := List.find?_eq_some_iff_append.1 first
      have xEnds :=
        endsName_of_answered free named ⟨found, searched⟩ own listed (by simpa using unfound)
      rw [first] at found_eq
      subst found_eq
      rw [Path.appended_child] at xRegular
      simp only [Option.map_some, Option.some_or, Path.appended_child, Option.some.injEq, true_and]
      constructor
      · exact realPath_appended_injective linkFree free named xEnds ends xRegular regular
      · rintro rfl
        rfl
    | none =>
      have unfound := List.find?_eq_none.1 first
      rw [first] at found_eq
      simp only [Option.map_none, Option.none_or] at found_eq
      simp only [reduceCtorEq, and_false, iff_false]
      intro same
      cases found with
      | none => simp at same
      | some candidate =>
        have candidateRegular := List.find?_some found_eq.symm
        obtain ⟨x, listed, rfl⟩ := exists_of_mem_directoryCandidatePaths
          (mainOf_eq_none_of_mainFree linkFree mainFree _) (List.mem_of_find?_eq_some found_eq.symm)
        obtain ⟨before, after, split⟩ := List.append_of_mem listed
        have xEnds := endsName_of_answered free named ⟨_, searched⟩ own split fun b member => by
          simpa using unfound b (by simp [split, member])
        exact realPath_index_ne linkFree free named xEnds ends candidateRegular regular
          (Option.some.inj same)

/-! ## What a check finds -/

/-- In a tree without links and without main modules, the forbidden extension of a file is found
    unexpected exactly if no file has the name without it and it is the first extension that gives a
    file. Nothing else is ever found. -/
theorem check_namesFile {policy : Policy} (linkFree : i.tree.LinkFree)
    (mainFree : i.tree.MainFree) (core : Specifier.NoPathModules i.settings)
    (names : i.NamesFile specifier extension) (forbidden : policy.modifierFor extension = .never)
    (answered : ∃ found, i.resolve (withoutExtension specifier extension) = .ok found) :
    check policy i.resolver specifier = .ok
      (if i.isRegularFile (i.target (withoutExtension specifier extension)) = false ∧
          i.settings.extensions.find? (fun x => i.isRegularFile
            ((i.target (withoutExtension specifier extension)).appended x)) =
              some (.scalar '.' :: extension)
        then some ⟨.unexpected, specifier, extension⟩ else none) := by
  obtain ⟨p, name, free, named, extensionFree, written, bareWritten⟩ := names.inv linkFree
  have regular := names.regular
  have extension_eq := names.extension_eq
  rw [written.target_eq] at regular extension_eq
  have notBuiltin : i.resolver.isBuiltin specifier = false :=
    Specifier.isBuiltin_eq_false_of_isPathLike core written.pathLike
  have resolved : i.resolver.resolve specifier =
      .ok (some (i.realPath (p.child (name ++ .scalar '.' :: extension)))) := by
    change i.resolve specifier = _
    rw [written.resolve_eq core, search_of_isRegularFile regular]
    rfl
  have subject_eq : subjectExtension
      (some (i.realPath (p.child (name ++ .scalar '.' :: extension)))) specifier = extension := by
    rw [subjectExtension, subject_some, extension_eq]
    intro noPath
    rw [noPath] at extension_eq
    exact names.nonempty extension_eq.symm
  obtain ⟨bare, bareResolved⟩ := answered
  obtain ⟨found, searched, rfl⟩ := bareWritten.found core bareResolved
  have stripped : i.resolver.resolve (withoutExtension specifier (subjectExtension
      (some (i.realPath (p.child (name ++ .scalar '.' :: extension)))) specifier)) =
        .ok (found.map i.realPath) := by
    rw [subject_eq]
    exact bareResolved
  have endingFree : Path.slash ∉ CodePoint.scalar '.' :: extension := by
    simp only [List.mem_cons, extensionFree, or_false]
    decide
  have same := first_candidate_iff linkFree mainFree free named searched (by simp)
    (Path.endsName_of_not_mem endingFree) regular
  rw [check_of_forbids notBuiltin resolved ?_ ?_ stripped, subject_eq, bareWritten.target_eq]
  · simp only [same]
  · rw [subject_eq]
    simp [spells, names.spelt, names.nonempty]
  · rw [subject_eq]
    simp [Policy.forbids, forbidden]

/-- A file beside a directory of the same name, which has an index file and a manifest. -/
def besideDirectory : Importer where
  tree :=
    { entries := [(["src"], .directory), (["src", "a.js"], .file []), (["src", "a"], .directory),
        (["src", "a", "index.js"], .file []),
        (["src", "a", "package.json"], .file (Utf8.encode "\x7b\x7d".toList))]
      root_unlisted := by decide
      parent_directory := by decide
      nodup := by decide }
  location := ["src", "b.js"]
  settings := { extensions := [".mjs", ".js"] }

theorem besideDirectory_linkFree : besideDirectory.tree.LinkFree := by
  intro l text found
  unfold FileTree.find? at found
  split at found
  · simp at found
  · have listed := FileTree.mem_of_entryIn found
    simp [besideDirectory] at listed

theorem besideDirectory_mainFree : besideDirectory.tree.MainFree := by
  intro directory content found
  rw [FileTree.find?, if_neg (by simp)] at found
  have listed := FileTree.mem_of_entryIn found
  have content_eq : content = [] ∨ content = Utf8.encode "\x7b\x7d".toList := by
    simp only [besideDirectory, List.mem_cons, Prod.mk.injEq, Entry.file.injEq, reduceCtorEq,
      and_false, false_or, List.not_mem_nil, or_false] at listed
    rcases listed with ⟨-, empty⟩ | ⟨-, empty⟩ | ⟨-, braces⟩
    · exact .inl empty
    · exact .inl empty
    · exact .inr braces
  rcases content_eq with rfl | rfl <;> decide +kernel

theorem check_besideDirectory :
    besideDirectory.NamesFile "./a.js" "js" ∧
    check {} besideDirectory.resolver "./a.js" = .ok (some ⟨.unexpected, "./a.js", "js"⟩) := by
  have names : besideDirectory.NamesFile "./a.js" "js" :=
    { pathLike := by decide
      spelt := by decide
      regular := by decide +kernel
      extension_eq := by decide +kernel
      nonempty := by decide }
  refine ⟨names, ?_⟩
  have core : Specifier.NoPathModules besideDirectory.settings := fun _ _ => List.not_mem_nil
  rw [check_namesFile besideDirectory_linkFree besideDirectory_mainFree core names rfl
    ⟨some "/src/a.js", by decide +kernel⟩, if_pos (by decide +kernel)]

end ImportPolicy.Importer
