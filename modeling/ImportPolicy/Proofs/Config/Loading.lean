import ImportPolicy.Config.Load
import ImportPolicy.Proofs.Config.Layering
import ImportPolicy.Proofs.FileTree.Differing
import ImportPolicy.Proofs.Traversals

/-! # What is loaded

A configuration is the built-in one with the user's mapping over it and the project's over both. Each
of the two may come from a file, and depends on what this file holds alone.

* `Config.Holds`, `Config.Rejected` — texts that are configurations, and texts that are none.
* `Config.UserMapping`, `Config.OwnMapping` — the mappings that the two files give.
* `Config.load_eq_ok_iff` — the configurations that can be loaded.
* `Config.load_layers` — sections, and the file that is named. -/

namespace ImportPolicy

open FileTree

namespace Config

variable {s s' : Surroundings} {t t' : FileTree} {current current' : Location} {p q project : Path}
  {file : Option Path} {cs : List Char} {m config : Mapping} {bytes : List UInt8}

/-! ## Texts of files -/

/-- The mapping that the document in a text is. An empty document is an empty mapping. -/
inductive Holds (cs : List Char) : Mapping → Prop where
  | empty (document : Yaml.load cs = .ok .null) : Holds cs []
  | entries {m : Mapping} (document : Yaml.load cs = .ok (.map m)) : Holds cs m

/-- A text is no document, or its document is no mapping. -/
inductive Rejected (cs : List Char) : Prop where
  | malformed (failure : Yaml.load cs = .error .malformed)
  | noMapping {v : Value} (document : Yaml.load cs = .ok v) (notNull : v ≠ .null)
      (notMapping : ∀ m, v ≠ .map m)
  | endlessList (failure : Yaml.load cs = .error .endless) (isList : Yaml.isList cs = true)

/-- A list whose only member is the list itself. -/
example : Rejected "&a [*a]".toList := .endlessList (by decide +kernel) (by decide +kernel)

theorem readFile_eq_ok_iff : readFile t current p = .ok m ↔
    ∃ cs, t.readText current p = .ok cs ∧ Holds cs m := by
  constructor
  · intro read
    unfold readFile at read
    split at read
    · simp at read
    next cs text =>
    refine ⟨cs, text, ?_⟩
    split at read <;> cases read
    next document => exact .empty document
    next document => exact .entries document
  · rintro ⟨cs, text, document | document⟩ <;> simp [readFile, text, document]

theorem isRejection_of_rejected (text : t.readText current p = .ok cs) (rejected : Rejected cs) :
    ∃ e, readFile t current p = .error e ∧ e.isRejection = true := by
  cases rejected with
  | malformed failure => exact ⟨.notYaml, by simp [readFile, text, failure], rfl⟩
  | @noMapping v document notNull notMapping =>
    refine ⟨.notMapping v.kindName, ?_, rfl⟩
    simp only [readFile, text, document]
  | endlessList failure isList =>
    exact ⟨.notMapping "list", by simp [readFile, text, failure, isList], rfl⟩

theorem rejected_of_isRejection {e : FileError} (read : readFile t current p = .error e)
    (rejection : e.isRejection = true) : ∃ cs, t.readText current p = .ok cs ∧ Rejected cs := by
  unfold readFile at read
  split at read
  · cases read
    cases rejection
  next cs text =>
  refine ⟨cs, text, ?_⟩
  split at read
  · cases read
  · cases read
  next v notNull notMapping document => exact .noMapping document notNull notMapping
  next failure => exact .malformed failure
  next failure =>
    cases isList : Yaml.isList cs with
    | true => exact .endlessList failure isList
    | false =>
      rw [isList] at read
      cases read
      cases rejection
  · cases read
    cases rejection

/-- What is read from a file depends on its content alone. -/
theorem readFile_congr (held : t.content current p = .ok (some bytes))
    (held' : t'.content current' q = .ok (some bytes)) :
    readFile t' current' q = readFile t current p := by
  rw [readFile, readText_of_content held', readFile, readText_of_content held]

/-! ## The user's mapping -/

/-- The mapping that the user's file gives: what it holds, and nothing where there is no file or it
    is rejected. -/
inductive UserMapping (s : Surroundings) : Mapping → Prop where
  | absent (noFile : s.tree.content s.current (userPath s) = .ok none) : UserMapping s []
  | rejected {cs : List Char} (text : s.tree.readText s.current (userPath s) = .ok cs)
      (rejected : Rejected cs) : UserMapping s []
  | held {cs : List Char} {m : Mapping} (text : s.tree.readText s.current (userPath s) = .ok cs)
      (holds : Holds cs m) : UserMapping s m

theorem userLayer_of_file (found : s.tree.content s.current (userPath s) = .ok (some bytes)) :
    userLayer s = match readFile s.tree s.current (userPath s) with
      | .ok entries => .ok entries
      | .error e => if e.isRejection then .ok [] else .error (.file e) := by
  rw [userLayer, isFile_eq_content, found]
  rfl

theorem userLayer_of_noFile (noFile : s.tree.content s.current (userPath s) = .ok none) :
    userLayer s = .ok [] := by
  rw [userLayer, isFile_eq_content, noFile]
  rfl

theorem userLayer_of_error {reason : Unreached}
    (failed : s.tree.content s.current (userPath s) = .error reason) :
    userLayer s = .error .nameTooLong := by
  rw [userLayer, isFile_eq_content, failed]
  rfl

theorem userLayer_eq_ok_iff : userLayer s = .ok m ↔ UserMapping s m := by
  constructor
  · intro loaded
    rcases found : s.tree.content s.current (userPath s) with reason | _ | bytes
    · rw [userLayer_of_error found] at loaded
      cases loaded
    · rw [userLayer_of_noFile found] at loaded
      cases loaded
      exact .absent found
    · rw [userLayer_of_file found] at loaded
      split at loaded
      next entries read =>
        cases loaded
        obtain ⟨cs, text, holds⟩ := readFile_eq_ok_iff.1 read
        exact .held text holds
      next e read =>
        split at loaded <;> cases loaded
        next rejection =>
        obtain ⟨cs, text, rejected⟩ := rejected_of_isRejection read rejection
        exact .rejected text rejected
  · rintro (noFile | ⟨text, rejected⟩ | ⟨text, holds⟩)
    · exact userLayer_of_noFile noFile
    · obtain ⟨bytes, found⟩ := content_of_readText text
      obtain ⟨e, read, rejection⟩ := isRejection_of_rejected text rejected
      rw [userLayer_of_file found, read]
      exact if_pos rejection
    · obtain ⟨bytes, found⟩ := content_of_readText text
      rw [userLayer_of_file found, readFile_eq_ok_iff.2 ⟨_, text, holds⟩]

/-- The user's mapping depends on the content of the user's file alone. -/
theorem userLayer_congr
    (same : s'.tree.content s'.current (userPath s') = s.tree.content s.current (userPath s)) :
    userLayer s' = userLayer s := by
  rcases found : s.tree.content s.current (userPath s) with reason | _ | bytes
  · rw [userLayer_of_error found, userLayer_of_error (same.trans found)]
  · rw [userLayer_of_noFile found, userLayer_of_noFile (same.trans found)]
  · rw [userLayer_of_file found, userLayer_of_file (same.trans found),
      readFile_congr found (same.trans found)]

/-- An error of the user's file names no other one. -/
theorem userLayer_error {e : LoadError} (failed : userLayer s = .error e) :
    e = .nameTooLong ∨ ∃ fault, e = .file fault := by
  rcases found : s.tree.content s.current (userPath s) with reason | _ | bytes
  · rw [userLayer_of_error found] at failed
    cases failed
    exact .inl rfl
  · rw [userLayer_of_noFile found] at failed
    cases failed
  · rw [userLayer_of_file found] at failed
    split at failed
    · cases failed
    next fault read =>
      split at failed <;> cases failed
      exact .inr ⟨fault, rfl⟩

/-! ## The project's mapping -/

/-- The mapping that a project gives: what the named file holds, or else what its own file holds, and
    nothing where it has none. -/
inductive OwnMapping (s : Surroundings) (project : Path) : Option Path → Mapping → Prop where
  | absent (noFile : s.tree.content s.current (ownPath project) = .ok none) :
      OwnMapping s project none []
  | held {file : Option Path} {cs : List Char} {m : Mapping}
      (text : s.tree.readText s.current (file.getD (ownPath project)) = .ok cs)
      (holds : Holds cs m) : OwnMapping s project file m

theorem projectLayer_of_file
    (found : s.tree.content s.current (file.getD (ownPath project)) = .ok (some bytes)) :
    projectLayer s project file =
      (readFile s.tree s.current (file.getD (ownPath project))).mapError
        (.project (file.getD (ownPath project))) := by
  unfold projectLayer
  dsimp only
  rw [isFile_eq_content, found]
  dsimp only [Except.map, Option.isSome_some]
  cases readFile s.tree s.current (file.getD (ownPath project)) <;> rfl

theorem projectLayer_of_noFile
    (noFile : s.tree.content s.current (file.getD (ownPath project)) = .ok none) :
    projectLayer s project file = file.elim (.ok []) fun named => .error (.notFound named) := by
  unfold projectLayer
  dsimp only
  rw [isFile_eq_content, noFile]
  cases file <;> rfl

theorem projectLayer_of_error {reason : Unreached}
    (failed : s.tree.content s.current (file.getD (ownPath project)) = .error reason) :
    projectLayer s project file = .error .nameTooLong := by
  unfold projectLayer
  dsimp only
  rw [isFile_eq_content, failed]
  rfl

theorem projectLayer_eq_ok_iff :
    projectLayer s project file = .ok m ↔ OwnMapping s project file m := by
  constructor
  · intro loaded
    rcases found : s.tree.content s.current (file.getD (ownPath project)) with reason | _ | bytes
    · rw [projectLayer_of_error found] at loaded
      cases loaded
    · rw [projectLayer_of_noFile found] at loaded
      cases file <;> cases loaded
      exact .absent found
    · rw [projectLayer_of_file found, mapError_eq_ok_iff] at loaded
      obtain ⟨cs, text, holds⟩ := readFile_eq_ok_iff.1 loaded
      exact .held text holds
  · rintro (noFile | ⟨text, holds⟩)
    · exact projectLayer_of_noFile noFile
    · obtain ⟨bytes, found⟩ := content_of_readText text
      rw [projectLayer_of_file found, mapError_eq_ok_iff]
      exact readFile_eq_ok_iff.2 ⟨_, text, holds⟩

theorem projectLayer_error {e : LoadError} (failed : projectLayer s project file = .error e) :
    e = .nameTooLong ∨ (∃ p, e = .notFound p) ∨ ∃ p fault, e = .project p fault := by
  rcases found : s.tree.content s.current (file.getD (ownPath project)) with reason | _ | bytes
  · rw [projectLayer_of_error found] at failed
    cases failed
    exact .inl rfl
  · rw [projectLayer_of_noFile found] at failed
    cases file <;> cases failed
    exact .inr (.inl ⟨_, rfl⟩)
  · rw [projectLayer_of_file found] at failed
    cases read : readFile s.tree s.current (file.getD (ownPath project)) <;> rw [read] at failed <;>
      cases failed
    exact .inr (.inr ⟨_, _, rfl⟩)

/-- The mapping of the project depends on the content at its path alone. -/
theorem projectLayer_congr {project' : Path}
    (path : file.getD (ownPath project') = file.getD (ownPath project))
    (same : s'.tree.content s'.current (file.getD (ownPath project)) =
      s.tree.content s.current (file.getD (ownPath project))) :
    projectLayer s' project' file = projectLayer s project file := by
  rw [← path] at same
  rcases found : s.tree.content s.current (file.getD (ownPath project')) with reason | _ | bytes
  · rw [projectLayer_of_error (same.trans found), projectLayer_of_error (path ▸ found)]
  · rw [projectLayer_of_noFile (same.trans found), projectLayer_of_noFile (path ▸ found)]
  · rw [projectLayer_of_file (same.trans found), projectLayer_of_file (path ▸ found),
      readFile_congr found (same.trans found), path]

/-- An error with another path in place of the project's file. -/
def LoadError.at (named : Path) : LoadError → LoadError
  | .project _ e => .project named e
  | e => e

/-- A name for the project's own file gives what is found without it, but for the name in errors. -/
theorem projectLayer_named {named : Path}
    (held : s.tree.content s.current (ownPath project) = .ok (some bytes))
    (same : s.tree.content s.current named = .ok (some bytes)) :
    projectLayer s project (some named) = (projectLayer s project none).mapError (.at named) := by
  have byName : projectLayer s project (some named) = _ := projectLayer_of_file same
  have found : projectLayer s project none = _ := projectLayer_of_file held
  rw [byName, found, Option.getD_some, Option.getD_none, readFile_congr held same]
  cases readFile s.tree s.current (ownPath project) <;> rfl

/-! ## The configuration -/

/-- The sections of the built-in configuration. -/
def sectionNames : List Text := ["languages", "ignore_paths", "settings", "rules"]

theorem has_builtIn_iff {name : Text} : builtIn.has name = true ↔ name ∈ sectionNames := by
  simp only [builtIn, Mapping.has_cons, Mapping.has_nil, Bool.or_false, Bool.or_eq_true,
    Value.sameKey_str_iff, Value.str.injEq, sectionNames, List.mem_cons, List.not_mem_nil, or_false,
    eq_comm (a := name)]

/-- No layer takes a section away. -/
theorem has_layers {name : Text} (listed : name ∈ sectionNames) (user own : Mapping) :
    (layer (layer builtIn user) own).has name = true := by
  rw [has_layer, has_layer, has_builtIn_iff.2 listed, Bool.true_or, Bool.true_or]

/-- The test for missing sections never fails. -/
theorem load_eq (s : Surroundings) (project : Path) (file : Option Path) :
    load s project file = do
      let user ← userLayer s
      let own ← projectLayer s project file
      return layer (layer builtIn user) own := by
  unfold load
  cases userLayer s with
  | error e => rfl
  | ok user =>
    cases projectLayer s project file with
    | error e => rfl
    | ok own =>
      -- Both sections are built in, so no layer can have taken them away.
      exact if_pos ⟨has_layers (by decide) user own, has_layers (by decide) user own⟩

theorem load_eq_ok_iff : load s project file = .ok config ↔
    ∃ user own, UserMapping s user ∧ OwnMapping s project file own ∧
      config = layer (layer builtIn user) own := by
  rw [load_eq]
  constructor
  · intro loaded
    obtain ⟨user, userLoaded, loaded⟩ := bind_eq_ok loaded
    obtain ⟨own, ownLoaded, loaded⟩ := bind_eq_ok loaded
    cases loaded
    exact ⟨user, own, userLayer_eq_ok_iff.1 userLoaded, projectLayer_eq_ok_iff.1 ownLoaded, rfl⟩
  · rintro ⟨user, own, userGives, ownGives, rfl⟩
    rw [userLayer_eq_ok_iff.2 userGives, projectLayer_eq_ok_iff.2 ownGives]
    rfl

theorem load_ne_incomplete : load s project file ≠ .error .incomplete := by
  rw [load_eq]
  intro failed
  cases user : userLayer s with
  | error e =>
    rw [user] at failed
    obtain rfl | ⟨fault, rfl⟩ := userLayer_error user <;> cases failed
  | ok mapping =>
    cases own : projectLayer s project file with
    | error e =>
      rw [user, own] at failed
      cases failed
      obtain nameTooLong | ⟨_, notFound⟩ | ⟨_, _, fault⟩ := projectLayer_error own <;>
        contradiction
    | ok own =>
      rw [user, own] at failed
      cases failed

/-! ## Files that are named -/

/-- A named file takes the place of the project's own one: only what it and the user's file hold
    matters. -/
theorem load_named_congr {named project' : Path} {place : Location} (same : SameBut place s.tree t')
    (avoided : ∀ p ∈ [userPath s, named],
      ¬ s.tree.LeadsTo s.current p place ∧ ¬ t'.LeadsTo s.current p place) :
    load { s with tree := t' } project' (some named) = load s project (some named) := by
  rw [List.forall_mem_cons, List.forall_mem_singleton] at avoided
  obtain ⟨user, own⟩ := avoided
  have userSame : userLayer { s with tree := t' } = userLayer s :=
    userLayer_congr (same.content_eq user.1 user.2)
  have ownSame : projectLayer { s with tree := t' } project' (some named) =
      projectLayer s project (some named) := projectLayer_congr rfl (same.content_eq own.1 own.2)
  rw [load_eq, load_eq, userSame, ownSame]

/-- Any name for the project's own file gives what is found without a name. -/
theorem load_named {named : Path} (isFile : s.tree.isFile s.current (ownPath project) = .ok true)
    (same : s.tree.reach s.current named = s.tree.reach s.current (ownPath project)) :
    load s project (some named) = (load s project none).mapError (.at named) := by
  obtain ⟨bytes, held⟩ := content_of_isFile isFile
  have named_held : s.tree.content s.current named = .ok (some bytes) := by
    rw [content, same]
    exact held
  rw [load_eq, load_eq, projectLayer_named held named_held]
  -- An error of the user's file comes first and names no path of the project.
  cases user : userLayer s with
  | error e => obtain rfl | ⟨fault, rfl⟩ := userLayer_error user <;> rfl
  | ok user => cases projectLayer s project none <;> rfl

theorem load_ownPath (isFile : s.tree.isFile s.current (ownPath project) = .ok true) :
    load s project (some (ownPath project)) = load s project none := by
  obtain ⟨bytes, held⟩ := content_of_isFile isFile
  have named : projectLayer s project (some (ownPath project)) = _ := projectLayer_of_file held
  have found : projectLayer s project none = _ := projectLayer_of_file held
  rw [load_eq, load_eq, named, found, Option.getD_some, Option.getD_none]

/-- A configuration is the built-in one below the user's mapping and that of the project. It has
    all sections, so none is ever found missing. Where a file is named, the project's own file does
    not matter; naming the own file is the same as having it found. -/
theorem load_layers (s : Surroundings) (project : Path) :
    (∀ file config, load s project file = .ok config ↔
      ∃ user own, UserMapping s user ∧ OwnMapping s project file own ∧
        config = layer (layer builtIn user) own) ∧
    (∀ file config, load s project file = .ok config →
      ∀ name ∈ sectionNames, config.has name = true) ∧
    (∀ file, load s project file ≠ .error .incomplete) ∧
    (∀ named project' place t', SameBut place s.tree t' →
      (∀ p ∈ [userPath s, named],
        ¬ s.tree.LeadsTo s.current p place ∧ ¬ t'.LeadsTo s.current p place) →
      load { s with tree := t' } project' (some named) = load s project (some named)) ∧
    (s.tree.isFile s.current (ownPath project) = .ok true →
      load s project (some (ownPath project)) = load s project none ∧
      ∀ named, s.tree.reach s.current named = s.tree.reach s.current (ownPath project) →
        load s project (some named) = (load s project none).mapError (.at named)) := by
  refine ⟨fun _ _ => load_eq_ok_iff, ?_, fun _ => load_ne_incomplete, ?_, ?_⟩
  · intro file config loaded name listed
    obtain ⟨user, own, -, -, rfl⟩ := load_eq_ok_iff.1 loaded
    exact has_layers listed user own
  · intro named project' place t' same avoided
    exact load_named_congr same avoided
  · intro isFile
    exact ⟨load_ownPath isFile, fun named same => load_named isFile same⟩

/-- A user with a file, and a project with a file of its own and another one beside it. -/
def threeFiles : Surroundings where
  tree :=
    { entries := [(["home"], .directory), (["home", ".extlint"], .directory),
        (["home", ".extlint", "config.yaml"], .file (Utf8.encode "settings: 7".toList)),
        (["proj"], .directory),
        (["proj", ".extlint.yaml"], .file (Utf8.encode "rules: 1".toList)),
        (["proj", "other.yaml"], .file (Utf8.encode "rules: 2".toList))]
      root_unlisted := by decide
      parent_directory := by decide
      nodup := by decide }
  current := ["proj"]
  home := "/home"

/-- The number that stands at a name. -/
def numberAt? (config : Mapping) (name : Text) : Option Int :=
  (config.find? name).bind Value.keyInt?

theorem load_layers_threeFiles :
    ∃ config, load threeFiles "." none = .ok config ∧
      numberAt? config "settings" = some 7 ∧ numberAt? config "rules" = some 1 ∧
      config.has "ignore_paths" = true ∧
      load threeFiles "." (some ".extlint.yaml") = .ok config ∧
      load threeFiles "." (some "../proj/.extlint.yaml") = .ok config ∧
      ∃ t', t'.find? ["proj", ".extlint.yaml"] = some (.file (Utf8.encode "[".toList)) ∧
        load { threeFiles with tree := t' } "." (some "other.yaml") =
          load threeFiles "." (some "other.yaml") := by
  obtain ⟨-, sections, -, replaced, naming⟩ := load_layers threeFiles "."
  obtain ⟨found, named⟩ := naming (by decide +kernel)
  obtain ⟨config, loaded, settings, rules⟩ : ∃ config, load threeFiles "." none = .ok config ∧
      numberAt? config "settings" = some 7 ∧ numberAt? config "rules" = some 1 := by
    have numbers : (load threeFiles "." none).toOption.map
        (fun config => (numberAt? config "settings", numberAt? config "rules")) =
          some (some 7, some 1) := by decide +kernel
    cases loaded : load threeFiles "." none with
    | error e => simp [loaded, Except.toOption] at numbers
    | ok config =>
      simp only [loaded, Except.toOption, Option.map_some, Option.some.injEq, Prod.mk.injEq] at numbers
      exact ⟨config, rfl, numbers⟩
  have held : threeFiles.tree.find? ["proj", ".extlint.yaml"] =
      some (.file (Utf8.encode "rules: 1".toList)) := by decide +kernel
  refine ⟨config, loaded, settings, rules, sections _ config loaded _ (by decide),
    found.trans loaded, ?_,
    threeFiles.tree.overwrite ["proj", ".extlint.yaml"] (Utf8.encode "[".toList), ?_, ?_⟩
  · rw [named "../proj/.extlint.yaml" (by decide +kernel), loaded]
    rfl
  · decide +kernel
  · refine replaced "other.yaml" "." _ _ (sameBut_overwrite held _) ?_
    decide +kernel

end Config

end ImportPolicy
