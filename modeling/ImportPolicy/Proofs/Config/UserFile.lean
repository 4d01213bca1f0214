import ImportPolicy.Proofs.Config.Loading
import ImportPolicy.Proofs.FileTree.Removing

/-! # A user's file that holds no mapping

Such a file counts as none if it is a text: one that is no document, or whose document is no mapping.
Bytes that encode no text, and scalars that are not what their tags say, end the loading instead.

* `Config.NoMapping` — contents of files that hold no mapping.
* `Config.Tolerated` — those that count as no file.
* `Config.load_withoutUserFile_iff` — when loading goes as it would without the user's file. -/

namespace ImportPolicy.Config

open FileTree

variable {s s' : Surroundings} {project p : Path} {file : Option Path} {place : Location}
  {bytes : List UInt8} {cs : List Char}

/-! ## Contents of files -/

/-- The text that a file with some bytes has, with unified line ends. -/
def fileText? (bytes : List UInt8) : Option (List Char) :=
  (Utf8.decode? bytes).map Text.unifyNewlines

/-- The document in a text is a mapping. One that contains itself has no value, and is a mapping if it
    is no list. -/
inductive IsMapping (cs : List Char) : Prop where
  | entries {m : Mapping} (document : Yaml.load cs = .ok (.map m))
  | endless (failure : Yaml.load cs = .error .endless) (noList : Yaml.isList cs = false)

/-- A file with some bytes holds no mapping. -/
def NoMapping (bytes : List UInt8) : Prop := ∀ cs, fileText? bytes = some cs → ¬ IsMapping cs

/-- A file with some bytes is a text without a document in it, or with an empty one. -/
def IsEmpty (bytes : List UInt8) : Prop :=
  ∃ cs, fileText? bytes = some cs ∧ Yaml.load cs = .ok .null

/-- A file with some bytes is a text that is empty or no configuration. -/
def Tolerated (bytes : List UInt8) : Prop :=
  IsEmpty bytes ∨ ∃ cs, fileText? bytes = some cs ∧ Rejected cs

/-- What keeps a file from being read: its bytes encode no text, or a scalar in it has no value. -/
inductive Fatal (bytes : List UInt8) : FileError → Prop where
  | undecodable (encoded : fileText? bytes = none) : Fatal bytes (.unreadable (.undecodable bytes))
  | faulty {cs : List Char} {f : Yaml.Failure} (text : fileText? bytes = some cs)
      (failure : Yaml.load cs = .error f) (wellFormed : f ≠ .malformed) (finite : f ≠ .endless) :
      Fatal bytes (.faulty f)

theorem rejected_of_load {v : Value} (document : Yaml.load cs = .ok v) (notNull : v ≠ .null)
    (notMapping : ¬ IsMapping cs) : Rejected cs :=
  .noMapping document notNull fun _ same => notMapping (.entries (same ▸ document))

/-- Without a mapping, a file is either tolerated or fatal. -/
theorem NoMapping.tolerated_or_fatal (noMapping : NoMapping bytes) :
    Tolerated bytes ∨ ∃ e, Fatal bytes e := by
  cases text : fileText? bytes with
  | none => exact .inr ⟨_, .undecodable text⟩
  | some cs =>
    cases document : Yaml.load cs with
    | ok v =>
      by_cases isNull : v = .null
      · exact .inl (.inl ⟨cs, text, isNull ▸ document⟩)
      · exact .inl (.inr ⟨cs, text, rejected_of_load document isNull (noMapping cs text)⟩)
    | error f =>
      by_cases malformed : f = .malformed
      · exact .inl (.inr ⟨cs, text, .malformed (malformed ▸ document)⟩)
      by_cases endless : f = .endless
      · rw [endless] at document
        have isList : Yaml.isList cs = true :=
          eq_true_of_ne_false fun noList => noMapping cs text (.endless document noList)
        exact .inl (.inr ⟨cs, text, .endlessList document isList⟩)
      · exact .inr ⟨_, .faulty text document malformed endless⟩

theorem readText_of_fileText? {t : FileTree} {current : Location}
    (held : t.content current p = .ok (some bytes)) :
    t.readText current p = (fileText? bytes).elim (.error (.undecodable bytes)) .ok :=
  readText_of_content held

theorem readFile_of_fatal {t : FileTree} {current : Location} {e : FileError}
    (held : t.content current p = .ok (some bytes)) (fatal : Fatal bytes e) :
    readFile t current p = .error e ∧ e.isRejection = false := by
  have read := readText_of_fileText? held
  cases fatal with
  | undecodable encoded =>
    rw [encoded, Option.elim_none] at read
    exact ⟨by simp only [readFile, read], rfl⟩
  | @faulty cs f text failure wellFormed finite =>
    rw [text, Option.elim_some] at read
    exact ⟨by simp only [readFile, read, failure], rfl⟩

/-! ## The two layers -/

theorem userLayer_of_tolerated
    (held : s.tree.content s.current (userPath s) = .ok (some bytes)) (tolerated : Tolerated bytes) :
    userLayer s = .ok [] := by
  have read := readText_of_fileText? held
  rw [userLayer_eq_ok_iff]
  obtain ⟨cs, text, document⟩ | ⟨cs, text, rejected⟩ := tolerated
  · rw [text] at read
    exact .held read (.empty document)
  · rw [text] at read
    exact .rejected read rejected

theorem userLayer_of_fatal {e : FileError}
    (held : s.tree.content s.current (userPath s) = .ok (some bytes)) (fatal : Fatal bytes e) :
    userLayer s = .error (.file e) := by
  obtain ⟨read, noRejection⟩ := readFile_of_fatal held fatal
  rw [userLayer_of_file held, read]
  simp [noRejection]

/-! ## Loading -/

theorem load_of_noUser (nothing : userLayer s = .ok []) :
    load s project file = (projectLayer s project file).map (layer builtIn) := by
  rw [load_eq, nothing]
  change (do let own ← projectLayer s project file; return layer (layer builtIn []) own) = _
  rw [layer_nil]
  cases projectLayer s project file <;> rfl

theorem load_of_fatal {e : FileError}
    (held : s.tree.content s.current (userPath s) = .ok (some bytes)) (fatal : Fatal bytes e) :
    load s project file = .error (.file e) := by
  rw [load_eq, userLayer_of_fatal held fatal]
  rfl

theorem load_ne_file {e : FileError} (nothing : userLayer s = .ok []) :
    load s project file ≠ .error (.file e) := by
  rw [load_of_noUser nothing]
  intro failed
  cases own : projectLayer s project file with
  | ok m =>
    rw [own] at failed
    cases failed
  | error reason =>
    rw [own] at failed
    cases failed
    obtain nameTooLong | ⟨_, notFound⟩ | ⟨_, _, fault⟩ := projectLayer_error own <;> contradiction

/-- Where the user's file is the project's as well, loading goes the same without it only if it is
    empty and was not asked for. -/
theorem load_vanishes_iff (tolerated : Tolerated bytes)
    (nothing : userLayer s = .ok []) (nothing' : userLayer s' = .ok [])
    (held : s.tree.content s.current (file.getD (ownPath project)) = .ok (some bytes))
    (gone : s'.tree.content s'.current (file.getD (ownPath project)) = .ok none) :
    load s' project file = load s project file ↔ file = none ∧ IsEmpty bytes := by
  have read := readText_of_fileText? held
  rw [load_of_noUser nothing', load_of_noUser nothing, projectLayer_of_noFile gone,
    projectLayer_of_file held]
  obtain ⟨cs, text, document⟩ | ⟨cs, text, rejected⟩ := tolerated
  · rw [text] at read
    rw [readFile_eq_ok_iff.2 ⟨cs, read, .empty document⟩]
    have isEmpty : IsEmpty bytes := ⟨cs, text, document⟩
    cases file <;> simp [Except.mapError, Except.map, isEmpty]
  · rw [text] at read
    obtain ⟨e, failed, -⟩ := isRejection_of_rejected read rejected
    have notEmpty : ¬ IsEmpty bytes := by
      rintro ⟨cs', text', document⟩
      obtain rfl : cs = cs' := Option.some.inj (text.symm.trans text')
      rw [readFile_eq_ok_iff.2 ⟨cs, read, .empty document⟩] at failed
      cases failed
    rw [failed]
    cases file <;> simp [Except.mapError, Except.map, notEmpty]

/-- Where the user's file is. -/
def userPlace : Location := ["home", ".extlint", "config.yaml"]

/-- The user and the project with other bytes in the user's file. -/
def userWith (bytes : List UInt8) : Surroundings :=
  { threeFiles with tree := threeFiles.tree.overwrite userPlace bytes }

theorem noMapping_of_malformed {text : List Char} (decoded : fileText? bytes = some text)
    (failure : Yaml.load text = .error .malformed) : NoMapping bytes := by
  intro cs found
  obtain rfl : text = cs := Option.some.inj (decoded.symm.trans found)
  rintro (document | document) <;> rw [failure] at document <;> cases document

end ImportPolicy.Config
