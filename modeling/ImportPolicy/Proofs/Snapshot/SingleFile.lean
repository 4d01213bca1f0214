import ImportPolicy.Proofs.Snapshot.Gathering

/-! # A directory and one of its files

A file can be taken from its directory or alone. Both ways give the same entry if the sections of
languages list a suffix at all. If they list none, nothing in the directory is wanted, but the file
alone is read in the language that its suffix has where no section says otherwise.

* `Config.ListsAny` — sections of languages that list a suffix.
* `Sources.gather_file` — what a file alone gives.
* `Sources.gather_agrees_iff` — when both give the same. -/

namespace ImportPolicy

namespace Config

variable {config entries : Mapping} {table : Table Language}

/-- The sections of known languages list a suffix. -/
def ListsAny (config : Mapping) : Prop :=
  ∃ entries suffix l, config.find? "languages" = some (.map entries) ∧ LastListed entries suffix l

theorem eq_nil_iff_not_listsAny
    (read : suffixesOf (sectionOr config "languages" (.map [])) = .ok table) :
    table = [] ↔ ¬ ListsAny config := by
  constructor
  · rintro rfl ⟨entries, suffix, l, found, last⟩
    rw [sectionOr_of_find? found] at read
    cases (find?_suffixesOf read).2 last
  · intro listsNone
    by_contra some
    obtain ⟨entry, rest, rfl⟩ := List.exists_cons_of_ne_nil some
    have listed : entry.1 ∈ Table.keys (entry :: rest) := List.mem_cons_self
    obtain ⟨l, found⟩ := Table.mem_keys_iff.1 listed
    cases given : config.find? "languages" with
    | none =>
      rw [sectionOr, given] at read
      cases read
    | some v =>
      rw [sectionOr_of_find? given] at read
      obtain ⟨entries, isMapping, -⟩ := bind_eq_ok read
      obtain rfl := entriesOf_eq_ok_iff.1 isMapping
      exact listsNone ⟨entries, entry.1, l, given, (find?_suffixesOf read).1 found⟩

end Config

namespace Sources

variable {t : FileTree} {current l : Location} {p q : Path} {config : Mapping} {name : Text}
  {content : List UInt8} {s whole alone : Sources}

/-! ## Both ways -/

/-- A file alone is the only candidate. -/
theorem gather_file (named : t.Named) (file : t.find? (l ++ [name]) = some (.file content))
    (real : t.realLocation current q = .ok (l ++ [name]))
    (gathered : gather t current q config = .ok s) :
    t.isFile [] (Location.path (l ++ [name])) = .ok true ∧
      (sourcesAt t s.suffixes l [[name]]).mapM recorded = .ok s.files := by
  obtain ⟨location, places, found, -, candidate, read⟩ := gather_eq_ok_iff.1 gathered
  obtain rfl := Except.ok.inj (real.symm.trans found)
  have reach := @FileTree.Named.reach_path t (l ++ [name]) (.file content) named file
  have isFile : t.isFile [] (Location.path (l ++ [name])) = .ok true := by
    split at reach
    next long =>
      rw [candidates, FileTree.isFile, reach] at candidate
      cases candidate
    next short => rw [FileTree.isFile, reach]; rfl
  rw [candidates_of_file _ isFile, List.dropLast_concat, List.getLastD_concat] at candidate
  cases candidate
  exact ⟨isFile, read⟩

/-- Without suffixes nothing in a directory is wanted. -/
theorem files_eq_nil (named : t.Named) (directory : t.find? l = some .directory)
    (real : t.realLocation current p = .ok l) (gathered : gather t current p config = .ok s)
    (none : s.suffixes = []) : s.files = [] := by
  obtain ⟨-, names, places, -, scanned, read⟩ := gather_scanned named directory real gathered
  obtain ⟨-, excludes, -, rfl⟩ := Scan.files_eq_ok named directory scanned
  have unwanted : (Scan.ordered (t.below l)).filter
      (passes (Scan.lists t [] (Location.path l) ⟨s.suffixes.keys, names⟩ excludes)) = [] := by
    refine List.filter_eq_nil_iff.2 fun place _ passed => ?_
    have wanted := (Scan.lists_eq_ok_true_iff.1 (passes_eq_true_iff.1 passed)).2.1
    rw [none] at wanted
    cases wanted
  rw [unwanted] at read
  exact (Except.ok.inj read).symm

/-- A file alone has no entry exactly if its language is not known or its text cannot be read. -/
theorem files_eq_nil_iff {suffixes : Table Language} {place : Location} {files : List SourceFile}
    (read : (sourcesAt t suffixes l [place]).mapM recorded = .ok files) :
    files = [] ↔ sourceAt? t suffixes l place = none := by
  rw [sourcesAt, List.filterMap_cons] at read
  cases found : sourceAt? t suffixes l place with
  | none =>
    rw [found] at read
    exact iff_of_true (Except.ok.inj read).symm rfl
  | some source =>
    rw [found] at read
    obtain ⟨file, rest, -, -, rfl⟩ := mapM_cons_eq_ok read
    exact iff_of_false (List.cons_ne_nil _ _) (Option.some_ne_none _)

/-! ## Agreement -/

section Agreement

variable (named : t.Named) (directory : t.find? l = some .directory)
  (file : t.find? (l ++ [name]) = some (.file content))
include named directory file

/-- A file of a directory is the only one that is listed under its name. -/
theorem filter_files {names : List Text} {suffixes : Table Language} {places : List Location}
    (scanned : Scan.files t [] (Location.path l) ⟨suffixes.keys, names⟩ = .ok places) :
    places.filter (fun place => Text.joinWith "/" place = name) =
      if [name] ∈ places then [[name]] else [] := by
  obtain ⟨-, excludes, -, rfl⟩ := Scan.files_eq_ok named directory scanned
  have alone : Text.splitOn Path.slash name = [name] :=
    Text.splitOn_of_not_mem (named.of_find? file name (by simp)).1.slashFree
  have nodup := (Scan.nodup_ordered (FileTree.nodup_below t l)).filter
    (passes (Scan.lists t [] (Location.path l) ⟨suffixes.keys, names⟩ excludes))
  have below : ∀ place ∈ (Scan.ordered (t.below l)).filter
      (passes (Scan.lists t [] (Location.path l) ⟨suffixes.keys, names⟩ excludes)), place ∈ t.below l :=
    fun place listed => Scan.mem_ordered_iff.1 (List.mem_of_mem_filter listed)
  generalize (Scan.ordered (t.below l)).filter _ = places at nodup below ⊢
  have same : places.filter (fun place => Text.joinWith "/" place = name) =
      places.filter (· = [name]) := by
    refine List.filter_congr fun place listed => decide_eq_decide.2 ⟨fun written => ?_, ?_⟩
    · rw [← named.splitOn_joinWith (below place listed), written, alone]
    · rintro rfl
      rfl
  rw [same, List.filter_eq]
  split
  next listed => rw [List.count_eq_one_of_mem nodup listed]; rfl
  next absent => rw [List.count_eq_zero_of_not_mem absent]; rfl

variable (noIgnoreFile : t.find? (l ++ [Scan.ignoreFileName]) = none)
include noIgnoreFile

/-- A scan lists a file of its directory exactly if its suffix is wanted. -/
theorem mem_files_iff {names : List Text} {suffixes : Table Language} {places : List Location}
    {v : Value} (suffixed : Config.suffixesOf v = .ok suffixes)
    (scanned : Scan.files t [] (Location.path l) ⟨suffixes.keys, names⟩ = .ok places)
    (isFile : t.isFile [] (Location.path (l ++ [name])) = .ok true) :
    [name] ∈ places ↔ ∃ language, suffixes.find? (suffixAt [name]) = some language := by
  obtain ⟨-, excludes, read, rfl⟩ := Scan.files_eq_ok named directory scanned
  have below : [name] ∈ t.below l := by
    rw [FileTree.find?, if_neg (by simp)] at file
    exact FileTree.mem_below_iff.2 ⟨by simp, _, FileTree.mem_of_entryIn file⟩
  rw [List.mem_filter, Scan.mem_ordered_iff, passes_eq_true_iff, Scan.lists_eq_ok_true_iff,
    wants_iff suffixed, Scan.matcherOf_eq_nothing named directory noIgnoreFile read]
  exact ⟨fun listed => listed.2.2.1, fun wanted => ⟨below, isFile, wanted, rfl, rfl⟩⟩

/-- A file alone has the entry that it has in its directory exactly if the sections of languages list
    a suffix, or it has none. Where no suffix is listed, a directory has no entries. -/
theorem gather_agrees_iff (atDirectory : t.realLocation current p = .ok l)
    (atFile : t.realLocation current q = .ok (l ++ [name]))
    (gathered : gather t current p config = .ok whole)
    (gatheredAlone : gather t current q config = .ok alone) :
    (alone.files = whole.files.filter (fun file => file.path = name) ↔
      Config.ListsAny config ∨ alone.files = []) ∧
    (¬ Config.ListsAny config → whole.files = []) ∧
    (alone.files = [] ↔ sourceAt? t alone.suffixes l [name] = none) := by
  obtain ⟨-, -, -, suffixed, -⟩ := gather_eq_ok_iff.1 gathered
  obtain ⟨-, -, -, suffixedAlone, -⟩ := gather_eq_ok_iff.1 gatheredAlone
  obtain ⟨isFile, readAlone⟩ := gather_file named file atFile gatheredAlone
  obtain ⟨-, names, places, -, scanned, read⟩ :=
    gather_scanned named directory atDirectory gathered
  have sameTable : alone.suffixes = whole.suffixes :=
    Except.ok.inj (suffixedAlone.symm.trans suffixed)
  rw [sameTable] at readAlone ⊢
  have kept := filter_recorded read fun text => text = name
  have listed := mem_files_iff named directory file noIgnoreFile suffixed scanned isFile
  rw [filter_files named directory file scanned] at kept
  have listsNone := Config.eq_nil_iff_not_listsAny suffixed
  refine ⟨?_, fun none => files_eq_nil named directory atDirectory gathered (listsNone.2 none),
    files_eq_nil_iff readAlone⟩
  cases found : whole.suffixes.find? (suffixAt [name]) with
  | some language =>
    rw [if_pos (listed.2 ⟨language, found⟩), readAlone] at kept
    refine iff_of_true (Except.ok.inj kept) (.inl (not_not.1 fun none => ?_))
    rw [listsNone.2 none] at found
    cases found
  | none =>
    have unlisted : [name] ∉ places := fun held => by simpa [found] using listed.1 held
    rw [if_neg unlisted] at kept
    have noneKept : whole.files.filter (fun file => file.path = name) = [] :=
      (Except.ok.inj kept).symm
    rw [noneKept]
    -- A table with suffixes is the one that is looked at, and it has none for this file.
    refine ⟨.inr, fun h => h.elim (fun some => ?_) id⟩
    rw [files_eq_nil_iff readAlone, sourceAt?, Config.languageAt?, suffix_path (by simp),
      if_neg fun empty => listsNone.1 (List.isEmpty_iff.1 empty) some, found]

end Agreement

/-- The file of that directory that decodes, from its directory and alone. -/
theorem gather_agrees_mixedSources : ∃ whole alone,
    gather mixedSources [] "/src" [("languages", .map collidingSections)] = .ok whole ∧
      gather mixedSources [] "/src/b.JS" [("languages", .map collidingSections)] = .ok alone ∧
      alone.files = whole.files.filter fun file => file.path = Text.ofString "b.JS" := by
  have named : mixedSources.Named := by decide
  have directory : mixedSources.find? ["src"] = some .directory := by decide
  have file : mixedSources.find? (["src"] ++ ["b.JS"]) =
      some (.file (Utf8.encode "import './c';".toList)) := by decide
  have real : mixedSources.realLocation [] "/src" = .ok ["src"] := by decide +kernel
  have realFile : mixedSources.realLocation [] "/src/b.JS" = .ok (["src"] ++ ["b.JS"]) := by
    decide +kernel
  obtain ⟨files, read⟩ : ∃ files, (sourcesAt mixedSources [(".js", .javascript)] ["src"]
      [["a.js"], ["b.JS"]]).mapM recorded = .ok files := by decide +kernel
  obtain ⟨alone, gatheredAlone⟩ : ∃ alone, gather mixedSources [] "/src/b.JS"
      [("languages", .map collidingSections)] = .ok alone := by decide +kernel
  have gathered := scanned_mixedSources.gather_eq_ok named directory real read
  have lists : Config.ListsAny [("languages", .map collidingSections)] :=
    ⟨collidingSections, ".js", .javascript, rfl,
      (Config.find?_suffixesOf scanned_mixedSources.suffixed).1 rfl⟩
  exact ⟨_, alone, gathered, gatheredAlone, (gather_agrees_iff named directory file (by decide) real
    realFile gathered gatheredAlone).1.2 (.inl lists)⟩

/-- Sections of languages that list no suffix leave a directory empty, but not a file in it. -/
theorem gather_withoutSuffixes_disagrees : ∃ whole alone,
    gather mixedSources [] "/src" [("languages", .map [])] = .ok whole ∧
      gather mixedSources [] "/src/b.JS" [("languages", .map [])] = .ok alone ∧
      whole.files = [] ∧ alone.files.length = 1 ∧
      alone.files ≠ whole.files.filter fun file => file.path = Text.ofString "b.JS" := by
  have named : mixedSources.Named := by decide
  have directory : mixedSources.find? ["src"] = some .directory := by decide
  have real : mixedSources.realLocation [] "/src" = .ok ["src"] := by decide +kernel
  have listed : ∃ names, Config.ignoredNames [("languages", .map [])] = .ok names ∧
      Scan.files mixedSources [] (Location.path ["src"]) ⟨[], names⟩ = .ok [] := by
    refine ⟨[], by decide +kernel, ?_⟩
    rw [files_mixedSources]
    decide +kernel
  have scanned : Scanned mixedSources ["src"] [("languages", .map [])] [] [] [] :=
    ⟨rfl, rfl, listed⟩
  obtain ⟨alone, gatheredAlone, single⟩ : ∃ alone, gather mixedSources [] "/src/b.JS"
      [("languages", .map [])] = .ok alone ∧ alone.files.length = 1 := by decide +kernel
  refine ⟨_, alone, scanned.gather_eq_ok named directory real rfl, gatheredAlone, rfl, single, ?_⟩
  intro none
  rw [none] at single
  cases single

end Sources

end ImportPolicy
