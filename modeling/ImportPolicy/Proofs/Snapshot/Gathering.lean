import ImportPolicy.Proofs.Config.Suffixes
import ImportPolicy.Proofs.FileTree.Differing
import ImportPolicy.Proofs.Scan.Listing
import ImportPolicy.Snapshot.Build

/-! # What a snapshot of a directory lists

The extractors are handed on from file to file, but the import sites of a file are those of its own
text. A snapshot of a directory has one entry for each file that is scanned and decodes, and no file
is scanned whose language is not known.

* `Sources.sourcesAt`, `Sources.readFiles_eq` — reading files one by one.
* `Sources.filter_recorded` — the entries for some of the places.
* `Sources.gather_eq_ok_iff`, `Sources.gather_scanned` — the steps of gathering sources.
* `Sources.Scanned`, `Sources.IsEntry` — the scan of a directory, and an entry for a file.
* `Sources.gather_directory` — the entries for a directory. -/

namespace ImportPolicy.Sources

open Config (LastListed)
open Script (importSites parse)

variable {t : FileTree} {current location root place : Location} {path : Path} {config : Mapping}
  {suffixes : Table Language} {places : List Location} {entries : Mapping} {s : Sources}

/-! ## Reading files -/

/-- The sources at places, with the places. -/
def sourcesAt (t : FileTree) (suffixes : Table Language) (root : Location)
    (places : List Location) : List (Location × Language × List Char) :=
  places.filterMap fun place => (sourceAt? t suffixes root place).map (place, ·)

/-- The file that a source at a place is listed as. -/
def recorded (source : Location × Language × List Char) :
    Except Script.Escape.Error SourceFile :=
  (fun imports => ⟨Text.joinWith "/" source.1, source.2.1.name, imports, []⟩) <$>
    importSites (parse source.2.1 source.2.2)

/-- Reading a file does not depend on the files that were read before. -/
theorem readFilesWith_eq (kept : List Script.Extractor) :
    readFilesWith t suffixes root kept places =
      (sourcesAt t suffixes root places).mapM recorded := by
  induction places generalizing kept with
  | nil => rfl
  | cons place rest inductionHypothesis =>
    rw [readFilesWith, sourcesAt, List.filterMap_cons]
    cases sourceAt? t suffixes root place with
    | none => exact inductionHypothesis kept
    | some source =>
      obtain ⟨l, cs⟩ := source
      dsimp only [Option.map_some]
      rw [List.mapM_cons, recorded, Script.Extractor.sites_read_forLanguage]
      cases importSites (parse l cs) with
      | error e => rfl
      | ok imports =>
        change (do let files ← readFilesWith t suffixes root _ rest; _) = _
        rw [inductionHypothesis]
        rfl

theorem readFiles_eq : readFiles t suffixes root places =
    (sourcesAt t suffixes root places).mapM recorded :=
  readFilesWith_eq []

theorem filter_sourcesAt (keep : Location → Bool) (suffixes : Table Language) (root : Location)
    (places : List Location) :
    (sourcesAt t suffixes root places).filter (fun source => keep source.1) =
      sourcesAt t suffixes root (places.filter keep) := by
  induction places with
  | nil => rfl
  | cons place rest inductionHypothesis =>
    simp only [sourcesAt] at inductionHypothesis ⊢
    cases found : sourceAt? t suffixes root place <;> cases kept : keep place <;>
      simp [kept, found, inductionHypothesis]

/-- The entries that are kept by their paths are those for the places that are. -/
theorem filter_recorded {suffixes : Table Language} {root : Location} {places : List Location}
    {files : List SourceFile} (read : (sourcesAt t suffixes root places).mapM recorded = .ok files)
    (keep : Text → Bool) :
    (sourcesAt t suffixes root (places.filter fun place => keep (Text.joinWith "/" place))).mapM
      recorded = .ok (files.filter fun file => keep file.path) := by
  rw [← filter_sourcesAt]
  refine mapM_filter read fun source file listed => ?_
  obtain ⟨imports, -, rfl⟩ := map_eq_ok listed
  rfl

/-! ## Steps -/

theorem candidates_of_file (s : Except Config.SectionError Scan.Selection)
    (file : t.isFile [] (Location.path location) = .ok true) :
    candidates t location s = .ok (location.dropLast, [[location.getLastD []]]) := by
  rw [candidates, file]

theorem candidates_of_directory {s : Except Config.SectionError Scan.Selection}
    (directory : t.isFile [] (Location.path location) = .ok false) :
    candidates t location s = .ok (root, places) ↔ root = location ∧
      ∃ selection, s = .ok selection ∧
        Scan.files t [] (Location.path location) selection = .ok places := by
  rw [candidates, directory]
  simp only [bind_eq_ok_iff, mapError_eq_ok_iff, pure_eq_ok_iff, Prod.mk.injEq]
  constructor
  · rintro ⟨selection, selected, places, scanned, rfl, rfl⟩
    exact ⟨rfl, selection, selected, scanned⟩
  · rintro ⟨rfl, selection, selected, scanned⟩
    exact ⟨selection, selected, places, scanned, rfl, rfl⟩

theorem gather_eq_ok_iff : gather t current path config = .ok s ↔ ∃ location places,
    t.realLocation current path = .ok location ∧
      Config.suffixesOf (Config.sectionOr config "languages" (.map [])) = .ok s.suffixes ∧
      candidates t location ((Config.ignoredNames config).map (⟨s.suffixes.keys, ·⟩)) =
        .ok (s.root, places) ∧
      (sourcesAt t s.suffixes s.root places).mapM recorded = .ok s.files := by
  simp only [gather, bind_eq_ok_iff, mapError_eq_ok_iff, pure_eq_ok_iff, readFiles_eq]
  constructor
  · rintro ⟨location, real, suffixes, read, ⟨root, places⟩, found, files, recorded, rfl⟩
    exact ⟨location, places, real, read, found, recorded⟩
  · rintro ⟨location, places, real, read, found, recorded⟩
    exact ⟨location, real, s.suffixes, read, (s.root, places), found, s.files, recorded, rfl⟩

/-! ## Directories -/

/-- The sources of a directory are those at the places that a scan lists. -/
theorem gather_scanned (named : t.Named) (directory : t.find? root = some .directory)
    (real : t.realLocation current path = .ok root) (gathered : gather t current path config = .ok s) :
    s.root = root ∧ ∃ names places, Config.ignoredNames config = .ok names ∧
      Scan.files t [] (Location.path root) ⟨s.suffixes.keys, names⟩ = .ok places ∧
      (sourcesAt t s.suffixes root places).mapM recorded = .ok s.files := by
  obtain ⟨location, places, found, -, candidate, read⟩ := gather_eq_ok_iff.1 gathered
  obtain rfl := Except.ok.inj (real.symm.trans found)
  have reach := @FileTree.Named.reach_path t root .directory named directory
  split at reach
  next long =>
    rw [candidates, FileTree.isFile, reach] at candidate
    cases candidate
  next short =>
    rw [candidates_of_directory (by rw [FileTree.isFile, reach]; rfl)] at candidate
    obtain ⟨same, selection, selected, scanned⟩ := candidate
    cases ignored : Config.ignoredNames config with
    | error e =>
      rw [ignored] at selected
      cases selected
    | ok names =>
      rw [ignored] at selected
      cases selected
      exact ⟨same, names, places, rfl, scanned, same ▸ read⟩

/-- The scan of a directory for the suffixes in a configuration's sections of languages lists
    places. -/
structure Scanned (t : FileTree) (root : Location) (config entries : Mapping)
    (suffixes : Table Language) (places : List Location) : Prop where
  languages : config.find? "languages" = some (.map entries)
  suffixed : Config.suffixesOf (.map entries) = .ok suffixes
  listed : ∃ names, Config.ignoredNames config = .ok names ∧
    Scan.files t [] (Location.path root) ⟨suffixes.keys, names⟩ = .ok places

/-- The content of the file at a place decodes. -/
def decodes (t : FileTree) (root place : Location) : Bool :=
  ((t.read? [] (Location.path (root ++ place))).bind Utf8.decode?).isSome

/-- The suffix of the file at a place, in lower case. -/
def suffixAt (place : Location) : Text := Text.lower (Path.suffixOf (place.getLastD []))

/-- A file is the entry for a place. Its language is the last one whose section lists the suffix, and
    its import sites are those of the text in that language. -/
structure IsEntry (t : FileTree) (root : Location) (entries : Mapping) (place : Location)
    (file : SourceFile) : Prop where
  path : file.path = Text.joinWith "/" place
  source : ∃ l cs, LastListed entries (suffixAt place) l ∧ file.language = l.name ∧
    t.readText [] (Location.path (root ++ place)) = .ok cs ∧
    importSites (parse l cs) = .ok file.imports
  unchecked : file.issues = []

theorem suffix_path (nonempty : place ≠ []) :
    Text.lower (Location.path (root ++ place)).suffix = suffixAt place := by
  rw [suffixAt, Path.suffix, Path.name, Location.path, List.getLastD_eq_getLast?,
    List.getLastD_eq_getLast?, List.getLast?_append_of_ne_nil root nonempty]

/-- The suffixes that are wanted are those that the table has. -/
theorem wants_iff {names : List Text} {v : Value} (suffixed : Config.suffixesOf v = .ok suffixes) :
    Scan.Selection.wants ⟨suffixes.keys, names⟩ place = true ↔
      ∃ l, suffixes.find? (suffixAt place) = some l := by
  have lowered : suffixes.keys.map Text.lower = suffixes.keys :=
    (List.map_congr_left fun key => Config.lower_of_mem_suffixesOf suffixed).trans (List.map_id _)
  rw [Scan.Selection.wants, lowered, List.contains_iff_mem, ← Table.mem_keys_iff]
  rfl

section Scanned

variable (named : t.Named) (directory : t.find? root = some .directory)
  (scanned : Scanned t root config entries suffixes places)
include named directory scanned

theorem Scanned.isFile : t.isFile [] (Location.path root) = .ok false := by
  obtain ⟨names, -, files⟩ := scanned.listed
  rw [FileTree.isFile, (Scan.files_eq_ok named directory files).1]
  rfl

theorem Scanned.nodup : places.Nodup := by
  obtain ⟨names, -, files⟩ := scanned.listed
  obtain ⟨-, excludes, -, rfl⟩ := Scan.files_eq_ok named directory files
  exact (Scan.nodup_ordered (FileTree.nodup_below t root)).filter _

/-- Gathering sources in a directory is reading what is scanned. -/
theorem Scanned.gather_eq_ok {files : List SourceFile}
    (real : t.realLocation current path = .ok root)
    (read : (sourcesAt t suffixes root places).mapM recorded = .ok files) :
    gather t current path config = .ok ⟨suffixes, root, files⟩ := by
  obtain ⟨names, ignored, listed⟩ := scanned.listed
  refine gather_eq_ok_iff.2 ⟨root, places, real, ?_, ?_, read⟩
  · rw [Config.sectionOr_of_find? scanned.languages, scanned.suffixed]
  · rw [candidates_of_directory (scanned.isFile named directory), ignored]
    exact ⟨rfl, _, rfl, listed⟩

/-- What is scanned is a file below the directory, in a language that the table has for it. -/
theorem Scanned.of_mem (listed : place ∈ places) : place ∈ t.below root ∧
    t.isFile [] (Location.path (root ++ place)) = .ok true ∧
      ∃ l, suffixes.find? (suffixAt place) = some l := by
  obtain ⟨names, -, files⟩ := scanned.listed
  obtain ⟨-, excludes, -, rfl⟩ := Scan.files_eq_ok named directory files
  rw [List.mem_filter, Scan.mem_ordered_iff, passes_eq_true_iff, Scan.lists_eq_ok_true_iff]
    at listed
  obtain ⟨below, isFile, wanted, -, -⟩ := listed
  exact ⟨below, isFile, (wants_iff scanned.suffixed).1 wanted⟩

/-- The language of what is scanned is never missing, so reading its text alone may fail. -/
theorem Scanned.sourceAt?_eq (listed : place ∈ places) :
    ∃ l, LastListed entries (suffixAt place) l ∧
      Config.languageAt? suffixes (Location.path (root ++ place)) = some l ∧
      sourceAt? t suffixes root place =
        (t.readText [] (Location.path (root ++ place))).toOption.map (l, ·) := by
  obtain ⟨below, -, l, found⟩ := scanned.of_mem named directory listed
  have language : Config.languageAt? suffixes (Location.path (root ++ place)) = some l := by
    rw [Config.languageAt?, suffix_path (named.of_mem_below below).1, found]
  have some : suffixes.isEmpty = false := by
    rw [List.isEmpty_eq_false_iff]
    rintro rfl
    cases found
  refine ⟨l, (Config.find?_suffixesOf scanned.suffixed).1 found, language, ?_⟩
  simp only [sourceAt?, some, Bool.false_eq_true, if_false, language]
  cases t.readText [] (Location.path (root ++ place)) <;> rfl

theorem Scanned.of_source (listed : place ∈ places) {source : Location × Language × List Char}
    (read : (sourceAt? t suffixes root place).map (place, ·) = some source) :
    ∃ l cs, LastListed entries (suffixAt place) l ∧
      t.readText [] (Location.path (root ++ place)) = .ok cs ∧ source = (place, l, cs) := by
  obtain ⟨l, last, -, source⟩ := scanned.sourceAt?_eq named directory listed
  rw [source] at read
  cases text : t.readText [] (Location.path (root ++ place)) <;> rw [text] at read <;> cases read
  exact ⟨l, _, last, rfl, rfl⟩

theorem Scanned.decodes_eq (listed : place ∈ places) :
    decodes t root place = (sourceAt? t suffixes root place).isSome := by
  obtain ⟨-, isFile, -⟩ := scanned.of_mem named directory listed
  obtain ⟨l, -, -, source⟩ := scanned.sourceAt?_eq named directory listed
  obtain ⟨bytes, held⟩ := FileTree.content_of_isFile isFile
  obtain ⟨location, reached⟩ := FileTree.reach_of_content held
  rw [source, FileTree.readText_of_content held, decodes, FileTree.read?, reached]
  dsimp only [Option.bind_some]
  cases Utf8.decode? bytes <;> rfl

theorem Scanned.recordable
    (parses : ∀ place ∈ places, ∀ l cs, LastListed entries (suffixAt place) l →
      t.readText [] (Location.path (root ++ place)) = .ok cs →
        ∃ imports, importSites (parse l cs) = .ok imports) :
    ∀ source ∈ sourcesAt t suffixes root places, ∃ file, recorded source = .ok file := by
  intro source member
  obtain ⟨place, listed, read⟩ := List.mem_filterMap.1 member
  obtain ⟨l, cs, last, text, rfl⟩ := scanned.of_source named directory listed read
  obtain ⟨imports, parsed⟩ := parses place listed l cs last text
  exact ⟨_, by rw [recorded, parsed]; rfl⟩

/-- Every file that decodes has its entry, in the order of the scan. -/
theorem Scanned.areEntries {files : List SourceFile}
    (read : (sourcesAt t suffixes root places).mapM recorded = .ok files) :
    List.Forall₂ (IsEntry t root entries) (places.filter (decodes t root)) files := by
  have decoded : places.filter (decodes t root) = places.filter fun place =>
      ((sourceAt? t suffixes root place).map (place, ·)).isSome :=
    List.filter_congr fun place listed => by
      rw [scanned.decodes_eq named directory listed, Option.isSome_map]
  have sources := forall₂_filterMap
    (fun place => (sourceAt? t suffixes root place).map (place, ·)) places
  rw [decoded]
  -- A place gives its source, and the source its entry.
  refine (forall₂_comp sources (mapM_eq_ok_iff.1 read)).imp ?_
  rintro place file ⟨source, ⟨listed, found⟩, recorded⟩
  obtain ⟨l, cs, last, text, rfl⟩ := scanned.of_source named directory listed found
  obtain ⟨imports, parsed, rfl⟩ := map_eq_ok recorded
  exact ⟨rfl, ⟨l, cs, last, rfl, text, parsed⟩, rfl⟩

theorem Scanned.nodup_paths {files : List SourceFile}
    (areEntries : List.Forall₂ (IsEntry t root entries) (places.filter (decodes t root)) files) :
    (files.map SourceFile.path).Nodup := by
  have paths : (places.filter (decodes t root)).map (Text.joinWith "/") =
      files.map SourceFile.path :=
    map_eq_map_of_forall₂ (areEntries.imp fun place file isEntry => isEntry.path.symm)
  rw [← paths]
  refine List.Nodup.map_on (fun place listed other listed' same => ?_)
    ((scanned.nodup named directory).filter _)
  have below := (scanned.of_mem named directory (List.mem_of_mem_filter listed)).1
  have below' := (scanned.of_mem named directory (List.mem_of_mem_filter listed')).1
  rw [← named.splitOn_joinWith below, same, named.splitOn_joinWith below']

end Scanned

/-- Gathering sources in a directory gives exactly one entry for every file that is scanned and
    decodes, in the order of the scan and under paths that differ, where the import sites of all
    texts can be read. -/
theorem gather_directory (named : t.Named) (real : t.realLocation current path = .ok root)
    (directory : t.find? root = some .directory)
    (scanned : Scanned t root config entries suffixes places)
    (parses : ∀ place ∈ places, ∀ l cs, LastListed entries (suffixAt place) l →
      t.readText [] (Location.path (root ++ place)) = .ok cs →
        ∃ imports, importSites (parse l cs) = .ok imports) :
    ∃ s, gather t current path config = .ok s ∧ s.root = root ∧
      List.Forall₂ (IsEntry t root entries) (places.filter (decodes t root)) s.files ∧
      (s.files.map SourceFile.path).Nodup ∧
      (∀ place ∈ places, ∃ l, Config.languageAt? suffixes (Location.path (root ++ place)) = some l) ∧
      ∀ now, (s.snapshot now).scan.fileCount = s.files.length := by
  obtain ⟨files, read⟩ := mapM_answers_iff.2 (scanned.recordable named directory parses)
  have areEntries := scanned.areEntries named directory read
  refine ⟨_, scanned.gather_eq_ok named directory real read, rfl, areEntries,
    scanned.nodup_paths named directory areEntries, ?_, fun now => rfl⟩
  intro place listed
  obtain ⟨l, -, language, -⟩ := scanned.sourceAt?_eq named directory listed
  exact ⟨l, language⟩

/-- A directory with a file that does not decode and one that does. -/
def mixedSources : FileTree where
  entries := [(["src"], .directory), (["src", "a.js"], .file [0xff]),
    (["src", "b.JS"], .file (Utf8.encode "import './c';".toList))]
  root_unlisted := by decide
  parent_directory := by decide
  nodup := by decide

/-- The sections of two languages that list one suffix. -/
def collidingSections : Mapping :=
  [("typescript", .map [("extensions", .list ["js"])]),
    ("javascript", .map [("extensions", .list [".Js"])])]

theorem files_mixedSources (selection : Scan.Selection) :
    Scan.files mixedSources [] (Location.path ["src"]) selection =
      (mixedSources.below ["src"]).filterM
        (Scan.lists mixedSources [] (Location.path ["src"]) selection fun _ => .ok false) := by
  have reached : mixedSources.reach [] (Location.path ["src"]) = .ok (["src"], .directory) := by
    decide +kernel
  exact Scan.files_of_sorted (by decide +kernel) reached (by decide +kernel)

theorem scanned_mixedSources : Scanned mixedSources ["src"]
    [("languages", .map collidingSections)] collidingSections [(".js", .javascript)]
    [["a.js"], ["b.JS"]] where
  languages := rfl
  suffixed := by decide +kernel
  listed := by
    refine ⟨[], by decide +kernel, ?_⟩
    rw [files_mixedSources]
    decide +kernel

theorem gather_mixedSources : mixedSources.Named ∧
    mixedSources.realLocation [] "/src" = .ok ["src"] ∧
    mixedSources.find? ["src"] = some .directory ∧
    ∃ s, gather mixedSources [] "/src" [("languages", .map collidingSections)] = .ok s ∧
      s.files.map SourceFile.path = ["b.JS"] := by
  have named : mixedSources.Named := by decide
  have real : mixedSources.realLocation [] "/src" = .ok ["src"] := by decide +kernel
  have directory : mixedSources.find? ["src"] = some .directory := by decide
  let src : Location := ["src"]
  let first : Location := ["a.js"]
  let second : Location := ["b.JS"]
  have parses : ∀ place ∈ [first, second], ∀ l cs,
      LastListed collidingSections (suffixAt place) l →
      mixedSources.readText [] (Location.path (src ++ place)) = .ok cs →
        ∃ imports, importSites (parse l cs) = .ok imports := by
    have undecodable : mixedSources.readText [] (Location.path (src ++ first)) =
        .error (.undecodable [0xff]) := by decide +kernel
    have text : mixedSources.readText [] (Location.path (src ++ second)) =
        .ok "import './c';".toList := by decide +kernel
    have each (l : Language) :
        ∃ imports, importSites (parse l "import './c';".toList) = .ok imports := by
      cases l <;> decide +kernel
    intro place listed l cs _ read
    simp only [List.mem_cons, List.not_mem_nil, or_false] at listed
    rcases listed with rfl | rfl
    · rw [undecodable] at read
      cases read
    · rw [text] at read
      exact Except.ok.inj read ▸ each l
  obtain ⟨s, gathered, -, entries, -⟩ := gather_directory named real directory
    scanned_mixedSources parses
  refine ⟨named, real, directory, s, gathered, ?_⟩
  have decoded : [first, second].filter (decodes mixedSources src) = [second] := by
    decide +kernel
  rw [decoded] at entries
  obtain ⟨file, _, entry, none, same⟩ := List.forall₂_cons_left_iff.1 entries
  cases none
  rw [same, List.map_singleton, entry.path]
  rfl

end ImportPolicy.Sources
