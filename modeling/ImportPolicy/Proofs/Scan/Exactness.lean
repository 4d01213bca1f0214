import ImportPolicy.Proofs.Config.Sections
import ImportPolicy.Proofs.Scan.Listing
import ImportPolicy.Proofs.Text.Order

/-! # A scan lists neither less nor more

In a tree without links the path of a place below a directory leads to what stands there, however the
path of the directory is written. A scan lists a file for what the file is, for its suffix, for the
names of the directories between, and for what the ignore file says; it comes to no list only where a
path is too long to be asked about.

* `Location.rank`, `Scan.increasing_ordered` — places in order.
* `Config.directoryNames_texts` — names that are left out.
* `Scan.reach_pathOf`, `Scan.isFile_pathOf` — places below a directory.
* `Scan.IsWanted`, `Scan.IsAskable`, `Scan.filesBy_exact` — what a scan lists, and when it does. -/

namespace ImportPolicy

/-! ## Order -/

/-- The numbers of the code points of the names. -/
def Location.rank (l : Location) : List (List Nat) := l.map Text.numbers

theorem Location.rank_injective : Function.Injective Location.rank :=
  List.map_injective_iff.2 Text.numbers_injective

namespace Scan

theorem noLater_iff {place other : Location} :
    noLater place other = true ↔ ¬ Location.rank other < Location.rank place := by
  induction place generalizing other with
  | nil => simp [noLater, Location.rank]
  | cons name rest inductionHypothesis =>
    cases other with
    | nil => simp [noLater, Location.rank]
    | cons name' rest' =>
      simp only [Location.rank] at inductionHypothesis
      simp only [noLater, Location.rank, List.map_cons, List.cons_lt_cons_iff]
      split
      next same => simp [same, inductionHypothesis]
      next differ =>
        have numbers : name'.numbers ≠ name.numbers := fun same =>
          differ (Text.numbers_injective same).symm
        rw [Text.precedes_iff, not_or, and_iff_left (fun both => numbers both.1), not_lt]
        exact ⟨le_of_lt, fun notLess => lt_of_le_of_ne notLess numbers.symm⟩

/-- Places that differ are put in strictly increasing order. -/
theorem increasing_ordered {places : List Location} (nodup : places.Nodup) :
    (ordered places).Pairwise fun place other => Location.rank place < Location.rank other := by
  have sorted : (ordered places).Pairwise fun place other => noLater place other = true := by
    apply List.pairwise_mergeSort
    · intro first second third
      simp only [noLater_iff, not_lt]
      exact le_trans
    · intro first second
      simp only [Bool.or_eq_true, noLater_iff, not_lt]
      exact le_total _ _
  refine sorted.imp₂ ?_ (nodup_ordered nodup)
  intro place other notLater differ
  rw [noLater_iff, not_lt] at notLater
  exact lt_of_le_of_ne notLater fun same => differ (Location.rank_injective same)

end Scan

/-! ## Places below a directory -/

namespace FileTree

variable {t : FileTree} {l : Location}

/-- Whether a regular file stands at a location. -/
def hasFile (t : FileTree) (l : Location) : Bool :=
  match t.find? l with
  | some (.file _) => true
  | _ => false

theorem hasFile_iff :
    t.hasFile l = true ↔ ∃ content, t.find? l = some (.file content) := by
  unfold hasFile
  rcases t.find? l with _ | _ | _ | _ <;> simp

end FileTree

/-! ## Names that are left out -/

namespace Config

/-- What an entry says without the slashes around it. -/
def directoryName (entry : Text) : Text := Text.strip (· = .scalar '/') entry

/-- A list of texts gives the names that its texts have without slashes, but for blank ones. -/
theorem directoryNames_texts (entries : List Text) :
    directoryNames (.list (entries.map .str)) =
      .ok ((entries.map directoryName).filter fun name => !name.isEmpty) := by
  have texts := mapM_textOf_eq_ok_iff.2 (rfl : entries.map Value.str = entries.map .str)
  unfold directoryNames
  split
  next none =>
    obtain rfl : entries = [] := by simpa [Value.isTruthy] using none
    rfl
  next =>
    change (List.mapM textOf (entries.map .str) >>= _) = _
    rw [texts]
    rfl

end Config

namespace Scan

variable {t : FileTree} {current l place : Location} {base : Path} {s : Selection}
  {excludes : Matcher} {places : List Location} {read : Path → Except ScanError Matcher}
  {suffixes ignorePaths : List Text} {excluded : Location → Bool}

/-! ## Questions about places -/

section Reached

variable (linkFree : t.LinkFree) (reached : t.reach current base = .ok (l, .directory))
include linkFree reached

/-- The path of a place below a directory leads from the directory to the place, unless it is too long
    to be asked about. -/
theorem reach_pathOf
    (names : ∀ name ∈ place, FileTree.IsEntryName name ∧ FileTree.isStorable name = true) :
    t.reach current (pathOf base place) =
      if 4096 ≤ FileTree.byteLength (pathOf base place).text then .error .nameTooLong
      else t.walk FileTree.linkLimit l place := by
  have held := FileTree.isStorable_of_reach reached
  have parts : (pathOf base place).parts = base.parts ++ place := rfl
  have storable : FileTree.isStorable (pathOf base place).text = true := by
    rw [FileTree.isStorable_text] at held ⊢
    rw [parts, List.all_append, held, Bool.true_and, List.all_eq_true]
    exact fun name listed => (names name listed).2
  have walked : t.walk FileTree.linkLimit (FileTree.pathStart current base)
      (FileTree.pathNames base) = .ok (l, .directory) := by
    rw [FileTree.reach] at reached
    split at reached
    · cases reached
    split at reached
    · cases reached
    exact reached
  have followed : FileTree.pathNames (pathOf base place) = FileTree.pathNames base ++ place := by
    have own := Location.pathNames_path fun name listed => (names name listed).1
    rw [FileTree.pathNames] at own ⊢
    rw [parts, List.flatMap_append, FileTree.pathNames]
    exact congrArg _ own
  rw [FileTree.reach, storable, if_neg (by decide), followed]
  exact congrArg _ (FileTree.walk_append linkFree walked place)

/-- Whether the path of a place leads to a regular file is whether one stands there. -/
theorem isFile_pathOf (nonempty : place ≠ [])
    (names : ∀ name ∈ place, FileTree.IsEntryName name ∧ FileTree.isStorable name = true)
    (inside : t.find? (l ++ place.dropLast) = some .directory) :
    t.isFile current (pathOf base place) =
      if 4096 ≤ FileTree.byteLength (pathOf base place).text then .error .nameTooLong
      else .ok (t.hasFile (l ++ place)) := by
  rw [FileTree.isFile, reach_pathOf linkFree reached names]
  split
  · rfl
  next short =>
  obtain ⟨above, name, rfl⟩ := (List.eq_nil_or_concat place).resolve_left nonempty
  rw [List.concat_eq_append] at names inside ⊢
  rw [List.dropLast_concat] at inside
  rw [List.forall_mem_append, List.forall_mem_singleton] at names
  rw [FileTree.walk_into l (fun other listed => (names.1 other listed).1) inside,
    FileTree.walk_plain names.2.1.plain, if_neg (by have := names.2.1.short; omega),
    ← List.append_assoc]
  unfold FileTree.hasFile
  rcases found : t.find? (l ++ above ++ [name]) with _ | _ | _ | text
  · rfl
  · rfl
  · simp [FileTree.walk_nil, FileTree.asked]
  · exact absurd found (linkFree _ text)

theorem isFile_of_mem_below (named : t.Named) (listed : place ∈ t.below l) :
    t.isFile current (pathOf base place) =
      if 4096 ≤ FileTree.byteLength (pathOf base place).text then .error .nameTooLong
      else .ok (t.hasFile (l ++ place)) := by
  obtain ⟨nonempty, -⟩ := FileTree.mem_below_iff.1 listed
  obtain ⟨e, held⟩ := FileTree.find?_of_mem_below listed
  have inside := FileTree.find?_parent held (by simp [nonempty])
  rw [List.dropLast_append_of_ne_nil nonempty] at inside
  refine isFile_pathOf linkFree reached nonempty (fun name member => ?_) inside
  exact named.of_find? held name (List.mem_append_right l member)

/-- An ignore file is read if it is there and its path can be asked about. -/
theorem matcherOf_eq (directory : t.find? l = some .directory)
    (read : Path → Except ScanError Matcher) :
    matcherOf t read current base =
      if 4096 ≤ FileTree.byteLength (pathOf base [ignoreFileName]).text then .error .refused
      else if t.hasFile (l ++ [ignoreFileName]) then read (pathOf base [ignoreFileName])
      else .ok fun _ => .ok false := by
  have path : base.join (Path.ofText ignoreFileName) = pathOf base [ignoreFileName] :=
    Path.join_name base (by decide) (by decide)
  have isFile := isFile_pathOf linkFree reached (List.cons_ne_nil ignoreFileName [])
    (by decide) (by simpa using directory)
  rw [matcherOf, path, isFile]
  by_cases long : 4096 ≤ FileTree.byteLength (pathOf base [ignoreFileName]).text
  · rw [if_pos long, if_pos long]
  · rw [if_neg long, if_neg long]
    cases t.hasFile (l ++ [ignoreFileName]) <;> rfl

/-- What decides whether a place is listed. -/
theorem lists_of_mem_below (named : t.Named) (listed : place ∈ t.below l) {b : Bool}
    (answered : excludes place = .ok b) :
    lists t current base s excludes place =
      if 4096 ≤ FileTree.byteLength (pathOf base place).text then .error .refused
      else .ok (t.hasFile (l ++ place) && s.wants place && !s.ignores place && !b) := by
  rw [lists, isFile_of_mem_below linkFree reached named listed, answered]
  by_cases long : 4096 ≤ FileTree.byteLength (pathOf base place).text
  · rw [if_pos long, if_pos long]
  · rw [if_neg long, if_neg long]
    cases t.hasFile (l ++ place) <;> cases s.wants place <;> cases s.ignores place <;> rfl

end Reached

/-! ## What is listed -/

theorem filesBy_of_matcher (matcher : matcherOf t read current base = .ok excludes)
    (reached : t.reach current base = .ok (l, .directory)) :
    filesBy t read current base s = (ordered (t.below l)).filterM (lists t current base s excludes) := by
  rw [filesBy, matcher, reached]
  rfl

/-- If there is an ignore file in a directory, reading it gives a matcher, and the matcher answers for
    each place below whether it is left out. -/
def ReadsAs (t : FileTree) (l : Location) (base : Path) (read : Path → Except ScanError Matcher)
    (excluded : Location → Bool) : Prop :=
  t.hasFile (l ++ [ignoreFileName]) = true →
    ∃ excludes, read (pathOf base [ignoreFileName]) = .ok excludes ∧
      ∀ place ∈ t.below l, excludes place = .ok (excluded place)

/-- No path is too long to be asked about, neither that of the ignore file, whether or not there is
    one, nor that of a place below the directory. -/
def IsAskable (t : FileTree) (l : Location) (base : Path) : Prop :=
  ∀ place ∈ [ignoreFileName] :: t.below l, FileTree.byteLength (pathOf base place).text < 4096

/-- A place is that of a regular file below a directory with a suffix that is looked for. No directory
    between has a name that is left out, and an ignore file says nothing against the place. -/
structure IsWanted (t : FileTree) (l : Location) (base : Path) (suffixes ignorePaths : List Text)
    (excluded : Location → Bool) (place : Location) : Prop where
  below : place ≠ []
  regular : ∃ content, t.find? (l ++ place) = some (.file content)
  suffixed : Text.lower (pathOf base place).suffix ∈ suffixes.map Text.lower
  unignored : ∀ name ∈ place.dropLast, ∀ entry ∈ ignorePaths,
    Config.directoryName entry ≠ [] → name ≠ Config.directoryName entry
  included : t.hasFile (l ++ [ignoreFileName]) = true → excluded place = false

/-- What is looked for with suffixes and paths to ignore. -/
def Selection.ofTexts (suffixes ignorePaths : List Text) : Selection :=
  ⟨suffixes, (ignorePaths.map Config.directoryName).filter fun name => !name.isEmpty⟩

instance (t : FileTree) (l : Location) (base : Path) : Decidable (IsAskable t l base) := by
  unfold IsAskable
  infer_instance

theorem wants_ofTexts_iff (nonempty : place ≠ []) :
    (Selection.ofTexts suffixes ignorePaths).wants place = true ↔
      Text.lower (pathOf base place).suffix ∈ suffixes.map Text.lower := by
  have name : (pathOf base place).name = place.getLastD [] := by
    have parts : (pathOf base place).parts = base.parts ++ place := rfl
    rw [Path.name, parts, List.getLastD_eq_getLast?, List.getLastD_eq_getLast?,
      List.getLast?_append_of_ne_nil base.parts nonempty]
  rw [Selection.wants, List.contains_iff_mem, Path.suffix, name]
  rfl

theorem ignores_ofTexts_iff : (Selection.ofTexts suffixes ignorePaths).ignores place = false ↔
    ∀ name ∈ place.dropLast, ∀ entry ∈ ignorePaths,
      Config.directoryName entry ≠ [] → name ≠ Config.directoryName entry := by
  simp only [Selection.ignores, Selection.ofTexts, List.any_eq_false, List.contains_iff_mem, List.mem_filter,
    List.mem_map, Bool.not_eq_true', List.isEmpty_eq_false_iff, not_and, not_not]
  refine forall₂_congr fun name between => ?_
  constructor
  · rintro kept entry listed some rfl
    exact some (kept ⟨entry, listed, rfl⟩)
  · rintro kept ⟨entry, listed, rfl⟩
    by_contra some
    exact kept entry listed some rfl

theorem mem_below_of_hasFile (nonempty : place ≠ []) (held : t.hasFile (l ++ place) = true) :
    place ∈ t.below l := by
  obtain ⟨content, found⟩ := FileTree.hasFile_iff.1 held
  rw [FileTree.find?, if_neg (by simp [nonempty])] at found
  exact FileTree.mem_below_iff.2 ⟨nonempty, _, FileTree.mem_of_entryIn found⟩

section Exact

variable (linkFree : t.LinkFree) (reached : t.reach current base = .ok (l, .directory))
include linkFree reached

/-- A matcher is had exactly if the path of the ignore file can be asked about; it leaves out what the
    ignore file says, if there is one. -/
theorem matcherOf_of_readsAs (directory : t.find? l = some .directory)
    (readsAs : ReadsAs t l base read excluded) :
    if 4096 ≤ FileTree.byteLength (pathOf base [ignoreFileName]).text then
      matcherOf t read current base = .error .refused
    else ∃ excludes, matcherOf t read current base = .ok excludes ∧
      ∀ place ∈ t.below l,
        excludes place = .ok (t.hasFile (l ++ [ignoreFileName]) && excluded place) := by
  rw [matcherOf_eq linkFree reached directory]
  split
  · rfl
  · split
    next held =>
      obtain ⟨excludes, answered, each⟩ := readsAs held
      exact ⟨excludes, answered, fun place listed => by rw [each place listed, held, Bool.true_and]⟩
    next absent =>
      rw [Bool.not_eq_true] at absent
      exact ⟨_, rfl, fun place _ => by rw [absent, Bool.false_and]⟩

variable (named : t.Named) (listed : place ∈ t.below l)
include named listed

theorem lists_answers_iff {b : Bool} (answered : excludes place = .ok b) :
    (∃ answer, lists t current base s excludes place = .ok answer) ↔
      FileTree.byteLength (pathOf base place).text < 4096 := by
  rw [lists_of_mem_below linkFree reached named listed answered]
  split
  next long => exact iff_of_false (by simp) (by omega)
  next short => exact iff_of_true ⟨_, rfl⟩ (by omega)

/-- A place below a directory passes if it is wanted. -/
theorem lists_ofTexts_iff
    (answered : excludes place = .ok (t.hasFile (l ++ [ignoreFileName]) && excluded place)) :
    lists t current base (.ofTexts suffixes ignorePaths) excludes place = .ok true ↔
      FileTree.byteLength (pathOf base place).text < 4096 ∧
        IsWanted t l base suffixes ignorePaths excluded place := by
  rw [lists_of_mem_below linkFree reached named listed answered]
  have nonempty := (FileTree.mem_below_iff.1 listed).1
  split
  next long => exact iff_of_false (by simp) fun wanted => by have := wanted.1; omega
  next short =>
    rw [Except.ok.injEq, Bool.and_eq_true, Bool.and_eq_true, Bool.and_eq_true, Bool.not_eq_true',
      Bool.not_eq_true', FileTree.hasFile_iff, wants_ofTexts_iff nonempty, ignores_ofTexts_iff,
      Bool.and_eq_false_imp]
    constructor
    · rintro ⟨⟨⟨regular, suffixed⟩, unignored⟩, included⟩
      exact ⟨by omega, nonempty, regular, suffixed, unignored, included⟩
    · rintro ⟨-, wanted⟩
      exact ⟨⟨⟨wanted.regular, wanted.suffixed⟩, wanted.unignored⟩, wanted.included⟩

end Exact

/-- A scan lists exactly the places that are wanted, in strictly increasing order. It comes to a list
    exactly if no path is too long to be asked about. -/
theorem filesBy_exact (named : t.Named) (linkFree : t.LinkFree)
    (directory : t.find? l = some .directory)
    (reached : t.reach current base = .ok (l, .directory))
    (readsAs : ReadsAs t l base read excluded) (suffixes ignorePaths : List Text) :
    ∃ names, Config.directoryNames (.list (ignorePaths.map .str)) = .ok names ∧
      ((∃ places, filesBy t read current base ⟨suffixes, names⟩ = .ok places) ↔
        IsAskable t l base) ∧
      ∀ places, filesBy t read current base ⟨suffixes, names⟩ = .ok places →
        (places.Pairwise fun place other => Location.rank place < Location.rank other) ∧
        ∀ place, place ∈ places ↔ IsWanted t l base suffixes ignorePaths excluded place := by
  refine ⟨_, Config.directoryNames_texts ignorePaths, ?_⟩
  change (_ ↔ _) ∧ ∀ places,
    filesBy t read current base (.ofTexts suffixes ignorePaths) = .ok places → _
  have matcher := matcherOf_of_readsAs linkFree reached directory readsAs
  split at matcher
  next long =>
    have fails (places : List Location) :
        filesBy t read current base (.ofTexts suffixes ignorePaths) ≠ .ok places := by
      intro scanned
      rw [filesBy, matcher] at scanned
      cases scanned
    refine ⟨iff_of_false (not_exists.2 fails) fun askable => ?_,
      fun places scanned => absurd scanned (fails places)⟩
    have := askable _ List.mem_cons_self
    omega
  next short =>
  obtain ⟨excludes, matched, answered⟩ := matcher
  rw [filesBy_of_matcher matched reached, filesBy_of_matcher matched reached, filterM_answers_iff]
  simp only [mem_ordered_iff]
  have askable : (∀ place ∈ t.below l, ∃ answer,
      lists t current base (.ofTexts suffixes ignorePaths) excludes place = .ok answer) ↔
        IsAskable t l base := by
    rw [IsAskable, List.forall_mem_cons, and_iff_right (by omega)]
    exact forall₂_congr fun place listed =>
      lists_answers_iff linkFree reached named listed (answered place listed)
  refine ⟨askable, fun places filtered => ?_⟩
  have short := askable.1 (by simpa only [mem_ordered_iff] using filterM_answers_iff.1 ⟨_, filtered⟩)
  obtain rfl := filterM_eq_ok filtered
  refine ⟨(increasing_ordered (FileTree.nodup_below t l)).filter _, fun place => ?_⟩
  rw [List.mem_filter, mem_ordered_iff, passes_eq_true_iff]
  constructor
  · rintro ⟨listed, passed⟩
    exact ((lists_ofTexts_iff linkFree reached named listed (answered place listed)).1 passed).2
  · intro wanted
    have listed := mem_below_of_hasFile wanted.below (FileTree.hasFile_iff.2 wanted.regular)
    refine ⟨listed, ?_⟩
    rw [lists_ofTexts_iff linkFree reached named listed (answered place listed)]
    exact ⟨short place (List.mem_cons_of_mem _ listed), wanted⟩

/-- A directory named like one that is left out, with an ignore file and with files named like
    directories. -/
def builtSources : FileTree where
  entries := [(["work"], .directory), (["work", "build"], .directory),
    (["work", "build", ".gitignore"], .file (Utf8.encode "skip.*".toList)),
    (["work", "build", "dist"], .directory), (["work", "build", "dist", "c.js"], .file []),
    (["work", "build", "lib.js"], .file []), (["work", "build", "skip.js"], .file []),
    (["work", "build", "src"], .directory), (["work", "build", "src", "build.JS"], .file [])]
  root_unlisted := by decide
  parent_directory := by decide
  nodup := by decide

theorem filesBy_exact_builtSources : builtSources.Named ∧ builtSources.LinkFree ∧
    ∃ names places,
      Config.directoryNames (.list ["dist/", "/lib.js/", "build", "//"]) = .ok names ∧
      files builtSources ["work"] "build" ⟨[".Js"], names⟩ = .ok places ∧
      [Text.ofString "lib.js"] ∈ places ∧ [Text.ofString "src", "build.JS"] ∈ places ∧
      [Text.ofString "dist", "c.js"] ∉ places ∧ [Text.ofString "skip.js"] ∉ places := by
  have named : builtSources.Named := by decide
  have linkFree : builtSources.LinkFree := FileTree.linkFree_of_forall (by simp [builtSources])
  have readsAs : ReadsAs builtSources ["work", "build"] "build"
      (readIgnoreFile builtSources ["work"]) fun place => place = ["skip.js"] := by
    intro _
    decide +kernel
  have reached : builtSources.reach ["work"] "build" = .ok (["work", "build"], .directory) := by
    decide +kernel
  obtain ⟨names, ignored, answers, exact⟩ := filesBy_exact named linkFree (by decide) reached
    readsAs [".Js"] ["dist/", "/lib.js/", "build", "//"]
  obtain ⟨places, scanned⟩ := answers.2 (by decide +kernel)
  have wanted := (exact places scanned).2
  refine ⟨named, linkFree, names, places, ignored, scanned, ?_⟩
  simp only [wanted]
  refine ⟨?_, ?_, fun listed => ?_, fun listed => ?_⟩
  · exact ⟨by decide, ⟨[], by decide⟩, by decide +kernel, by decide +kernel, by decide +kernel⟩
  · exact ⟨by decide, ⟨[], by decide⟩, by decide +kernel, by decide +kernel, by decide +kernel⟩
  · exact listed.unignored "dist" (by decide) "dist/" (by decide) (by decide) (by decide)
  · exact absurd (listed.included (by decide)) (by decide)

end Scan

end ImportPolicy
