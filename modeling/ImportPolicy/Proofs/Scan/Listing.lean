import ImportPolicy.Proofs.FileTree.Differing
import ImportPolicy.Proofs.Path.Locations
import ImportPolicy.Proofs.Traversals
import ImportPolicy.Scan.Files
import Mathlib.Data.List.Nodup

/-! # What a scan lists

The entries of a tree stand under names, so that the path of a location leads there and places below
a directory are written differently. A scan lists such places at most once.

* `FileTree.Named` — trees whose entries have names that a file system can hold.
* `FileTree.Named.reach_path` — what the path of a location leads to.
* `FileTree.mem_below_iff`, `FileTree.nodup_below` — what stands below a directory.
* `Scan.files_eq_ok`, `Scan.lists_eq_ok_true_iff` — the files that a scan lists.
* `Scan.matcherOf_eq_nothing` — nothing is left out where no file says so. -/

namespace ImportPolicy

namespace FileTree

variable {t : FileTree} {l place : Location} {name : Text} {e : Entry} {target : Target}

instance (name : Text) : Decidable (IsEntryName name) :=
  decidable_of_iff (IsPlain name ∧ Path.slash ∉ name ∧ byteLength name ≤ 255)
    ⟨fun ⟨plain, slashFree, short⟩ => ⟨plain, slashFree, short⟩,
      fun ⟨plain, slashFree, short⟩ => ⟨plain, slashFree, short⟩⟩

/-- Every entry stands under names that entries can have and a file system can hold. -/
def Named (t : FileTree) : Prop :=
  ∀ e ∈ t.entries, ∀ name ∈ e.1, IsEntryName name ∧ isStorable name = true

instance (t : FileTree) : Decidable t.Named := by
  unfold Named
  infer_instance

theorem Named.of_find? (named : t.Named) (h : t.find? l = some e) :
    ∀ name ∈ l, IsEntryName name ∧ isStorable name = true := by
  unfold find? at h
  split at h
  next root => simp [root]
  · exact named _ (mem_of_entryIn h)

theorem isStorable_joinWith (pieces : List Text) :
    isStorable (Text.joinWith "/" pieces) = pieces.all isStorable := by
  induction pieces with
  | nil => rfl
  | cons piece rest inductionHypothesis =>
    cases rest with
    | nil => simp [Text.joinWith]
    | cons next rest =>
      have slash : isStorable "/" = true := rfl
      have appended (s t : Text) : isStorable (s ++ t) = (isStorable s && isStorable t) :=
        List.all_append
      have joined : Text.joinWith "/" (piece :: next :: rest) =
          piece ++ "/" ++ Text.joinWith "/" (next :: rest) := rfl
      rw [joined, appended, appended, inductionHypothesis, slash, Bool.and_true]
      rfl

/-- A path can be held where its parts can. -/
theorem isStorable_text (p : Path) : isStorable p.text = p.parts.all isStorable := by
  have anchor : isStorable p.anchor.text = true := by cases p.anchor <;> rfl
  unfold Path.text
  split
  next empty => rw [empty.2]; rfl
  next =>
    rw [← isStorable_joinWith]
    simp only [isStorable] at anchor ⊢
    rw [List.all_append, anchor, Bool.true_and]

/-- The path of a location leads there, unless it is too long to be asked about. -/
theorem Named.reach_path (named : t.Named) (h : t.find? l = some target.entry) :
    t.reach [] (Location.path l) =
      if 4096 ≤ byteLength (Location.path l).text then .error .nameTooLong
      else .ok (l, target) := by
  have names := named.of_find? h
  have storable : isStorable (Location.path l).text = true := by
    rw [isStorable_text, List.all_eq_true]
    exact fun name listed => (names name listed).2
  rw [reach, storable, if_neg (by simp),
    Location.pathNames_path fun name listed => (names name listed).1]
  congr 1
  by_cases root : l = []
  · subst root
    cases target with
    | file content => cases h
    | directory => rfl
  · exact walk_location [] root (fun name listed => (names name listed).1) h

/-- The path of what is missing in a directory leads nowhere. -/
theorem Named.reach_path_vacant (named : t.Named) (directory : t.find? l = some .directory)
    (entryName : IsEntryName name) (vacant : t.find? (l ++ [name]) = none)
    (found : Location × Target) :
    t.reach [] (Location.path (l ++ [name])) ≠ .ok found := by
  have names : ∀ other ∈ l ++ [name], IsEntryName other := List.forall_mem_append.2
    ⟨fun other listed => (named.of_find? directory other listed).1, by simpa using entryName⟩
  intro reached
  rw [reach] at reached
  split at reached
  · cases reached
  split at reached
  · cases reached
  rw [Location.pathNames_path names] at reached
  have into : t.walk linkLimit [] (l ++ [name]) = t.walk linkLimit l [name] :=
    walk_into [] (fun other listed => names other (List.mem_append_left _ listed)) directory [name]
  change t.walk linkLimit [] (l ++ [name]) = .ok found at reached
  rw [into, walk_plain entryName.plain,
    if_neg (by have := entryName.short; omega), vacant] at reached
  cases reached

/-! ## Below a directory -/

theorem mem_below_iff : place ∈ t.below l ↔ place ≠ [] ∧ ∃ e, (l ++ place, e) ∈ t.entries := by
  simp only [below, List.mem_filterMap, Bool.and_eq_true, List.isPrefixOf_iff_prefix,
    decide_eq_true_eq]
  constructor
  · rintro ⟨⟨k, e⟩, listed, held⟩
    split at held <;> cases held
    next inside =>
    obtain ⟨⟨rest, rfl⟩, other⟩ := inside
    refine ⟨by simpa [eq_comm] using other, e, by simpa using listed⟩
  · rintro ⟨nonempty, e, listed⟩
    exact ⟨_, listed, by simp [Ne.symm, nonempty]⟩

theorem find?_of_mem_below (listed : place ∈ t.below l) : ∃ e, t.find? (l ++ place) = some e := by
  obtain ⟨nonempty, e, held⟩ := mem_below_iff.1 listed
  cases found : t.find? (l ++ place) with
  | some other => exact ⟨other, rfl⟩
  | none =>
    rw [find?, if_neg (by simp [nonempty]), entryIn_eq_none_iff] at found
    exact absurd (List.mem_map_of_mem held) found

theorem nodup_below (t : FileTree) (l : Location) : (t.below l).Nodup := by
  have keys : t.below l = (t.entries.map (·.1)).filterMap fun k =>
      if l.isPrefixOf k && l ≠ k then some (k.drop l.length) else none := by
    rw [List.filterMap_map]
    rfl
  rw [keys]
  refine List.Nodup.filterMap (fun k k' rest seen seen' => ?_) t.nodup
  -- A location is the directory and what is seen of it from there.
  have whole {k : Location} (seen : (if l.isPrefixOf k && l ≠ k then some (k.drop l.length)
      else none) = some rest) : k = l ++ rest := by
    split at seen <;> cases seen
    next inside =>
    rw [Bool.and_eq_true, List.isPrefixOf_iff_prefix] at inside
    obtain ⟨⟨rest, rfl⟩, -⟩ := inside
    simp
  rw [whole seen, whole seen']

theorem Named.of_mem_below (named : t.Named) (listed : place ∈ t.below l) :
    place ≠ [] ∧ ∀ name ∈ place, IsEntryName name := by
  obtain ⟨nonempty, e, held⟩ := mem_below_iff.1 listed
  exact ⟨nonempty, fun name member => (named _ held name (List.mem_append_right _ member)).1⟩

/-- The text of a place tells its names. -/
theorem Named.splitOn_joinWith (named : t.Named) (listed : place ∈ t.below l) :
    Text.splitOn Path.slash (Text.joinWith "/" place) = place := by
  obtain ⟨nonempty, names⟩ := named.of_mem_below listed
  exact Text.splitOn_joinWith nonempty fun name member => (names name member).slashFree

end FileTree

namespace Scan

variable {t : FileTree} {current l place : Location} {base : Path} {s : Selection}
  {excludes : Matcher} {places : List Location}

theorem mem_ordered_iff {places : List Location} : place ∈ ordered places ↔ place ∈ places :=
  (List.mergeSort_perm places noLater).mem_iff

theorem nodup_ordered {places : List Location} (nodup : places.Nodup) : (ordered places).Nodup :=
  (List.mergeSort_perm places noLater).nodup_iff.2 nodup

/-- In a directory the files that a scan lists are the places below it that pass, in order. -/
theorem files_eq_ok (named : t.Named) (directory : t.find? l = some .directory)
    (scanned : files t [] (Location.path l) s = .ok places) :
    t.reach [] (Location.path l) = .ok (l, .directory) ∧
      ∃ excludes, matcherOf t (readIgnoreFile t []) [] (Location.path l) = .ok excludes ∧
        places = (ordered (t.below l)).filter
          (passes (lists t [] (Location.path l) s excludes)) := by
  have reach := @FileTree.Named.reach_path t l .directory named directory
  obtain ⟨excludes, read, scanned⟩ := bind_eq_ok scanned
  split at reach
  next long =>
    rw [reach] at scanned
    cases scanned
  next short =>
    rw [reach] at scanned
    exact ⟨reach, excludes, read, filterM_eq_ok scanned⟩

/-- Where no file says what to leave out, nothing is left out. -/
theorem matcherOf_eq_nothing {read : Path → Except ScanError Matcher} (named : t.Named)
    (directory : t.find? l = some .directory)
    (noIgnoreFile : t.find? (l ++ [ignoreFileName]) = none)
    (read : matcherOf t read [] (Location.path l) = .ok excludes) :
    excludes = fun _ => .ok false := by
  rw [matcherOf, Path.join_name _ (by decide) (by decide)] at read
  split at read
  · cases read
  · exact (Except.ok.inj read).symm
  next isFile =>
    obtain ⟨bytes, held⟩ := FileTree.content_of_isFile isFile
    obtain ⟨place, reached⟩ := FileTree.reach_of_content held
    exact absurd reached (named.reach_path_vacant directory (by decide) noIgnoreFile _)

/-- A scan of what stands in order has nothing to sort. -/
theorem files_of_sorted
    (noFile : t.isFile current (base.join (Path.ofText ignoreFileName)) = .ok false)
    (reached : t.reach current base = .ok (l, .directory))
    (sorted : (t.below l).Pairwise fun place other => noLater place other = true) :
    files t current base s =
      (t.below l).filterM (lists t current base s fun _ => .ok false) := by
  rw [files, filesBy, matcherOf, noFile, reached]
  change (ordered (t.below l)).filterM (lists t current base s fun _ => .ok false) = _
  rw [ordered, List.mergeSort_of_pairwise sorted]

theorem mem_below_of_files (named : t.Named) (directory : t.find? l = some .directory)
    (scanned : files t [] (Location.path l) s = .ok places) (listed : place ∈ places) :
    place ∈ t.below l := by
  obtain ⟨-, excludes, -, rfl⟩ := files_eq_ok named directory scanned
  exact mem_ordered_iff.1 (List.mem_of_mem_filter listed)

theorem lists_eq_ok_true_iff : lists t current base s excludes place = .ok true ↔
    t.isFile current (pathOf base place) = .ok true ∧ s.wants place = true ∧
      s.ignores place = false ∧ excludes place = .ok false := by
  unfold lists
  rcases t.isFile current (pathOf base place) with _ | _ | _
  · simp
  · simp
  · cases s.wants place <;> cases s.ignores place <;>
      rcases excludes place with _ | _ | _ <;>
      simp [Except.map]

end Scan

end ImportPolicy
