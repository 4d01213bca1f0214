import ImportPolicy.Proofs.FileTree.Overwriting
import ImportPolicy.Proofs.Snapshot.Gathering

/-! # A snapshot after a file was written anew

A scan looks at names and at the ignore file, so that it lists the same files whatever else was
written. The entries of all other files are the same.

* `FileTree.Named.overwrite`, `FileTree.Named.leadsTo_path` — paths of entries.
* `Scan.files_overwrite`, `Scan.avoids_ignoreFile` — a scan afterwards.
* `Sources.IsAt`, `Sources.gather_overwrite` — the entries of other files. -/

namespace ImportPolicy

namespace FileTree

variable {t : FileTree} {l place : Location} {e : Entry}

theorem Named.overwrite (named : t.Named) (place : Location) (written : List UInt8) :
    (t.overwrite place written).Named := by
  intro e listed
  obtain ⟨old, held, rfl⟩ := List.mem_map.1 listed
  exact named old held

theorem find?_overwrite_directory (directory : t.find? l = some .directory) (place : Location)
    (written : List UInt8) : (t.overwrite place written).find? l = some .directory := by
  rw [find?_overwrite, directory]
  simp [Entry.refilled]

/-- Where nothing is a link, the path of an entry leads to no other place. -/
theorem Named.leadsTo_path (named : t.Named) (linkFree : t.LinkFree) (held : t.find? l = some e)
    (leads : t.LeadsTo [] (Location.path l) place) : l = place := by
  obtain ⟨target, h⟩ : ∃ target : Target, e = target.entry := by
    cases e with
    | file content => exact ⟨.file content, rfl⟩
    | directory => exact ⟨.directory, rfl⟩
    | link text => exact absurd held (linkFree l text)
  subst h
  obtain ⟨found, reached⟩ := leads
  rw [named.reach_path held] at reached
  split at reached <;> cases reached
  rfl

end FileTree

namespace Scan

variable {t : FileTree} {current place : Location} {base : Path} {written : List UInt8}

theorem matcherOf_overwrite
    (avoids : ¬ t.LeadsTo current (base.join (Path.ofText ignoreFileName)) place) :
    matcherOf (t.overwrite place written) (readIgnoreFile (t.overwrite place written) current)
      current base = matcherOf t (readIgnoreFile t current) current base := by
  rw [matcherOf, matcherOf, FileTree.isFile_overwrite, readIgnoreFile, readIgnoreFile,
    FileTree.readText_overwrite avoids]

/-- What a scan lists does not depend on what the files hold. -/
theorem files_overwrite (s : Selection)
    (avoids : ¬ t.LeadsTo current (base.join (Path.ofText ignoreFileName)) place) :
    files (t.overwrite place written) current base s = files t current base s := by
  have lists (excludes : Matcher) :
      lists (t.overwrite place written) current base s excludes =
        lists t current base s excludes := by
    funext rest
    rw [Scan.lists, Scan.lists, FileTree.isFile_overwrite]
  rw [files, files, filesBy, filesBy, matcherOf_overwrite avoids, FileTree.reach_overwrite]
  rcases t.reach current base with (_ | _ | _ | _) | ⟨l, _ | _⟩ <;>
    simp only [Except.map, FileTree.refilled, FileTree.below_overwrite, lists]

/-- Where nothing is a link, an ignore file is found under its name alone. -/
theorem avoids_ignoreFile (linkFree : t.LinkFree)
    (noIgnoreFile : place.getLast? ≠ some ignoreFileName) (directory : Location) :
    ¬ t.LeadsTo [] ((Location.path directory).join (Path.ofText ignoreFileName)) place := by
  rw [Path.join_name _ (by decide) (by decide)]
  exact fun leads => noIgnoreFile (FileTree.leadsTo_child linkFree (by decide) (by decide) leads)

end Scan

namespace Sources

variable {t : FileTree} {current root place : Location} {path : Path} {config : Mapping}
  {written : List UInt8} {s s' : Sources}

/-- An entry is that of the file at a place. -/
def IsAt (root place : Location) (file : SourceFile) : Prop :=
  root ++ Text.splitOn Path.slash file.path = place

instance (root place : Location) : DecidablePred (IsAt root place) := by
  unfold IsAt
  infer_instance

theorem sourceAt?_overwrite {suffixes : Table Language} {rest : Location}
    (avoids : ¬ t.LeadsTo [] (Location.path (root ++ rest)) place) :
    sourceAt? (t.overwrite place written) suffixes root rest = sourceAt? t suffixes root rest := by
  simp only [sourceAt?, FileTree.readText_overwrite avoids]

theorem sourcesAt_overwrite {suffixes : Table Language} {places : List Location}
    (named : t.Named) (linkFree : t.LinkFree)
    (elsewhere : ∀ rest ∈ places, rest ∈ t.below root ∧ root ++ rest ≠ place) :
    sourcesAt (t.overwrite place written) suffixes root places =
      sourcesAt t suffixes root places := by
  refine List.filterMap_congr fun rest listed => ?_
  obtain ⟨below, apart⟩ := elsewhere rest listed
  obtain ⟨e, held⟩ := FileTree.find?_of_mem_below below
  rw [sourceAt?_overwrite fun leads => apart (named.leadsTo_path linkFree held leads)]

/-- After a file was written, a directory has the same entries for all other files, in the same
    order. -/
theorem gather_overwrite (named : t.Named) (linkFree : t.LinkFree)
    (directory : t.find? root = some .directory) (real : t.realLocation current path = .ok root)
    (noIgnoreFile : place.getLast? ≠ some Scan.ignoreFileName)
    (gathered : gather t current path config = .ok s)
    (gathered' : gather (t.overwrite place written) current path config = .ok s') :
    s.root = root ∧ s'.root = root ∧
      s'.files.filter (fun file => ¬ IsAt root place file) =
        s.files.filter fun file => ¬ IsAt root place file := by
  obtain ⟨-, -, -, suffixed, -⟩ := gather_eq_ok_iff.1 gathered
  obtain ⟨-, -, -, suffixed', -⟩ := gather_eq_ok_iff.1 gathered'
  obtain ⟨rooted, names, places, ignored, scanned, read⟩ :=
    gather_scanned named directory real gathered
  obtain ⟨rooted', names', places', ignored', scanned', read'⟩ :=
    gather_scanned (named.overwrite place written)
      (FileTree.find?_overwrite_directory directory place written)
      ((FileTree.realLocation_overwrite t place written current path).trans real) gathered'
  -- Both scans look for the same suffixes and leave out the same, and so they list the same files.
  have sameNames : names' = names := Except.ok.inj (ignored'.symm.trans ignored)
  have sameTable : s'.suffixes = s.suffixes := Except.ok.inj (suffixed'.symm.trans suffixed)
  have avoids := Scan.avoids_ignoreFile linkFree noIgnoreFile root
  rw [sameNames, sameTable, Scan.files_overwrite _ avoids, scanned] at scanned'
  obtain rfl := Except.ok.inj scanned'
  refine ⟨rooted, rooted', ?_⟩
  -- The text of an entry's path tells where its file stands.
  let other (text : Text) : Bool := ¬ (root ++ Text.splitOn Path.slash text = place)
  have kept := filter_recorded read other
  have kept' := filter_recorded read' other
  have elsewhere : ∀ rest ∈ places.filter fun rest => other (Text.joinWith "/" rest),
      rest ∈ t.below root ∧ root ++ rest ≠ place := by
    intro rest member
    obtain ⟨listed, apart⟩ := List.mem_filter.1 member
    have below := Scan.mem_below_of_files named directory scanned listed
    exact ⟨below, by simpa [other, named.splitOn_joinWith below] using apart⟩
  rw [sameTable, sourcesAt_overwrite named linkFree elsewhere, kept] at kept'
  exact (Except.ok.inj kept').symm

end Sources

end ImportPolicy
