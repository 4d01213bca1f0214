import ImportPolicy.Path
import ImportPolicy.Text.Utf8

/-! # File trees

A file tree holds regular files, directories and symbolic links at locations. A location is the
list of names on the way from the root; the root itself is a directory that is not listed.

* `FileTree` — entries at locations, each inside a directory, no two at one location.
* `FileTree.find?` — what stands at a location.
* `FileTree.insert?`, `FileTree.overwrite` — creating an entry and writing a file. -/

namespace ImportPolicy

/-- The names on the way from the root. -/
abbrev Location := List Text

/-- The path of a location. -/
def Location.path (l : Location) : Path := ⟨.root, l⟩

/-- What can stand at a location. -/
inductive Entry where
  | file (content : List UInt8)
  | directory
  | link (target : Text)
  deriving DecidableEq, Inhabited

/-- What stands first at a location in a list of entries. -/
def entryIn (entries : List (Location × Entry)) (l : Location) : Option Entry :=
  match entries with
  | [] => none
  | (k, e) :: rest => if k = l then some e else entryIn rest l

/-- A finite file tree. -/
structure FileTree where
  entries : List (Location × Entry)
  /-- The root is not listed. -/
  root_unlisted : ∀ e ∈ entries, e.1 ≠ []
  /-- Every entry is inside a directory. -/
  parent_directory : ∀ e ∈ entries,
    e.1.dropLast = [] ∨ entryIn entries e.1.dropLast = some .directory
  /-- No two entries stand at one location. -/
  nodup : (entries.map (·.1)).Nodup

namespace FileTree

/-- The tree that holds nothing. -/
def empty : FileTree := ⟨[], by simp, by simp, by simp⟩

instance : Inhabited FileTree := ⟨empty⟩

/-- What stands at a location. -/
def find? (t : FileTree) (l : Location) : Option Entry :=
  if l = [] then some .directory else entryIn t.entries l

theorem entryIn_eq_none_iff {entries : List (Location × Entry)} {l : Location} :
    entryIn entries l = none ↔ l ∉ entries.map (·.1) := by
  induction entries with
  | nil => simp [entryIn]
  | cons e rest ih =>
    obtain ⟨k, e⟩ := e
    by_cases h : k = l
    · simp [entryIn, h]
    · simp [entryIn, h, ih, Ne.symm h]

theorem entryIn_append {entries more : List (Location × Entry)} {l : Location} :
    entryIn (entries ++ more) l = (entryIn entries l).or (entryIn more l) := by
  induction entries with
  | nil => simp [entryIn]
  | cons e rest ih =>
    obtain ⟨k, e⟩ := e
    by_cases h : k = l <;> simp [entryIn, h, ih]

/-- The tree with a new entry in a directory; nothing if the directory is missing or the name is
    taken. -/
def insert? (t : FileTree) (directory : Location) (name : Text) (e : Entry) : Option FileTree :=
  if h : t.find? directory = some .directory ∧ t.find? (directory ++ [name]) = none then
    some {
      entries := t.entries ++ [(directory ++ [name], e)]
      root_unlisted := by
        intro x hx
        rcases List.mem_append.1 hx with hx | hx
        · exact t.root_unlisted x hx
        · simp_all
      parent_directory := by
        intro x hx
        rcases List.mem_append.1 hx with hx | hx
        · rcases t.parent_directory x hx with hr | hr
          · exact .inl hr
          · exact .inr (by simp [entryIn_append, hr])
        · obtain rfl : x = (directory ++ [name], e) := by simpa using hx
          by_cases hd : directory = []
          · exact .inl (by simp [hd])
          · refine .inr ?_
            have := h.1
            simp only [find?, hd, if_false] at this
            simp [entryIn_append, this]
      nodup := by
        have := h.2
        simp only [find?, List.append_eq_nil_iff, List.cons_ne_nil, and_false, if_false] at this
        rw [entryIn_eq_none_iff] at this
        rw [List.map_append, List.nodup_append]
        refine ⟨t.nodup, by simp, ?_⟩
        intro a ha b hb hab
        simp only [List.map_cons, List.map_nil, List.mem_singleton] at hb
        exact this (hb ▸ hab ▸ ha) }
  else none

/-- An entry with other content if it is a file. -/
def Entry.refilled (content : List UInt8) : Entry → Entry
  | .file _ => .file content
  | other => other

/-- A listed entry, with other content if it is the file at a location. -/
def rewritten (l : Location) (content : List UInt8) (e : Location × Entry) : Location × Entry :=
  (e.1, if e.1 = l then Entry.refilled content e.2 else e.2)

theorem entryIn_map_rewritten {l : Location} {content : List UInt8} {k : Location}
    {entries : List (Location × Entry)} (h : entryIn entries k = some .directory) :
    entryIn (entries.map (rewritten l content)) k = some .directory := by
  induction entries with
  | nil => simp [entryIn] at h
  | cons e rest ih =>
    obtain ⟨j, e⟩ := e
    by_cases hj : j = k
    · simp only [entryIn, hj, if_true, Option.some.injEq] at h
      by_cases hl : k = l <;> simp [rewritten, entryIn, hj, hl, h, Entry.refilled]
    · simp only [entryIn, hj, if_false] at h
      simp [rewritten, entryIn, hj, ih h]

/-- The tree with other content in the file at a location; unchanged if no file is there. -/
def overwrite (t : FileTree) (l : Location) (content : List UInt8) : FileTree where
  entries := t.entries.map (rewritten l content)
  root_unlisted := by
    intro x hx
    obtain ⟨y, hy, rfl⟩ := List.mem_map.1 hx
    exact t.root_unlisted y hy
  parent_directory := by
    intro x hx
    obtain ⟨y, hy, rfl⟩ := List.mem_map.1 hx
    rcases t.parent_directory y hy with hr | hr
    · exact .inl hr
    · exact .inr (entryIn_map_rewritten hr)
  nodup := by
    have : (t.entries.map (rewritten l content)).map (·.1) = t.entries.map (·.1) := by
      simp [List.map_map, Function.comp_def, rewritten]
    rw [this]
    exact t.nodup

end FileTree

end ImportPolicy
