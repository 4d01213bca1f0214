import ImportPolicy.Proofs.FileTree.Walking
import ImportPolicy.Proofs.Text.Pieces
import Mathlib.Data.List.Induction

/-! # Where a walk arrives

A walk that follows links leads to a location that needs no links: its names are plain ones, and
directories stand all the way down to it. The same walk along these names leads there again.

* `FileTree.IsEntryName`, `FileTree.walk_names` — the names of a location that a walk leads to.
* `FileTree.find?_above` — what stands above an entry.
* `FileTree.walk_into`, `FileTree.walk_location` — the walk along the names of a location. -/

namespace ImportPolicy.FileTree

variable {t : FileTree} {links : Nat} {directory l : Location} {names : List Text} {name : Text}
  {target : Target}

/-- A name that an entry can be found under. -/
structure IsEntryName (name : Text) : Prop where
  plain : IsPlain name
  slashFree : Path.slash ∉ name
  short : byteLength name ≤ 255

theorem slash_not_mem_linkNames (text : Text) : ∀ name ∈ (linkNames text).2, Path.slash ∉ name := by
  intro name member
  obtain ⟨piece, split, rfl⟩ := List.mem_map.1 member
  by_cases empty : piece.isEmpty = true
  · rw [if_pos empty]
    decide
  · rw [if_neg empty]
    exact Text.not_mem_of_mem_splitOn split

theorem isEntryName_linkStart (start : ∀ name ∈ directory, IsEntryName name) (text : Text) :
    ∀ name ∈ linkStart text directory, IsEntryName name := by
  unfold linkStart
  split
  · exact fun _ member => absurd member List.not_mem_nil
  · exact start

/-- A walk along names without slashes leads to a location of names that entries have. -/
theorem walk_names (start : ∀ name ∈ directory, IsEntryName name)
    (slashFree : ∀ name ∈ names, Path.slash ∉ name)
    (h : t.walk links directory names = .ok (l, target)) : ∀ name ∈ l, IsEntryName name := by
  induction links, directory, names using walk_induction t with
  | nil links directory =>
    rw [walk_nil] at h
    cases h
    exact start
  | skip links directory name rest skipped inductionHypothesis =>
    rw [walk_skip skipped] at h
    exact inductionHypothesis start (fun other member => slashFree other (by simp [member])) h
  | above links directory rest inductionHypothesis =>
    rw [walk_above] at h
    refine inductionHypothesis (fun other member => start other ?_)
      (fun other member => slashFree other (by simp [member])) h
    exact (List.dropLast_sublist directory).subset member
  | plain links directory name rest plain inside along =>
    rw [List.forall_mem_cons] at slashFree
    obtain ⟨short, ⟨-, h⟩ | ⟨_, -, -, rfl, -⟩ | ⟨fewer, text, less, found, h⟩⟩ :=
      walk_plain_eq_ok plain h
    · exact inside (by simpa [or_imp, forall_and] using ⟨start, plain, slashFree.1, short⟩)
        slashFree.2 h
    · simpa [or_imp, forall_and] using ⟨start, plain, slashFree.1, short⟩
    -- The names that the link is followed along come first, and no slash is left in them either.
    · refine along fewer text less found (isEntryName_linkStart start text) ?_ h
      intro other member
      rcases List.mem_append.1 member with linked | later
      · exact slash_not_mem_linkNames text other linked
      · exact slashFree.2 other later

theorem find?_above {above below : Location} {e : Entry} (h : t.find? (above ++ below) = some e)
    (lower : below ≠ []) : t.find? above = some .directory := by
  induction below using List.reverseRecOn generalizing e with
  | nil => exact absurd rfl lower
  | append_singleton below name inductionHypothesis =>
    have parent := find?_parent h (by simp)
    rw [← List.append_assoc, List.dropLast_concat] at parent
    cases below with
    | nil => simpa using parent
    | cons first rest => exact inductionHypothesis parent (by simp)

/-- The names of a directory's location lead into it, whatever links there are elsewhere. -/
theorem walk_into (start : Location) {rest : List Text}
    (entryNames : ∀ name ∈ rest, IsEntryName name)
    (h : t.find? (start ++ rest) = some .directory) (more : List Text) :
    t.walk links start (rest ++ more) = t.walk links (start ++ rest) more := by
  induction rest generalizing start with
  | nil => rw [List.append_nil, List.nil_append]
  | cons name rest inductionHypothesis =>
    rw [List.forall_mem_cons] at entryNames
    rw [List.append_cons start name rest] at h ⊢
    have entered : t.find? (start ++ [name]) = some .directory := by
      by_cases last : rest = []
      · simpa [last] using h
      · exact find?_above h last
    rw [List.cons_append, walk_plain entryNames.1.plain,
      if_neg (by have := entryNames.1.short; omega), entered]
    exact inductionHypothesis _ entryNames.2 h

/-- The names of a location lead to what stands there. -/
theorem walk_location (start : Location) {rest : List Text} (lower : rest ≠ [])
    (entryNames : ∀ name ∈ rest, IsEntryName name)
    (h : t.find? (start ++ rest) = some target.entry) :
    t.walk links start rest = .ok (start ++ rest, target) := by
  obtain ⟨above, name, rfl⟩ := (List.eq_nil_or_concat rest).resolve_left lower
  rw [List.concat_eq_append] at entryNames h ⊢
  rw [List.forall_mem_append, List.forall_mem_singleton] at entryNames
  rw [← List.append_assoc] at h ⊢
  rw [walk_into start entryNames.1 (find?_above h (by simp)), walk_plain entryNames.2.plain,
    if_neg (by have := entryNames.2.short; omega), h]
  cases target with
  | file content => simp [Target.entry]
  | directory => exact walk_nil _ _

end ImportPolicy.FileTree
