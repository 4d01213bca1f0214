import ImportPolicy.Proofs.FileTree.Arriving
import ImportPolicy.Proofs.Path.Names
import Mathlib.Data.List.Basic

/-! # Paths of locations

The path of a location, written and read again, is the same path: its pieces are the names of the
location.

* `Location.splitOn_text`, `Location.ofText_text` — reading a written path of a location.
* `Location.pathNames_path` — the names that a walk along it follows. -/

namespace ImportPolicy.Location

open FileTree (IsEntryName)

variable {l : Location}

theorem text_path (l : Location) :
    (path l).text = Path.slash :: Text.joinWith [Path.slash] l := rfl

theorem splitOn_text (below : l ≠ []) (names : ∀ name ∈ l, IsEntryName name) :
    Text.splitOn Path.slash (path l).text = [] :: l := by
  rw [text_path, ← List.nil_append (Path.slash :: _), Text.splitOn_separator,
    Text.splitOn_joinWith below fun name member => (names name member).slashFree]
  rfl

theorem anchorOf_text (below : l ≠ []) (names : ∀ name ∈ l, IsEntryName name) :
    Path.anchorOf (path l).text = .root := by
  obtain ⟨first, rest, rfl⟩ := List.exists_cons_of_ne_nil below
  have entryName := names first (by simp)
  obtain ⟨c, more, rfl⟩ := List.exists_cons_of_ne_nil fun empty => entryName.plain.1 (.inl empty)
  have other : c ≠ Path.slash := fun same => entryName.slashFree (by simp [same])
  have written : ∃ behind, (path ((c :: more) :: rest)).text = Path.slash :: c :: behind := by
    cases rest with
    | nil => exact ⟨_, rfl⟩
    | cons next rest => exact ⟨_, rfl⟩
  obtain ⟨behind, written⟩ := written
  simp [Path.anchorOf, written, other]

/-- The written path of a location is read as the path that it is. -/
theorem ofText_text (below : l ≠ []) (names : ∀ name ∈ l, IsEntryName name) :
    Path.ofText (path l).text = path l := by
  have kept : l.filter Path.isKept = l := by
    rw [List.filter_eq_self]
    exact fun name member => Path.isKept_iff.2 (names name member).plain.1
  rw [Path.ofText, anchorOf_text below names, Path.meaningful_eq, splitOn_text below names,
    List.filter_cons_of_neg (by decide), kept, path]

theorem pathNames_path (names : ∀ name ∈ l, IsEntryName name) :
    FileTree.pathNames (path l) = l := by
  have single : ∀ name ∈ l, Text.splitOn Path.slash name = [name] := fun name member =>
    Text.splitOn_of_not_mem (names name member).slashFree
  exact (List.flatMap_congr single).trans (List.flatMap_singleton' l)

end ImportPolicy.Location
