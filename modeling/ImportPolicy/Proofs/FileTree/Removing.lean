import ImportPolicy.Proofs.FileTree.Differing
import Mathlib.Data.List.Nodup

/-! # A tree without one of its files

What is left when a file is taken away. Paths that led to the file lead to no file then, and all
other paths lead to the same content as before.

* `FileTree.withoutFile`, `FileTree.sameBut_withoutFile` — the tree without a file.
* `FileTree.content_withoutFile`, `FileTree.content_withoutFile_of_ne` — what paths lead to in it. -/

namespace ImportPolicy

/-- Whether an entry is a regular file. -/
def Entry.isFile : Entry → Bool
  | .file _ => true
  | _ => false

namespace FileTree

variable {t : FileTree} {links : Nat} {current directory place l : Location} {names : List Text}
  {p : Path} {bytes : List UInt8} {e : Entry}

/-- Whether a listed entry stays when the file at a place is taken away. -/
def stays (place : Location) (e : Location × Entry) : Bool := !(decide (e.1 = place) && e.2.isFile)

theorem entryIn_filter_stays {entries : List (Location × Entry)}
    (kept : l = place → e.isFile = false) (h : entryIn entries l = some e) :
    entryIn (entries.filter (stays place)) l = some e := by
  induction entries with
  | nil => cases h
  | cons listed rest inductionHypothesis =>
    obtain ⟨k, first⟩ := listed
    by_cases same : k = l
    · simp only [entryIn, same, if_true, Option.some.injEq] at h
      have stayed : stays place (k, first) = true := by
        by_cases here : l = place
        · simp [stays, h, kept here]
        · simp [stays, same, here]
      rw [List.filter_cons_of_pos stayed, entryIn, if_pos same, h]
    · simp only [entryIn, same, if_false] at h
      rw [List.filter_cons]
      split
      · rw [entryIn, if_neg same, inductionHypothesis h]
      · exact inductionHypothesis h

/-- The tree without the file at a place; unchanged if no file is there. -/
def withoutFile (t : FileTree) (place : Location) : FileTree where
  entries := t.entries.filter (stays place)
  root_unlisted e listed := t.root_unlisted e (List.mem_filter.1 listed).1
  parent_directory e listed :=
    -- A file is no directory, so nothing loses the directory that it is in.
    (t.parent_directory e (List.mem_filter.1 listed).1).imp_right
      (entryIn_filter_stays fun _ => rfl)
  nodup := (List.filter_sublist.map _).nodup t.nodup

theorem find?_withoutFile (held : t.find? place = some (.file bytes)) :
    (t.withoutFile place).find? place = none := by
  have below : place ≠ [] := by
    rintro rfl
    simp [find?] at held
  rw [find?, if_neg below, entryIn_eq_none_iff]
  intro listed
  obtain ⟨⟨k, e⟩, stayed, rfl⟩ := List.mem_map.1 listed
  obtain ⟨member, noFile⟩ := List.mem_filter.1 stayed
  rw [find?, if_neg below] at held
  -- The place is listed once, so what stays there would be the file.
  have unique := List.inj_on_of_nodup_map t.nodup member (mem_of_entryIn held) rfl
  simp only [Prod.mk.injEq, true_and] at unique
  simp [stays, unique, Entry.isFile] at noFile

theorem find?_withoutFile_of_ne (other : l ≠ place) :
    (t.withoutFile place).find? l = t.find? l := by
  by_cases root : l = []
  · rw [find?, if_pos root, find?, if_pos root]
  rw [find?, if_neg root, find?, if_neg root]
  cases found : entryIn t.entries l with
  | some e => exact entryIn_filter_stays (fun here => absurd here other) found
  | none =>
    rw [entryIn_eq_none_iff] at found ⊢
    exact fun listed => found ((List.filter_sublist.map _).subset listed)

theorem sameBut_withoutFile (held : t.find? place = some (.file bytes)) :
    SameBut place t (t.withoutFile place) where
  leaf := .inr ⟨bytes, held⟩
  leaf' := .inl (find?_withoutFile held)
  elsewhere _ other := find?_withoutFile_of_ne other

/-- A walk that leads to a file ends at an entry of the tree, wherever it starts. -/
theorem find?_of_walk_file (h : t.walk links directory names = .ok (l, .file bytes)) :
    t.find? l = some (.file bytes) := by
  induction links, directory, names using walk_induction t with
  | nil links directory =>
    rw [walk_nil] at h
    cases h
  | skip links directory name rest skipped inductionHypothesis =>
    exact inductionHypothesis (walk_skip skipped rest ▸ h)
  | above links directory rest inductionHypothesis =>
    exact inductionHypothesis (walk_above rest ▸ h)
  | plain links directory name rest plain inside along =>
    obtain ⟨-, ⟨-, h⟩ | ⟨content, found, -, rfl, held⟩ | ⟨fewer, text, less, found, h⟩⟩ :=
      walk_plain_eq_ok plain h
    · exact inside h
    · cases held
      exact found
    · exact along fewer text less found h

theorem find?_of_reach_file (h : t.reach current p = .ok (l, .file bytes)) :
    t.find? l = some (.file bytes) := by
  unfold reach at h
  split at h
  · cases h
  split at h
  · cases h
  · exact find?_of_walk_file h

/-- A path whose walk ends where nothing stands leads to no file. -/
theorem content_of_endsAt_vacant (ends : EndsAt place none (t.reach current p)) :
    t.content current p = .ok none := by
  unfold content
  generalize t.reach current p = outcome at ends
  cases ends
  rfl

/-- A path to the file leads to no file without it. -/
theorem content_withoutFile (h : t.reach current p = .ok (place, .file bytes)) :
    (t.withoutFile place).content current p = .ok none := by
  have held := find?_of_reach_file h
  have gone := find?_withoutFile held
  rcases (sameBut_withoutFile held).reach_eq_or current p with equal | ⟨-, ends⟩
  · rw [find?_of_reach_file (equal.trans h)] at gone
    cases gone
  · rw [gone] at ends
    exact content_of_endsAt_vacant ends

/-- A path that does not lead to the file leads to the same content without it. -/
theorem content_withoutFile_of_ne (held : t.find? place = some (.file bytes))
    (avoids : t.reach current p ≠ .ok (place, .file bytes)) :
    (t.withoutFile place).content current p = t.content current p := by
  rcases (sameBut_withoutFile held).reach_eq_or current p with equal | ⟨ends, ends'⟩
  · rw [content, equal]
    rfl
  rw [find?_withoutFile held] at ends'
  rw [content_of_endsAt_vacant ends']
  rw [held] at ends
  unfold content
  generalize t.reach current p = outcome at ends avoids
  cases ends with
  | file => exact absurd rfl avoids
  | inside => rfl

end FileTree

end ImportPolicy
