import ImportPolicy.Proofs.FileTree.Following

/-! # A tree with one more file

A new file stands where nothing stood. A path leads where it led before, or it led nowhere before.

* `FileTree.Adds`, `FileTree.adds_of_insert?` — trees that differ by a new file.
* `FileTree.Adds.reach_eq_or` — what a path leads to in the larger tree. -/

namespace ImportPolicy.FileTree

variable {t t' : FileTree} {place directory : Location} {name : Text} {content : List UInt8}

/-- The second tree is the first with a file where nothing stood. -/
structure Adds (t t' : FileTree) (place : Location) (content : List UInt8) : Prop where
  vacant : t.find? place = none
  file : t'.find? place = some (.file content)
  same : ∀ l, l ≠ place → t'.find? l = t.find? l

theorem adds_of_insert? (h : t.insert? directory name (.file content) = some t') :
    Adds t t' (directory ++ [name]) content := by
  unfold insert? at h
  split at h
  next free =>
    cases h
    have below : directory ++ [name] ≠ [] := by simp
    have absent : entryIn t.entries (directory ++ [name]) = none := by
      simpa [find?] using free.2
    refine ⟨free.2, ?_, fun l other => ?_⟩
    · simp [find?, entryIn_append, absent, entryIn]
    · have elsewhere : entryIn [(directory ++ [name], Entry.file content)] l = none := by
        simp [entryIn, Ne.symm other]
      simp only [find?, entryIn_append, elsewhere, Option.or_none]
  next => simp at h

theorem Adds.linkFree (adds : Adds t t' place content) (linkFree : t.LinkFree) : t'.LinkFree := by
  intro l text held
  by_cases here : l = place
  · simp [here, adds.file] at held
  · exact linkFree l text (adds.same l here ▸ held)

/-- A new file is no link, like nothing at all. -/
theorem Adds.linkAt?_eq (adds : Adds t t' place content) : t'.linkAt? = t.linkAt? := by
  funext l
  by_cases here : l = place
  · rw [linkAt?_eq_none (by simp [here, adds.file]), linkAt?_eq_none (by simp [here, adds.vacant])]
  · rw [linkAt?, linkAt?, adds.same l here]

theorem Adds.sameBut (adds : Adds t t' place content) : SameBut place t t' where
  leaf := .inl adds.vacant
  leaf' := .inr ⟨content, adds.file⟩
  elsewhere := adds.same

/-- A path that leads elsewhere in the larger tree missed a name before. It leads to the new file,
    or is stopped there as names remain. -/
theorem Adds.reach_eq_or (adds : Adds t t' place content) (current : Location) (p : Path) :
    t'.reach current p = t.reach current p ∨
      (∃ vacancy, t.reach current p = .error (.missing vacancy)) ∧
        (t'.reach current p = .ok (place, .file content) ∨
          t'.reach current p = .error .notDirectory) := by
  rcases adds.sameBut.reach_eq_or current p with equal | ⟨before, after⟩
  · exact .inl equal
  · rw [adds.vacant] at before
    rw [adds.file] at after
    generalize t.reach current p = missed at before ⊢
    generalize t'.reach current p = found at after ⊢
    cases before
    cases after with
    | file => exact .inr ⟨⟨_, rfl⟩, .inl rfl⟩
    | inside => exact .inr ⟨⟨_, rfl⟩, .inr rfl⟩

end ImportPolicy.FileTree
