import ImportPolicy.Proofs.FileTree.Walking
import ImportPolicy.Proofs.Text.Pieces

/-! # Names of paths

* `Path.child`, `Path.appended` — a path with one more name, or with a longer last name.
* `Path.join_ofText_last` — the last piece of a written path is the name of what it writes.
* `Path.isName_append` — what may be appended to a name.
* `Location.text_concat` — how the path of a location is written. -/

namespace ImportPolicy

namespace FileTree

theorem isPlain_of_mem {name : Text} {c : CodePoint} (member : c ∈ name)
    (other : c ≠ .scalar '.') : IsPlain name := by
  refine ⟨?_, ?_⟩
  · rintro (rfl | rfl)
    · simp at member
    · exact other (by simpa [Text.ofString, Text.ofChars] using member)
  · rintro rfl
    exact other (by simpa [Text.ofString, Text.ofChars] using member)

end FileTree

namespace Path

/-- The path with one more name at its end. -/
def child (p : Path) (name : Text) : Path := ⟨p.anchor, p.parts ++ [name]⟩

/-- The path with a text appended to its name, whether or not that gives a name. -/
def appended (p : Path) (ending : Text) : Path :=
  ⟨p.anchor, p.parts.dropLast ++ [p.name ++ ending]⟩

@[simp] theorem name_child (p : Path) (name : Text) : (p.child name).name = name := by
  simp [child, Path.name]

@[simp] theorem appended_child (p : Path) (name ending : Text) :
    (p.child name).appended ending = p.child (name ++ ending) := by
  simp [child, appended, Path.name]

theorem join_child (base p : Path) (name : Text) :
    base.join (p.child name) = (base.join p).child name := by
  unfold join child isAbsolute
  split <;> simp

theorem pathNames_child (p : Path) (name : Text) :
    FileTree.pathNames (p.child name) = FileTree.pathNames p ++ Text.splitOn slash name := by
  simp [FileTree.pathNames, child]

/-! ## Written paths -/

/-- Whether a piece means something. -/
def isKept (piece : Text) : Bool := !piece.isEmpty && piece ≠ [.scalar '.']

theorem meaningful_eq (t : Text) : meaningful t = (Text.splitOn slash t).filter isKept := rfl

/-- Pieces that mean something are those that a walk does not skip. -/
theorem isKept_iff {piece : Text} : isKept piece = true ↔ ¬ (piece = [] ∨ piece = ".") := by
  have dot : Text.ofString "." = [CodePoint.scalar '.'] := rfl
  simp [isKept, dot]

theorem meaningful_separator (front back : Text) :
    meaningful (front ++ slash :: back) = meaningful front ++ meaningful back := by
  simp [meaningful, Text.splitOn_separator]

theorem anchorOf_separator (front : Text) {last : Text} (free : slash ∉ last) :
    anchorOf (front ++ slash :: last) = anchorOf (front ++ [slash]) := by
  have slashes : (front ++ slash :: last).takeWhile (· = slash) =
      (front ++ [slash]).takeWhile (· = slash) := by
    rw [List.takeWhile_append, List.takeWhile_append]
    cases last with
    | nil => rfl
    | cons c rest =>
      have other : c ≠ slash := fun same => free (by simp [same])
      simp [other]
  rw [anchorOf, anchorOf, slashes]

/-- Behind its last slash a text writes the name of the path. -/
theorem ofText_last (front : Text) {last : Text} (free : slash ∉ last)
    (plain : FileTree.IsPlain last) :
    ofText (front ++ slash :: last) = (ofText (front ++ [slash])).child last := by
  have alone : meaningful last = [last] := by
    rw [meaningful_eq, Text.splitOn_of_not_mem free,
      List.filter_cons_of_pos (isKept_iff.2 plain.1), List.filter_nil]
  rw [ofText, ofText, child, anchorOf_separator front free, meaningful_separator,
    meaningful_separator, alone]
  simp [meaningful]

theorem join_ofText_last (base : Path) (front : Text) {last : Text} (free : slash ∉ last)
    (plain : FileTree.IsPlain last) :
    base.join (ofText (front ++ slash :: last)) =
      (base.join (ofText (front ++ [slash]))).child last := by
  rw [ofText_last front free plain, join_child]

/-! ## Longer names -/

/-- The pieces of an ending behind its first slash lead nowhere. -/
def EndsName (ending : Text) : Prop :=
  ∀ piece ∈ (Text.splitOn slash ending).tail, piece = [] ∨ piece = "."

theorem endsName_of_not_mem {ending : Text} (free : slash ∉ ending) : EndsName ending := by
  simp [EndsName, Text.splitOn_of_not_mem free]

theorem endsName_nil : EndsName [] := endsName_of_not_mem (by simp)

theorem meaningful_append {name ending : Text} (free : slash ∉ name) (ends : EndsName ending)
    (plain : FileTree.IsPlain (name ++ (Text.splitOn slash ending).headD [])) :
    meaningful (name ++ ending) = [name ++ (Text.splitOn slash ending).headD []] := by
  rw [meaningful_eq, Text.splitOn_append free, List.filter_cons_of_pos (isKept_iff.2 plain.1),
    List.filter_eq_nil_iff.2]
  intro piece member kept
  exact isKept_iff.1 kept (ends piece member)

theorem join_ofText_append (p : Path) {name ending : Text} (free : slash ∉ name)
    (nonempty : name ≠ []) (ends : EndsName ending)
    (plain : FileTree.IsPlain (name ++ (Text.splitOn slash ending).headD [])) :
    p.join (ofText (name ++ ending)) = p.child (name ++ (Text.splitOn slash ending).headD []) := by
  have relative : anchorOf (name ++ ending) = .current := by
    cases name with
    | nil => exact absurd rfl nonempty
    | cons c rest =>
      have other : c ≠ slash := fun same => free (by simp [same])
      simp [anchorOf, other]
  rw [ofText, relative, meaningful_append free ends plain]
  rfl

theorem join_name (p : Path) {name : Text} (free : slash ∉ name) (plain : FileTree.IsPlain name) :
    p.join (ofText name) = p.child name := by
  have nonempty : name ≠ [] := fun empty => plain.1 (.inl empty)
  have whole : Text.splitOn slash [] = [[]] := rfl
  simpa [whole] using join_ofText_append p free nonempty endsName_nil (by simpa [whole] using plain)

theorem join_manifest (p : Path) : p.join "package.json" = p.child "package.json" :=
  join_name p (by decide) (by decide)

/-- A name with an ending is a name only if the ending leads nowhere behind a slash. -/
theorem isName_append {name ending : Text} (free : slash ∉ name)
    (plain : FileTree.IsPlain (name ++ (Text.splitOn slash ending).headD []))
    (h : isName (name ++ ending) = true) : EndsName ending := by
  simp only [isName, Bool.and_eq_true, decide_eq_true_eq] at h
  obtain ⟨⟨single, -⟩, -⟩ := h
  rw [meaningful_eq, Text.splitOn_append free, List.filter_cons_of_pos (isKept_iff.2 plain.1),
    List.length_cons, Nat.add_eq_right, List.length_eq_zero_iff] at single
  intro piece member
  have dropped := List.filter_eq_nil_iff.1 single piece member
  exact Decidable.not_not.1 fun kept => dropped (isKept_iff.2 kept)

end Path

/-! ## Locations -/

/-- The path of a location is its names with a slash before each. -/
theorem Location.text_concat (l : Location) (name : Text) :
    (Location.path (l ++ [name])).text = l.flatMap (Path.slash :: ·) ++ Path.slash :: name := by
  have shifted : Path.slash :: (l.flatMap (· ++ [Path.slash]) ++ name) =
      l.flatMap (Path.slash :: ·) ++ Path.slash :: name := by
    induction l with
    | nil => rfl
    | cons first rest inductionHypothesis =>
      rw [List.flatMap_cons, List.flatMap_cons, List.append_assoc _ _ (_ :: name),
        ← inductionHypothesis]
      simp
  rw [← shifted]
  simp only [Path.text, Location.path, reduceCtorEq, false_and, if_false]
  rw [Text.joinWith_concat]
  rfl

end ImportPolicy
