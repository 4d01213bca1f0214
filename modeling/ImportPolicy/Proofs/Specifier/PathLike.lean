import ImportPolicy.Proofs.Text.Pieces
import ImportPolicy.Specifier.Class

/-! # Specifiers that are paths

* `Specifier.isPathLike_iff` — such a specifier is told by its first piece.
* `Specifier.isBuiltin_eq_false_of_isPathLike` — it is no module of the runtime. -/

namespace ImportPolicy.Specifier

variable {settings : Settings} {name : Text}

/-- The part of a specifier before its first slash. -/
def firstPiece (name : Text) : Text := (Text.splitOn Path.slash name).headD []

/-- The first pieces of specifiers that are paths. -/
def pathPieces : List Text := ["", ".", ".."].map Text.ofString

theorem mem_pathPieces {piece : Text} :
    piece ∈ pathPieces ↔ piece = "" ∨ piece = "." ∨ piece = ".." := by
  simp [pathPieces]

/-- No core module of the settings has a name that a path starts with. -/
def NoPathModules (settings : Settings) : Prop :=
  ∀ piece ∈ pathPieces, piece ∉ settings.coreModules

theorem firstPiece_separator (front back : Text) :
    firstPiece (front ++ Path.slash :: back) = firstPiece front := by
  rw [firstPiece, firstPiece, Text.splitOn_separator, Text.splitOn_eq_cons _ front]
  rfl

theorem firstPiece_append {front : Text} (free : Path.slash ∉ front) (back : Text) :
    firstPiece (front ++ back) = front ++ firstPiece back := by
  rw [firstPiece, firstPiece, Text.splitOn_append free]
  rfl

theorem startsWith_iff {start : Text} :
    Text.startsWith name start = true ↔ ∃ rest, name = start ++ rest := by
  rw [Text.startsWith, List.isPrefixOf_iff_prefix]
  exact exists_congr fun rest => eq_comm

/-- A specifier is a path if it is dots alone or goes on with a slash behind a first piece that is
    none or dots. -/
theorem isPathLike_iff_exists : isPathLike name = true ↔
    name = "." ∨ name = ".." ∨ ∃ piece ∈ pathPieces, ∃ rest, name = piece ++ Path.slash :: rest := by
  have slashed (start rest : Text) :
      (start ++ [Path.slash]) ++ rest = start ++ Path.slash :: rest := by simp
  have here : Text.ofString "./" = Text.ofString "." ++ [Path.slash] := rfl
  have above : Text.ofString "../" = Text.ofString ".." ++ [Path.slash] := rfl
  have root : Text.ofString "/" = Text.ofString "" ++ [Path.slash] := rfl
  simp only [isPathLike, Bool.or_eq_true, decide_eq_true_eq, startsWith_iff, here, above, root,
    slashed, mem_pathPieces, or_and_right, exists_or, exists_eq_left]
  constructor
  · rintro ((((h | h) | h) | h) | h) <;> simp only [h, true_or, or_true]
  · rintro (h | h | h | h | h) <;> simp only [h, true_or, or_true]

/-- A specifier is a path if its first piece is none or dots and it is not empty. -/
theorem isPathLike_iff : isPathLike name = true ↔ name ≠ [] ∧ firstPiece name ∈ pathPieces := by
  rw [isPathLike_iff_exists]
  constructor
  · rintro (rfl | rfl | ⟨piece, member, rest, rfl⟩)
    · decide
    · decide
    · rw [firstPiece_separator]
      refine ⟨by simp, ?_⟩
      revert piece
      decide
  · rintro ⟨nonempty, member⟩
    rcases Text.eq_first_piece_or Path.slash name with whole | ⟨rest, more⟩
    · rw [← firstPiece] at whole
      rcases mem_pathPieces.1 member with none | dot | dots
      · exact absurd (whole.trans none) nonempty
      · exact .inl (whole.trans dot)
      · exact .inr (.inl (whole.trans dots))
    · exact .inr (.inr ⟨_, member, rest, more⟩)

theorem isPathLike_separator (front back other : Text) :
    isPathLike (front ++ Path.slash :: back) = isPathLike (front ++ Path.slash :: other) := by
  rw [Bool.eq_iff_iff, isPathLike_iff, isPathLike_iff, firstPiece_separator, firstPiece_separator]
  simp

/-! ## Modules of the runtime -/

theorem firstPiece_of_mem_builtinModules :
    ∀ listed ∈ builtinModules, listed ∉ pathPieces ∧ firstPiece listed ∉ pathPieces := by
  decide +kernel

theorem baseModule_of_isPathLike (pathLike : isPathLike name = true) :
    baseModule name = firstPiece name := by
  obtain ⟨nonempty, member⟩ := isPathLike_iff.1 pathLike
  have noScope : name.head? ≠ some (.scalar '@') := by
    intro atSign
    obtain ⟨rest, rfl⟩ : ∃ rest, name = [.scalar '@'] ++ rest := by
      cases name with
      | nil => exact absurd rfl nonempty
      | cons c rest => exact ⟨rest, by simpa using atSign⟩
    rw [firstPiece_append (by decide)] at member
    simp [pathPieces, Text.ofString, Text.ofChars] at member
  rw [baseModule, if_neg noScope, firstPiece]

/-- A path is no module of the runtime unless the settings add what it starts with. -/
theorem isBuiltin_eq_false_of_firstPiece (notAdded : firstPiece name ∉ settings.coreModules)
    (pathLike : isPathLike name = true) : isBuiltin settings name = false := by
  obtain ⟨-, member⟩ := isPathLike_iff.1 pathLike
  have noPrefix : Text.startsWith name "node:" = false := by
    rw [Bool.eq_false_iff]
    intro starts
    obtain ⟨rest, rfl⟩ := startsWith_iff.1 starts
    rw [firstPiece_append (by decide)] at member
    simp [pathPieces, Text.ofString, Text.ofChars] at member
  have notListed : name ∉ builtinModules := fun listed =>
    (firstPiece_of_mem_builtinModules name listed).2 member
  have baseNotListed : firstPiece name ∉ builtinModules := fun listed =>
    (firstPiece_of_mem_builtinModules _ listed).1 member
  simp [isBuiltin, baseModule_of_isPathLike pathLike, noPrefix, notListed, baseNotListed, notAdded]

theorem isBuiltin_eq_false_of_isPathLike (core : NoPathModules settings)
    (pathLike : isPathLike name = true) : isBuiltin settings name = false :=
  isBuiltin_eq_false_of_firstPiece (core _ (isPathLike_iff.1 pathLike).2) pathLike

end ImportPolicy.Specifier
