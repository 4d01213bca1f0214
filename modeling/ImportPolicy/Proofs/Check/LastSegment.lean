import ImportPolicy.Proofs.Check.Unresolved

/-! # Extensions that are read off a specifier

The extension of a specifier without a path is read off its last segment, so that the specifier ends
with it and cannot miss it.

* `extensionOf_free` — what an extension does not hold.
* `extensionOf_lastSegment` — which extension is read, and that it is never the missing one. -/

namespace ImportPolicy

variable {path : Text}

theorem extensionOf_free (present : extensionOf path ≠ []) {c : CodePoint}
    (member : c ∈ extensionOf path) :
    c ≠ .scalar '.' ∧ c ≠ .scalar '/' ∧ c ≠ .scalar '\\' := by
  obtain ⟨-, -, -, noPoint, noSeparator⟩ := extensionOf_inv present
  have within : isSeparator c = false := noSeparator c member
  simp only [isSeparator, Bool.or_eq_false_iff, decide_eq_false_iff_not] at within
  exact ⟨fun point => noPoint (point ▸ member), within⟩

theorem extensionOf_suffix (present : extensionOf path ≠ []) :
    .scalar '.' :: extensionOf path <:+ path := by
  obtain ⟨stem, whole, -⟩ := extensionOf_inv present
  exact ⟨stem, whole.symm⟩

/-- The last piece of a path between slashes and backslashes decides which extension it has. One that
    is not empty holds no points and no separators, and the path ends with a point and the extension.
    So an unresolved specifier is never found to miss an extension but the empty one. -/
theorem extensionOf_lastSegment (path : Text) :
    (∀ extension, extensionOf path = extension ↔
      HasExtension ((path.splitOnP isSeparator).getLastD []) extension ∨
        extension = [] ∧
          ∀ other, ¬ HasExtension ((path.splitOnP isSeparator).getLastD []) other) ∧
    (extensionOf path ≠ [] →
      (∀ c ∈ extensionOf path, c ≠ .scalar '.' ∧ c ≠ .scalar '/' ∧ c ≠ .scalar '\\') ∧
        .scalar '.' :: extensionOf path <:+ path) ∧
    ∀ (ε : Type) (p : Policy) (r : Resolver ε) (found : Diagnostic),
      r.resolve path = .ok none → check p r path = .ok (some found) → found.kind = .missing →
        found.extension = [] := by
  refine ⟨fun extension => ?_, fun present => ?_, ?_⟩
  · rw [← lastSegment_eq]
    exact extensionOf_eq_iff
  · exact ⟨fun _ => extensionOf_free present, extensionOf_suffix present⟩
  · intro ε p r found unresolved checked kind
    obtain ⟨isEmpty, -⟩ := (missing_iff_of_unresolved unresolved).1 ⟨checked, kind⟩
    rw [isEmpty]

/-- A name that starts with points has an extension, and a name of points and one word has none. -/
theorem extensionOf_lastSegment_dottedNames :
    HasExtension "..b.c" "c" ∧ extensionOf ".\\a.js/..b.c" = "c" ∧
    .scalar '.' :: Text.ofString "c" <:+ ".\\a.js/..b.c" ∧
    check { fallback := .always } nowhere ".\\a.js/..b" =
      .ok (some ⟨.missing, ".\\a.js/..b", []⟩) ∧
    (Diagnostic.mk .missing ".\\a.js/..b" []).extension = [] := by
  have spelt : extensionOf ".\\a.js/..b.c" = "c" := by decide
  have missing : check { fallback := .always } nowhere ".\\a.js/..b" =
      .ok (some ⟨.missing, ".\\a.js/..b", []⟩) := by
    decide
  obtain ⟨read, ends, -⟩ := extensionOf_lastSegment ".\\a.js/..b.c"
  refine ⟨?_, spelt, ?_, missing, ?_⟩
  · rcases (read "c").1 spelt with has | ⟨empty, -⟩
    · exact has
    · cases empty
  · exact spelt ▸ (ends (by decide)).2
  · exact (extensionOf_lastSegment ".\\a.js/..b").2.2 Empty _ nowhere _ rfl missing rfl

end ImportPolicy
