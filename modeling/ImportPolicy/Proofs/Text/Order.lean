import ImportPolicy.Text.Basic
import Mathlib.Data.List.Lex

/-! # The order of texts

Texts are ordered as the lists of the numbers of their code points are.

* `CodePoint.toNat_injective`, `Text.numbers_injective` — numbers tell code points and texts.
* `Text.precedes_iff` — the order by code point. -/

namespace ImportPolicy

theorem CodePoint.toNat_injective : Function.Injective CodePoint.toNat := by
  -- No character has the number of a surrogate.
  have apart (c : Char) (offset : Fin 2048) : c.toNat ≠ 0xD800 + offset.val := by
    have valid := c.valid
    have number : c.toNat = c.val.toNat := rfl
    simp only [UInt32.isValidChar, Nat.isValidChar] at valid
    omega
  intro a b same
  cases a with
  | scalar c =>
    cases b with
    | scalar d => exact congrArg _ (Char.ext (UInt32.toNat_inj.1 same))
    | surrogate offset => exact absurd same (apart c offset)
  | surrogate offset =>
    cases b with
    | scalar d => exact absurd same.symm (apart d offset)
    | surrogate other => exact congrArg _ (Fin.ext (Nat.add_left_cancel same))

namespace Text

/-- The numbers of the code points. -/
def numbers (t : Text) : List Nat := t.map CodePoint.toNat

theorem numbers_injective : Function.Injective numbers :=
  List.map_injective_iff.2 CodePoint.toNat_injective

theorem precedes_iff {s t : Text} : s.precedes t = true ↔ s.numbers < t.numbers := by
  induction s generalizing t with
  | nil => cases t <;> simp [precedes, numbers]
  | cons a s inductionHypothesis =>
    cases t with
    | nil => simp [precedes, numbers]
    | cons b t =>
      simp only [numbers] at inductionHypothesis
      simp only [precedes, numbers, List.map_cons, List.cons_lt_cons_iff]
      split
      next less => simp [less]
      next notLess =>
        split
        next greater => simp [notLess, Nat.ne_of_gt greater]
        next notGreater =>
          have same : a.toNat = b.toNat := by omega
          simp [same, inductionHypothesis]

end Text

end ImportPolicy
