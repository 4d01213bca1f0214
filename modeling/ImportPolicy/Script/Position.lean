import ImportPolicy.Text.Utf8

/-! # Positions in a source text

A position counts lines and, within a line, bytes of UTF-8, both from one. Only a line feed ends a
line.

* `Position.advance` — the position after a character.
* `Position.after` — the position after some text. -/

namespace ImportPolicy.Script

/-- A line and a byte column, both counted from one. -/
structure Position where
  line : Nat
  column : Nat
  deriving DecidableEq, Inhabited

namespace Position

/-- The first position of a text. -/
def start : Position := ⟨1, 1⟩

/-- The position after a character. -/
def advance (p : Position) (c : Char) : Position :=
  if c = '\n' then ⟨p.line + 1, 1⟩ else ⟨p.line, p.column + Utf8.width c⟩

/-- The position after some text. -/
def after (p : Position) (text : List Char) : Position := text.foldl advance p

/-- One position stands before another in a text. -/
def Before (p q : Position) : Prop := p.line < q.line ∨ p.line = q.line ∧ p.column < q.column

@[simp] theorem after_nil (p : Position) : p.after [] = p := rfl

@[simp] theorem after_cons (p : Position) (c : Char) (text : List Char) :
    p.after (c :: text) = (p.advance c).after text := rfl

@[simp] theorem after_append (p : Position) (s t : List Char) :
    p.after (s ++ t) = (p.after s).after t := by simp [after]

theorem Before.trans {p q r : Position} (h : p.Before q) (h' : q.Before r) : p.Before r := by
  unfold Before at *; omega

theorem width_pos (c : Char) : 0 < Utf8.width c := by
  unfold Utf8.width; split <;> (try split) <;> (try split) <;> omega

theorem before_advance (p : Position) (c : Char) : p.Before (p.advance c) := by
  unfold Before advance
  split
  · exact .inl (Nat.lt_succ_self _)
  · exact .inr ⟨rfl, Nat.lt_add_of_pos_right (width_pos c)⟩

/-- A text that is not empty moves the position on. -/
theorem before_after (p : Position) {text : List Char} (h : text ≠ []) :
    p.Before (p.after text) := by
  induction text generalizing p with
  | nil => exact absurd rfl h
  | cons c rest ih =>
    rw [after_cons]
    by_cases hr : rest = []
    · subst hr; exact before_advance p c
    · exact (before_advance p c).trans (ih _ hr)

end Position

end ImportPolicy.Script
