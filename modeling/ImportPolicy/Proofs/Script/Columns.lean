import ImportPolicy.Script.Position
import Mathlib.Data.List.Induction

/-! # Lines and columns

The position after some text is where what follows stands: on the line that the line feeds before it
count, behind the bytes that this line has before it.

* `StandsAt` — a text stands in a source at a line and a column.
* `exists_lines` — the lines of a text, and the position after it.
* `standsAt_after` — what follows a text stands at the position after it. -/

namespace ImportPolicy.Script

/-- A text stands in a source at a line and a column, both counted from one: so many lines are above
    it, which a line feed ends each, and what its line has before it takes so many bytes. -/
def StandsAt (source text : List Char) (line column : Int) : Prop :=
  ∃ (above : List (List Char)) (front rest : List Char),
    source = above.flatMap (· ++ ['\n']) ++ (front ++ (text ++ rest)) ∧
      (∀ line ∈ above, '\n' ∉ line) ∧ '\n' ∉ front ∧
      line = above.length + 1 ∧ column = (Utf8.encode front).length + 1

theorem length_encodeChar (c : Char) : (Utf8.encodeChar c).length = Utf8.width c := by
  unfold Utf8.encodeChar Utf8.width
  dsimp only
  split
  · rfl
  split
  · rfl
  split <;> rfl

theorem length_encode_concat (text : List Char) (c : Char) :
    (Utf8.encode (text ++ [c])).length = (Utf8.encode text).length + Utf8.width c := by
  simp [Utf8.encode, ← length_encodeChar]

/-- A text is some lines and the start of one more, and the position after it says how many lines
    and how many bytes these are. -/
theorem exists_lines (text : List Char) :
    ∃ (above : List (List Char)) (front : List Char),
      text = above.flatMap (· ++ ['\n']) ++ front ∧
        (∀ line ∈ above, '\n' ∉ line) ∧ '\n' ∉ front ∧
        Position.start.after text = ⟨above.length + 1, (Utf8.encode front).length + 1⟩ := by
  induction text using List.reverseRecOn with
  | nil => exact ⟨[], [], rfl, by simp, by simp, rfl⟩
  | append_singleton text c inductionHypothesis =>
    obtain ⟨above, front, rfl, single, onLine, position⟩ := inductionHypothesis
    rw [Position.after_append, position, Position.after_cons, Position.after_nil,
      Position.advance]
    by_cases feed : c = '\n'
    · refine ⟨above ++ [front], [], by simp [feed], ?_, by simp, ?_⟩
      · exact List.forall_mem_append.2 ⟨single, by simpa using onLine⟩
      · simp [feed, Utf8.encode]
    · refine ⟨above, front ++ [c], by simp, single, by simp [onLine, Ne.symm feed], ?_⟩
      rw [if_neg feed, length_encode_concat]
      simp only [Position.mk.injEq, true_and]
      omega

/-- What follows a text stands where the position after the text says. -/
theorem standsAt_after (before text rest : List Char) :
    StandsAt (before ++ (text ++ rest)) text (Position.start.after before).line
      (Position.start.after before).column := by
  obtain ⟨above, front, rfl, single, onLine, position⟩ := exists_lines before
  rw [position]
  exact ⟨above, front, rest, by rw [List.append_assoc], single, onLine, by simp, by simp⟩

end ImportPolicy.Script
