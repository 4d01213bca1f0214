import ImportPolicy.Text.Basic

/-! # Pieces of a text

* `Text.splitOn_separator` — a separator ends one list of pieces and starts another.
* `Text.splitOn_append` — a text without separators lengthens the first piece.
* `Text.joinWith_concat` — joined pieces end with the last one.
* `Text.splitOn_joinWith` — pieces without separators are told apart again.
* `Text.exists_last_piece`, `Text.append_separator_inj` — what stands behind the last separator. -/

namespace ImportPolicy.Text

variable {separator : CodePoint}

theorem splitOn_eq_cons (separator : CodePoint) (t : Text) :
    splitOn separator t = (splitOn separator t).headD [] :: (splitOn separator t).tail := by
  cases pieces : splitOn separator t with
  | nil => exact absurd pieces (splitOn_ne_nil separator t)
  | cons first rest => rfl

theorem splitOn_cons_of_ne {c : CodePoint} (other : c ≠ separator) (t : Text) :
    splitOn separator (c :: t) =
      (c :: (splitOn separator t).headD []) :: (splitOn separator t).tail := by
  rw [splitOn, if_neg other, splitOn_eq_cons separator t]
  rfl

theorem splitOn_append {first : Text} (free : separator ∉ first) (second : Text) :
    splitOn separator (first ++ second) =
      (first ++ (splitOn separator second).headD []) :: (splitOn separator second).tail := by
  induction first with
  | nil => exact splitOn_eq_cons separator second
  | cons c first inductionHypothesis =>
    simp only [List.mem_cons, not_or] at free
    rw [List.cons_append, splitOn_cons_of_ne (Ne.symm free.1), inductionHypothesis free.2]
    rfl

theorem splitOn_of_not_mem {t : Text} (free : separator ∉ t) : splitOn separator t = [t] := by
  have pieces := splitOn_append free []
  simpa using pieces

theorem splitOn_separator (separator : CodePoint) (first second : Text) :
    splitOn separator (first ++ separator :: second) =
      splitOn separator first ++ splitOn separator second := by
  induction first with
  | nil => simp [splitOn]
  | cons c first inductionHypothesis =>
    by_cases same : c = separator
    · simp [splitOn, same, inductionHypothesis]
    · rw [List.cons_append, splitOn_cons_of_ne same, splitOn_cons_of_ne same, inductionHypothesis,
        splitOn_eq_cons separator first]
      simp

/-- A text is its first piece, or goes on behind it with a separator. -/
theorem eq_first_piece_or (separator : CodePoint) (t : Text) :
    t = (splitOn separator t).headD [] ∨
      ∃ rest, t = (splitOn separator t).headD [] ++ separator :: rest := by
  induction t with
  | nil => exact .inl rfl
  | cons c t inductionHypothesis =>
    by_cases same : c = separator
    · exact .inr ⟨t, by simp [splitOn, same]⟩
    · rw [splitOn_cons_of_ne same, List.headD_cons]
      rcases inductionHypothesis with whole | ⟨rest, more⟩
      · exact .inl (by rw [← whole])
      · exact .inr ⟨rest, by rw [List.cons_append, ← more]⟩

theorem joinWith_concat (separator : Text) (pieces : List Text) (last : Text) :
    joinWith separator (pieces ++ [last]) = pieces.flatMap (· ++ separator) ++ last := by
  induction pieces with
  | nil => simp [joinWith]
  | cons piece rest inductionHypothesis =>
    rw [List.flatMap_cons, List.append_assoc, ← inductionHypothesis]
    cases rest <;> simp [joinWith]

theorem splitOn_joinWith {pieces : List Text} (some : pieces ≠ [])
    (free : ∀ piece ∈ pieces, separator ∉ piece) :
    splitOn separator (joinWith [separator] pieces) = pieces := by
  induction pieces with
  | nil => exact absurd rfl some
  | cons piece rest inductionHypothesis =>
    rw [List.forall_mem_cons] at free
    cases rest with
    | nil => exact splitOn_of_not_mem free.1
    | cons next rest =>
      rw [joinWith, List.append_assoc, List.singleton_append, splitOn_separator,
        splitOn_of_not_mem free.1, inductionHypothesis (by simp) free.2]
      · rfl
      · simp

theorem exists_last_piece {t : Text} (held : separator ∈ t) :
    ∃ before last, t = before ++ separator :: last ∧ separator ∉ last := by
  obtain ⟨after, before, backwards, free⟩ :=
    List.eq_append_cons_of_mem (List.mem_reverse.2 held)
  refine ⟨before.reverse, after.reverse, ?_, by simpa using free⟩
  rw [← List.reverse_reverse t, backwards]
  simp

/-- The last separator parts a text in one way. -/
theorem append_separator_inj {before before' last last' : Text} (free : separator ∉ last)
    (free' : separator ∉ last') :
    before ++ separator :: last = before' ++ separator :: last' ↔ before = before' ∧ last = last' := by
  constructor
  · intro same
    have pieces := congrArg (splitOn separator) same
    rw [splitOn_separator, splitOn_separator, splitOn_of_not_mem free, splitOn_of_not_mem free']
      at pieces
    obtain ⟨front, back⟩ := List.append_inj' pieces rfl
    refine ⟨?_, (List.cons.inj back).1⟩
    rw [← joinWith_splitOn separator before, front, joinWith_splitOn]
  · rintro ⟨rfl, rfl⟩
    rfl

end ImportPolicy.Text
