import ImportPolicy.Text.Basic
import Mathlib.Logic.Relation

/-! # Regular expressions

An expression leads from a text to what is left of it behind a match. Every way to match counts, so
the relation says what a search that goes back and tries again can find.

* `Expression`, `Expression.Leads` — expressions and what they lead to.
* `Expression.Matches` — an expression matches at the start of a text.
* `Expression.leads_many_iff`, `Expression.leads_some_iff` — runs of code points. -/

namespace ImportPolicy

/-- A regular expression: one code point that passes a test, the place before a code point that does
    not pass one, the end, one expression behind another, one that may be left out, and one as often
    as wanted. -/
inductive Expression where
  | one (test : CodePoint → Bool)
  | notBefore (test : CodePoint → Bool)
  | atEnd
  | andThen (first second : Expression)
  | optional (e : Expression)
  | many (e : Expression)

namespace Expression

/-- One expression at least once and then as often as wanted. -/
def some (e : Expression) : Expression := .andThen e (.many e)

/-- An expression matches the front of a text and leaves a rest. A line feed may follow the end. -/
def Leads : Expression → Text → Text → Prop
  | .one test, source, rest => ∃ c, source = c :: rest ∧ test c = true
  | .notBefore test, source, rest => rest = source ∧ source.head?.any test = false
  | .atEnd, source, rest => rest = source ∧ (source = [] ∨ source = [.scalar '\n'])
  | .andThen first second, source, rest =>
    ∃ between, first.Leads source between ∧ second.Leads between rest
  | .optional e, source, rest => rest = source ∨ e.Leads source rest
  | .many e, source, rest => Relation.ReflTransGen e.Leads source rest

/-- An expression matches at the start of a text. -/
def Matches (e : Expression) (source : Text) : Prop := ∃ rest, e.Leads source rest

variable {e first second : Expression} {test : CodePoint → Bool} {source rest : Text}

theorem leads_one_iff :
    (one test).Leads source rest ↔ ∃ c, source = c :: rest ∧ test c = true := Iff.rfl

theorem leads_notBefore_iff :
    (notBefore test).Leads source rest ↔ rest = source ∧ source.head?.any test = false := Iff.rfl

theorem leads_atEnd_iff :
    atEnd.Leads source rest ↔ rest = source ∧ (source = [] ∨ source = [.scalar '\n']) := Iff.rfl

theorem leads_andThen_iff : (andThen first second).Leads source rest ↔
    ∃ between, first.Leads source between ∧ second.Leads between rest := Iff.rfl

theorem leads_optional_iff :
    (optional e).Leads source rest ↔ rest = source ∨ e.Leads source rest := Iff.rfl

/-- An expression for single code points matches runs of them if it may be repeated. -/
theorem leads_many_iff
    (single : ∀ source rest, e.Leads source rest ↔ ∃ c, source = c :: rest ∧ test c = true) :
    (many e).Leads source rest ↔ ∃ run, source = run ++ rest ∧ ∀ c ∈ run, test c = true := by
  change Relation.ReflTransGen e.Leads source rest ↔ _
  constructor
  · intro leads
    induction leads using Relation.ReflTransGen.head_induction_on with
    | refl => exact ⟨[], rfl, by simp⟩
    | head first _ inductionHypothesis =>
      obtain ⟨c, rfl, passes⟩ := (single _ _).1 first
      obtain ⟨run, rfl, all⟩ := inductionHypothesis
      exact ⟨c :: run, rfl, List.forall_mem_cons.2 ⟨passes, all⟩⟩
  · rintro ⟨run, rfl, all⟩
    induction run with
    | nil => exact .refl
    | cons c run inductionHypothesis =>
      rw [List.forall_mem_cons] at all
      exact .head ((single _ _).2 ⟨c, rfl, all.1⟩) (inductionHypothesis all.2)

theorem leads_some_iff
    (single : ∀ source rest, e.Leads source rest ↔ ∃ c, source = c :: rest ∧ test c = true) :
    (some e).Leads source rest ↔
      ∃ run, run ≠ [] ∧ source = run ++ rest ∧ ∀ c ∈ run, test c = true := by
  simp only [some, leads_andThen_iff, single, leads_many_iff single]
  constructor
  · rintro ⟨_, ⟨c, rfl, passes⟩, run, rfl, all⟩
    exact ⟨c :: run, by simp, rfl, List.forall_mem_cons.2 ⟨passes, all⟩⟩
  · rintro ⟨run, nonempty, rfl, all⟩
    cases run with
    | nil => exact absurd rfl nonempty
    | cons c run =>
      rw [List.forall_mem_cons] at all
      exact ⟨run ++ rest, ⟨c, rfl, all.1⟩, run, rfl, all.2⟩

end Expression

end ImportPolicy
