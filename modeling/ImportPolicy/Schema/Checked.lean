import ImportPolicy.Schema.Problem

/-! # Checked data

The outcome of reading data against a description. Outcomes of several parts combine, so that the
problems of all parts are found, in order.

* `Checked` — data, or the problems found.
* `Checked.map`, `Checked.seq` — combining outcomes; also as an applicative functor.
* `Checked.all` — the outcomes of a list as one outcome. -/

namespace ImportPolicy.Schema

/-- Data, or the problems that kept it from being read. -/
inductive Checked (α : Type) where
  | ok (a : α)
  | bad (problems : List Problem)

namespace Checked

variable {α β : Type}

/-- The outcome with its data changed. -/
protected def map (f : α → β) : Checked α → Checked β
  | .ok a => .ok (f a)
  | .bad problems => .bad problems

/-- A function's outcome applied to an argument's outcome: problems of both add up. -/
protected def seq : Checked (α → β) → Checked α → Checked β
  | .ok f, .ok a => .ok (f a)
  | .ok _, .bad problems => .bad problems
  | .bad problems, .ok _ => .bad problems
  | .bad problems, .bad more => .bad (problems ++ more)

instance : Applicative Checked where
  map := Checked.map
  pure := Checked.ok
  seq f a := Checked.seq f (a ())

/-- The outcome as seen from one step further out. -/
def under (step : Step) : Checked α → Checked α
  | .ok a => .ok a
  | .bad problems => .bad (problems.map (Problem.under step))

/-- The failure with a single complaint about the value itself. -/
def complain (c : Complaint) : Checked α := .bad [⟨[], c⟩]

/-- The outcomes of a list as the outcome of a list. -/
def all : List (Checked α) → Checked (List α)
  | [] => .ok []
  | c :: cs => Checked.seq (c.map List.cons) (all cs)

@[simp] theorem map_ok (f : α → β) (a : α) : f <$> Checked.ok a = Checked.ok (f a) := rfl

@[simp] theorem map_bad (f : α → β) (problems : List Problem) :
    f <$> Checked.bad problems = Checked.bad problems := rfl

@[simp] theorem seq_ok_ok (f : α → β) (a : α) : Checked.ok f <*> Checked.ok a = Checked.ok (f a) :=
  rfl

@[simp] theorem seq_ok_bad (f : α → β) (problems : List Problem) :
    Checked.ok f <*> Checked.bad problems = Checked.bad problems := rfl

@[simp] theorem seq_bad_ok (problems : List Problem) (a : α) :
    (Checked.bad problems : Checked (α → β)) <*> Checked.ok a = Checked.bad problems := rfl

@[simp] theorem seq_bad_bad (problems more : List Problem) :
    (Checked.bad problems : Checked (α → β)) <*> (Checked.bad more : Checked α) =
      Checked.bad (problems ++ more) := rfl

@[simp] theorem under_eq_ok_iff (step : Step) (c : Checked α) (a : α) :
    c.under step = .ok a ↔ c = .ok a := by
  cases c <;> simp [under]

theorem map_eq_ok_iff (f : α → β) (c : Checked α) (b : β) :
    f <$> c = .ok b ↔ ∃ a, c = .ok a ∧ f a = b := by
  cases c <;> simp

/-- A combination has data exactly when both parts have. -/
theorem seq_eq_ok_iff (f : Checked (α → β)) (a : Checked α) (b : β) :
    f <*> a = .ok b ↔ ∃ g x, f = .ok g ∧ a = .ok x ∧ g x = b := by
  cases f <;> cases a <;> simp

/-- A list of outcomes has data exactly when each outcome has. -/
theorem all_eq_ok_iff (cs : List (Checked α)) (as : List α) :
    all cs = .ok as ↔ cs = as.map .ok := by
  induction cs generalizing as with
  | nil => cases as <;> simp [all]
  | cons c cs ih =>
    cases c with
    | bad problems =>
      cases h : all cs <;> cases as <;> simp [all, Checked.map, Checked.seq, h]
    | ok a =>
      cases h : all cs with
      | bad problems =>
        cases as with
        | nil => simp [all, Checked.map, Checked.seq, h]
        | cons b bs =>
          have := ih bs
          rw [h] at this
          simp [all, Checked.map, Checked.seq, h, ← this]
      | ok rest =>
        cases as with
        | nil => simp [all, Checked.map, Checked.seq, h]
        | cons b bs =>
          have := ih bs
          rw [h] at this
          simp [all, Checked.map, Checked.seq, h, ← this]

end Checked

end ImportPolicy.Schema
