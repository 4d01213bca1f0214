import ImportPolicy.Text.Basic

/-! # Tables

A `Table` maps texts to data and keeps the order in which its keys were first written.

* `Table.find?` — the entry at a key.
* `Table.put`, `Table.update` — writing one entry, or all entries of another table.
* `Table.find?_put`, `Table.find?_update` — what is found after writing. -/

namespace ImportPolicy

/-- Keys with their data, in order. -/
abbrev Table (α : Type) := List (Text × α)

namespace Table

variable {α : Type}

/-- The data at a key. -/
def find? : Table α → Text → Option α
  | [], _ => none
  | (k, a) :: rest, key => if k = key then some a else find? rest key

/-- The table with a key set: in the key's place if it is there, else at the end. -/
def put : Table α → Text → α → Table α
  | [], key, a => [(key, a)]
  | (k, b) :: rest, key, a => if k = key then (k, a) :: rest else (k, b) :: put rest key a

/-- The table with all entries of another one put in, in its order. -/
def update (t other : Table α) : Table α :=
  other.foldl (fun acc entry => acc.put entry.1 entry.2) t

/-- The keys in order. -/
def keys (t : Table α) : List Text := t.map (·.1)

@[simp] theorem find?_nil (key : Text) : find? ([] : Table α) key = none := rfl

theorem find?_put (t : Table α) (key other : Text) (a : α) :
    (t.put key a).find? other = if key = other then some a else t.find? other := by
  induction t with
  | nil => simp [put, find?]
  | cons entry rest ih =>
    obtain ⟨k, b⟩ := entry
    simp only [put]
    split
    · next h => subst h; by_cases ho : k = other <;> simp [find?, ho]
    · next h =>
      by_cases ho : k = other
      · have : ¬ key = other := fun e => h (ho.trans e.symm)
        simp [find?, ho, this]
      · simp [find?, ho, ih]

theorem find?_append (t other : Table α) (key : Text) :
    find? (t ++ other) key = (find? t key).or (find? other key) := by
  induction t with
  | nil => rfl
  | cons entry rest ih =>
    obtain ⟨k, a⟩ := entry
    by_cases h : k = key <;> simp [find?, h, ih]

theorem update_append (t first second : Table α) :
    t.update (first ++ second) = (t.update first).update second :=
  List.foldl_append

/-- After an update a key has its last data in the other table, or the old data if the other table
    lacks it. -/
theorem find?_update (t other : Table α) (key : Text) :
    (t.update other).find? key = (find? other.reverse key).or (t.find? key) := by
  induction other generalizing t with
  | nil => rfl
  | cons entry rest ih =>
    obtain ⟨k, a⟩ := entry
    have step : update t ((k, a) :: rest) = update (t.put k a) rest := rfl
    rw [step, ih, List.reverse_cons, find?_append, find?_put, Option.or_assoc]
    by_cases h : k = key <;> simp [find?, h]

end Table

end ImportPolicy
