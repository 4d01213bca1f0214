import ImportPolicy.Policy.Entry

/-! # Option lists

A list of option entries is folded into a policy, where later entries override earlier ones.

* `Policy.apply`, `Policy.ofEntries` — one entry, or a list of them, over a policy.
* `Policy.fold`, `Policy.ofItems` — the same with values among the entries, read one by one.
* `Policy.normalize` — the policy of a list of values.
* `Policy.validate` — the entries of a list of values, if the list has an accepted shape.
* `Policy.normalize_eq`, `Policy.ofOptions_eq` — these as reading and then folding. -/

namespace ImportPolicy.Policy

/-- The policy after an entry. -/
def apply (p : Policy) : Entry → Policy
  | .word m => { p with fallback := m }
  | .flat pattern => { p with pattern := p.pattern.update pattern }
  | .structured o =>
    { p with
      pattern := p.pattern.update (o.pattern.getD [])
      ignorePackages := o.ignorePackages.getD p.ignorePackages
      commonjs := o.commonjs.getD p.commonjs }

/-- The policy of a list of entries: nothing is to be spelt unless an entry says so. -/
def ofEntries (entries : List Entry) : Policy := entries.foldl apply {}

/-- An item of an option list: a value, or the entry that one has been read as. -/
inductive Item where
  | value (v : Value)
  | entry (e : Entry)

/-- The entry that an item is. Only a value is still to be read. -/
def Item.read : Item → Except OptionsError Entry
  | .value v => Entry.read v
  | .entry e => .ok e

/-- The policy after some items, each of which is read when it is come to. -/
def fold (p : Policy) : List Item → Except OptionsError Policy
  | [] => .ok p
  | item :: rest => do
    let e ← item.read
    fold (p.apply e) rest

/-- The policy of a list of items: nothing is to be spelt unless an item says so. -/
def ofItems (items : List Item) : Except OptionsError Policy := fold {} items

/-- The entries of a list of values. -/
def readEntries (values : List Value) : Except OptionsError (List Entry) := values.mapM Entry.read

/-- The policy of a list of values of any shape. -/
def normalize (values : List Value) : Except OptionsError Policy := ofItems (values.map .value)

/-- The kinds of entry that an option list may consist of: at most two entries, and a word only in
    front. -/
def acceptedShapes : List (List EntryKind) :=
  [[], [.word], [.word, .structured], [.structured], [.flat], [.word, .flat]]

/-- The entries of a list of values that has an accepted shape. -/
def validate (values : List Value) : Except OptionsError (List Entry) := do
  let entries ← readEntries values
  let shape := entries.map Entry.kind
  if shape ∈ acceptedShapes then return entries else throw (.shape shape)

/-- The policy of a list of values that has an accepted shape. -/
def ofOptions (values : List Value) : Except OptionsError Policy := do
  ofItems ((← validate values).map .entry)

/-! ## Laws -/

theorem ofEntries_append (first second : List Entry) :
    ofEntries (first ++ second) = second.foldl apply (ofEntries first) := by
  simp [ofEntries, List.foldl_append]

theorem fold_entries (p : Policy) (entries : List Entry) :
    fold p (entries.map .entry) = .ok (entries.foldl apply p) := by
  induction entries generalizing p with
  | nil => rfl
  | cons e entries inductionHypothesis => exact inductionHypothesis (p.apply e)

/-- Values that are read one by one make the policy of the entries that all of them are read as, and
    the first of them that is no entry is refused either way. -/
theorem fold_values (p : Policy) (values : List Value) :
    fold p (values.map .value) = (List.foldl apply p) <$> readEntries values := by
  induction values generalizing p with
  | nil => rfl
  | cons v values inductionHypothesis =>
    rw [List.map_cons, fold, readEntries, List.mapM_cons, Item.read]
    cases Entry.read v with
    | error e => rfl
    | ok e =>
      change fold (p.apply e) (values.map .value) = _
      rw [inductionHypothesis, readEntries]
      cases values.mapM Entry.read <;> rfl

theorem normalize_eq (values : List Value) : normalize values = ofEntries <$> readEntries values :=
  fold_values {} values

theorem ofOptions_eq (values : List Value) : ofOptions values = ofEntries <$> validate values := by
  rw [ofOptions]
  cases validate values with
  | error e => rfl
  | ok entries => exact fold_entries {} entries

/-- Validated values are the entries that they read as, in an accepted shape. -/
theorem validate_eq_ok_iff {values : List Value} {entries : List Entry} :
    validate values = .ok entries ↔
      readEntries values = .ok entries ∧ entries.map Entry.kind ∈ acceptedShapes := by
  unfold validate
  cases readEntries values with
  | error e => simp [bind, Except.bind]
  | ok read =>
    simp only [bind, Except.bind, Except.ok.injEq]
    split
    next shape =>
      simp only [pure, Except.pure, Except.ok.injEq]
      exact ⟨fun same => ⟨same, same ▸ shape⟩, And.left⟩
    next shape =>
      simp only [throw, throwThe, MonadExceptOf.throw, reduceCtorEq, false_iff, not_and]
      exact fun same => same ▸ shape

end ImportPolicy.Policy
